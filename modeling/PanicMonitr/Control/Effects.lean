import PanicMonitr.Control.Socket

/-!
# What a request can append

Of the answers of the control socket only the effect on the trust log matters to the
peers.  A request leaves the manager alone, reloads the log, or commits one entry; the
entries it can commit are listed here with the checks that were passed on the way.
-/

namespace PanicMonitr
namespace Control

open Foundation
open Trust

/-!
## Entries
-/

def Routed (request : Request) (rest : List String) : Prop :=
  pathParts (trimPath request.path) = "v1" :: "peers" :: rest

/-- A `POST` of a peer that passes every check up to the log. -/
structure Admitted (engine : Engine) (s : TrustState) (request : Request) (body : Json)
    (n : String) : Prop where
  routed : Routed request []
  method : request.method = Method.post
  read : request.body = Except.ok body
  password : engine.checkPassword body = Except.ok true
  node : bodyGet "node_id" body = Except.ok (Json.str n)
  valid : validateNodeId n = true
  other : n ≠ engine.nodeIdStr
  key : engine.publicKey n = true
  accepted : exists permissions, bodyGet "permissions" body = Except.ok permissions ∧
    AddAccepted n (pyOr permissions (Json.arr [Json.str "monitor"])) s

/-- A tag the request brings for a peer of the store, as it is going to be kept. -/
def NewTag (s : TrustState) (request : Request) (t : String) : Prop :=
  exists nid more peer body raw, Routed request (nid :: "tags" :: more) ∧
    validateNodeId nid = true ∧ s.store.getPeer nid = some peer ∧
    request.body = Except.ok body ∧ t = stripText raw ∧
    ((request.method = Method.put ∧ exists texts : List String, raw ∈ texts ∧
        bodyGet "tags" body = Except.ok (Json.arr (texts.map Json.str))) ∨
      (request.method = Method.post ∧ bodyGet "tag" body = Except.ok (Json.str raw)))

/-- A tag the peer had, stripped once more. -/
def OldTag (s : TrustState) (nid t : String) : Prop :=
  exists peer raw, s.store.getPeer nid = some peer ∧ raw ∈ peer.tags ∧ t = stripText raw

/-- The entries a request can append without the password of the identity. -/
inductive Ungated (s : TrustState) (request : Request) (nid : String) :
    String -> List (String × Json) -> Prop where
  | revoke : Ungated s request nid OP_REVOKE_PEER [("node_id", Json.str nid)]
  | tags {texts : List String} :
      (forall t, t ∈ texts -> NewTag s request t ∨ OldTag s nid t) ->
      Ungated s request nid OP_SET_TAGS
        [("node_id", Json.str nid), ("tags", Json.arr (texts.map Json.str))]
  | maintenance (start until_ : Datetime) : Ungated s request nid OP_SET_MAINTENANCE
      [("node_id", Json.str nid), ("start", Json.str (isoformat start)),
        ("end", Json.str (isoformat until_))]
  | clear : Ungated s request nid OP_CLEAR_MAINTENANCE [("node_id", Json.str nid)]

inductive Appends (engine : Engine) (s : TrustState) (request : Request) :
    String -> List (String × Json) -> Prop where
  | add {body alias_ tags : Json} {n type : String} {data : List (String × Json)} :
      Admitted engine s request body n -> bodyGet "alias" body = Except.ok alias_ ->
      bodyGet "tags" body = Except.ok tags ->
      AddsPeer n alias_ (pyOr tags (Json.arr [])) type data ->
        Appends engine s request type data
  | permissions {body : Json} {nid : String} {perms : List Json} :
      request.body = Except.ok body -> engine.checkPassword body = Except.ok true ->
      validateNodeId nid = true -> perms.all isPermission = true ->
        Appends engine s request OP_UPDATE_PERMISSIONS
          [("node_id", Json.str nid), ("permissions", Json.arr perms)]
  | ungated {nid type : String} {data : List (String × Json)} : validateNodeId nid = true ->
      Ungated s request nid type data -> Appends engine s request type data

/-!
## Handlers
-/

section Handlers

variable {keys : Keyring} {env : Surroundings}
  {allowed : String -> List (String × Json) -> Prop} {s : TrustState}

theorem attempt_effect {α β : Type} {x : Except PyError α} {next : α -> TrustState × Answer β}
    (h : forall a, x = Except.ok a -> Effect keys env allowed s (next a)) :
    Effect keys env allowed s (attempt s x next) := by
  unfold attempt
  cases x with
  | error e => exact Effect.quiet (by simp)
  | ok a => exact h a rfl

theorem sendError_effect (status : Nat) (message : String) :
    Effect keys env allowed s (sendError status message s) :=
  Effect.quiet (by simp)

theorem sendJson_effect (payload : Json) :
    Effect keys env allowed s (sendJson payload s) :=
  Effect.quiet (by simp)

theorem Effect.replyWith {result : EngineResult} (success : Response)
    (h : Effect keys env allowed s result) :
    Effect keys env allowed s (replyWith success result) := by
  apply h.map
  · unfold Control.replyWith
    split <;> rfl
  · unfold Control.replyWith
    split <;> simp [sendError]

end Handlers

section Requests

variable {engine : Engine} {env : Serving} {request : Request} {s : TrustState}

/-- A node id that has passed the checks of `add_peer`. -/
structure Checked (engine : Engine) (nodeId : Json) (n : String) : Prop where
  text : nodeId = Json.str n
  valid : validateNodeId n = true
  other : n ≠ engine.nodeIdStr
  key : engine.publicKey n = true

/-- `add_peer` of the engine, whoever calls it. -/
theorem addPeer_checked (engine : Engine) (env : Surroundings)
    (nodeId alias_ permissions tags : Json) (s : TrustState) :
    Effect engine.keys env (fun type data => exists n, Checked engine nodeId n ∧
        AddAccepted n permissions s ∧ AddsPeer n alias_ tags type data) s
      (engine.addPeer env nodeId alias_ permissions tags s) := by
  unfold Engine.addPeer
  split
  · rename_i n
    split
    · exact Effect.quiet (by simp)
    split
    · exact Effect.quiet (by simp)
    rename_i hvalid
    rw [Bool.not_eq_false] at hvalid
    split
    · exact Effect.quiet (by simp)
    rename_i hother
    split
    · exact Effect.quiet (by simp)
    rename_i hkey
    rw [Bool.not_eq_false] at hkey
    apply Effect.orRefusal
    apply effect_of_mutation
    apply (addPeer_result engine.keys env n alias_ permissions tags s).mono
    exact fun _ _ hallowed => ⟨n, ⟨rfl, hvalid, hother, hkey⟩, hallowed⟩
  · split
    · exact Effect.quiet (by simp)
    · exact Effect.quiet (by simp)

theorem addPeer_effect {body nodeId alias_ permissions tags : Json}
    (hrouted : Routed request []) (hmethod : request.method = Method.post)
    (hbody : request.body = Except.ok body)
    (hpassword : engine.checkPassword body = Except.ok true)
    (hnode : bodyGet "node_id" body = Except.ok nodeId)
    (halias : bodyGet "alias" body = Except.ok alias_)
    (hpermissions : bodyGet "permissions" body = Except.ok permissions)
    (htags : bodyGet "tags" body = Except.ok tags) :
    Effect engine.keys env.toSurroundings (Appends engine s request) s
      (engine.addPeer env.toSurroundings nodeId alias_
        (pyOr permissions (Json.arr [Json.str "monitor"])) (pyOr tags (Json.arr [])) s) := by
  refine (addPeer_checked engine env.toSurroundings nodeId alias_ _ _ s).mono ?_
  rintro type data ⟨n, hchecked, haccepted, hadds⟩
  rw [hchecked.text] at hnode
  have hadmitted : Admitted engine s request body n :=
    ⟨hrouted, hmethod, hbody, hpassword, hnode, hchecked.valid, hchecked.other, hchecked.key,
      ⟨permissions, hpermissions, haccepted⟩⟩
  exact Appends.add hadmitted halias htags hadds

theorem postPeer_effect {body : Json} (hrouted : Routed request [])
    (hmethod : request.method = Method.post) (hbody : request.body = Except.ok body) :
    Effect engine.keys env.toSurroundings (Appends engine s request) s
      (engine.postPeer env body s) := by
  apply attempt_effect
  intro verified hverified
  split
  · exact sendError_effect _ _
  rename_i htrue
  rw [Bool.not_eq_false] at htrue
  rw [htrue] at hverified
  apply attempt_effect
  intro nodeId hnode
  apply attempt_effect
  intro alias_ halias
  apply attempt_effect
  intro permissions hpermissions
  apply attempt_effect
  intro tags htags
  exact (addPeer_effect hrouted hmethod hbody hverified hnode halias hpermissions
    htags).replyWith _

theorem putPerms_effect {body : Json} (nid : String) (hbody : request.body = Except.ok body) :
    Effect engine.keys env.toSurroundings (Appends engine s request) s
      (engine.putPerms env nid body s) := by
  apply attempt_effect
  intro verified hverified
  split
  · exact sendError_effect _ _
  rename_i htrue
  rw [Bool.not_eq_false] at htrue
  rw [htrue] at hverified
  apply attempt_effect
  intro permissions _
  split
  · rename_i items
    apply Effect.replyWith
    unfold Engine.updatePeerPermissions Engine.mutatePeer
    split
    · exact Effect.quiet (by simp)
    rename_i hvalid
    rw [Bool.not_eq_false] at hvalid
    apply Effect.orRefusal
    apply effect_of_mutation
    -- only the update of the permissions can come of it
    apply (updatePermissions_result engine.keys env.toSurroundings nid _ s).mono
    rintro _ _ ⟨rfl, perms, hperms, rfl⟩
    exact Appends.permissions hbody hverified hvalid hperms
  · exact sendError_effect _ _

theorem ungated_effect {nid refusal : String}
    {mutation : TrustState -> TrustState × Answer Bool}
    (h : validateNodeId nid = true ->
      Mutation engine.keys env.toSurroundings (Ungated s request nid) s (mutation s)) :
    Effect engine.keys env.toSurroundings (Appends engine s request) s
      (reply (Engine.mutatePeer nid refusal mutation s)) := by
  apply Effect.replyWith
  apply mutatePeer_effect
  intro hvalid
  exact (h hvalid).mono (fun _ _ hungated => Appends.ungated hvalid hungated)

theorem routePeer_effect (method : Method) (nid : String) :
    Effect engine.keys env.toSurroundings (Appends engine s request) s
      (engine.routePeer env method nid s) := by
  unfold Engine.routePeer
  split
  · apply ungated_effect
    intro _
    apply (revokePeer_result engine.keys env.toSurroundings nid s).mono
    rintro _ _ ⟨rfl, rfl⟩
    exact Ungated.revoke
  · split
    · exact sendError_effect _ _
    · exact sendJson_effect _
  · exact sendError_effect _ _

/-- The tags of an entry are stripped texts, each from the request or of the record. -/
theorem setsTags_ungated {nid type : String} {items : List Json}
    {data : List (String × Json)} (h : SetsTags nid s items type data)
    (hsource : forall raws : List String, items = raws.map Json.str -> forall raw, raw ∈ raws ->
      NewTag s request (stripText raw) ∨ OldTag s nid (stripText raw)) :
    Ungated s request nid type data := by
  cases h with
  | mk hnormal _ =>
      rcases normalizeTags_texts hnormal with ⟨raws, hitems, htexts⟩
      apply Ungated.tags
      intro t ht
      rcases ((htexts t).mp ht).right with ⟨raw, hin, rfl⟩
      exact hsource raws hitems raw hin

theorem putTags_effect {nid : String} {more : List String} {body : Json}
    (hrouted : Routed request (nid :: "tags" :: more))
    (hmethod : request.method = Method.put) (hbody : request.body = Except.ok body) :
    Effect engine.keys env.toSurroundings (Appends engine s request) s
      (engine.putTags env nid body s) := by
  apply attempt_effect
  intro tags htags
  split
  · rename_i items
    apply ungated_effect
    intro hvalid
    refine (setTags_result engine.keys env.toSurroundings nid items s).mono ?_
    intro type data hsets
    apply setsTags_ungated hsets
    intro raws hitems raw hraw
    cases hsets with
    | @mk texts peer _ hget =>
        rw [hitems] at htags
        exact Or.inl ⟨nid, more, peer, body, raw, hrouted, hvalid, hget, hbody, rfl,
          Or.inl ⟨hmethod, raws, hraw, htags⟩⟩
  · exact sendError_effect _ _

theorem postTag_effect {nid : String} {more : List String} {body : Json}
    (hrouted : Routed request (nid :: "tags" :: more))
    (hmethod : request.method = Method.post) (hbody : request.body = Except.ok body) :
    Effect engine.keys env.toSurroundings (Appends engine s request) s
      (engine.postTag env nid body s) := by
  apply attempt_effect
  intro tag htag
  split
  · rename_i text
    split
    · exact sendError_effect _ _
    apply ungated_effect
    intro hvalid
    refine (addTag_result engine.keys env.toSurroundings nid text s).mono ?_
    intro type data hallowed
    rcases hallowed with ⟨peer, hget, hsets⟩
    apply setsTags_ungated hsets
    intro raws hitems raw hraw
    rw [← texts_injective hitems] at hraw
    rcases List.mem_append.mp hraw with hold | hnew
    · exact Or.inr ⟨peer, raw, hget, hold, rfl⟩
    · left
      rw [List.mem_singleton.mp hnew, stripText_stripText]
      exact ⟨nid, more, peer, body, text, hrouted, hvalid, hget, hbody, rfl,
        Or.inr ⟨hmethod, htag⟩⟩
  · exact sendError_effect _ _

theorem removeTag_effect (nid : String) (tag : Json) :
    Effect engine.keys env.toSurroundings (Appends engine s request) s
      (reply (engine.removePeerTag env.toSurroundings nid tag s)) := by
  apply ungated_effect
  intro _
  refine (removeTag_result engine.keys env.toSurroundings nid tag s).mono ?_
  intro type data hallowed
  rcases hallowed with ⟨peer, remaining, hget, hsub, hsets⟩
  apply setsTags_ungated hsets
  intro raws hitems raw hraw
  rw [← texts_injective hitems] at hraw
  exact Or.inr ⟨peer, raw, hget, hsub raw hraw, rfl⟩

theorem routeTags_effect {nid : String} {more : List String}
    (hrouted : Routed request (nid :: "tags" :: more)) :
    Effect engine.keys env.toSurroundings (Appends engine s request) s
      (engine.routeTags env nid request s) := by
  unfold Engine.routeTags
  split
  · unfold Engine.deleteTag
    split
    · exact removeTag_effect nid _
    · apply attempt_effect
      intro tag _
      split
      · exact sendError_effect _ _
      · exact removeTag_effect nid tag
  · rename_i hmethod
    apply attempt_effect
    intro body hbody
    exact putTags_effect hrouted hmethod hbody
  · rename_i hmethod
    apply attempt_effect
    intro body hbody
    exact postTag_effect hrouted hmethod hbody
  · apply attempt_effect
    intro _ _
    exact sendError_effect _ _

theorem setPeerMaintenance_effect (nid : String) (start until_ : Datetime) :
    Effect engine.keys env.toSurroundings (Appends engine s request) s
      (reply (engine.setPeerMaintenance env.toSurroundings nid start until_ s)) := by
  apply Effect.replyWith
  unfold Engine.setPeerMaintenance
  split
  · exact Effect.quiet (by simp)
  rename_i hvalid
  rw [Bool.not_eq_false] at hvalid
  split
  · exact Effect.quiet (by simp)
  · exact Effect.quiet (by simp)
  apply Effect.orRefusal
  apply effect_of_mutation
  apply (setMaintenance_result engine.keys env.toSurroundings nid start until_ s).mono
  rintro _ _ ⟨rfl, rfl, _, _⟩
  exact Appends.ungated hvalid (Ungated.maintenance start until_)

theorem putMaintenance_effect (nid : String) (body : Json) :
    Effect engine.keys env.toSurroundings (Appends engine s request) s
      (engine.putMaintenance env nid body s) := by
  apply attempt_effect
  intro startRaw _
  apply attempt_effect
  intro endRaw _
  split
  · exact sendError_effect _ _
  apply attempt_effect
  intro start _
  split
  · exact sendError_effect _ _
  apply attempt_effect
  intro end_ _
  split
  · exact sendError_effect _ _
  · exact setPeerMaintenance_effect nid _ _

theorem routeMaintenance_effect (nid : String) :
    Effect engine.keys env.toSurroundings (Appends engine s request) s
      (engine.routeMaintenance env nid request s) := by
  unfold Engine.routeMaintenance
  split
  · apply attempt_effect
    intro body _
    exact putMaintenance_effect nid body
  · apply ungated_effect
    intro _
    apply (clearMaintenance_result engine.keys env.toSurroundings nid s).mono
    rintro _ _ ⟨rfl, rfl⟩
    exact Ungated.clear
  · exact sendError_effect _ _

theorem syncResult_effect :
    Effect engine.keys env.toSurroundings (Appends engine s request) s
      (Engine.syncResult env s) := by
  unfold Engine.syncResult
  split
  · exact sendJson_effect _
  · exact sendError_effect _ _
  · exact Effect.quiet (by simp)

theorem postSync_effect (body : Json) :
    Effect engine.keys env.toSurroundings (Appends engine s request) s
      (Engine.postSync env body s) := by
  apply attempt_effect
  intro sinceRaw _
  split
  · exact syncResult_effect
  apply attempt_effect
  intro since _
  split
  · exact sendError_effect _ _
  · exact syncResult_effect

theorem routePeers_effect {rest : List String} (hrouted : Routed request rest) :
    Effect engine.keys env.toSurroundings (Appends engine s request) s
      (engine.routePeers env request rest s) := by
  unfold Engine.routePeers
  split
  · split
    · exact sendJson_effect _
    · rename_i hmethod
      apply attempt_effect
      intro body hbody
      exact postPeer_effect hrouted hmethod hbody
    · exact sendError_effect _ _
  · rename_i nid
    exact routePeer_effect request.method nid
  · rename_i nid sub more
    split
    · split
      · exact sendError_effect _ _
      · apply attempt_effect
        intro body hbody
        exact putPerms_effect nid hbody
    split
    · rename_i hsub
      rw [hsub] at hrouted
      exact routeTags_effect hrouted
    split
    · exact routeMaintenance_effect nid
    split
    · split
      · exact sendError_effect _ _
      · apply attempt_effect
        intro body _
        exact postSync_effect body
    split
    · split
      · exact sendError_effect _ _
      · unfold Engine.dashboardResult
        split
        · exact sendJson_effect _
        · exact Effect.quiet (by simp)
    · exact sendError_effect _ _

/-- What a served request does: nothing, one allowed commit, or a reload of the log. -/
inductive Served (engine : Engine) (env : Serving) (request : Request) (s : TrustState) :
    Handled -> Prop where
  | effect {handled : Handled} :
      Effect engine.keys env.toSurroundings (Appends engine s request) s handled ->
        Served engine env request s handled
  | reload (response : Response) : Served engine env request s
      (engine.checkReload env.toSurroundings env.mtime env.mtimeAfter s,
        Answer.returned response)

theorem routed_of_take {request : Request}
    (h : (pathParts (trimPath request.path)).take 2 = ["v1", "peers"]) :
    Routed request ((pathParts (trimPath request.path)).drop 2) := by
  unfold Routed
  generalize pathParts (trimPath request.path) = parts at h
  rw [← List.take_append_drop 2 parts, h]
  rfl

theorem route_served : Served engine env request s (engine.route env request s) := by
  unfold Engine.route
  simp only
  split
  · apply Served.effect
    apply attempt_effect
    intro view _
    exact sendJson_effect _
  split
  · apply Served.effect
    apply attempt_effect
    intro snapshot _
    exact sendJson_effect _
  split
  · exact Served.reload _
  split
  · rename_i hparts
    exact Served.effect (routePeers_effect (routed_of_take hparts))
  · exact Served.effect (sendError_effect _ _)

theorem serve_served : Served engine env request s (engine.serve env request s) := by
  unfold Engine.serve
  split
  · exact Served.effect (sendError_effect _ _)
  split
  · exact Served.effect (sendError_effect _ _)
  have hroute : Served engine env request s (engine.route env request s) := route_served
  split
  · rename_i s' e heq
    rw [heq] at hroute
    cases hroute with
    | effect heffect => exact Served.effect (heffect.map rfl (by simp))
  · exact hroute

end Requests

end Control
end PanicMonitr
