import PanicMonitr.Control.FrontEnds

/-!
# Windows of the socket

The entries a request can append once more, this time with the ends of a window as they stand
in the request: every route but one appends no window.
-/

namespace PanicMonitr
namespace Control

open Foundation
open Trust

/-!
## What the socket can append
-/

def NoWindow (type : String) (_ : List (String × Json)) : Prop :=
  type ≠ OP_SET_MAINTENANCE

/-- An entry of another operation, or the window the request asked for. -/
inductive Scheduled (env : Serving) (request : Request) (s : TrustState) :
    String -> List (String × Json) -> Prop where
  | other {type : String} {data : List (String × Json)} :
      type ≠ OP_SET_MAINTENANCE -> Scheduled env request s type data
  | window {nid : String} {start end_ : Datetime} : Schedules env request s start end_ ->
      Scheduled env request s OP_SET_MAINTENANCE
        [("node_id", Json.str nid), ("start", Json.str (isoformat start)),
          ("end", Json.str (isoformat end_))]

theorem noWindow_adds {nodeId type : String} {alias_ tags : Json}
    {data : List (String × Json)} (h : AddsPeer nodeId alias_ tags type data) :
    NoWindow type data := by
  cases h with
  | plain _ =>
      unfold NoWindow
      decide
  | tagged _ _ =>
      unfold NoWindow
      decide

theorem noWindow_tags {nodeId type : String} {s : TrustState} {tags : List Json}
    {data : List (String × Json)} (h : SetsTags nodeId s tags type data) :
    NoWindow type data := by
  cases h with
  | mk _ _ =>
      unfold NoWindow
      decide

section Requests

variable {engine : Engine} {env : Serving} {request : Request} {s : TrustState}

theorem postPeer_noWindow (body : Json) :
    Effect engine.keys env.toSurroundings NoWindow s (engine.postPeer env body s) := by
  apply attempt_effect
  intro verified _
  split
  · exact sendError_effect _ _
  apply attempt_effect
  intro nodeId _
  apply attempt_effect
  intro alias_ _
  apply attempt_effect
  intro permissions _
  apply attempt_effect
  intro tags _
  apply Effect.replyWith
  unfold Engine.addPeer
  split
  · split
    · exact Effect.quiet (by simp)
    split
    · exact Effect.quiet (by simp)
    split
    · exact Effect.quiet (by simp)
    split
    · exact Effect.quiet (by simp)
    apply Effect.orRefusal
    apply effect_of_mutation
    exact (addPeer_result engine.keys env.toSurroundings _ _ _ _ s).mono
      (fun _ _ hallowed => noWindow_adds hallowed.right)
  · split
    · exact Effect.quiet (by simp)
    · exact Effect.quiet (by simp)

theorem putPerms_noWindow (nid : String) (body : Json) :
    Effect engine.keys env.toSurroundings NoWindow s (engine.putPerms env nid body s) := by
  apply attempt_effect
  intro verified _
  split
  · exact sendError_effect _ _
  apply attempt_effect
  intro permissions _
  split
  · apply Effect.replyWith
    apply mutatePeer_effect
    intro _
    apply (updatePermissions_result engine.keys env.toSurroundings nid _ s).mono
    rintro _ _ ⟨rfl, _⟩
    exact (by decide : OP_UPDATE_PERMISSIONS ≠ OP_SET_MAINTENANCE)
  · exact sendError_effect _ _

theorem routePeer_noWindow (method : Method) (nid : String) :
    Effect engine.keys env.toSurroundings NoWindow s (engine.routePeer env method nid s) := by
  unfold Engine.routePeer
  split
  · apply Effect.replyWith
    apply mutatePeer_effect
    intro _
    apply (revokePeer_result engine.keys env.toSurroundings nid s).mono
    rintro _ _ ⟨rfl, _⟩
    exact (by decide : OP_REVOKE_PEER ≠ OP_SET_MAINTENANCE)
  · split
    · exact sendError_effect _ _
    · exact sendJson_effect _
  · exact sendError_effect _ _

theorem postSync_noWindow (body : Json) :
    Effect engine.keys env.toSurroundings NoWindow s (Engine.postSync env body s) := by
  have hresult : Effect engine.keys env.toSurroundings NoWindow s (Engine.syncResult env s) := by
    unfold Engine.syncResult
    split
    · exact sendJson_effect _
    · exact sendError_effect _ _
    · exact Effect.quiet (by simp)
  apply attempt_effect
  intro sinceRaw _
  split
  · exact hresult
  apply attempt_effect
  intro since _
  split
  · exact sendError_effect _ _
  · exact hresult

theorem removePeerTag_noWindow (nid : String) (tag : Json) :
    Effect engine.keys env.toSurroundings NoWindow s
      (reply (engine.removePeerTag env.toSurroundings nid tag s)) := by
  apply Effect.replyWith
  apply mutatePeer_effect
  intro _
  refine (removeTag_result engine.keys env.toSurroundings nid tag s).mono ?_
  intro type data hallowed
  rcases hallowed with ⟨_, _, _, _, hsets⟩
  exact noWindow_tags hsets

theorem routeTags_noWindow (nid : String) :
    Effect engine.keys env.toSurroundings NoWindow s (engine.routeTags env nid request s) := by
  unfold Engine.routeTags
  split
  · unfold Engine.deleteTag
    split
    · exact removePeerTag_noWindow nid _
    · apply attempt_effect
      intro tag _
      split
      · exact sendError_effect _ _
      · exact removePeerTag_noWindow nid tag
  · apply attempt_effect
    intro body _
    apply attempt_effect
    intro tags _
    split
    · apply Effect.replyWith
      apply mutatePeer_effect
      intro _
      exact (setTags_result engine.keys env.toSurroundings nid _ s).mono
        (fun _ _ hsets => noWindow_tags hsets)
    · exact sendError_effect _ _
  · apply attempt_effect
    intro body _
    apply attempt_effect
    intro tag _
    split
    · split
      · exact sendError_effect _ _
      apply Effect.replyWith
      apply mutatePeer_effect
      intro _
      refine (addTag_result engine.keys env.toSurroundings nid _ s).mono ?_
      intro type data hallowed
      rcases hallowed with ⟨_, _, hsets⟩
      exact noWindow_tags hsets
    · exact sendError_effect _ _
  · apply attempt_effect
    intro _ _
    exact sendError_effect _ _

/-- The window is committed as the request has it, when its ends are in order. -/
theorem setPeerMaintenance_scheduled {nid : String} {start end_ : Datetime}
    (h : forall peer, Datetime.le? end_ start = some false ->
      s.store.getPeer nid = some peer -> Schedules env request s start end_) :
    Effect engine.keys env.toSurroundings (Scheduled env request s) s
      (reply (engine.setPeerMaintenance env.toSurroundings nid start end_ s)) := by
  apply Effect.replyWith
  unfold Engine.setPeerMaintenance
  split
  · exact Effect.quiet (by simp)
  split
  · exact Effect.quiet (by simp)
  · exact Effect.quiet (by simp)
  apply Effect.orRefusal
  apply effect_of_mutation
  apply (setMaintenance_result engine.keys env.toSurroundings nid start end_ s).mono
  rintro _ _ ⟨rfl, rfl, horder, peer, hpeer⟩
  exact Scheduled.window (h peer horder hpeer)

theorem readBound_ok {raw : Json} {d : Datetime} (h : Engine.readBound raw = Except.ok (Except.ok d)) :
    exists text, raw = Json.str text ∧ fromisoformat text = some d := by
  cases raw with
  | str text =>
      have hread : readIso text = Except.ok d := Except.ok.inj h
      refine ⟨text, rfl, ?_⟩
      unfold readIso at hread
      split at hread
      · rename_i d' hd'
        rw [hd', Except.ok.inj hread]
      · cases hread
  | null => cases h
  | bool b => cases h
  | int n => cases h
  | float text => cases h
  | arr items => cases h
  | obj fields => cases h

theorem putMaintenance_scheduled {nid : String} {more : List String} {body : Json}
    (heuid : request.euid = some env.euid) (hrouted : Routed request (nid :: "maint" :: more))
    (hmethod : request.method = Method.put) (hbody : request.body = Except.ok body) :
    Effect engine.keys env.toSurroundings (Scheduled env request s) s
      (engine.putMaintenance env nid body s) := by
  apply attempt_effect
  intro startRaw hstartRaw
  apply attempt_effect
  intro endRaw hendRaw
  split
  · exact sendError_effect _ _
  apply attempt_effect
  intro start hstart
  cases start with
  | error e => exact sendError_effect _ _
  | ok start =>
      apply attempt_effect
      intro end_ hend
      cases end_ with
      | error e => exact sendError_effect _ _
      | ok end_ =>
          rcases readBound_ok hstart with ⟨startText, rfl, hstartTime⟩
          rcases readBound_ok hend with ⟨endText, rfl, hendTime⟩
          apply setPeerMaintenance_scheduled
          intro peer horder hpeer
          exact Schedules.mk heuid hrouted hmethod hbody hstartRaw hendRaw hstartTime hendTime
            horder hpeer

theorem routeMaintenance_scheduled {nid : String} {more : List String}
    (heuid : request.euid = some env.euid)
    (hrouted : Routed request (nid :: "maint" :: more)) :
    Effect engine.keys env.toSurroundings (Scheduled env request s) s
      (engine.routeMaintenance env nid request s) := by
  unfold Engine.routeMaintenance
  split
  · rename_i hmethod
    apply attempt_effect
    intro body hbody
    exact putMaintenance_scheduled heuid hrouted hmethod hbody
  · apply Effect.replyWith
    apply mutatePeer_effect
    intro _
    apply (clearMaintenance_result engine.keys env.toSurroundings nid s).mono
    rintro _ _ ⟨rfl, _⟩
    exact Scheduled.other (by decide)
  · exact sendError_effect _ _

theorem scheduled_of_noWindow {handled : Handled}
    (h : Effect engine.keys env.toSurroundings NoWindow s handled) :
    Effect engine.keys env.toSurroundings (Scheduled env request s) s handled :=
  h.mono (fun _ _ hother => Scheduled.other hother)

theorem routePeers_scheduled {rest : List String} (heuid : request.euid = some env.euid)
    (hrouted : Routed request rest) :
    Effect engine.keys env.toSurroundings (Scheduled env request s) s
      (engine.routePeers env request rest s) := by
  unfold Engine.routePeers
  split
  · split
    · exact sendJson_effect _
    · apply attempt_effect
      intro body _
      exact scheduled_of_noWindow (postPeer_noWindow body)
    · exact sendError_effect _ _
  · exact scheduled_of_noWindow (routePeer_noWindow request.method _)
  · rename_i nid sub more
    split
    · split
      · exact sendError_effect _ _
      · apply attempt_effect
        intro body _
        exact scheduled_of_noWindow (putPerms_noWindow nid body)
    split
    · exact scheduled_of_noWindow (routeTags_noWindow nid)
    split
    · rename_i hsub
      rw [hsub] at hrouted
      exact routeMaintenance_scheduled heuid hrouted
    split
    · split
      · exact sendError_effect _ _
      · apply attempt_effect
        intro body _
        exact scheduled_of_noWindow (postSync_noWindow body)
    split
    · split
      · exact sendError_effect _ _
      · unfold Engine.dashboardResult
        split
        · exact sendJson_effect _
        · exact Effect.quiet (by simp)
    · exact sendError_effect _ _

/-- What a served request does to the manager, with the window it asked for. -/
inductive Handles (engine : Engine) (env : Serving) (request : Request) (s : TrustState) :
    Handled -> Prop where
  | effect {handled : Handled} :
      Effect engine.keys env.toSurroundings (Scheduled env request s) s handled ->
        Handles engine env request s handled
  | reload (response : Response) : Reloads request -> Handles engine env request s
      (engine.checkReload env.toSurroundings env.mtime env.mtimeAfter s,
        Answer.returned response)

theorem route_handles (heuid : request.euid = some env.euid) :
    Handles engine env request s (engine.route env request s) := by
  unfold Engine.route
  simp only
  split
  · apply Handles.effect
    apply attempt_effect
    intro view _
    exact sendJson_effect _
  split
  · apply Handles.effect
    apply attempt_effect
    intro snapshot _
    exact sendJson_effect _
  split
  · rename_i hpath
    exact Handles.reload _ hpath.left
  split
  · rename_i hparts
    exact Handles.effect (routePeers_scheduled heuid (routed_of_take hparts))
  · exact Handles.effect (sendError_effect _ _)

theorem serve_handles : Handles engine env request s (engine.serve env request s) := by
  unfold Engine.serve
  split
  · exact Handles.effect (sendError_effect _ _)
  rename_i uid huid
  split
  · exact Handles.effect (sendError_effect _ _)
  rename_i hsame
  have heuid : request.euid = some env.euid := by
    rw [huid, Decidable.not_not.mp hsame]
  have hroute : Handles engine env request s (engine.route env request s) :=
    route_handles heuid
  split
  · rename_i s' e heq
    rw [heq] at hroute
    cases hroute with
    | effect heffect => exact Handles.effect (heffect.map rfl (by simp))
  · exact hroute

end Requests

end Control
end PanicMonitr
