import PanicMonitr.Control.Requests
import PanicMonitr.Trust.Authorization

/-!
# Privileges without the password

A request without the password of the identity appends no `add_peer` and no
`update_permissions`.  What it does append can only take privileges away, so that a store
projected from the log grants no more than the one the requests started from, when that
one was a projection of the log as well.
-/

namespace PanicMonitr
namespace Control

open Foundation
open Trust

/-!
## Views that only lose privileges
-/

/-- An entry that neither adds a peer nor changes its permissions. -/
def Restricting (entry : LogEntry) : Prop :=
  entry.type ≠ OP_ADD_PEER ∧ entry.type ≠ OP_UPDATE_PERMISSIONS

/-- The new view was there before, with the same permissions and no fewer revocations. -/
def Narrower (old new : Option PeerView) : Prop :=
  forall v', new = some v' -> exists v, old = some v ∧ v'.permissions = v.permissions ∧
    forall t, v.revokedAt = some t -> v'.revokedAt = some t

theorem Narrower.refl (view : Option PeerView) : Narrower view view :=
  fun v h => ⟨v, h, rfl, fun _ ht => ht⟩

theorem Narrower.trans {first second third : Option PeerView} (h : Narrower first second)
    (h' : Narrower second third) : Narrower first third := by
  intro v'' hthird
  rcases h' v'' hthird with ⟨v', hsecond, hpermissions', hrevoked'⟩
  rcases h v' hsecond with ⟨v, hfirst, hpermissions, hrevoked⟩
  exact ⟨v, hfirst, hpermissions'.trans hpermissions, fun t ht => hrevoked' t (hrevoked t ht)⟩

theorem narrower_of_step {n : String} {entry : LogEntry} {old new : Option PeerView}
    (hentry : Restricting entry) (hstep : NodeStep n entry old new) : Narrower old new := by
  cases hstep with
  | absent _ => exact Narrower.refl none
  | added hadd _ _ => exact absurd hadd.left hentry.left
  | @revoked v v' _ hstamp hpermissions =>
      intro w hw
      cases hw
      refine ⟨v, rfl, hpermissions, ?_⟩
      intro t ht
      rw [hstamp, ht]
      rfl
  | updated hupdate _ _ => exact absurd hupdate.left hentry.right
  | @touched v v' _ _ _ hstamp hpermissions =>
      intro w hw
      cases hw
      refine ⟨v, rfl, hpermissions, ?_⟩
      intro t ht
      rw [hstamp, ht]

theorem narrower_of_replay {n : String} {entries : List LogEntry} {peers peers' : Views}
    (hentries : forall e, e ∈ entries -> Restricting e)
    (hreplay : replay peers entries = Except.ok peers') :
    Narrower (Assoc.get? (some n) peers) (Assoc.get? (some n) peers') := by
  induction entries generalizing peers with
  | nil =>
      cases hreplay
      exact Narrower.refl _
  | cons entry entries ih =>
      rcases bind_eq_ok.mp hreplay with ⟨peers'', hentry, hrest⟩
      have hfirst := narrower_of_step (hentries entry (List.mem_cons_self ..))
        (applyEntry_node hentry n)
      exact hfirst.trans (ih (fun e he => hentries e (List.mem_cons_of_mem entry he)) hrest)

/-!
## Stores that only lose privileges
-/

/-- Every active record was active before, with the same permissions. -/
def Within (store store' : PeerTrustStore) : Prop :=
  forall n peer', store'.getPeer n = some peer' -> peer'.revokedAt = none ->
    exists peer, store.getPeer n = some peer ∧ peer.revokedAt = none ∧
      peer.permissions = peer'.permissions

theorem Within.refl (store : PeerTrustStore) : Within store store :=
  fun _ peer hget hactive => ⟨peer, hget, hactive, rfl⟩

theorem Within.authorized {store store' : PeerTrustStore} (h : Within store store')
    {own n protocol : String} (hauth : (store'.verifyAndAuthorize own n protocol).1 = true) :
    (store.verifyAndAuthorize own n protocol).1 = true := by
  by_cases hown : n = own
  · unfold PeerTrustStore.verifyAndAuthorize
    rw [if_pos hown]
  · rw [verifyAndAuthorize_iff hown] at hauth ⊢
    rcases hauth with ⟨peer', hget', hactive', hgrant'⟩
    rcases h n peer' hget' hactive' with ⟨peer, hget, hactive, hpermissions⟩
    refine ⟨peer, hget, hactive, ?_⟩
    rw [grants_iff, hpermissions]
    exact grants_iff.mp hgrant'

theorem readWhenSet_none {view view' : PeerView} {d : Option Datetime}
    (h : readWhenSet (revokedJson view) = Except.ok d)
    (h' : readWhenSet (revokedJson view') = Except.ok none)
    (hrevoked : forall t, view.revokedAt = some t -> view'.revokedAt = some t) : d = none := by
  cases hview : view.revokedAt with
  | none =>
      rw [revokedJson, hview] at h
      cases h
      rfl
  | some t =>
      rw [revokedJson, hrevoked t hview] at h'
      rw [revokedJson, hview, h'] at h
      cases h
      rfl

/-- A log that goes on with restricting entries is projected to a store within. -/
theorem within_of_rebuild {entries more : List LogEntry} {store store' : PeerTrustStore}
    (h : rebuildFromLog entries = Except.ok store)
    (h' : rebuildFromLog (entries ++ more) = Except.ok store')
    (hmore : forall e, e ∈ more -> Restricting e) : Within store store' := by
  rcases bind_eq_ok.mp h with ⟨views, hviews, h⟩
  rcases bind_eq_ok.mp h with ⟨peers, hpeers, h⟩
  rcases bind_eq_ok.mp h' with ⟨views', hviews', h'⟩
  rcases bind_eq_ok.mp h' with ⟨peers', hpeers', h'⟩
  cases h
  cases h'
  have hkeys := nodup_keys_replay hviews List.nodup_nil
  have hkeys' := nodup_keys_replay hviews' List.nodup_nil
  have hreplay : replay views more = Except.ok views' := by
    unfold materializePeers at hviews hviews'
    rw [replay_append, hviews] at hviews'
    exact hviews'
  intro n peer' hget' hactive'
  rcases (getPeer_iff_view hkeys' hpeers').mp hget' with ⟨view', hview', hproject'⟩
  rcases narrower_of_replay hmore hreplay view' hview' with
    ⟨view, hview, hpermissions, hrevoked⟩
  rcases projectPeers_target hpeers (Assoc.mem_of_get?_eq_some hview) with
    ⟨peer, _, hproject⟩
  refine ⟨peer, (getPeer_iff_view hkeys hpeers).mpr ⟨view, hview, hproject⟩, ?_, ?_⟩
  · have hnone := (projectPeer_readFrom hproject').revokedAt
    rw [hactive'] at hnone
    exact readWhenSet_none (projectPeer_readFrom hproject).revokedAt hnone hrevoked
  · apply texts_injective
    rw [← (projectPeer_recordOf hproject).permissions,
      ← (projectPeer_recordOf hproject').permissions, hpermissions]

/-!
## Requests without the password
-/

/-- No password that the identity accepts, and no file write that fails. -/
def Unprivileged (engine : Engine) (_ : TrustState) (e : Serving × Request) : Prop :=
  (forall body, e.2.body = Except.ok body -> engine.checkPassword body ≠ Except.ok true) ∧
    exists mtime, e.1.writing = Writing.complete mtime

/-- A daemon that serves requests, from one given state on. -/
def servers (engine : Engine) (s : TrustState) : Machine TrustState (Serving × Request) where
  start t := t = s
  step t e := (engine.serve e.1 e.2 t).1

/-- The store is the projection of the log, and the file holds the log. -/
def Synchronized (keys : Keyring) (s : TrustState) : Prop :=
  rebuildFromLog s.log.entries = Except.ok s.store ∧ Stored keys s.log.entries s.file

/-- What holds of the daemon while requests without the password are served. -/
structure Bounded (keys : Keyring) (s t : TrustState) : Prop where
  stored : Stored keys t.log.entries t.file
  extended : exists more, t.log.entries = s.log.entries ++ more ∧
    forall e, e ∈ more -> Restricting e
  within : Within s.store t.store

theorem ungated_data {s : TrustState} {request : Request} {nid type : String}
    {data : List (String × Json)} (h : Ungated s request nid type data) :
    Json.Wf (Json.obj data) ∧ type ≠ OP_ADD_PEER ∧ type ≠ OP_UPDATE_PERMISSIONS := by
  cases h with
  | revoke => exact ⟨⟨List.nodup_singleton _, trivial, trivial⟩, by decide, by decide⟩
  | @tags texts _ =>
      have hkeys : ["node_id", "tags"].Nodup := by decide
      exact ⟨⟨hkeys, trivial, wfItems_texts texts, trivial⟩, by decide, by decide⟩
  | maintenance _ _ =>
      have hkeys : ["node_id", "start", "end"].Nodup := by decide
      exact ⟨⟨hkeys, trivial, trivial, trivial, trivial⟩, by decide, by decide⟩
  | clear => exact ⟨⟨List.nodup_singleton _, trivial, trivial⟩, by decide, by decide⟩

section Steps

variable {engine : Engine} {s t : TrustState}

theorem Bounded.rebuildAndSave {env : Surroundings} (h : Bounded engine.keys s t)
    (hprojected : rebuildFromLog s.log.entries = Except.ok s.store) :
    Bounded engine.keys s (rebuildAndSave env t).1 := by
  rcases rebuildAndSave_store env t with ⟨hlog, hfile, hstore⟩
  rcases h.extended with ⟨more, hentries, hmore⟩
  constructor
  · rw [hlog, hfile]
    exact h.stored
  · rw [hlog]
    exact h.extended
  · rcases hstore with hsame | hrebuilt
    · rw [hsame]
      exact h.within
    · rw [hentries] at hrebuilt
      exact within_of_rebuild hprojected hrebuilt hmore

/-- A commit of an entry that restricts keeps the daemon within its bounds. -/
theorem Bounded.commit {env : Surroundings} {type : String} {data : List (String × Json)}
    {mtime : Int} (h : Bounded engine.keys s t)
    (hprojected : rebuildFromLog s.log.entries = Except.ok s.store)
    (hdata : Json.Wf (Json.obj data)) (hadd : type ≠ OP_ADD_PEER)
    (hupdate : type ≠ OP_UPDATE_PERMISSIONS) (hwriting : env.writing = Writing.complete mtime) :
    Bounded engine.keys s (Trust.commit engine.keys type data env t).1 := by
  unfold Trust.commit
  rcases t.log.append_cases engine.keys type data env.now env.writing t.file with
    ⟨_, e, hcall⟩ | ⟨sign, hsign, htype, hcall⟩
  · rw [hcall]
    exact h
  · rw [hcall, hwriting]
    apply Bounded.rebuildAndSave ?_ hprojected
    rcases h.extended with ⟨more, hentries, hmore⟩
    refine ⟨h.stored.snoc hsign htype hdata env.now, ?_, h.within⟩
    refine ⟨more ++ [t.log.nextEntry engine.keys sign type data env.now], ?_, ?_⟩
    · rw [← List.append_assoc, ← hentries]
      rfl
    · exact forall_mem_snoc.mpr ⟨hmore, hadd, hupdate⟩

theorem Bounded.checkReload {env : Surroundings} (h : Bounded engine.keys s t)
    (hprojected : rebuildFromLog s.log.entries = Except.ok s.store) (mtime after : Int) :
    Bounded engine.keys s (engine.checkReload env mtime after t) := by
  unfold Engine.checkReload reloadStore
  split
  · exact ⟨h.stored, h.extended, h.within⟩
  · rename_i log hlog
    rw [reloadIfChanged_false hlog]
    exact ⟨h.stored, h.extended, h.within⟩
  · rename_i log hlog
    have hentries : log.entries = t.log.entries := by
      unfold TrustLog.reloadIfChanged at hlog
      cases hfile : t.file with
      | none =>
          rw [hfile] at hlog
          cases hlog
      | some file =>
          have hstored := h.stored
          rw [hfile] at hlog hstored
          simp only at hlog
          split at hlog
          · cases hlog
          split at hlog
          · cases hlog
          · rename_i read hread
            cases hlog
            exact hstored.read_eq hread
    apply Bounded.rebuildAndSave ?_ hprojected
    refine ⟨?_, ?_, h.within⟩
    · show Stored engine.keys log.entries t.file
      rw [hentries]
      exact h.stored
    · show exists more, log.entries = s.log.entries ++ more ∧ _
      rw [hentries]
      exact h.extended

/-- The step lemma: a request without the password stays within the bounds. -/
theorem Bounded.serve (h : Bounded engine.keys s t)
    (hprojected : rebuildFromLog s.log.entries = Except.ok s.store)
    {e : Serving × Request} (hguard : Unprivileged engine t e) :
    Bounded engine.keys s (engine.serve e.1 e.2 t).1 := by
  rcases hguard with ⟨hpassword, mtime, hwriting⟩
  have hserved : Served engine e.1 e.2 t (engine.serve e.1 e.2 t) := serve_served
  generalize engine.serve e.1 e.2 t = handled at hserved
  cases hserved with
  | reload response => exact h.checkReload hprojected e.1.mtime e.1.mtimeAfter
  | effect heffect =>
      cases heffect with
      | quiet _ => exact h
      | @commits type data t' answer answer' happends hcommit _ =>
          cases happends with
          | add hadmitted _ _ _ => exact absurd hadmitted.password (hpassword _ hadmitted.read)
          | permissions hbody haccepted _ _ => exact absurd haccepted (hpassword _ hbody)
          | ungated _ hungated =>
              rcases ungated_data hungated with ⟨hdata, hadd, hupdate⟩
              have hnext := h.commit hprojected hdata hadd hupdate hwriting
              rw [hcommit] at hnext
              exact hnext

end Steps

/--
From a state in which the store is the projection of the log, no run of requests without
the password activates a peer, gives one more permissions, or authorizes anything.
-/
theorem requests_gain_nothing {engine : Engine} {s : TrustState}
    (hsync : Synchronized engine.keys s) {past : List TrustState} {t : TrustState}
    (hrun : (servers engine s).Run (Unprivileged engine) past t) :
    Within s.store t.store ∧
      forall own n protocol, (s.store.verifyAndAuthorize own n protocol).1 = false ->
        (t.store.verifyAndAuthorize own n protocol).1 = false := by
  have hbounded : Bounded engine.keys s t := by
    apply hrun.invariant (I := Bounded engine.keys s)
    · intro t hstart
      rw [show t = s from hstart]
      refine ⟨hsync.right, ⟨[], (List.append_nil _).symm, ?_⟩, Within.refl _⟩
      intro e he
      cases he
    · intro t e ht hguard
      exact ht.serve hsync.left hguard
  refine ⟨hbounded.within, ?_⟩
  intro own n protocol hbefore
  rw [← Bool.not_eq_true]
  intro hafter
  rw [hbounded.within.authorized hafter] at hbefore
  cases hbefore

/-!
A peer may use the shell and loses it; its tags can still be set, and it stays out.  When it is
added once more with a number among its tags, that request is answered with an error and the
store keeps the revoked record.  Anyone who then sets the tags of the peer repairs the log, and
the peer is active again.
-/

def peerRequest (method : Method) (path : String) (fields : List (String × Json))
    (hfields : Json.Wf (Json.obj fields)) : Request where
  euid := some 1000
  method := method
  path := path
  queryTag := none
  body := Except.ok (Json.obj fields)
  hbody := by
    intro v hv
    cases hv
    exact hfields

def postShell (tags : List Json) (htags : Json.WfItems tags) : Request :=
  have hkeys : ["password", "node_id", "permissions", "tags"].Nodup := by decide
  peerRequest Method.post "/v1/peers"
    [("password", Json.str "open sesame"), ("node_id", Json.str peerId),
      ("permissions", Json.arr [Json.str "shell"]), ("tags", Json.arr tags)]
    ⟨hkeys, trivial, trivial, ⟨trivial, trivial⟩, htags, trivial⟩

def deletePeer : Request :=
  peerRequest Method.delete ("/v1/peers/" ++ peerId) [] ⟨List.nodup_nil, trivial⟩

def putAttic : Request :=
  peerRequest Method.put ("/v1/peers/" ++ peerId ++ "/tags")
    [("tags", Json.arr [Json.str "attic"])]
    ⟨List.nodup_singleton _, ⟨trivial, trivial⟩, trivial⟩

def serveAll (requests : List Request) : List DaemonEvent :=
  DaemonEvent.start calmServing.toSurroundings 0 ::
    requests.map (DaemonEvent.serve calmServing)

theorem unprivileged_putAttic (s : TrustState) :
    Unprivileged testEngine s (calmServing, putAttic) := by
  refine ⟨?_, 1, rfl⟩
  intro body hbody
  cases hbody
  intro haccepted
  cases haccepted

def revokedScript : List DaemonEvent :=
  serveAll [postShell [] trivial, deletePeer]

theorem not_newTag {request : Request} {rest : List String} (hrouted : Routed request rest)
    (hrest : forall nid more, rest ≠ nid :: "tags" :: more) (s : TrustState) (t : String) :
    ¬ NewTag s request t := by
  rintro ⟨nid, more, _, _, _, htags, _⟩
  have hsame : "v1" :: "peers" :: rest = "v1" :: "peers" :: nid :: "tags" :: more :=
    hrouted.symm.trans htags
  exact hrest nid more (List.cons.inj (List.cons.inj hsame).right).right

theorem routed_postShell : Routed (postShell [] trivial) [] := by
  show pathParts (trimPath "/v1/peers") = ["v1", "peers"]
  decide

theorem routed_deletePeer : Routed deletePeer [peerId] := by
  show pathParts (trimPath ("/v1/peers/" ++ peerId)) = ["v1", "peers", peerId]
  decide

theorem harmless_postShell (s : TrustState) :
    HarmlessRequest testEngine s (postShell [] trivial) := by
  constructor
  · intro body n v hadmitted hv
    have hbody := hadmitted.read
    cases hbody
    cases hv
    exact Or.inl rfl
  · intro body n v hadmitted hv items hitems
    have hbody := hadmitted.read
    cases hbody
    cases hv
    cases hitems
    exact fun item hitem => by cases hitem
  · intro t ht
    exact absurd ht (not_newTag routed_postShell (fun _ _ heq => by cases heq) s t)

theorem harmless_deletePeer (s : TrustState) : HarmlessRequest testEngine s deletePeer := by
  constructor
  · intro body n v hadmitted _
    cases hadmitted.method
  · intro body n v hadmitted _
    cases hadmitted.method
  · intro t ht
    exact absurd ht (not_newTag routed_deletePeer (fun _ _ heq => by cases heq) s t)

theorem requests_gain_nothing_attic :
    exists s, (daemons testEngine).exec (Daemon.down none) revokedScript = Daemon.up s ∧
      (s.store.verifyAndAuthorize "" peerId "shell").1 = false ∧
      let t := (servers testEngine s).exec s [(calmServing, putAttic)]
      t.log.entries.length = s.log.entries.length + 1 ∧ Within s.store t.store ∧
        (t.store.verifyAndAuthorize "" peerId "shell").1 = false := by
  have hstart : (daemons testEngine).Run (Harmless testEngine) [] (Daemon.down none) :=
    Machine.Run.start ⟨none, rfl, rfl, rfl⟩
  have hsound := sound_run (hstart.exec revokedScript
    ⟨trivial, ⟨trivial, fun _ s _ => harmless_postShell s⟩,
      ⟨trivial, fun _ s _ => harmless_deletePeer s⟩, trivial⟩)
  have hrevoked : exists s,
      (daemons testEngine).exec (Daemon.down none) revokedScript = Daemon.up s ∧
        (s.store.verifyAndAuthorize "" peerId "shell").1 = false ∧
          ((servers testEngine s).exec s [(calmServing, putAttic)]).log.entries.length =
            s.log.entries.length + 1 :=
    ⟨_, rfl, rfl, rfl⟩
  rcases hrevoked with ⟨s, hup, hout, hlength⟩
  rw [hup] at hsound
  have hserved : (servers testEngine s).Run (Unprivileged testEngine) [] s :=
    Machine.Run.start rfl
  have hlaw := requests_gain_nothing ⟨hsound.projected, hsound.sane.stored⟩
    (hserved.exec [(calmServing, putAttic)] ⟨unprivileged_putAttic _, trivial⟩)
  exact ⟨s, hup, hout, hlength, hlaw.left, hlaw.right "" peerId "shell" hout⟩

theorem request_activates_peer :
    exists s, (daemons testEngine).exec (Daemon.down none)
        (serveAll [postShell [] trivial, deletePeer, postShell [Json.int 5] ⟨trivial, trivial⟩]) =
          Daemon.up s ∧
      Unprivileged testEngine s (calmServing, putAttic) ∧
      (s.store.verifyAndAuthorize "" peerId "shell").1 = false ∧
      ((testEngine.serve calmServing putAttic s).1.store.verifyAndAuthorize "" peerId
        "shell").1 = true :=
  ⟨_, rfl, unprivileged_putAttic _, rfl, rfl⟩

end Control
end PanicMonitr
