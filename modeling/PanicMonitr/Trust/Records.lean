import PanicMonitr.Trust.Replay

/-!
# Records of a replayed log

A log whose data is well formed can always be projected, and a record of the trust store
says of its peer what the view it was made from says.
-/

namespace PanicMonitr
namespace Trust

open Foundation

/-!
## Well-formed data
-/

def OptionalText (v : Json) : Prop :=
  v = Json.null ∨ exists s, v = Json.str s

def TextList (v : Json) : Prop :=
  exists texts : List String, v = Json.arr (texts.map Json.str)

/-- Nothing, or a text `fromisoformat` reads. -/
def BoundText (v : Json) : Prop :=
  truthy v = false ∨ exists text d, v = Json.str text ∧ fromisoformat text = some d

def PEER_OPS : List String :=
  [OP_ADD_PEER, OP_REVOKE_PEER, OP_UPDATE_PERMISSIONS, OP_ADD_PEER_ALIAS, OP_SET_TAGS,
    OP_SET_MAINTENANCE, OP_CLEAR_MAINTENANCE]

/-- The fields an operation reads have the types it writes them with. -/
structure WellFormed (entry : LogEntry) : Prop where
  node : entry.type ∈ PEER_OPS -> exists n, Names n entry
  timestamp : entry.type = OP_ADD_PEER ∨ entry.type = OP_REVOKE_PEER ->
    exists d, fromisoformat entry.timestamp = some d
  alias_ : entry.type = OP_ADD_PEER ∨ entry.type = OP_ADD_PEER_ALIAS ->
    OptionalText (entry.getD "alias" Json.null)
  permissions : entry.type = OP_ADD_PEER ∨ entry.type = OP_UPDATE_PERMISSIONS ->
    forall v, Assoc.get? "permissions" entry.data = some v -> TextList v
  tags : entry.type = OP_ADD_PEER ∨ entry.type = OP_SET_TAGS ->
    forall v, Assoc.get? "tags" entry.data = some v -> TextList v
  maintenance : entry.type = OP_SET_MAINTENANCE ->
    BoundText (entry.getD "start" Json.null) ∧ BoundText (entry.getD "end" Json.null)

/-- A view a record can be made of. -/
structure Projectable (view : PeerView) : Prop where
  addedAt : exists d, fromisoformat view.addedAt = some d
  revokedAt : forall t, view.revokedAt = some t -> exists d, fromisoformat t = some d
  maintenanceStart : BoundText view.maintenanceStart
  maintenanceEnd : BoundText view.maintenanceEnd
  alias_ : OptionalText view.alias_
  permissions : exists texts : List String, view.permissions = texts.map Json.str
  tags : exists texts : List String, view.tags = texts.map Json.str

theorem ne_empty_of_fromisoformat {text : String} {d : Datetime}
    (h : fromisoformat text = some d) : text ≠ "" := by
  intro hempty
  have hnone : fromisoformat "" = none := by decide
  rw [hempty, hnone] at h
  cases h

theorem pyList_getD {entry : LogEntry} {k : String} (default : List String)
    (h : forall v, Assoc.get? k entry.data = some v -> TextList v) :
    exists texts : List String,
      pyList (entry.getD k (Json.arr (default.map Json.str))) =
        Except.ok (texts.map Json.str) := by
  unfold LogEntry.getD
  cases hget : Assoc.get? k entry.data with
  | none => exact ⟨default, rfl⟩
  | some v =>
      rcases h v hget with ⟨texts, rfl⟩
      exact ⟨texts, rfl⟩

/-!
## Replaying well-formed entries
-/

structure Sound (peers : Views) : Prop where
  nodup : (Assoc.keys peers).Nodup
  projectable : forall k v, (k, v) ∈ peers -> (exists n, k = some n) ∧ Projectable v

theorem Sound.set {peers : Views} (h : Sound peers) (n : String) {v : PeerView}
    (hv : Projectable v) : Sound (Assoc.set (some n) v peers) := by
  constructor
  · exact Assoc.nodup_keys_set h.nodup
  · intro k' v' hin
    rcases Assoc.mem_set hin with ⟨hk, hv'⟩ | hold
    · rw [hk, hv']
      exact ⟨⟨n, rfl⟩, hv⟩
    · exact h.projectable k' v' hold

theorem item_of_names {n : String} {entry : LogEntry} (h : Names n entry) :
    entry.item "node_id" = Except.ok (Json.str n) := by
  unfold LogEntry.item
  rw [names_iff.mp h]

theorem addView_ok {entry : LogEntry} (h : WellFormed entry)
    (htype : entry.type = OP_ADD_PEER) {peers : Views} (hpeers : Sound peers) :
    exists peers', addView entry peers = Except.ok peers' ∧ Sound peers' := by
  rcases h.node (by rw [htype]; decide) with ⟨n, hname⟩
  rcases pyList_getD ["monitor"] (h.permissions (Or.inl htype)) with
    ⟨permissions, hpermissions⟩
  rcases pyList_getD [] (h.tags (Or.inl htype)) with ⟨tags, htags⟩
  refine ⟨_, ?_, hpeers.set n (v := {
    alias_ := entry.getD "alias" Json.null
    permissions := permissions.map Json.str
    tags := tags.map Json.str
    maintenanceStart := Json.null
    maintenanceEnd := Json.null
    addedAt := entry.timestamp
    revokedAt := none }) ?_⟩
  · unfold addView
    rw [item_of_names hname]
    rw [List.map_cons, List.map_nil] at hpermissions
    rw [List.map_nil] at htags
    rw [hpermissions, htags]
    rfl
  · constructor
    · exact h.timestamp (Or.inl htype)
    · intro t ht
      cases ht
    · exact Or.inl rfl
    · exact Or.inl rfl
    · exact h.alias_ (Or.inl htype)
    · exact ⟨permissions, rfl⟩
    · exact ⟨tags, rfl⟩

theorem viewChange_op {entry : LogEntry} {change : PeerView -> Except PyError PeerView}
    (hchange : viewChange entry = some change) : entry.type ∈ PEER_OPS := by
  unfold viewChange at hchange
  repeat' split at hchange
  all_goals first
    | (rename_i htype
       rw [htype]
       decide)
    | cases hchange

theorem viewChange_ok {entry : LogEntry} (h : WellFormed entry)
    {change : PeerView -> Except PyError PeerView} (hchange : viewChange entry = some change)
    {v : PeerView} (hv : Projectable v) :
    exists v', change v = Except.ok v' ∧ Projectable v' := by
  unfold viewChange at hchange
  split at hchange
  · rename_i htype
    cases hchange
    unfold revokeView
    split
    · refine ⟨_, rfl, { hv with revokedAt := ?_ }⟩
      intro t ht
      cases ht
      exact h.timestamp (Or.inr htype)
    · exact ⟨v, rfl, hv⟩
  split at hchange
  · rename_i htype
    cases hchange
    rcases pyList_getD [] (h.permissions (Or.inr htype)) with ⟨texts, htexts⟩
    rw [List.map_nil] at htexts
    refine ⟨{ v with permissions := texts.map Json.str }, ?_,
      { hv with permissions := ⟨texts, rfl⟩ }⟩
    unfold updatePermissionsView
    rw [htexts]
    rfl
  split at hchange
  · rename_i htype
    cases hchange
    exact ⟨_, rfl, { hv with alias_ := h.alias_ (Or.inr htype) }⟩
  split at hchange
  · rename_i htype
    cases hchange
    rcases pyList_getD [] (h.tags (Or.inr htype)) with ⟨texts, htexts⟩
    rw [List.map_nil] at htexts
    refine ⟨{ v with tags := texts.map Json.str }, ?_, { hv with tags := ⟨texts, rfl⟩ }⟩
    unfold setTagsView
    rw [htexts]
    rfl
  split at hchange
  · rename_i htype
    cases hchange
    rcases h.maintenance htype with ⟨hstart, hend⟩
    exact ⟨_, rfl, { hv with maintenanceStart := hstart, maintenanceEnd := hend }⟩
  split at hchange
  · cases hchange
    exact ⟨_, rfl, { hv with maintenanceStart := Or.inl rfl, maintenanceEnd := Or.inl rfl }⟩
  · cases hchange

theorem changeView_absent {n : String} {entry : LogEntry} {peers : Views}
    (change : PeerView -> Except PyError PeerView) (hname : Names n entry)
    (hget : Assoc.get? (some n) peers = none) :
    changeView change entry peers = Except.ok peers := by
  unfold changeView
  refine bind_eq_ok.mpr ⟨_, item_of_names hname, bind_eq_ok.mpr ⟨some n, rfl, ?_⟩⟩
  rw [hget]
  rfl

theorem changeView_present {n : String} {entry : LogEntry} {peers : Views} {v v' : PeerView}
    {change : PeerView -> Except PyError PeerView} (hname : Names n entry)
    (hget : Assoc.get? (some n) peers = some v) (hv : change v = Except.ok v') :
    changeView change entry peers = Except.ok (Assoc.set (some n) v' peers) := by
  unfold changeView
  refine bind_eq_ok.mpr ⟨_, item_of_names hname, bind_eq_ok.mpr ⟨some n, rfl, ?_⟩⟩
  rw [hget]
  exact bind_eq_ok.mpr ⟨v', hv, rfl⟩

theorem applyEntry_ok {entry : LogEntry} (h : WellFormed entry) {peers : Views}
    (hpeers : Sound peers) :
    exists peers', applyEntry entry peers = Except.ok peers' ∧ Sound peers' := by
  unfold applyEntry
  split
  · exact ⟨peers, rfl, hpeers⟩
  split
  · rename_i htype
    exact addView_ok h htype hpeers
  split
  · rename_i change hchange
    rcases h.node (viewChange_op hchange) with ⟨n, hname⟩
    cases hget : Assoc.get? (some n) peers with
    | none => exact ⟨peers, changeView_absent change hname hget, hpeers⟩
    | some v =>
        have hin := Assoc.mem_of_get?_eq_some hget
        rcases viewChange_ok h hchange (hpeers.projectable _ v hin).right with
          ⟨v', hv', hproj⟩
        exact ⟨_, changeView_present hname hget hv', hpeers.set n hproj⟩
  · exact ⟨peers, rfl, hpeers⟩

theorem replay_ok {entries : List LogEntry} (h : forall e, e ∈ entries -> WellFormed e)
    {peers : Views} (hpeers : Sound peers) :
    exists peers', replay peers entries = Except.ok peers' ∧ Sound peers' := by
  induction entries generalizing peers with
  | nil => exact ⟨peers, rfl, hpeers⟩
  | cons entry entries ih =>
      rcases applyEntry_ok (h entry (List.mem_cons_self ..)) hpeers with
        ⟨peers'', hentry, hsound⟩
      rcases ih (fun e he => h e (List.mem_cons_of_mem entry he)) hsound with
        ⟨peers', hrest, hsound'⟩
      exact ⟨peers', bind_eq_ok.mpr ⟨peers'', hentry, hrest⟩, hsound'⟩

/-!
## What holds of every view
-/

def newView (entry : LogEntry) (permissions tags : List Json) : PeerView where
  alias_ := entry.getD "alias" Json.null
  permissions := permissions
  tags := tags
  maintenanceStart := Json.null
  maintenanceEnd := Json.null
  addedAt := entry.timestamp
  revokedAt := none

/-- An entry gives new views a property, and changes none that has it into one without. -/
structure Establishes (P : PeerView -> Prop) (entry : LogEntry) : Prop where
  add : forall permissions tags,
    pyList (entry.getD "tags" (Json.arr [])) = Except.ok tags ->
      P (newView entry permissions tags)
  change : forall change, viewChange entry = some change ->
    forall v v', P v -> change v = Except.ok v' -> P v'

theorem Establishes.applyEntry {P : PeerView -> Prop} {entry : LogEntry}
    (h : Establishes P entry) {peers peers' : Views}
    (happly : applyEntry entry peers = Except.ok peers')
    (hpeers : forall k v, (k, v) ∈ peers -> P v) : forall k v, (k, v) ∈ peers' -> P v := by
  have hset : forall {key : NodeKey} {view : PeerView}, P view ->
      forall k v, (k, v) ∈ Assoc.set key view peers -> P v := by
    intro key view hview k v hin
    rcases Assoc.mem_set hin with ⟨_, hnew⟩ | hold
    · rw [hnew]
      exact hview
    · exact hpeers k v hold
  unfold Trust.applyEntry at happly
  split at happly
  · cases happly
    exact hpeers
  split at happly
  · rcases bind_eq_ok.mp happly with ⟨nid, _, happly⟩
    rcases bind_eq_ok.mp happly with ⟨permissions, _, happly⟩
    rcases bind_eq_ok.mp happly with ⟨tags, htags, happly⟩
    rcases bind_eq_ok.mp happly with ⟨key, _, happly⟩
    cases happly
    exact hset (h.add permissions tags htags)
  split at happly
  · rename_i change hchange
    rcases bind_eq_ok.mp happly with ⟨nid, _, happly⟩
    rcases bind_eq_ok.mp happly with ⟨key, _, happly⟩
    split at happly
    · cases happly
      exact hpeers
    · rename_i v hget
      rcases bind_eq_ok.mp happly with ⟨v', hv', happly⟩
      cases happly
      have hold := hpeers key v (Assoc.mem_of_get?_eq_some hget)
      exact hset (h.change change hchange v v' hold hv')
  · cases happly
    exact hpeers

/-- The induction over the log: what every entry establishes holds of every view. -/
theorem views_of_replay {P : PeerView -> Prop} {entries : List LogEntry} {peers peers' : Views}
    (h : forall e, e ∈ entries -> Establishes P e)
    (hreplay : replay peers entries = Except.ok peers')
    (hpeers : forall k v, (k, v) ∈ peers -> P v) : forall k v, (k, v) ∈ peers' -> P v := by
  induction entries generalizing peers with
  | nil =>
      cases hreplay
      exact hpeers
  | cons entry entries ih =>
      rcases bind_eq_ok.mp hreplay with ⟨peers'', hentry, hrest⟩
      have hnext := (h entry (List.mem_cons_self ..)).applyEntry hentry hpeers
      exact ih (fun e he => h e (List.mem_cons_of_mem entry he)) hrest hnext

/-!
## Records
-/

theorem readWhenSet_ok {v : Json} (h : BoundText v) :
    exists d, readWhenSet v = Except.ok d := by
  unfold readWhenSet
  rcases h with hfalse | ⟨text, d, rfl, hd⟩
  · rw [hfalse]
    exact ⟨none, rfl⟩
  · split
    · refine ⟨some d, ?_⟩
      simp only [readIso, hd]
      rfl
    · exact ⟨none, rfl⟩

theorem truthy_str {text : String} (h : text ≠ "") : truthy (Json.str text) = true :=
  decide_eq_true h

theorem readWhenSet_revoked {view : PeerView} {d : Option Datetime}
    (h : readWhenSet (revokedJson view) = Except.ok d)
    (htext : forall t, view.revokedAt = some t -> t ≠ "") :
    d = none <-> view.revokedAt = none := by
  unfold revokedJson at h
  cases hrevoked : view.revokedAt with
  | none =>
      rw [hrevoked] at h
      cases h
      exact iff_of_true rfl rfl
  | some t =>
      rw [hrevoked] at h
      unfold readWhenSet at h
      rw [truthy_str (htext t hrevoked)] at h
      rcases bind_eq_ok.mp h with ⟨d', _, hd⟩
      cases hd
      exact iff_of_false (fun h => by cases h) (fun h => by cases h)

theorem strListField_ok (field : String) (texts : List String) :
    strListField field (texts.map Json.str) = Except.ok texts := by
  induction texts with
  | nil => rfl
  | cons text texts ih =>
      rw [List.map_cons, strListField, ih]
      rfl

theorem strListField_eq {field : String} {values : List Json} {texts : List String}
    (h : strListField field values = Except.ok texts) : values = texts.map Json.str := by
  induction values generalizing texts with
  | nil =>
      cases h
      rfl
  | cons v values ih =>
      rcases bind_eq_ok.mp h with ⟨text, htext, h⟩
      rcases bind_eq_ok.mp h with ⟨more, hmore, h⟩
      cases h
      rw [List.map_cons, ← ih hmore]
      cases v with
      | str s =>
          cases htext
          rfl
      | null => cases htext
      | bool b => cases htext
      | int n => cases htext
      | float text => cases htext
      | arr items => cases htext
      | obj fields => cases htext

theorem texts_injective {texts texts' : List String}
    (h : texts.map Json.str = texts'.map Json.str) : texts = texts' := by
  apply List.map_injective_iff.mpr ?_ h
  intro s t hst
  cases hst
  rfl

theorem optionalStrField_ok (field : String) {v : Json} (h : OptionalText v) :
    exists s, optionalStrField field v = Except.ok s := by
  rcases h with rfl | ⟨s, rfl⟩
  · exact ⟨none, rfl⟩
  · exact ⟨some s, rfl⟩

theorem projectPeer_ok (n : String) {view : PeerView} (h : Projectable view) :
    exists peer, projectPeer (some n) view = Except.ok peer := by
  rcases h.addedAt with ⟨added, hadded⟩
  have hrevoked : BoundText (revokedJson view) := by
    unfold revokedJson
    cases hview : view.revokedAt with
    | none => exact Or.inl rfl
    | some t =>
        rcases h.revokedAt t hview with ⟨d, hd⟩
        exact Or.inr ⟨t, d, rfl, hd⟩
  rcases readWhenSet_ok hrevoked with ⟨revoked, hrevoked⟩
  rcases readWhenSet_ok h.maintenanceStart with ⟨start, hstart⟩
  rcases readWhenSet_ok h.maintenanceEnd with ⟨until_, huntil⟩
  rcases optionalStrField_ok "alias" h.alias_ with ⟨name, hname⟩
  rcases h.permissions with ⟨permissions, hpermissions⟩
  rcases h.tags with ⟨tags, htags⟩
  unfold projectPeer
  rw [readIso, hadded, hrevoked, hstart, huntil, nodeIdField, hname, hpermissions, htags,
    strListField_ok, strListField_ok]
  exact ⟨_, rfl⟩

structure RecordOf (key : NodeKey) (view : PeerView) (peer : TrustedPeer) : Prop where
  key : key = some peer.nodeId
  permissions : view.permissions = peer.permissions.map Json.str
  revokedAt : (forall t, view.revokedAt = some t -> t ≠ "") ->
    (peer.revokedAt = none <-> view.revokedAt = none)

/-- Each field of a record is what its reader makes of the view. -/
structure ReadFrom (key : NodeKey) (view : PeerView) (peer : TrustedPeer) : Prop where
  addedAt : readIso view.addedAt = Except.ok peer.addedAt
  revokedAt : readWhenSet (revokedJson view) = Except.ok peer.revokedAt
  maintenanceStart : readWhenSet view.maintenanceStart = Except.ok peer.maintenanceStart
  maintenanceEnd : readWhenSet view.maintenanceEnd = Except.ok peer.maintenanceEnd
  nodeId : nodeIdField key = Except.ok peer.nodeId
  alias_ : optionalStrField "alias" view.alias_ = Except.ok peer.alias_
  permissions : strListField "permissions" view.permissions = Except.ok peer.permissions
  tags : strListField "tags" view.tags = Except.ok peer.tags

theorem projectPeer_readFrom {key : NodeKey} {view : PeerView} {peer : TrustedPeer}
    (h : projectPeer key view = Except.ok peer) : ReadFrom key view peer := by
  unfold projectPeer at h
  rcases bind_eq_ok.mp h with ⟨added, hadded, h⟩
  rcases bind_eq_ok.mp h with ⟨revoked, hrevoked, h⟩
  rcases bind_eq_ok.mp h with ⟨start, hstart, h⟩
  rcases bind_eq_ok.mp h with ⟨until_, huntil, h⟩
  rcases bind_eq_ok.mp h with ⟨nodeId, hnodeId, h⟩
  rcases bind_eq_ok.mp h with ⟨name, hname, h⟩
  rcases bind_eq_ok.mp h with ⟨permissions, hpermissions, h⟩
  rcases bind_eq_ok.mp h with ⟨tags, htags, h⟩
  cases h
  exact ⟨hadded, hrevoked, hstart, huntil, hnodeId, hname, hpermissions, htags⟩

theorem projectPeer_recordOf {key : NodeKey} {view : PeerView} {peer : TrustedPeer}
    (h : projectPeer key view = Except.ok peer) : RecordOf key view peer := by
  have hread := projectPeer_readFrom h
  constructor
  · have hnodeId := hread.nodeId
    cases key with
    | none => cases hnodeId
    | some s =>
        cases hnodeId
        rfl
  · exact strListField_eq hread.permissions
  · exact readWhenSet_revoked hread.revokedAt

theorem projectPeers_of_each {peers : Views}
    (h : forall key view, (key, view) ∈ peers ->
      exists peer, projectPeer key view = Except.ok peer) :
    exists records, projectPeers peers = Except.ok records := by
  induction peers with
  | nil => exact ⟨[], rfl⟩
  | cons entry peers ih =>
      rcases entry with ⟨key, view⟩
      rcases h key view (List.mem_cons_self ..) with ⟨peer, hpeer⟩
      rcases ih (fun k v hin => h k v (List.mem_cons_of_mem _ hin)) with ⟨records, hrecords⟩
      refine ⟨peer :: records, ?_⟩
      rw [projectPeers, hpeer, hrecords]
      rfl

theorem projectPeers_ok {peers : Views} (h : Sound peers) :
    exists records, projectPeers peers = Except.ok records := by
  apply projectPeers_of_each
  intro key view hin
  rcases h.projectable key view hin with ⟨⟨n, rfl⟩, hview⟩
  exact projectPeer_ok n hview

theorem projectPeers_keys {peers : Views} {records : List TrustedPeer}
    (h : projectPeers peers = Except.ok records) :
    Assoc.keys peers = records.map (fun p => some p.nodeId) := by
  induction peers generalizing records with
  | nil =>
      cases h
      rfl
  | cons entry peers ih =>
      rcases bind_eq_ok.mp h with ⟨peer, hpeer, h⟩
      rcases bind_eq_ok.mp h with ⟨more, hmore, h⟩
      cases h
      rw [List.map_cons, ← ih hmore, ← (projectPeer_recordOf hpeer).key]
      rfl

theorem projectPeers_source {peers : Views} {records : List TrustedPeer}
    (h : projectPeers peers = Except.ok records) {record : TrustedPeer}
    (hin : record ∈ records) :
    exists key view, (key, view) ∈ peers ∧ projectPeer key view = Except.ok record := by
  induction peers generalizing records with
  | nil =>
      cases h
      cases hin
  | cons entry peers ih =>
      rcases entry with ⟨key, view⟩
      rcases bind_eq_ok.mp h with ⟨peer, hpeer, h⟩
      rcases bind_eq_ok.mp h with ⟨more, hmore, h⟩
      cases h
      rcases List.mem_cons.mp hin with hhead | htail
      · rw [hhead]
        exact ⟨key, view, List.mem_cons_self .., hpeer⟩
      · rcases ih hmore htail with ⟨key', view', hview', hproject⟩
        exact ⟨key', view', List.mem_cons_of_mem _ hview', hproject⟩

theorem projectPeers_target {peers : Views} {records : List TrustedPeer}
    (h : projectPeers peers = Except.ok records) {key : NodeKey} {view : PeerView}
    (hin : (key, view) ∈ peers) :
    exists record, record ∈ records ∧ projectPeer key view = Except.ok record := by
  induction peers generalizing records with
  | nil => cases hin
  | cons entry peers ih =>
      rcases bind_eq_ok.mp h with ⟨peer, hpeer, h⟩
      rcases bind_eq_ok.mp h with ⟨more, hmore, h⟩
      cases h
      rcases List.mem_cons.mp hin with hhead | htail
      · rw [← hhead] at hpeer
        exact ⟨peer, List.mem_cons_self .., hpeer⟩
      · rcases ih hmore htail with ⟨record, hrecord, hproject⟩
        exact ⟨record, List.mem_cons_of_mem _ hrecord, hproject⟩

theorem projectPeers_mem {peers : Views} {records : List TrustedPeer}
    (h : projectPeers peers = Except.ok records) {record : TrustedPeer}
    (hin : record ∈ records) :
    exists view, (some record.nodeId, view) ∈ peers ∧
      RecordOf (some record.nodeId) view record := by
  rcases projectPeers_source h hin with ⟨key, view, hview, hproject⟩
  have hrecord := projectPeer_recordOf hproject
  rw [hrecord.key] at hview hrecord
  exact ⟨view, hview, hrecord⟩

/-!
## Looking records up
-/

theorem getPeer_ofPeers {peers : List TrustedPeer}
    (hnodup : (peers.map TrustedPeer.nodeId).Nodup) {n : String} {peer : TrustedPeer} :
    (PeerTrustStore.ofPeers peers).getPeer n = some peer <->
      peer ∈ peers ∧ peer.nodeId = n := by
  let pairs := peers.map (fun p => (p.nodeId, p))
  have hkeys : (Assoc.keys pairs).Nodup := by
    show ((peers.map (fun p => (p.nodeId, p))).map Prod.fst).Nodup
    rw [List.map_map]
    exact hnodup
  have hpairs : (PeerTrustStore.ofPeers peers).peersByNid = pairs := by
    have hnew : (Assoc.keys ([] ++ pairs)).Nodup := by
      rw [List.nil_append]
      exact hkeys
    have hfold := Assoc.foldl_set_eq_append hnew
    rw [List.foldl_map] at hfold
    exact hfold
  unfold PeerTrustStore.getPeer
  rw [hpairs, ← Assoc.mem_iff_get? hkeys]
  constructor
  · intro hin
    rcases List.mem_map.mp hin with ⟨p, hp, heq⟩
    cases heq
    exact ⟨hp, rfl⟩
  · intro hin
    rcases hin with ⟨hin, hn⟩
    exact List.mem_map.mpr ⟨peer, hin, by rw [hn]⟩

theorem nodup_projectPeers {views : Views} {records : List TrustedPeer}
    (hnodup : (Assoc.keys views).Nodup) (h : projectPeers views = Except.ok records) :
    (records.map TrustedPeer.nodeId).Nodup := by
  rw [projectPeers_keys h] at hnodup
  refine List.Nodup.of_map some ?_
  rw [List.map_map]
  exact hnodup

theorem getPeer_iff_view {views : Views} {records : List TrustedPeer}
    (hnodup : (Assoc.keys views).Nodup) (h : projectPeers views = Except.ok records)
    {n : String} {peer : TrustedPeer} :
    (PeerTrustStore.ofPeers records).getPeer n = some peer <->
      exists view, Assoc.get? (some n) views = some view ∧
        projectPeer (some n) view = Except.ok peer := by
  rw [getPeer_ofPeers (nodup_projectPeers hnodup h)]
  constructor
  · intro hin
    rcases hin with ⟨hin, rfl⟩
    rcases projectPeers_source h hin with ⟨key, view, hview, hproject⟩
    have hkey := (projectPeer_recordOf hproject).key
    rw [hkey] at hview hproject
    exact ⟨view, Assoc.get?_eq_some_of_mem hnodup hview, hproject⟩
  · intro hview
    rcases hview with ⟨view, hget, hproject⟩
    rcases projectPeers_target h (Assoc.mem_of_get?_eq_some hget) with
      ⟨record, hrecord, hproject'⟩
    rw [hproject] at hproject'
    cases hproject'
    exact ⟨hrecord, (Option.some.inj (projectPeer_recordOf hproject).key).symm⟩

theorem nodup_keys_applyEntry {entry : LogEntry} {peers peers' : Views}
    (h : applyEntry entry peers = Except.ok peers') (hnodup : (Assoc.keys peers).Nodup) :
    (Assoc.keys peers').Nodup := by
  unfold applyEntry at h
  split at h
  · cases h
    exact hnodup
  split at h
  · rcases bind_eq_ok.mp h with ⟨nid, _, h⟩
    rcases bind_eq_ok.mp h with ⟨permissions, _, h⟩
    rcases bind_eq_ok.mp h with ⟨tags, _, h⟩
    rcases bind_eq_ok.mp h with ⟨key, _, h⟩
    cases h
    exact Assoc.nodup_keys_set hnodup
  split at h
  · rcases bind_eq_ok.mp h with ⟨nid, _, h⟩
    rcases bind_eq_ok.mp h with ⟨key, _, h⟩
    split at h
    · cases h
      exact hnodup
    · rcases bind_eq_ok.mp h with ⟨v', _, h⟩
      cases h
      exact Assoc.nodup_keys_set hnodup
  · cases h
    exact hnodup

theorem nodup_keys_replay {entries : List LogEntry} {peers peers' : Views}
    (h : replay peers entries = Except.ok peers') (hnodup : (Assoc.keys peers).Nodup) :
    (Assoc.keys peers').Nodup := by
  induction entries generalizing peers with
  | nil =>
      cases h
      exact hnodup
  | cons entry entries ih =>
      rcases bind_eq_ok.mp h with ⟨peers'', hentry, hrest⟩
      exact ih hrest (nodup_keys_applyEntry hentry hnodup)

/-- What a store rebuilt from a log has to do with it. -/
structure Rebuilt (entries : List LogEntry) (store : PeerTrustStore) : Prop where
  nodup : (store.peers.map TrustedPeer.nodeId).Nodup
  lookup : forall n peer, store.getPeer n = some peer <->
    peer ∈ store.peers ∧ peer.nodeId = n
  present : forall peer, peer ∈ store.peers ->
    exists view, Known peer.nodeId entries (some view) ∧
      RecordOf (some peer.nodeId) view peer
  absent : forall n, store.getPeer n = none -> Known n entries none

theorem rebuilt_of_ok {entries : List LogEntry} {store : PeerTrustStore}
    (h : rebuildFromLog entries = Except.ok store) : Rebuilt entries store := by
  rcases bind_eq_ok.mp h with ⟨views, hviews, h⟩
  rcases bind_eq_ok.mp h with ⟨peers, hpeers, h⟩
  cases h
  have hkeys := nodup_keys_replay hviews List.nodup_nil
  have hnodup := nodup_projectPeers hkeys hpeers
  constructor
  · exact hnodup
  · intro n peer
    exact getPeer_ofPeers hnodup
  · intro peer hin
    rcases projectPeers_mem hpeers hin with ⟨view, hview, hrecord⟩
    have hknown := materializePeers_known hviews peer.nodeId
    rw [Assoc.get?_eq_some_of_mem hkeys hview] at hknown
    exact ⟨view, hknown, hrecord⟩
  · intro n hnone
    have hknown := materializePeers_known hviews n
    have hget : Assoc.get? (some n) views = none := by
      rw [Assoc.get?_eq_none_iff, projectPeers_keys hpeers]
      intro hin
      rcases List.mem_map.mp hin with ⟨peer, hpeer, hn⟩
      have hsome := (getPeer_ofPeers hnodup).mpr ⟨hpeer, Option.some.inj hn⟩
      rw [hnone] at hsome
      cases hsome
    rw [hget] at hknown
    exact hknown

theorem Rebuilt.known {entries : List LogEntry} {store : PeerTrustStore}
    (h : Rebuilt entries store) {n : String} {peer : TrustedPeer}
    (hget : store.getPeer n = some peer) :
    exists view, Known n entries (some view) ∧ RecordOf (some n) view peer := by
  rcases (h.lookup n peer).mp hget with ⟨hin, rfl⟩
  exact h.present peer hin

theorem Rebuilt.key_iff {entries : List LogEntry} {store : PeerTrustStore}
    (h : Rebuilt entries store) {n : String} :
    (exists peer, store.getPeer n = some peer) <-> exists e, e ∈ entries ∧ Adds n e := by
  constructor
  · rintro ⟨peer, hget⟩
    rcases h.known hget with ⟨view, hknown, _⟩
    cases hknown with
    | since hlast _ _ _ =>
        refine ⟨_, ?_, hlast.adds⟩
        rw [hlast.split]
        exact List.mem_append_right _ List.mem_cons_self
  · rintro ⟨e, he, hadds⟩
    cases hget : store.getPeer n with
    | some peer => exact ⟨peer, rfl⟩
    | none =>
        cases h.absent n hget with
        | never hnever => exact absurd hadds (hnever e he)

theorem rebuildFromLog_ok {entries : List LogEntry}
    (h : forall e, e ∈ entries -> WellFormed e) :
    exists store, rebuildFromLog entries = Except.ok store := by
  have hempty : Sound [] := by
    constructor
    · exact List.nodup_nil
    · intro k v hin
      cases hin
  rcases replay_ok h hempty with ⟨views, hviews, hsound⟩
  rcases projectPeers_ok hsound with ⟨peers, hpeers⟩
  exact ⟨PeerTrustStore.ofPeers peers,
    bind_eq_ok.mpr ⟨views, hviews, bind_eq_ok.mpr ⟨peers, hpeers, rfl⟩⟩⟩

/-- Every record of a rebuilt store was read from a view of the replayed log. -/
theorem rebuilt_source {P : PeerView -> Prop} {entries : List LogEntry}
    {store : PeerTrustStore} (h : rebuildFromLog entries = Except.ok store)
    (hestablishes : forall e, e ∈ entries -> Establishes P e) {peer : TrustedPeer}
    (hin : peer ∈ store.peers) : exists key view, P view ∧ ReadFrom key view peer := by
  rcases bind_eq_ok.mp h with ⟨views, hviews, h⟩
  rcases bind_eq_ok.mp h with ⟨peers, hpeers, h⟩
  cases h
  rcases projectPeers_source hpeers hin with ⟨key, view, hview, hproject⟩
  have hholds := views_of_replay hestablishes hviews (fun _ _ hnil => by cases hnil) key view hview
  exact ⟨key, view, hholds, projectPeer_readFrom hproject⟩

end Trust
end PanicMonitr
