import PanicMonitr.Trust.AllOrNothing
import PanicMonitr.Trust.Manager

/-!
# Entries the manager writes

The data of an entry is read back from disk when none of its texts breaks a line, and
projected when its fields have the right types.  Both are shown here for the entries of
the trust manager, and the tags of a record are those of the entries it was made from.
-/

namespace PanicMonitr
namespace Trust

open Foundation

/-!
## Plain texts
-/

/-- No character of the text breaks its line. -/
def PlainText (s : String) : Prop :=
  forall c, c ∈ s.toList -> isWideBreak c = false

def PlainValue (v : Json) : Prop :=
  forall c, isWideBreak c = true -> ¬ Json.Mentions c v

theorem plainText_ascii {s : String} (h : AsciiText s) : PlainText s := by
  intro c hc
  rw [← Bool.not_eq_true]
  intro hwide
  have hlow := h c hc
  rcases isLineBreak_of_isWideBreak hwide with ⟨_, _, hhigh⟩
  omega

theorem plainText_of_all {s : String}
    (h : s.toList.all (fun c => decide (c.toNat < 128)) = true) : PlainText s :=
  plainText_ascii (asciiText_of_all h)

theorem plainText_singleton {s : String} (h : PlainText s) {c : Char} (hc : c ∈ s.toList) :
    PlainText (String.singleton c) := by
  intro d hd
  rw [String.toList_singleton, List.mem_singleton] at hd
  rw [hd]
  exact h c hc

theorem plainText_stripText {s : String} (h : PlainText s) : PlainText (stripText s) := by
  intro c hc
  rw [stripText, String.toList_ofList] at hc
  have hdrop := (List.rdropWhile_prefix isSpace (s.toList.dropWhile isSpace)).subset hc
  exact h c ((List.dropWhile_suffix isSpace).subset hdrop)

theorem plainValue_str {s : String} : PlainValue (Json.str s) <-> PlainText s := by
  constructor
  · intro h c hc
    rw [← Bool.not_eq_true]
    intro hwide
    exact h c hwide hc
  · intro h c hwide hc
    rw [h c hc] at hwide
    cases hwide

theorem plainValue_null : PlainValue Json.null :=
  fun _ _ h => h

theorem mentionsItems_iff {c : Char} {items : List Json} :
    Json.MentionsItems c items <-> exists v, v ∈ items ∧ Json.Mentions c v := by
  induction items with
  | nil => simp [Json.MentionsItems]
  | cons v items ih => simp [Json.MentionsItems, ih]

theorem plainValue_arr {items : List Json} :
    PlainValue (Json.arr items) <-> forall v, v ∈ items -> PlainValue v := by
  constructor
  · intro h v hv c hwide hc
    exact h c hwide (mentionsItems_iff.mpr ⟨v, hv, hc⟩)
  · intro h c hwide hc
    rcases mentionsItems_iff.mp hc with ⟨v, hv, hmention⟩
    exact h v hv c hwide hmention

theorem plainValue_texts {texts : List String} :
    PlainValue (Json.arr (texts.map Json.str)) <-> forall t, t ∈ texts -> PlainText t := by
  rw [plainValue_arr]
  constructor
  · intro h t ht
    exact plainValue_str.mp (h _ (List.mem_map_of_mem ht))
  · intro h v hv
    rcases List.mem_map.mp hv with ⟨t, ht, rfl⟩
    exact plainValue_str.mpr (h t ht)

theorem plain_nil : Plain [] :=
  fun _ _ h => h

theorem plain_cons {k : String} {v : Json} {data : List (String × Json)} :
    Plain ((k, v) :: data) <-> PlainText k ∧ PlainValue v ∧ Plain data := by
  constructor
  · intro h
    refine ⟨?_, ?_, ?_⟩
    · intro c hc
      rw [← Bool.not_eq_true]
      intro hwide
      exact h c hwide (Or.inl hc)
    · intro c hwide hc
      exact h c hwide (Or.inr (Or.inl hc))
    · intro c hwide hc
      exact h c hwide (Or.inr (Or.inr hc))
  · intro h c hwide hc
    rcases h with ⟨hkey, hvalue, hdata⟩
    rcases hc with hc | hc | hc
    · rw [hkey c hc] at hwide
      cases hwide
    · exact hvalue c hwide hc
    · exact hdata c hwide hc

theorem plain_get? {k : String} {v : Json} {data : List (String × Json)} (h : Plain data)
    (hget : Assoc.get? k data = some v) : PlainValue v := by
  induction data with
  | nil => cases hget
  | cons field data ih =>
      rcases field with ⟨k', v'⟩
      rcases plain_cons.mp h with ⟨_, hvalue, hrest⟩
      rw [Assoc.get?_cons] at hget
      split at hget
      · cases hget
        exact hvalue
      · exact ih hrest hget

/-!
## Data of the mutations
-/

theorem wfItems_texts (texts : List String) : Json.WfItems (texts.map Json.str) := by
  induction texts with
  | nil => trivial
  | cons t texts ih => exact ⟨trivial, ih⟩

theorem permissions_texts {perms : List Json} (h : perms.all isPermission = true) :
    exists texts : List String, perms = texts.map Json.str ∧
      forall t, t ∈ texts -> PlainText t := by
  induction perms with
  | nil =>
      refine ⟨[], rfl, ?_⟩
      intro t ht
      cases ht
  | cons v perms ih =>
      rw [List.all_cons, Bool.and_eq_true] at h
      rcases ih h.right with ⟨texts, hperms, hplain⟩
      cases v with
      | str s =>
          refine ⟨s :: texts, by rw [hperms, List.map_cons], ?_⟩
          intro t ht
          rcases List.mem_cons.mp ht with hhead | htail
          · rw [hhead]
            have hall : (("*" :: VALID_PROTOCOLS).all
                (fun p => p.toList.all (fun c => decide (c.toNat < 128)))) = true := by decide
            have hin : s ∈ "*" :: VALID_PROTOCOLS := by
              have hknown := h.left
              unfold isPermission at hknown
              rw [Bool.or_eq_true, decide_eq_true_iff, decide_eq_true_iff] at hknown
              rcases hknown with hvalid | hstar
              · exact List.mem_cons_of_mem _ hvalid
              · rw [hstar]
                exact List.mem_cons_self ..
            exact plainText_of_all (List.all_eq_true.mp hall s hin)
          · exact hplain t htail
      | null => cases h.left
      | bool b => cases h.left
      | int n => cases h.left
      | float text => cases h.left
      | arr items => cases h.left
      | obj fields => cases h.left

/-- Data that is written, read back and projected: what a good entry carries. -/
structure GoodData (type : String) (data : List (String × Json)) : Prop where
  wf : Json.Wf (Json.obj data)
  plain : Plain data
  projected : forall entry : LogEntry, entry.type = type -> entry.data = data ->
    (exists d, fromisoformat entry.timestamp = some d) -> WellFormed entry

theorem names_of_data {n : String} {entry : LogEntry} {data : List (String × Json)}
    (hdata : entry.data = ("node_id", Json.str n) :: data) : Names n entry := by
  rw [names_iff, hdata]
  rfl

theorem type_ne {entry : LogEntry} {op op' : String} (htype : entry.type = op)
    (hne : op ≠ op') : entry.type ≠ op' := by
  rw [htype]
  exact hne

/-- The fields of a well-formed `add_peer`. -/
theorem wellFormed_addPeer {entry : LogEntry} (htype : entry.type = OP_ADD_PEER) {n : String}
    (hname : Names n entry) (hstamp : exists d, fromisoformat entry.timestamp = some d)
    (halias : OptionalText (entry.getD "alias" Json.null))
    (hpermissions : forall v, Assoc.get? "permissions" entry.data = some v -> TextList v)
    (htags : forall v, Assoc.get? "tags" entry.data = some v -> TextList v) :
    WellFormed entry := by
  refine ⟨fun _ => ⟨n, hname⟩, fun _ => hstamp, fun _ => halias, fun _ => hpermissions,
    fun _ => htags, ?_⟩
  exact fun hother => absurd hother (type_ne htype (by decide))

/-- The fields every `add_peer` has, and `more`, which may hold its tags. -/
theorem wellFormed_addPeerData {n : String} {alias_ : Json} {perms : List Json}
    {more : List (String × Json)} (halias : OptionalText alias_)
    (hperms : perms.all isPermission = true)
    (htags : forall v, Assoc.get? "tags" more = some v -> TextList v) {entry : LogEntry}
    (htype : entry.type = OP_ADD_PEER) (hdata : entry.data = addPeerData n alias_ perms ++ more)
    (hstamp : exists d, fromisoformat entry.timestamp = some d) : WellFormed entry := by
  rcases permissions_texts hperms with ⟨texts, rfl, _⟩
  have halias' : OptionalText (entry.getD "alias" Json.null) := by
    rw [LogEntry.getD, hdata]
    exact halias
  refine wellFormed_addPeer htype (names_of_data hdata) hstamp halias' ?_ ?_
  · intro v hv
    rw [hdata] at hv
    cases hv
    exact ⟨texts, rfl⟩
  · intro v hv
    rw [hdata] at hv
    exact htags v hv

theorem goodData_addPeer_more {n : String} {alias_ : Json} {perms : List Json}
    {more : List (String × Json)} (hn : PlainText n) (halias : OptionalText alias_)
    (hplain : PlainValue alias_) (hperms : perms.all isPermission = true)
    (hkeys : ("node_id" :: "alias" :: "permissions" :: Assoc.keys more).Nodup)
    (hwf : Json.WfFields more) (hmore : Plain more)
    (htags : forall v, Assoc.get? "tags" more = some v -> TextList v) :
    GoodData OP_ADD_PEER (addPeerData n alias_ perms ++ more) := by
  have hproject : forall entry : LogEntry, entry.type = OP_ADD_PEER ->
      entry.data = addPeerData n alias_ perms ++ more ->
      (exists d, fromisoformat entry.timestamp = some d) -> WellFormed entry :=
    fun entry htype hdata hstamp =>
      wellFormed_addPeerData halias hperms htags htype hdata hstamp
  rcases permissions_texts hperms with ⟨texts, rfl, htexts⟩
  refine ⟨?_, ?_, hproject⟩
  · refine ⟨hkeys, trivial, ?_, wfItems_texts texts, hwf⟩
    rcases halias with rfl | ⟨s, rfl⟩
    · trivial
    · trivial
  · exact plain_cons.mpr ⟨plainText_of_all (by decide), plainValue_str.mpr hn,
      plain_cons.mpr ⟨plainText_of_all (by decide), hplain,
        plain_cons.mpr ⟨plainText_of_all (by decide), plainValue_texts.mpr htexts, hmore⟩⟩⟩

theorem goodData_addPeer {n : String} {alias_ : Json} {perms : List Json}
    (hn : PlainText n) (halias : OptionalText alias_) (hplain : PlainValue alias_)
    (hperms : perms.all isPermission = true) :
    GoodData OP_ADD_PEER (addPeerData n alias_ perms) := by
  have hkeys : ["node_id", "alias", "permissions"].Nodup := by decide
  have htags : forall v, Assoc.get? "tags" [] = some v -> TextList v := by
    intro v hv
    cases hv
  exact goodData_addPeer_more hn halias hplain hperms hkeys trivial plain_nil htags

theorem goodData_addPeer_tags {n : String} {alias_ : Json} {perms : List Json}
    {tags : List String} (hn : PlainText n) (halias : OptionalText alias_)
    (hplain : PlainValue alias_) (hperms : perms.all isPermission = true)
    (htags : forall t, t ∈ tags -> PlainText t) :
    GoodData OP_ADD_PEER
      (addPeerData n alias_ perms ++ [("tags", Json.arr (tags.map Json.str))]) := by
  have hkeys : ["node_id", "alias", "permissions", "tags"].Nodup := by decide
  have hmore : Plain [("tags", Json.arr (tags.map Json.str))] :=
    plain_cons.mpr ⟨plainText_of_all (by decide), plainValue_texts.mpr htags, plain_nil⟩
  refine goodData_addPeer_more hn halias hplain hperms hkeys ⟨wfItems_texts tags, trivial⟩
    hmore ?_
  intro v hv
  cases hv
  exact ⟨tags, rfl⟩

/-- An entry that is no `add_peer` has fewer fields to look at. -/
theorem wellFormed_change {entry : LogEntry} (hadd : entry.type ≠ OP_ADD_PEER)
    (halias : entry.type ≠ OP_ADD_PEER_ALIAS) {n : String} (hname : Names n entry)
    (hstamp : exists d, fromisoformat entry.timestamp = some d)
    (hpermissions : entry.type = OP_UPDATE_PERMISSIONS ->
      forall v, Assoc.get? "permissions" entry.data = some v -> TextList v)
    (htags : entry.type = OP_SET_TAGS ->
      forall v, Assoc.get? "tags" entry.data = some v -> TextList v)
    (hbounds : entry.type = OP_SET_MAINTENANCE ->
      BoundText (entry.getD "start" Json.null) ∧ BoundText (entry.getD "end" Json.null)) :
    WellFormed entry := by
  refine ⟨fun _ => ⟨n, hname⟩, fun _ => hstamp, ?_, ?_, ?_, hbounds⟩
  · intro htype
    rcases htype with htype | htype
    · exact absurd htype hadd
    · exact absurd htype halias
  · intro htype
    rcases htype with htype | htype
    · exact absurd htype hadd
    · exact hpermissions htype
  · intro htype
    rcases htype with htype | htype
    · exact absurd htype hadd
    · exact htags htype

theorem wellFormed_node {type n : String}
    (htype : type = OP_REVOKE_PEER ∨ type = OP_CLEAR_MAINTENANCE) {entry : LogEntry}
    (hentry : entry.type = type) (hdata : entry.data = [("node_id", Json.str n)])
    (hstamp : exists d, fromisoformat entry.timestamp = some d) : WellFormed entry := by
  have hne : forall op, op = OP_ADD_PEER ∨ op = OP_ADD_PEER_ALIAS ∨
      op = OP_UPDATE_PERMISSIONS ∨ op = OP_SET_TAGS ∨ op = OP_SET_MAINTENANCE ->
      type ≠ op := by
    intro op hop
    rcases htype with rfl | rfl
    · rcases hop with rfl | rfl | rfl | rfl | rfl <;> decide
    · rcases hop with rfl | rfl | rfl | rfl | rfl <;> decide
  rw [← hentry] at hne
  exact wellFormed_change (hne _ (Or.inl rfl)) (hne _ (Or.inr (Or.inl rfl)))
    (names_of_data hdata) hstamp
    (fun h => absurd h (hne _ (Or.inr (Or.inr (Or.inl rfl)))))
    (fun h => absurd h (hne _ (Or.inr (Or.inr (Or.inr (Or.inl rfl))))))
    (fun h => absurd h (hne _ (Or.inr (Or.inr (Or.inr (Or.inr rfl))))))

theorem goodData_node {type n : String} (hn : PlainText n)
    (htype : type = OP_REVOKE_PEER ∨ type = OP_CLEAR_MAINTENANCE) :
    GoodData type [("node_id", Json.str n)] where
  wf := ⟨List.nodup_singleton _, trivial, trivial⟩
  plain := plain_cons.mpr ⟨plainText_of_all (by decide), plainValue_str.mpr hn, plain_nil⟩
  projected _ hentry hdata hstamp := wellFormed_node htype hentry hdata hstamp

theorem wellFormed_updatePermissions {n : String} {perms : List Json}
    (hperms : perms.all isPermission = true) {entry : LogEntry}
    (htype : entry.type = OP_UPDATE_PERMISSIONS)
    (hdata : entry.data = [("node_id", Json.str n), ("permissions", Json.arr perms)])
    (hstamp : exists d, fromisoformat entry.timestamp = some d) : WellFormed entry := by
  rcases permissions_texts hperms with ⟨texts, rfl, _⟩
  refine wellFormed_change (type_ne htype (by decide)) (type_ne htype (by decide))
    (names_of_data hdata) hstamp ?_ ?_ ?_
  · intro _ v hv
    rw [hdata] at hv
    cases hv
    exact ⟨texts, rfl⟩
  · exact fun hother => absurd hother (type_ne htype (by decide))
  · exact fun hother => absurd hother (type_ne htype (by decide))

theorem goodData_updatePermissions {n : String} {perms : List Json} (hn : PlainText n)
    (hperms : perms.all isPermission = true) :
    GoodData OP_UPDATE_PERMISSIONS
      [("node_id", Json.str n), ("permissions", Json.arr perms)] := by
  refine ⟨?_, ?_, fun _ htype hdata hstamp =>
    wellFormed_updatePermissions hperms htype hdata hstamp⟩
  all_goals rcases permissions_texts hperms with ⟨texts, rfl, htexts⟩
  · have hkeys : ["node_id", "permissions"].Nodup := by decide
    exact ⟨hkeys, trivial, wfItems_texts texts, trivial⟩
  · exact plain_cons.mpr ⟨plainText_of_all (by decide), plainValue_str.mpr hn,
      plain_cons.mpr ⟨plainText_of_all (by decide), plainValue_texts.mpr htexts, plain_nil⟩⟩

theorem wellFormed_setTags {n : String} {tags : List String} {entry : LogEntry}
    (htype : entry.type = OP_SET_TAGS)
    (hdata : entry.data = [("node_id", Json.str n), ("tags", Json.arr (tags.map Json.str))])
    (hstamp : exists d, fromisoformat entry.timestamp = some d) : WellFormed entry := by
  refine wellFormed_change (type_ne htype (by decide)) (type_ne htype (by decide))
    (names_of_data hdata) hstamp ?_ ?_ ?_
  · exact fun hother => absurd hother (type_ne htype (by decide))
  · intro _ v hv
    rw [hdata] at hv
    cases hv
    exact ⟨tags, rfl⟩
  · exact fun hother => absurd hother (type_ne htype (by decide))

theorem goodData_setTags {n : String} {tags : List String} (hn : PlainText n)
    (htags : forall t, t ∈ tags -> PlainText t) :
    GoodData OP_SET_TAGS
      [("node_id", Json.str n), ("tags", Json.arr (tags.map Json.str))] := by
  refine ⟨?_, ?_, fun _ htype hdata hstamp => wellFormed_setTags htype hdata hstamp⟩
  · have hkeys : ["node_id", "tags"].Nodup := by decide
    exact ⟨hkeys, trivial, wfItems_texts tags, trivial⟩
  · exact plain_cons.mpr ⟨plainText_of_all (by decide), plainValue_str.mpr hn,
      plain_cons.mpr ⟨plainText_of_all (by decide), plainValue_texts.mpr htags, plain_nil⟩⟩

theorem wellFormed_setMaintenance {n : String} {start until_ : Datetime} {entry : LogEntry}
    (htype : entry.type = OP_SET_MAINTENANCE)
    (hdata : entry.data = [("node_id", Json.str n), ("start", Json.str (isoformat start)),
      ("end", Json.str (isoformat until_))])
    (hstamp : exists d, fromisoformat entry.timestamp = some d) : WellFormed entry := by
  refine wellFormed_change (type_ne htype (by decide)) (type_ne htype (by decide))
    (names_of_data hdata) hstamp ?_ ?_ ?_
  · exact fun hother => absurd hother (type_ne htype (by decide))
  · exact fun hother => absurd hother (type_ne htype (by decide))
  · intro _
    rw [LogEntry.getD, LogEntry.getD, hdata]
    exact ⟨Or.inr ⟨_, start, rfl, fromisoformat_isoformat start⟩,
      Or.inr ⟨_, until_, rfl, fromisoformat_isoformat until_⟩⟩

theorem goodData_setMaintenance {n : String} (hn : PlainText n) (start until_ : Datetime) :
    GoodData OP_SET_MAINTENANCE
      [("node_id", Json.str n), ("start", Json.str (isoformat start)),
        ("end", Json.str (isoformat until_))] := by
  refine ⟨?_, ?_, fun _ htype hdata hstamp => wellFormed_setMaintenance htype hdata hstamp⟩
  · have hkeys : ["node_id", "start", "end"].Nodup := by decide
    exact ⟨hkeys, trivial, trivial, trivial, trivial⟩
  · exact plain_cons.mpr ⟨plainText_of_all (by decide), plainValue_str.mpr hn,
      plain_cons.mpr ⟨plainText_of_all (by decide),
        plainValue_str.mpr (plainText_ascii (asciiText_isoformat start)),
        plain_cons.mpr ⟨plainText_of_all (by decide),
          plainValue_str.mpr (plainText_ascii (asciiText_isoformat until_)), plain_nil⟩⟩⟩

theorem wellFormed_setAlias {n : String} {alias_ : Json} (halias : OptionalText alias_)
    {entry : LogEntry} (htype : entry.type = OP_ADD_PEER_ALIAS)
    (hdata : entry.data = [("node_id", Json.str n), ("alias", alias_)]) :
    WellFormed entry := by
  refine ⟨fun _ => ⟨n, names_of_data hdata⟩, ?_, ?_, ?_, ?_, ?_⟩
  · intro h
    rcases h with h | h
    · exact absurd h (type_ne htype (by decide))
    · exact absurd h (type_ne htype (by decide))
  · intro _
    rw [LogEntry.getD, hdata]
    exact halias
  · intro h
    rcases h with h | h
    · exact absurd h (type_ne htype (by decide))
    · exact absurd h (type_ne htype (by decide))
  · intro h
    rcases h with h | h
    · exact absurd h (type_ne htype (by decide))
    · exact absurd h (type_ne htype (by decide))
  · exact fun h => absurd h (type_ne htype (by decide))

theorem wellFormed_changesPeer {n type : String} {data : List (String × Json)}
    (h : ChangesPeer n type data) {entry : LogEntry} (htype : entry.type = type)
    (hdata : entry.data = data) (hstamp : exists d, fromisoformat entry.timestamp = some d) :
    WellFormed entry := by
  cases h with
  | revoke => exact wellFormed_node (Or.inl rfl) htype hdata hstamp
  | update hperms => exact wellFormed_updatePermissions hperms htype hdata hstamp
  | tags texts => exact wellFormed_setTags htype hdata hstamp
  | maintenance start until_ => exact wellFormed_setMaintenance htype hdata hstamp
  | clear => exact wellFormed_node (Or.inr rfl) htype hdata hstamp

theorem wellFormed_event {entry : LogEntry} (h : entry.type ∉ PEER_OPS) :
    WellFormed entry := by
  have hne : forall op, op ∈ PEER_OPS -> entry.type ≠ op := by
    intro op hop heq
    rw [heq] at h
    exact h hop
  have hneither : forall op op', op ∈ PEER_OPS -> op' ∈ PEER_OPS ->
      ¬ (entry.type = op ∨ entry.type = op') := by
    intro op op' hop hop' htype
    rcases htype with htype | htype
    · exact hne op hop htype
    · exact hne op' hop' htype
  constructor
  · exact fun hop => absurd hop h
  · exact fun htype => absurd htype (hneither _ _ (by decide) (by decide))
  · exact fun htype => absurd htype (hneither _ _ (by decide) (by decide))
  · exact fun htype => absurd htype (hneither _ _ (by decide) (by decide))
  · exact fun htype => absurd htype (hneither _ _ (by decide) (by decide))
  · exact fun htype => absurd htype (hne _ (by decide))

/-!
## Tags of the records

Every tag of a record stood in the data of some entry, so that plain entries make plain
tags.
-/

def GivesTags (P : String -> Prop) (entry : LogEntry) : Prop :=
  forall items, pyList (entry.getD "tags" (Json.arr [])) = Except.ok items ->
    forall t, Json.str t ∈ items -> P t

def PlainTags (view : PeerView) : Prop :=
  forall t, Json.str t ∈ view.tags -> PlainText t

theorem plainText_of_keys {data : List (String × Json)} (h : Plain data) {k : String}
    (hk : k ∈ Assoc.keys data) : PlainText k := by
  induction data with
  | nil => cases hk
  | cons field data ih =>
      rcases field with ⟨k', v⟩
      rcases plain_cons.mp h with ⟨hkey, _, hrest⟩
      rcases List.mem_cons.mp hk with hhead | htail
      · rw [hhead]
        exact hkey
      · exact ih hrest htail

theorem plainText_of_pyList {v : Json} {items : List Json} (h : pyList v = Except.ok items)
    (hv : PlainValue v) : forall t, Json.str t ∈ items -> PlainText t := by
  intro t ht
  cases v with
  | arr values =>
      cases h
      exact plainValue_str.mp (plainValue_arr.mp hv _ ht)
  | str s =>
      cases h
      rcases List.mem_map.mp ht with ⟨c, hc, heq⟩
      cases heq
      exact plainText_singleton (plainValue_str.mp hv) hc
  | obj fields =>
      cases h
      rcases List.mem_map.mp ht with ⟨k, hk, heq⟩
      cases heq
      exact plainText_of_keys hv hk
  | null => cases h
  | bool b => cases h
  | int n => cases h
  | float text => cases h

theorem plainText_of_field {entry : LogEntry} (h : Plain entry.data) {k : String}
    {items : List Json}
    (hlist : pyList (entry.getD k (Json.arr [])) = Except.ok items) :
    forall t, Json.str t ∈ items -> PlainText t := by
  apply plainText_of_pyList hlist
  unfold LogEntry.getD
  cases hget : Assoc.get? k entry.data with
  | none =>
      apply plainValue_arr.mpr
      intro v hv
      cases hv
  | some v => exact plain_get? h hget

theorem tags_change {P : String -> Prop} {entry : LogEntry} (h : GivesTags P entry)
    {change : PeerView -> Except PyError PeerView} (hchange : viewChange entry = some change)
    {v v' : PeerView} (hv : forall t, Json.str t ∈ v.tags -> P t)
    (hv' : change v = Except.ok v') : forall t, Json.str t ∈ v'.tags -> P t := by
  cases viewChange_step hchange hv' with
  | revoked _ _ => exact hv
  | revokedBefore _ _ => exact hv
  | permissions _ _ => exact hv
  | alias_ _ => exact hv
  | tags _ hlist => exact h _ hlist
  | window _ => exact hv
  | cleared _ => exact hv

theorem establishes_tags {P : String -> Prop} {entry : LogEntry} (h : GivesTags P entry) :
    Establishes (fun view => forall t, Json.str t ∈ view.tags -> P t) entry where
  add _ tags htags := h tags htags
  change _ hchange _ _ hv hv' := tags_change h hchange hv hv'

theorem establishes_plainTags {entry : LogEntry} (h : Plain entry.data) :
    Establishes PlainTags entry :=
  establishes_tags (fun _ hlist => plainText_of_field h hlist)

theorem plainText_tag {entries : List LogEntry} {store : PeerTrustStore}
    (h : rebuildFromLog entries = Except.ok store)
    (hplain : forall e, e ∈ entries -> Plain e.data) {n : String} {peer : TrustedPeer}
    (hget : store.getPeer n = some peer) : forall t, t ∈ peer.tags -> PlainText t := by
  have hin := ((rebuilt_of_ok h).lookup n peer).mp hget
  rcases rebuilt_source h (fun e he => establishes_plainTags (hplain e he)) hin.left with
    ⟨key, view, htags, hread⟩
  intro t ht
  apply htags
  rw [strListField_eq hread.tags]
  exact List.mem_map_of_mem ht

/-!
## Entries that are passed by
-/

theorem applyEntry_event {entry : LogEntry} (h : entry.type ∉ PEER_OPS) (peers : Views) :
    applyEntry entry peers = Except.ok peers := by
  unfold applyEntry
  split
  · rfl
  split
  · rename_i htype
    rw [htype] at h
    exact absurd (by decide) h
  split
  · rename_i change hchange
    exact absurd (viewChange_op hchange) h
  · rfl

theorem replay_append (peers : Views) (front back : List LogEntry) :
    replay peers (front ++ back) = (replay peers front >>= fun peers' => replay peers' back) := by
  induction front generalizing peers with
  | nil => rfl
  | cons entry front ih =>
      rw [List.cons_append, replay, replay]
      cases applyEntry entry peers with
      | error e => rfl
      | ok peers' => exact ih peers'

theorem materializePeers_snoc (entries : List LogEntry) (entry : LogEntry) :
    materializePeers (entries ++ [entry]) = materializePeers entries >>= applyEntry entry := by
  unfold materializePeers
  rw [replay_append]
  cases replay [] entries with
  | error e => rfl
  | ok peers =>
      show (applyEntry entry peers >>= fun peers' => replay peers' []) = applyEntry entry peers
      cases applyEntry entry peers with
      | error e => rfl
      | ok peers' => rfl

theorem rebuildFromLog_event {entries : List LogEntry} {entry : LogEntry}
    (h : entry.type ∉ PEER_OPS) :
    rebuildFromLog (entries ++ [entry]) = rebuildFromLog entries := by
  have hviews : materializePeers (entries ++ [entry]) = materializePeers entries := by
    rw [materializePeers_snoc]
    cases materializePeers entries with
    | error e => rfl
    | ok peers => exact applyEntry_event h peers
  rw [rebuildFromLog, rebuildFromLog, hviews]

end Trust
end PanicMonitr
