import PanicMonitr.Trust.Authorization
import PanicMonitr.Trust.Entries

/-!
# The tags of a peer as a set

`_set_tags_locked` strips the tags and drops the empty ones; `add_peer` stores its tags
as they are.  `add_tag` and `remove_tag` look for a stripped tag among the stored ones, so
that the tags of a peer are a set to them as long as all that was stored is stripped.
-/

namespace PanicMonitr
namespace Trust

open Foundation

/-!
## Tidy tags
-/

/-- A tag that `_set_tags_locked` stores as it is. -/
def TidyTag (t : String) : Prop :=
  stripText t = t ∧ t ≠ ""

def TidyTags (tags : List String) : Prop :=
  forall t, t ∈ tags -> TidyTag t

theorem tidyTag_stripText {t : String} (h : stripText t ≠ "") : TidyTag (stripText t) :=
  ⟨stripText_stripText t, h⟩

theorem tidyTags_normalized {items : List Json} {texts : List String}
    (h : normalizeTags items = Except.ok texts) : TidyTags texts := by
  intro t ht
  rcases normalizeTags_texts h with ⟨raws, _, hmem⟩
  rcases (hmem t).mp ht with ⟨hne, raw, _, rfl⟩
  exact tidyTag_stripText hne

theorem normalizeTags_tidy {tags : List String} (h : TidyTags tags) :
    exists texts, normalizeTags (tags.map Json.str) = Except.ok texts ∧
      forall t, t ∈ texts <-> t ∈ tags := by
  rcases normalizeTags_map tags with ⟨texts, htexts, hmem⟩
  refine ⟨texts, htexts, ?_⟩
  intro t
  rw [hmem]
  constructor
  · intro ht
    rcases ht with ⟨_, raw, hraw, rfl⟩
    rw [(h raw hraw).left]
    exact hraw
  · intro ht
    exact ⟨(h t ht).right, t, ht, (h t ht).left⟩

/-!
## The store after tags are set
-/

theorem projectPeer_tags {key : NodeKey} {view : PeerView} {peer : TrustedPeer}
    (h : projectPeer key view = Except.ok peer) (texts : List String) :
    projectPeer key { view with tags := texts.map Json.str } =
      Except.ok { peer with tags := texts } := by
  have hread := projectPeer_readFrom h
  exact bind_eq_ok.mpr ⟨_, hread.addedAt, bind_eq_ok.mpr ⟨_, hread.revokedAt,
    bind_eq_ok.mpr ⟨_, hread.maintenanceStart, bind_eq_ok.mpr ⟨_, hread.maintenanceEnd,
      bind_eq_ok.mpr ⟨_, hread.nodeId, bind_eq_ok.mpr ⟨_, hread.alias_,
        bind_eq_ok.mpr ⟨_, hread.permissions,
          bind_eq_ok.mpr ⟨_, strListField_ok "tags" texts, rfl⟩⟩⟩⟩⟩⟩⟩⟩

def tagsData (n : String) (texts : List String) : List (String × Json) :=
  [("node_id", Json.str n), ("tags", Json.arr (texts.map Json.str))]

theorem applyEntry_setTags {entry : LogEntry} {n : String} {texts : List String}
    (htype : entry.type = OP_SET_TAGS) (hdata : entry.data = tagsData n texts)
    {peers : Views} {view : PeerView} (hget : Assoc.get? (some n) peers = some view) :
    applyEntry entry peers =
      Except.ok (Assoc.set (some n) { view with tags := texts.map Json.str } peers) := by
  have hchange : viewChange entry = some (setTagsView entry) := by
    unfold viewChange
    rw [htype]
    rfl
  have hgenesis : entry.type ≠ OP_GENESIS := by
    rw [htype]
    decide
  have hadd : entry.type ≠ OP_ADD_PEER := by
    rw [htype]
    decide
  have hview : setTagsView entry view =
      Except.ok { view with tags := texts.map Json.str } := by
    unfold setTagsView
    rw [LogEntry.getD, hdata]
    rfl
  unfold applyEntry
  rw [if_neg hgenesis, if_neg hadd, hchange]
  exact changeView_present (names_of_data hdata) hget hview

theorem rebuildFromLog_setTags {entries : List LogEntry} {store : PeerTrustStore}
    (h : rebuildFromLog entries = Except.ok store) {n : String} {peer : TrustedPeer}
    (hpeer : store.getPeer n = some peer) {entry : LogEntry} {texts : List String}
    (htype : entry.type = OP_SET_TAGS) (hdata : entry.data = tagsData n texts) :
    exists store', rebuildFromLog (entries ++ [entry]) = Except.ok store' ∧
      store'.getPeer n = some { peer with tags := texts } ∧
      forall m, m ≠ n -> store'.getPeer m = store.getPeer m := by
  rcases bind_eq_ok.mp h with ⟨views, hviews, h⟩
  rcases bind_eq_ok.mp h with ⟨records, hrecords, h⟩
  cases h
  have hnodup := nodup_keys_replay hviews List.nodup_nil
  rcases (getPeer_iff_view hnodup hrecords).mp hpeer with ⟨view, hget, hproject⟩
  let views' := Assoc.set (some n) { view with tags := texts.map Json.str } views
  have hnew := projectPeer_tags hproject texts
  have hviews' : materializePeers (entries ++ [entry]) = Except.ok views' := by
    rw [materializePeers_snoc, hviews]
    exact applyEntry_setTags htype hdata hget
  have heach : forall key v, (key, v) ∈ views' ->
      exists record, projectPeer key v = Except.ok record := by
    intro key v hin
    rcases Assoc.mem_set hin with ⟨rfl, rfl⟩ | hold
    · exact ⟨_, hnew⟩
    · rcases projectPeers_target hrecords hold with ⟨record, _, hrecord⟩
      exact ⟨record, hrecord⟩
  rcases projectPeers_of_each heach with ⟨records', hrecords'⟩
  have hnodup' : (Assoc.keys views').Nodup := Assoc.nodup_keys_set hnodup
  refine ⟨PeerTrustStore.ofPeers records',
    bind_eq_ok.mpr ⟨views', hviews', bind_eq_ok.mpr ⟨records', hrecords', rfl⟩⟩, ?_, ?_⟩
  · exact (getPeer_iff_view hnodup' hrecords').mpr ⟨_, Assoc.get?_set_self .., hnew⟩
  · intro m hm
    have hne : (some m : NodeKey) ≠ some n := fun heq => hm (Option.some.inj heq)
    apply Option.ext
    intro record
    rw [getPeer_iff_view hnodup' hrecords', getPeer_iff_view hnodup hrecords,
      Assoc.get?_set_of_ne hne]

theorem tags_of_rebuilt {P : String -> Prop} {entries : List LogEntry} {entry : LogEntry}
    {store store' : PeerTrustStore} (h : rebuildFromLog entries = Except.ok store)
    (hold : forall n peer, store.getPeer n = some peer -> forall t, t ∈ peer.tags -> P t)
    (hgives : GivesTags P entry)
    (h' : rebuildFromLog (entries ++ [entry]) = Except.ok store') :
    forall n peer, store'.getPeer n = some peer -> forall t, t ∈ peer.tags -> P t := by
  have hrebuilt := rebuilt_of_ok h
  have hrebuilt' := rebuilt_of_ok h'
  rcases bind_eq_ok.mp h with ⟨views, hviews, h⟩
  rcases bind_eq_ok.mp h with ⟨records, hrecords, h⟩
  cases h
  rcases bind_eq_ok.mp h' with ⟨views', hviews', h'⟩
  rcases bind_eq_ok.mp h' with ⟨records', hrecords', h'⟩
  cases h'
  rw [materializePeers_snoc, hviews] at hviews'
  have hall : forall key view, (key, view) ∈ views ->
      forall t, Json.str t ∈ view.tags -> P t := by
    intro key view hin t ht
    rcases projectPeers_target hrecords hin with ⟨record, hrecord, hproject⟩
    rw [strListField_eq (projectPeer_readFrom hproject).tags] at ht
    rcases List.mem_map.mp ht with ⟨t', ht', heq⟩
    cases heq
    exact hold record.nodeId record ((hrebuilt.lookup _ _).mpr ⟨hrecord, rfl⟩) t ht'
  have hall' := (establishes_tags hgives).applyEntry hviews' hall
  intro n peer hget t ht
  rcases projectPeers_source hrecords' ((hrebuilt'.lookup n peer).mp hget).left with
    ⟨key, view, hview, hproject⟩
  apply hall' key view hview
  rw [strListField_eq (projectPeer_readFrom hproject).tags]
  exact List.mem_map_of_mem ht

/-!
## What a commit comes to
-/

/-- No file operation raises, though the process may die in one. -/
def Lands : Writing -> Prop
  | Writing.complete _ => True
  | Writing.crash _ _ => True
  | Writing.crashAfter => True
  | _ => False

inductive Committed (type : String) (data : List (String × Json)) (env : Surroundings)
    (s : TrustState) : TrustState × Answer Bool -> Prop where
  | refused (e : PyError) : Committed type data env s (s, Answer.raised e)
  | crashed (s' : TrustState) : Committed type data env s (s', Answer.crashed)
  | unwritten (s' : TrustState) (e : PyError) : ¬ Lands env.writing ->
      Committed type data env s (s', Answer.raised e)
  | appended {entry : LogEntry} {s' : TrustState} {answer : Answer Bool} :
      entry.type = type -> entry.data = data ->
      (exists d, fromisoformat entry.timestamp = some d) ->
      s'.log.entries = s.log.entries ++ [entry] ->
      (forall store, rebuildFromLog s'.log.entries = Except.ok store -> s'.store = store) ->
        Committed type data env s (s', answer)

theorem rebuildAndSave_ok {env : Surroundings} {s : TrustState} {store : PeerTrustStore}
    (h : rebuildFromLog s.log.entries = Except.ok store) :
    (rebuildAndSave env s).1 = { s with store := store } := by
  unfold rebuildAndSave
  rw [h]
  simp only [saveCache]
  cases env.cacheFault with
  | none => rfl
  | some e => rfl

theorem commit_committed (keys : Keyring) (type : String) (data : List (String × Json))
    (env : Surroundings) (s : TrustState) :
    Committed type data env s (commit keys type data env s) := by
  unfold commit
  rcases s.log.append_cases keys type data env.now env.writing s.file with
    ⟨_, e, hcall⟩ | ⟨sign, _, _, hcall⟩
  · rw [hcall]
    exact Committed.refused e
  have hraised : forall {log : TrustLog} {file : Option LogFile} {e : PyError},
      ¬ Lands env.writing ->
      Committed type data env s ({ s with log := log, file := file }, Answer.raised e) :=
    fun hlost => Committed.unwritten _ _ hlost
  rw [hcall]
  cases hwriting : env.writing with
  | complete mtime =>
      let entry := s.log.nextEntry keys sign type data env.now
      let log : TrustLog := { s.log.remember entry with lastMtime := mtime }
      let t : TrustState :=
        { s with log := log, file := LogFile.extend s.file (TrustLog.lineOf entry) false }
      show Committed type data env s ((rebuildAndSave env t).1, (rebuildAndSave env t).2)
      have hlog : (rebuildAndSave env t).1.log = log := (rebuildAndSave_store env t).left
      have hstamp : exists d, fromisoformat entry.timestamp = some d :=
        ⟨env.now, fromisoformat_isoformat env.now⟩
      have hentries : (rebuildAndSave env t).1.log.entries = s.log.entries ++ [entry] := by
        rw [hlog]
        rfl
      refine Committed.appended rfl rfl hstamp hentries ?_
      intro store hstore
      rw [hlog] at hstore
      rw [rebuildAndSave_ok (s := t) hstore]
  | mkdirRaises message => exact hraised (by rw [hwriting]; exact id)
  | openRaises message => exact hraised (by rw [hwriting]; exact id)
  | writeRaises written torn message => exact hraised (by rw [hwriting]; exact id)
  | statRaises message => exact hraised (by rw [hwriting]; exact id)
  | crash written torn => exact Committed.crashed _
  | crashAfter => exact Committed.crashed _

/-!
## Tidy states
-/

structure Tidy (s : TrustState) : Prop where
  wellFormed : forall e, e ∈ s.log.entries -> WellFormed e
  projected : rebuildFromLog s.log.entries = Except.ok s.store
  tags : forall n peer, s.store.getPeer n = some peer -> TidyTags peer.tags

/-- Data of an entry that leaves a tidy state tidy. -/
structure Fits (type : String) (data : List (String × Json)) : Prop where
  wellFormed : forall entry : LogEntry, entry.type = type -> entry.data = data ->
    (exists d, fromisoformat entry.timestamp = some d) -> WellFormed entry
  tags : forall entry : LogEntry, entry.data = data -> GivesTags TidyTag entry

theorem Tidy.committed {s : TrustState} (h : Tidy s) {type : String}
    {data : List (String × Json)} (hfits : Fits type data) {env : Surroundings}
    (hlands : Lands env.writing) {result : TrustState × Answer Bool}
    (hresult : Committed type data env s result) (halive : result.2 ≠ Answer.crashed) :
    Tidy result.1 := by
  cases hresult with
  | refused e => exact h
  | crashed s' => exact absurd rfl halive
  | unwritten s' e hlost => exact absurd hlands hlost
  | @appended entry s' answer htype hdata hstamp hentries hstore =>
      have hwf : forall e, e ∈ s'.log.entries -> WellFormed e := by
        rw [hentries]
        exact forall_mem_snoc.mpr
          ⟨h.wellFormed, hfits.wellFormed entry htype hdata hstamp⟩
      rcases rebuildFromLog_ok hwf with ⟨store, hrebuild⟩
      have hprojected : rebuildFromLog s'.log.entries = Except.ok s'.store := by
        rw [hstore store hrebuild]
        exact hrebuild
      refine ⟨hwf, hprojected, ?_⟩
      rw [hentries] at hprojected
      exact tags_of_rebuilt h.projected h.tags (hfits.tags entry hdata) hprojected

theorem Tidy.mutation {keys : Keyring} {env : Surroundings}
    {allowed : String -> List (String × Json) -> Prop} {s : TrustState} (h : Tidy s)
    {result : TrustState × Answer Bool} (hresult : Mutation keys env allowed s result)
    (hallowed : forall type data, allowed type data -> Lands env.writing ∧ Fits type data)
    (halive : result.2 ≠ Answer.crashed) : Tidy result.1 := by
  cases hresult with
  | quiet _ => exact h
  | commits hdata =>
      rcases hallowed _ _ hdata with ⟨hlands, hfits⟩
      exact h.committed hfits hlands (commit_committed keys _ _ env s) halive

theorem Tidy.rebuildAndSave {s : TrustState} (h : Tidy s) (env : Surroundings) :
    Tidy (Trust.rebuildAndSave env s).1 := by
  rw [rebuildAndSave_ok h.projected]
  exact h

theorem givesTags_none {P : String -> Prop} {entry : LogEntry}
    (h : Assoc.get? "tags" entry.data = none) : GivesTags P entry := by
  intro items hitems t ht
  rw [LogEntry.getD, h] at hitems
  cases hitems
  cases ht

theorem givesTags_texts {P : String -> Prop} {entry : LogEntry} {texts : List String}
    (h : Assoc.get? "tags" entry.data = some (Json.arr (texts.map Json.str)))
    (htexts : forall t, t ∈ texts -> P t) : GivesTags P entry := by
  intro items hitems t ht
  rw [LogEntry.getD, h] at hitems
  cases hitems
  rcases List.mem_map.mp ht with ⟨t', ht', heq⟩
  cases heq
  exact htexts t ht'

theorem fits_changesPeer {n type : String} {data : List (String × Json)}
    (h : ChangesPeer n type data) (hnone : Assoc.get? "tags" data = none) :
    Fits type data := by
  constructor
  · intro entry htype hdata hstamp
    exact wellFormed_changesPeer h htype hdata hstamp
  · intro entry hdata
    apply givesTags_none
    rw [hdata]
    exact hnone

theorem fits_setsTags {n : String} {s : TrustState} {tags : List Json} {type : String}
    {data : List (String × Json)} (h : SetsTags n s tags type data) : Fits type data := by
  constructor
  · intro entry htype hdata hstamp
    exact wellFormed_changesPeer h.changesPeer htype hdata hstamp
  · intro entry hdata
    cases h with
    | mk hnormal _ =>
        refine givesTags_texts ?_ (tidyTags_normalized hnormal)
        rw [hdata]
        rfl

theorem fits_addsPeer {n : String} {alias_ tags : Json} {type : String}
    {data : List (String × Json)} (h : AddsPeer n alias_ tags type data)
    (halias : OptionalText alias_)
    (htags : forall items, pyList tags = Except.ok items ->
      exists texts : List String, items = texts.map Json.str ∧ TidyTags texts) :
    Fits type data := by
  cases h with
  | plain hperms =>
      constructor
      · have hnone : forall v, Assoc.get? "tags" [] = some v -> TextList v := by
          intro v hv
          cases hv
        intro entry htype hdata hstamp
        exact wellFormed_addPeerData halias hperms hnone htype hdata hstamp
      · intro entry hdata
        apply givesTags_none
        rw [hdata]
        rfl
  | tagged hperms hlist =>
      rcases htags _ hlist with ⟨texts, rfl, htidy⟩
      constructor
      · intro entry htype hdata hstamp
        refine wellFormed_addPeerData halias hperms ?_ htype hdata hstamp
        intro v hv
        cases hv
        exact ⟨texts, rfl⟩
      · intro entry hdata
        refine givesTags_texts ?_ htidy
        rw [hdata]
        rfl

theorem fits_setAlias {n : String} {alias_ : Json} (halias : OptionalText alias_) :
    Fits OP_ADD_PEER_ALIAS [("node_id", Json.str n), ("alias", alias_)] := by
  constructor
  · intro entry htype hdata _
    exact wellFormed_setAlias halias htype hdata
  · intro entry hdata
    apply givesTags_none
    rw [hdata]
    rfl

/-!
## Runs that stay tidy
-/

/--
The operations that bring nothing untidy: an accepted `add_peer` has an alias that is a
text or `None` and tidy tags, a new alias is a text or `None`, what a reload reads can be
projected to tidy records, and the file can be written.
-/
def Mild (keys : Keyring) (pydantic : Pydantic) (s : TrustState) :
    ManagerOp × Surroundings -> Prop
  | (ManagerOp.addPeer n alias_ permissions tags, env) =>
      Lands env.writing ∧ (AddAccepted n permissions s -> OptionalText alias_ ∧
        forall items, pyList tags = Except.ok items ->
          exists texts : List String, items = texts.map Json.str ∧ TidyTags texts)
  | (ManagerOp.setAlias n alias_, env) =>
      Lands env.writing ∧ (s.store.getPeer n ≠ none -> OptionalText alias_)
  | (ManagerOp.reload file mtime after, _) =>
      forall log, s.log.reloadIfChanged keys pydantic file mtime after =
          Except.ok (true, log) ->
        (forall e, e ∈ log.entries -> WellFormed e) ∧
        forall store, rebuildFromLog log.entries = Except.ok store ->
          forall n peer, store.getPeer n = some peer -> TidyTags peer.tags
  | (ManagerOp.load, _) => True
  | (_, env) => Lands env.writing

theorem Tidy.reload {keys : Keyring} {pydantic : Pydantic} {env : Surroundings}
    {s : TrustState} (h : Tidy s) (file : Option LogFile) (mtime after : Int)
    (hmild : Mild keys pydantic s (ManagerOp.reload file mtime after, env)) :
    Tidy (reloadStore keys pydantic env file mtime after s).1 := by
  unfold reloadStore
  split
  · exact ⟨h.wellFormed, h.projected, h.tags⟩
  · rename_i log hlog
    rw [reloadIfChanged_false hlog]
    exact ⟨h.wellFormed, h.projected, h.tags⟩
  · rename_i log hlog
    rcases hmild log hlog with ⟨hwf, htags⟩
    rcases rebuildFromLog_ok hwf with ⟨store, hstore⟩
    rw [rebuildAndSave_ok (s := { s with log := log, file := file }) hstore]
    exact ⟨hwf, hstore, htags store hstore⟩

theorem Tidy.run {keys : Keyring} {pydantic : Pydantic} {s : TrustState} (h : Tidy s)
    (op : ManagerOp) (env : Surroundings) (hmild : Mild keys pydantic s (op, env))
    (halive : (op.run keys pydantic env s).2 ≠ Answer.crashed) :
    Tidy (op.run keys pydantic env s).1 := by
  have hran := op.ran keys pydantic env s
  generalize op.run keys pydantic env s = result at hran halive
  cases hran with
  | mutation hresult =>
      refine h.mutation hresult ?_ halive
      intro type data hwrites
      cases hwrites with
      | addPeer haccepted hadds =>
          rcases hmild.right haccepted with ⟨halias, htags⟩
          exact ⟨hmild.left, fits_addsPeer hadds halias htags⟩
      | revokePeer n => exact ⟨hmild, fits_changesPeer ChangesPeer.revoke rfl⟩
      | updatePermissions hperms =>
          exact ⟨hmild, fits_changesPeer (ChangesPeer.update hperms) rfl⟩
      | setAlias hpeer =>
          refine ⟨hmild.left, fits_setAlias (hmild.right ?_)⟩
          rw [hpeer]
          exact Option.some_ne_none _
      | setTags hsets => exact ⟨hmild, fits_setsTags hsets⟩
      | addTag hsets => exact ⟨hmild, fits_setsTags hsets⟩
      | removeTag hsets => exact ⟨hmild, fits_setsTags hsets⟩
      | @setMaintenance n start until_ _ =>
          exact ⟨hmild, fits_changesPeer (ChangesPeer.maintenance start until_) rfl⟩
      | clearMaintenance n => exact ⟨hmild, fits_changesPeer ChangesPeer.clear rfl⟩
  | load => exact h.rebuildAndSave env
  | reload file mtime after => exact h.reload file mtime after hmild

/-- Every operation of a run is mild in the state it is taken in. -/
def MildStep (keys : Keyring) (pydantic : Pydantic) (w : Option TrustState)
    (e : ManagerOp × Surroundings) : Prop :=
  forall s, s ∈ w -> Mild keys pydantic s e

theorem tidy_of_run {keys : Keyring} {pydantic : Pydantic} {s : TrustState} (h : Tidy s)
    {past : List (Option TrustState)} {w : Option TrustState}
    (hrun : (managers keys pydantic s).Run (MildStep keys pydantic) past w) :
    forall t, t ∈ w -> Tidy t :=
  managers_invariant (P := Mild keys pydantic) h
    (fun _ op env hu hmild halive => hu.run op env hmild halive) hrun

/-!
## Calls on a tidy state
-/

def tagsOf (n : String) (s : TrustState) : List String :=
  ((s.store.getPeer n).map TrustedPeer.tags).getD []

theorem tagsOf_some {n : String} {s : TrustState} {peer : TrustedPeer}
    (h : s.store.getPeer n = some peer) : tagsOf n s = peer.tags := by
  unfold tagsOf
  rw [h]
  rfl

theorem Tidy.tagsOf {s : TrustState} (h : Tidy s) (n : String) :
    TidyTags (Trust.tagsOf n s) := by
  intro t ht
  cases hpeer : s.store.getPeer n with
  | none =>
      unfold Trust.tagsOf at ht
      rw [hpeer] at ht
      cases ht
  | some peer =>
      rw [tagsOf_some hpeer] at ht
      exact h.tags n peer hpeer t ht

/-- Nothing is other than before but the membership of one tag of the peer. -/
structure OnlyTag (n tag : String) (s s' : TrustState) : Prop where
  tags : forall x, x ≠ tag -> (x ∈ tagsOf n s' <-> x ∈ tagsOf n s)
  record : forall peer, s.store.getPeer n = some peer ->
    exists tags, s'.store.getPeer n = some { peer with tags := tags }
  others : forall m, m ≠ n -> s'.store.getPeer m = s.store.getPeer m

theorem OnlyTag.refl (n tag : String) (s : TrustState) : OnlyTag n tag s s :=
  ⟨fun _ _ => Iff.rfl, fun peer hpeer => ⟨peer.tags, hpeer⟩, fun _ _ => rfl⟩

/-- One entry was appended, and it sets the tags of the peer. -/
def AppendsTags (n : String) (s s' : TrustState) : Prop :=
  exists e, e.type = OP_SET_TAGS ∧ Names n e ∧ s'.log.entries = s.log.entries ++ [e]

theorem not_appendsTags (n : String) (s : TrustState) : ¬ AppendsTags n s s := by
  intro h
  rcases h with ⟨e, _, _, hentries⟩
  exact absurd (List.append_right_eq_self.mp hentries.symm) (List.cons_ne_nil _ _)

/--
What a call comes to that wants the tag to be there, or not to be there: it changes
nothing, or it sets the tags because the tag was not as wanted.
-/
inductive TagCall (n tag : String) (wanted : Prop) (env : Surroundings) (s : TrustState) :
    TrustState × Answer Bool -> Prop where
  | refused {answer : Answer Bool} : answer ≠ Answer.returned true ->
      TagCall n tag wanted env s (s, answer)
  | already : (tag ∈ tagsOf n s <-> wanted) ->
      TagCall n tag wanted env s (s, Answer.returned true)
  | crashed (s' : TrustState) : TagCall n tag wanted env s (s', Answer.crashed)
  | unwritten (s' : TrustState) (e : PyError) : ¬ Lands env.writing ->
      TagCall n tag wanted env s (s', Answer.raised e)
  | changed {s' : TrustState} {answer : Answer Bool} : ¬ (tag ∈ tagsOf n s <-> wanted) ->
      (tag ∈ tagsOf n s' <-> wanted) -> OnlyTag n tag s s' -> AppendsTags n s s' ->
        TagCall n tag wanted env s (s', answer)

/-- `_set_tags_locked` of a tidy list that differs from the stored one in one tag. -/
theorem setTags_call {keys : Keyring} {env : Surroundings} {s : TrustState} (h : Tidy s)
    {n tag : String} {peer : TrustedPeer} (hpeer : s.store.getPeer n = some peer)
    {tags : List String} (htidy : TidyTags tags) {wanted : Prop}
    (hother : forall x, x ≠ tag -> (x ∈ tags <-> x ∈ peer.tags))
    (hbefore : ¬ (tag ∈ peer.tags <-> wanted)) (hafter : tag ∈ tags <-> wanted) :
    TagCall n tag wanted env s (setTags keys env n (tags.map Json.str) s) := by
  rcases normalizeTags_tidy htidy with ⟨texts, htexts, hmem⟩
  have hcommit : setTags keys env n (tags.map Json.str) s =
      commit keys OP_SET_TAGS (tagsData n texts) env s := by
    unfold setTags
    rw [htexts, hpeer]
    rfl
  rw [hcommit]
  have hcommitted := commit_committed keys OP_SET_TAGS (tagsData n texts) env s
  generalize commit keys OP_SET_TAGS (tagsData n texts) env s = result at hcommitted
  cases hcommitted with
  | refused e => exact TagCall.refused (fun heq => by cases heq)
  | crashed s' => exact TagCall.crashed s'
  | unwritten s' e hlost => exact TagCall.unwritten s' e hlost
  | @appended entry s' answer htype hdata _ hentries hstore =>
      rcases rebuildFromLog_setTags h.projected hpeer htype hdata with
        ⟨store, hrebuild, hget, hothers⟩
      rw [← hentries] at hrebuild
      rw [← hstore store hrebuild] at hget hothers
      have hset : forall x, x ∈ tagsOf n s' <-> x ∈ tags := by
        intro x
        rw [tagsOf_some hget]
        exact hmem x
      refine TagCall.changed ?_ ((hset tag).trans hafter) ?_ ?_
      · rw [tagsOf_some hpeer]
        exact hbefore
      · refine ⟨?_, ?_, hothers⟩
        · intro x hx
          rw [hset, tagsOf_some hpeer]
          exact hother x hx
        · intro peer' hpeer'
          rw [hpeer] at hpeer'
          cases hpeer'
          exact ⟨texts, hget⟩
      · exact ⟨entry, htype, names_of_data hdata, hentries⟩

theorem addTag_call (keys : Keyring) (env : Surroundings) {s : TrustState} (h : Tidy s)
    (n t : String) :
    TagCall n (stripText t) True env s (addTag keys env n t s) := by
  unfold addTag
  split
  · exact TagCall.refused (fun heq => by cases heq)
  rename_i hne
  split
  · exact TagCall.refused (fun heq => by cases heq)
  rename_i peer hpeer
  split
  · rename_i hin
    apply TagCall.already
    rw [tagsOf_some hpeer]
    exact iff_true_intro hin
  · rename_i hnot
    refine setTags_call h hpeer ?_ ?_ (fun hiff => hnot (hiff.mpr trivial)) ?_
    · intro x hx
      rcases List.mem_append.mp hx with hold | hnew
      · exact h.tags n peer hpeer x hold
      · rw [List.mem_singleton.mp hnew]
        exact tidyTag_stripText hne
    · intro x hx
      rw [List.mem_append, List.mem_singleton]
      exact or_iff_left hx
    · exact iff_true_intro (List.mem_append_right _ (List.mem_singleton_self _))

theorem removeTag_call (keys : Keyring) (env : Surroundings) {s : TrustState} (h : Tidy s)
    (n t : String) :
    TagCall n (stripText t) False env s (removeTag keys env n (Json.str t) s) := by
  unfold removeTag
  split
  · rename_i hstrip
    cases hstrip
  rename_i hstrip
  cases hstrip
  split
  · exact TagCall.refused (fun heq => by cases heq)
  rename_i peer hpeer
  split
  · rename_i hnot
    apply TagCall.already
    rw [tagsOf_some hpeer]
    exact iff_false_intro hnot
  · rename_i hin
    refine setTags_call h hpeer ?_ ?_ (fun hiff => hin hiff.mp) ?_
    · intro x hx
      exact h.tags n peer hpeer x (List.mem_of_mem_filter hx)
    · intro x hx
      rw [List.mem_filter, decide_eq_true_iff]
      exact and_iff_left hx
    · apply iff_false_intro
      intro hmem
      exact absurd rfl (of_decide_eq_true (List.mem_filter.mp hmem).right)

/-!
## Equal calls
-/

/-- Equal calls, each whole under the lock, that the process survives. -/
inductive Calls (call : Surroundings -> TrustState -> TrustState × Answer Bool) :
    TrustState -> List (Answer Bool) -> TrustState -> Prop where
  | nil (s : TrustState) : Calls call s [] s
  | cons {env : Surroundings} {s s' s'' : TrustState} {answer : Answer Bool}
      {answers : List (Answer Bool)} : Lands env.writing -> call env s = (s', answer) ->
      answer ≠ Answer.crashed -> Calls call s' answers s'' ->
        Calls call s (answer :: answers) s''

section EqualCalls

variable {call : Surroundings -> TrustState -> TrustState × Answer Bool} {n tag : String}
  {wanted : Prop}

theorem Calls.idle
    (hcall : forall env s, Tidy s -> TagCall n tag wanted env s (call env s))
    {s s' : TrustState} {answers : List (Answer Bool)} (hcalls : Calls call s answers s')
    (h : Tidy s) (hdone : tag ∈ tagsOf n s <-> wanted) : s' = s := by
  induction hcalls with
  | nil s => rfl
  | @cons env s u s' answer answers hlands hanswer halive _ ih =>
      have hone := hcall env s h
      rw [hanswer] at hone
      cases hone with
      | refused _ => exact ih h hdone
      | already _ => exact ih h hdone
      | crashed _ => exact absurd rfl halive
      | unwritten _ _ hlost => exact absurd hlands hlost
      | changed hbefore _ _ _ => exact absurd hdone hbefore

/-- Either no call did anything, or exactly one did and the tag is as wanted. -/
theorem Calls.outcome
    (hcall : forall env s, Tidy s -> TagCall n tag wanted env s (call env s))
    (hkeep : forall env s, Tidy s -> Lands env.writing ->
      (call env s).2 ≠ Answer.crashed -> Tidy (call env s).1)
    {s s' : TrustState} {answers : List (Answer Bool)} (hcalls : Calls call s answers s')
    (h : Tidy s) :
    (s' = s ∧ (Answer.returned true ∈ answers -> (tag ∈ tagsOf n s <-> wanted))) ∨
    (¬ (tag ∈ tagsOf n s <-> wanted) ∧ (tag ∈ tagsOf n s' <-> wanted) ∧
      AppendsTags n s s') := by
  induction hcalls with
  | nil s =>
      left
      refine ⟨rfl, ?_⟩
      intro hin
      cases hin
  | @cons env s u s' answer answers hlands hanswer halive hrest ih =>
      have hone := hcall env s h
      have hnext := hkeep env s h hlands
      rw [hanswer] at hone hnext
      have htidy := hnext halive
      cases hone with
      | refused hno =>
          rcases ih h with ⟨hsame, hwanted⟩ | hchanged
          · left
            refine ⟨hsame, ?_⟩
            intro hin
            rcases List.mem_cons.mp hin with hhead | htail
            · exact absurd hhead.symm hno
            · exact hwanted htail
          · exact Or.inr hchanged
      | already hdone => exact Or.inl ⟨hrest.idle hcall h hdone, fun _ => hdone⟩
      | crashed _ => exact absurd rfl halive
      | unwritten _ _ hlost => exact absurd hlands hlost
      | changed hbefore hafter _ happends =>
          rw [hrest.idle hcall htidy hafter]
          exact Or.inr ⟨hbefore, hafter, happends⟩

end EqualCalls

/-!
## Set semantics
-/

def SameTags (n : String) (s s' : TrustState) : Prop :=
  forall x, x ∈ tagsOf n s' <-> x ∈ tagsOf n s

/-- One entry when the set of tags changed, and none otherwise. -/
def AppendsOnChange (n : String) (s s' : TrustState) : Prop :=
  (SameTags n s s' ∧ s'.log.entries = s.log.entries) ∨
  (¬ SameTags n s s' ∧ AppendsTags n s s')

/--
Adding and removing tags in a state: what holds after a call that answers `True`, and
what any number of equal calls append; a single call is one of them.
-/
structure SetSemantics (keys : Keyring) (s : TrustState) : Prop where
  added : forall n t env s', addTag keys env n t s = (s', Answer.returned true) ->
    stripText t ∈ tagsOf n s' ∧ OnlyTag n (stripText t) s s'
  removed : forall n t env s',
    removeTag keys env n (Json.str t) s = (s', Answer.returned true) ->
      (forall x, x ∈ tagsOf n s' -> stripText x ≠ stripText t) ∧
        OnlyTag n (stripText t) s s'
  addsOnce : forall n t answers s',
    Calls (fun env => addTag keys env n t) s answers s' -> AppendsOnChange n s s' ∧
      (Answer.returned true ∈ answers ->
        (AppendsTags n s s' <-> stripText t ∉ tagsOf n s))
  removesOnce : forall n t answers s',
    Calls (fun env => removeTag keys env n (Json.str t)) s answers s' ->
      AppendsOnChange n s s' ∧
      (Answer.returned true ∈ answers ->
        (AppendsTags n s s' <-> stripText t ∈ tagsOf n s))

theorem TagCall.returned {n tag : String} {wanted : Prop} {env : Surroundings}
    {s s' : TrustState}
    (h : TagCall n tag wanted env s (s', Answer.returned true)) :
    (tag ∈ tagsOf n s' <-> wanted) ∧ OnlyTag n tag s s' := by
  cases h with
  | refused hno => exact absurd rfl hno
  | already hdone => exact ⟨hdone, OnlyTag.refl n tag s⟩
  | changed _ hafter honly _ => exact ⟨hafter, honly⟩

theorem appendsOnChange_of_outcome {n tag : String} {wanted : Prop} {s s' : TrustState}
    {answers : List (Answer Bool)}
    (h : (s' = s ∧ (Answer.returned true ∈ answers -> (tag ∈ tagsOf n s <-> wanted))) ∨
      (¬ (tag ∈ tagsOf n s <-> wanted) ∧ (tag ∈ tagsOf n s' <-> wanted) ∧
        AppendsTags n s s')) :
    AppendsOnChange n s s' ∧ (Answer.returned true ∈ answers ->
      (AppendsTags n s s' <-> ¬ (tag ∈ tagsOf n s <-> wanted))) := by
  rcases h with ⟨rfl, hwanted⟩ | ⟨hbefore, hafter, happends⟩
  · refine ⟨Or.inl ⟨fun _ => Iff.rfl, rfl⟩, ?_⟩
    intro hin
    exact iff_of_false (not_appendsTags n s') (fun hnot => hnot (hwanted hin))
  · refine ⟨Or.inr ⟨?_, happends⟩, fun _ => iff_of_true happends hbefore⟩
    intro hsame
    exact hbefore ((hsame tag).symm.trans hafter)

theorem Tidy.addTag {s : TrustState} (h : Tidy s) (keys : Keyring) (n t : String)
    {env : Surroundings} (hlands : Lands env.writing)
    (halive : (Trust.addTag keys env n t s).2 ≠ Answer.crashed) :
    Tidy (Trust.addTag keys env n t s).1 := by
  refine h.mutation (addTag_result keys env n t s) ?_ halive
  rintro _ _ ⟨_, _, hsets⟩
  exact ⟨hlands, fits_setsTags hsets⟩

theorem Tidy.removeTag {s : TrustState} (h : Tidy s) (keys : Keyring) (n t : String)
    {env : Surroundings} (hlands : Lands env.writing)
    (halive : (Trust.removeTag keys env n (Json.str t) s).2 ≠ Answer.crashed) :
    Tidy (Trust.removeTag keys env n (Json.str t) s).1 := by
  refine h.mutation (removeTag_result keys env n (Json.str t) s) ?_ halive
  rintro _ _ ⟨_, _, _, _, hsets⟩
  exact ⟨hlands, fits_setsTags hsets⟩

theorem TagCall.absent {n tag : String} {env : Surroundings} {s s' : TrustState}
    (h : TagCall n tag False env s (s', Answer.returned true)) (htidy : Tidy s) :
    forall x, x ∈ tagsOf n s' -> stripText x ≠ tag := by
  intro x hx heq
  by_cases hxt : x = tag
  · rw [hxt] at hx
    exact h.returned.left.mp hx
  · have hold := (h.returned.right.tags x hxt).mp hx
    rw [(htidy.tagsOf n x hold).left] at heq
    exact hxt heq

theorem Tidy.setSemantics {s : TrustState} (h : Tidy s) (keys : Keyring) :
    SetSemantics keys s := by
  constructor
  · intro n t env s' hcall
    have hone := addTag_call keys env h n t
    rw [hcall] at hone
    exact ⟨hone.returned.left.mpr trivial, hone.returned.right⟩
  · intro n t env s' hcall
    have hone := removeTag_call keys env h n t
    rw [hcall] at hone
    exact ⟨hone.absent h, hone.returned.right⟩
  · intro n t answers s' hcalls
    have houtcome := hcalls.outcome (fun env u hu => addTag_call keys env hu n t)
      (fun env u hu hlands halive => hu.addTag keys n t hlands halive) h
    have happends := appendsOnChange_of_outcome houtcome
    rw [iff_true] at happends
    exact happends
  · intro n t answers s' hcalls
    have houtcome := hcalls.outcome (fun env u hu => removeTag_call keys env hu n t)
      (fun env u hu hlands halive => hu.removeTag keys n t hlands halive) h
    have happends := appendsOnChange_of_outcome houtcome
    rw [iff_false, not_not] at happends
    exact happends

/--
In every run of mild operations, `add_tag` and `remove_tag` treat the tags of each peer
as a set.
-/
theorem tags_are_sets {keys : Keyring} {pydantic : Pydantic} {s : TrustState}
    (hstart : Tidy s) {past : List (Option TrustState)} {w : Option TrustState}
    (hrun : (managers keys pydantic s).Run (MildStep keys pydantic) past w) :
    forall t, t ∈ w -> SetSemantics keys t :=
  fun t ht => (tidy_of_run hstart hrun t ht).setSemantics keys

/-!
A peer added with the tag `prod` keeps the law; one added with the tag ` prod ` keeps
that tag when `remove_tag` answers that `prod` is gone.
-/

def newManager : TrustState where
  log := TrustLog.new
  file := none
  store := PeerTrustStore.empty

def addTagged (tag : String) : ManagerOp × Surroundings :=
  (ManagerOp.addPeer "peer" Json.null Json.null (Json.arr [Json.str tag]), calm)

theorem tidy_newManager : Tidy newManager := by
  refine ⟨?_, rfl, ?_⟩
  · intro e he
    cases he
  · intro n peer hpeer
    cases hpeer

theorem mild_addTagged : Mild checksumKeys strictPydantic newManager (addTagged "prod") := by
  refine ⟨trivial, fun _ => ⟨Or.inl rfl, ?_⟩⟩
  intro items hitems
  cases hitems
  refine ⟨["prod"], rfl, ?_⟩
  intro t ht
  rw [List.mem_singleton.mp ht]
  exact ⟨by decide, by decide⟩

theorem tags_are_sets_prod :
    exists t, t ∈ (managers checksumKeys strictPydantic newManager).step (some newManager)
      (addTagged "prod") ∧ tagsOf "peer" t = ["prod"] ∧ SetSemantics checksumKeys t := by
  have hrun : (managers checksumKeys strictPydantic newManager).Run
      (MildStep checksumKeys strictPydantic) [] (some newManager) := Machine.Run.start rfl
  have hmild : MildStep checksumKeys strictPydantic (some newManager) (addTagged "prod") := by
    intro s hs
    cases hs
    exact mild_addTagged
  exact ⟨_, rfl, rfl, tags_are_sets tidy_newManager (Machine.Run.step _ hrun hmild) _ rfl⟩

def paddedState : TrustState :=
  (addPeer checksumKeys calm "peer" Json.null Json.null (Json.arr [Json.str " prod "])
    newManager).1

theorem padded_tag_stays :
    ¬ forall past w, (managers checksumKeys strictPydantic newManager).Run
        (fun _ _ => True) past w ->
      forall t, t ∈ w -> SetSemantics checksumKeys t := by
  intro h
  have hstart : (managers checksumKeys strictPydantic newManager).Run (fun _ _ => True) []
      (some newManager) := Machine.Run.start rfl
  have hlaw := h _ _ (Machine.Run.step (addTagged " prod ") hstart trivial) paddedState rfl
  have hremoved := hlaw.removed "peer" "prod" calm paddedState rfl
  exact hremoved.left " prod " (List.mem_singleton_self _) (by decide)

end Trust
end PanicMonitr
