import PanicMonitr.Control.Daemon

/-!
# Requests and the projection of the log

The checks of a new peer are spread over the route, the engine, the manager and the
record, and the record is made after the entry was signed and written.  Neither the alias
nor the tags of a new peer are looked at before that.
-/

namespace PanicMonitr
namespace Control

open Foundation
open Trust

/-!
## The property
-/

/-- The log can be projected, now and from disk, and the store is its projection. -/
def Projects (engine : Engine) : Daemon -> Prop
  | Daemon.up s =>
      rebuildFromLog s.log.entries = Except.ok s.store ∧
        forall mtime, exists fresh,
          TrustLog.new.load engine.keys engine.pydantic s.file mtime = Except.ok fresh ∧
            rebuildFromLog fresh.entries = Except.ok s.store
  | Daemon.down file =>
      forall mtime, exists fresh store,
        TrustLog.new.load engine.keys engine.pydantic file mtime = Except.ok fresh ∧
          rebuildFromLog fresh.entries = Except.ok store

theorem Daemon.Sound.projects {engine : Engine} {d : Daemon}
    (h : Daemon.Sound engine.keys d) : Projects engine d := by
  cases d with
  | up s =>
      refine ⟨h.projected, ?_⟩
      intro mtime
      rcases sane_load engine.pydantic h.sane mtime with ⟨fresh, hfresh, hentries⟩
      refine ⟨fresh, hfresh, ?_⟩
      rw [hentries]
      exact h.projected
  | down file =>
      rcases h with ⟨entries, hsane⟩
      intro mtime
      rcases sane_load engine.pydantic hsane mtime with ⟨fresh, hfresh, hentries⟩
      rcases hsane.projectable with ⟨store, hstore⟩
      refine ⟨fresh, store, hfresh, ?_⟩
      rw [hentries]
      exact hstore

/-!
## The condition
-/

def PlainAlias (v : Json) : Prop :=
  v = Json.null ∨ exists s, v = Json.str s ∧ PlainText s

/--
A new peer that passes the checks before the log has a plain text or nothing as its alias
and plain texts as its tags, and the tags given to a known peer are plain.
-/
structure HarmlessRequest (engine : Engine) (s : TrustState) (request : Request) : Prop where
  alias_ : forall body n v, Admitted engine s request body n ->
    bodyGet "alias" body = Except.ok v -> PlainAlias v
  tags : forall body n v, Admitted engine s request body n ->
    bodyGet "tags" body = Except.ok v -> forall items,
      pyList (pyOr v (Json.arr [])) = Except.ok items ->
        forall item, item ∈ items -> exists t, item = Json.str t ∧ PlainText t
  newTags : forall t, NewTag s request t -> PlainText t

def Harmless (engine : Engine) (d : Daemon) : DaemonEvent -> Prop
  | DaemonEvent.start env _ => Settled env.writing
  | DaemonEvent.serve env request =>
      Settled env.writing ∧
        (request.euid = some env.euid -> forall s, d = Daemon.up s ->
          HarmlessRequest engine s request)
  | DaemonEvent.record env _ data _ _ => Settled env.writing ∧ Plain data
  | DaemonEvent.cycle _ _ _ => True

/-!
## Node ids, and paths below a peer
-/

theorem char_of_validateNodeId {n : String} (h : validateNodeId n = true) {c : Char}
    (hc : c ∈ n.toList) : isLowerHex c = true ∨ c = '\n' := by
  unfold validateNodeId at h
  simp only [Bool.and_eq_true, Bool.or_eq_true, decide_eq_true_eq] at h
  rcases h with ⟨⟨_, hdigits⟩, hrest⟩
  rw [← List.take_append_drop 64 n.toList] at hc
  rcases List.mem_append.mp hc with hfront | hback
  · exact Or.inl (List.all_eq_true.mp hdigits c hfront)
  · right
    rcases hrest with hnil | hnewline
    · rw [hnil] at hback
      cases hback
    · rw [hnewline] at hback
      exact List.mem_singleton.mp hback

theorem slash_not_mem {nid : String} (hvalid : validateNodeId nid = true) :
    '/' ∉ nid.toList := by
  intro hslash
  rcases char_of_validateNodeId hvalid hslash with hhex | hnewline
  · cases hhex
  · cases hnewline

section Paths

variable {path nid sub : String}

/-- The parts of a path, where none but the last may be followed by a slash. -/
theorem pathParts_sub
    (hpath : path.toList =
      '/' :: ("v1".toList ++ '/' :: ("peers".toList ++ '/' :: (nid.toList ++ '/' :: sub.toList))))
    (hnid : '/' ∉ nid.toList) (hsub : '/' ∉ sub.toList) :
    pathParts path = ["v1", "peers", nid, sub] := by
  unfold pathParts
  rw [hpath, List.dropWhile_cons_of_pos (by decide), List.dropWhile_append]
  rw [if_neg (by decide)]
  have hfront : "v1".toList.dropWhile (fun c => decide (c = '/')) = "v1".toList := by decide
  rw [hfront, List.splitOn_append_cons_self_of_not_mem (by decide),
    List.splitOn_append_cons_self_of_not_mem (by decide),
    List.splitOn_append_cons_self_of_not_mem hnid, List.splitOn_eq_singleton hsub]
  simp

theorem trimPath_of_last {front : List Char} {c : Char} (hpath : path.toList = front ++ [c])
    (hc : c ≠ '/') : trimPath path = path := by
  have hkept : path.toList.rdropWhile (fun c => c = '/') = path.toList := by
    rw [hpath, List.rdropWhile_concat_neg _ _ _ (by simpa using hc)]
  unfold trimPath
  rw [hkept]
  simp only
  rw [if_neg (by rw [hpath]; simp), String.ofList_toList]

theorem pathParts_trimPath
    (hpath : path.toList =
      '/' :: ("v1".toList ++ '/' :: ("peers".toList ++ '/' :: (nid.toList ++ '/' :: sub.toList))))
    (hnid : '/' ∉ nid.toList) (hsub : '/' ∉ sub.toList) (hne : sub.toList ≠ []) :
    pathParts (trimPath path) = ["v1", "peers", nid, sub] := by
  have hlast : path.toList =
      ('/' :: ("v1".toList ++ '/' :: ("peers".toList ++ '/' ::
        (nid.toList ++ '/' :: sub.toList.dropLast)))) ++ [sub.toList.getLast hne] := by
    rw [hpath]
    simp [List.dropLast_append_getLast hne]
  have hslash : sub.toList.getLast hne ≠ '/' := fun h => hsub (h ▸ List.getLast_mem hne)
  rw [trimPath_of_last hlast hslash]
  exact pathParts_sub hpath hnid hsub

end Paths

/-!
## The entries of harmless requests
-/

theorem plainText_of_validateNodeId {n : String} (h : validateNodeId n = true) :
    PlainText n := by
  apply plainText_ascii
  intro c hc
  rcases char_of_validateNodeId h hc with hhex | hnewline
  · unfold isLowerHex Char.isDigit at hhex
    simp only [Bool.or_eq_true, Bool.and_eq_true, decide_eq_true_eq] at hhex
    rcases hhex with ⟨_, hhigh⟩ | ⟨_, hhigh⟩
    · have hle : c.toNat <= 57 := hhigh
      omega
    · have hle : c.toNat <= 102 := hhigh
      omega
  · rw [hnewline]
    decide

theorem plainText_own (engine : Engine) : PlainText engine.keys.ownNodeId :=
  plainText_of_validateNodeId engine.hown

theorem PlainAlias.optionalText {v : Json} (h : PlainAlias v) :
    OptionalText v ∧ PlainValue v := by
  rcases h with rfl | ⟨s, rfl, hs⟩
  · exact ⟨Or.inl rfl, plainValue_null⟩
  · exact ⟨Or.inr ⟨s, rfl⟩, plainValue_str.mpr hs⟩

theorem texts_of_plain {items : List Json}
    (h : forall item, item ∈ items -> exists t, item = Json.str t ∧ PlainText t) :
    exists texts : List String, items = texts.map Json.str ∧
      forall t, t ∈ texts -> PlainText t := by
  induction items with
  | nil =>
      refine ⟨[], rfl, ?_⟩
      intro t ht
      cases ht
  | cons item items ih =>
      rcases h item (List.mem_cons_self ..) with ⟨t, rfl, ht⟩
      rcases ih (fun v hv => h v (List.mem_cons_of_mem _ hv)) with ⟨texts, rfl, htexts⟩
      exact ⟨t :: texts, rfl, List.forall_mem_cons.mpr ⟨ht, htexts⟩⟩

theorem goodData_appends {engine : Engine} {s : TrustState} {request : Request}
    {type : String} {data : List (String × Json)} (hs : Healthy engine.keys s)
    (hharmless : HarmlessRequest engine s request)
    (happends : Appends engine s request type data) : GoodData type data := by
  cases happends with
  | add hadmitted halias htags hadds =>
      have hn := plainText_of_validateNodeId hadmitted.valid
      rcases (hharmless.alias_ _ _ _ hadmitted halias).optionalText with
        ⟨hoptional, hplain⟩
      cases hadds with
      | plain hperms => exact goodData_addPeer hn hoptional hplain hperms
      | tagged hperms hlist =>
          have hitems := hharmless.tags _ _ _ hadmitted htags _ hlist
          rcases texts_of_plain hitems with ⟨texts, rfl, htexts⟩
          exact goodData_addPeer_tags hn hoptional hplain hperms htexts
  | permissions _ _ hvalid hperms =>
      exact goodData_updatePermissions (plainText_of_validateNodeId hvalid) hperms
  | ungated hvalid hungated =>
      have hn := plainText_of_validateNodeId hvalid
      cases hungated with
      | revoke => exact goodData_node hn (Or.inl rfl)
      | tags hsource =>
          apply goodData_setTags hn
          intro t ht
          rcases hsource t ht with hnew | ⟨peer, raw, hget, hraw, rfl⟩
          · exact hharmless.newTags t hnew
          · exact plainText_stripText (plainText_tag hs.projected hs.sane.plain hget raw hraw)
      | maintenance start until_ => exact goodData_setMaintenance hn start until_
      | clear => exact goodData_node hn (Or.inr rfl)

/-!
## Steps of the daemon
-/

theorem after_congr {α β : Type} {s : TrustState} {answer : Answer α} {answer' : Answer β}
    (h : answer = Answer.crashed <-> answer' = Answer.crashed) :
    Daemon.after (s, answer) = Daemon.after (s, answer') := by
  cases answer with
  | crashed =>
      rw [h.mp rfl]
      rfl
  | returned a =>
      cases answer' with
      | crashed => cases h.mpr rfl
      | returned b => rfl
      | raised e => rfl
  | raised e =>
      cases answer' with
      | crashed => cases h.mpr rfl
      | returned b => rfl
      | raised e' => rfl

theorem after_quiet {α : Type} {s : TrustState} {answer : Answer α}
    (h : answer ≠ Answer.crashed) : Daemon.after (s, answer) = Daemon.up s := by
  cases answer with
  | crashed => exact absurd rfl h
  | returned a => rfl
  | raised e => rfl

theorem serve_refused {engine : Engine} {env : Serving} {request : Request}
    (h : request.euid ≠ some env.euid) (s : TrustState) :
    exists response, engine.serve env request s = (s, Answer.returned response) := by
  unfold Engine.serve
  split
  · exact ⟨_, rfl⟩
  · rename_i uid heuid
    split
    · exact ⟨_, rfl⟩
    · rename_i hsame
      rw [Decidable.not_not] at hsame
      rw [heuid, hsame] at h
      exact absurd rfl h

theorem sound_serve {engine : Engine} {env : Serving} {request : Request} {s : TrustState}
    (hs : Healthy engine.keys s) (hsettled : Settled env.writing)
    (hharmless : request.euid = some env.euid -> HarmlessRequest engine s request) :
    Daemon.Sound engine.keys (Daemon.after (engine.serve env request s)) := by
  by_cases heuid : request.euid = some env.euid
  · have hserved : Served engine env request s (engine.serve env request s) := serve_served
    generalize engine.serve env request s = handled at hserved
    cases hserved with
    | reload response => exact healthy_checkReload hs env.mtime env.mtimeAfter
    | effect heffect =>
        cases heffect with
        | quiet hanswer =>
            rw [after_quiet hanswer]
            exact hs
        | commits happends hcommit hcrash =>
            have hgood := goodData_appends hs (hharmless heuid) happends
            have hsound := sound_commit hs hgood hsettled
            rw [hcommit] at hsound
            rw [after_congr hcrash]
            exact hsound
  · rcases serve_refused heuid s with ⟨response, hresponse⟩
    rw [hresponse]
    exact hs

theorem Daemon.Sound.step {engine : Engine} {d : Daemon} (h : Daemon.Sound engine.keys d)
    (e : DaemonEvent) (hharmless : Harmless engine d e) :
    Daemon.Sound engine.keys ((daemons engine).step d e) := by
  cases e with
  | start env mtime =>
      have hsane : exists entries, Sane engine.keys entries d.file := by
        cases d with
        | up s => exact ⟨_, h.sane⟩
        | down file => exact h
      rcases hsane with ⟨entries, hsane⟩
      have hstarted : Daemon.Sound engine.keys
          (Daemon.started (buildTrust engine.keys engine.pydantic env mtime d.file)) :=
        sound_buildTrust hsane (plainText_own engine) hharmless
      cases d with
      | up s => exact hstarted
      | down file => exact hstarted
  | serve env request =>
      cases d with
      | down file => exact h
      | up s => exact sound_serve h hharmless.left (fun heuid => hharmless.right heuid s rfl)
  | record env type data htype hdata =>
      cases d with
      | down file => exact h
      | up s => exact sound_recordEvent h htype hdata hharmless.right hharmless.left
  | cycle env mtime after =>
      cases d with
      | down file => exact h
      | up s => exact healthy_checkReload h mtime after

theorem sound_run {engine : Engine} {past : List Daemon} {d : Daemon}
    (hrun : (daemons engine).Run (Harmless engine) past d) : Daemon.Sound engine.keys d := by
  apply hrun.invariant (I := Daemon.Sound engine.keys)
  · intro d hstart
    rcases hstart with ⟨file, rfl, htext, htorn⟩
    refine ⟨[], stored_empty htext htorn, ?_, ?_⟩
    · intro e he
      cases he
    · intro e he
      cases he
  · intro d e hd hharmless
    exact hd.step e hharmless

/--
In every run of the daemon whose steps are harmless the log can be projected, in memory
and from disk, and the store is its projection.
-/
theorem requests_keep_projection {engine : Engine} {past : List Daemon} {d : Daemon}
    (hrun : (daemons engine).Run (Harmless engine) past d) : Projects engine d :=
  (sound_run hrun).projects

/-!
A new peer with a text as its alias; with a number instead the entry stays in the log,
and no projection of it succeeds.
-/

def testEngine : Engine where
  keys := checksumKeys
  pydantic := strictPydantic
  nodeIdStr := hex (List.replicate 32 7)
  unlockIdentity := fun password =>
    match password with
    | Json.str text => Except.ok (decide (text = "open sesame"))
    | _ => Except.error (PyError.attributeError "object has no attribute 'encode'")
  publicKey := fun _ => true
  hown := by decide

def peerId : String := hex (List.replicate 32 9)

/-- `POST /v1/peers` with this alias -/
def postAlias (alias_ : Json) (halias : Json.Wf alias_) : Request where
  euid := some 1000
  method := Method.post
  path := "/v1/peers"
  queryTag := none
  body := Except.ok (Json.obj
    [("password", Json.str "open sesame"), ("node_id", Json.str peerId), ("alias", alias_)])
  hbody := by
    intro v hv
    cases hv
    have hkeys : ["password", "node_id", "alias"].Nodup := by decide
    exact ⟨hkeys, trivial, trivial, halias, trivial⟩

def calmServing : Serving where
  now := noon
  writing := Writing.complete 1
  cacheFault := none
  euid := 1000
  mtime := 1
  mtimeAfter := 1
  fetched := Except.ok Json.null

def postAliasScript (alias_ : Json) (halias : Json.Wf alias_) : List DaemonEvent :=
  [DaemonEvent.start calmServing.toSurroundings 0,
    DaemonEvent.serve calmServing (postAlias alias_ halias)]

theorem harmless_postAlias (s : TrustState) :
    HarmlessRequest testEngine s (postAlias (Json.str "attic") trivial) := by
  constructor
  · intro body n v hadmitted hv
    have hbody := hadmitted.read
    cases hbody
    cases hv
    exact Or.inr ⟨"attic", rfl, plainText_of_all (by decide)⟩
  · intro body n v hadmitted hv items hitems
    have hbody := hadmitted.read
    cases hbody
    cases hv
    cases hitems
    intro item hitem
    cases hitem
  · intro t ht
    rcases ht with ⟨nid, more, _, _, _, hrouted, _⟩
    have hparts : pathParts (trimPath "/v1/peers") = ["v1", "peers"] := by decide
    have hnil := hparts.symm.trans hrouted
    cases hnil

theorem requests_keep_projection_attic :
    Projects testEngine ((daemons testEngine).exec (Daemon.down none)
      (postAliasScript (Json.str "attic") trivial)) := by
  have hstart : (daemons testEngine).Run (Harmless testEngine) [] (Daemon.down none) :=
    Machine.Run.start ⟨none, rfl, rfl, rfl⟩
  refine requests_keep_projection (hstart.exec (postAliasScript (Json.str "attic") trivial)
    ⟨trivial, ⟨trivial, ?_⟩, trivial⟩)
  intro _ s _
  exact harmless_postAlias s

theorem request_poisons_log :
    ¬ Projects testEngine ((daemons testEngine).exec (Daemon.down none)
      (postAliasScript (Json.int 5) trivial)) := by
  intro h
  have hprojected := h.left
  cases hprojected

end Control
end PanicMonitr
