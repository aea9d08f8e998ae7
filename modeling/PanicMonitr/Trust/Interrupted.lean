import PanicMonitr.Foundation.JsonScan
import PanicMonitr.Trust.RoundTrip

/-!
# Interrupted appends

An append may leave any first part of its line in the file, and the next one goes on right
behind it.  A file that is loaded all the same holds nothing but entries that were appended:
no line that two appends share is JSON.
-/

namespace PanicMonitr
namespace Trust

open Foundation

/-!
## Pieces
-/

/-- An entry, and how many characters of its line were written. -/
structure Piece where
  entry : LogEntry
  written : Nat

def Piece.text (piece : Piece) : List Char :=
  (TrustLog.lineOf piece.entry).take piece.written

def piecesText (pieces : List Piece) : List Char :=
  pieces.flatMap Piece.text

/-- A file that entries with a property were appended to, each one as far as it got. -/
def Pieced (P : LogEntry -> Prop) (file : Option LogFile) : Prop :=
  exists pieces, fileText file = piecesText pieces ∧
    forall piece, piece ∈ pieces -> Written piece.entry ∧ P piece.entry

section Pieces

variable {P : LogEntry -> Prop}

theorem pieced_empty {file : Option LogFile} (htext : fileText file = []) : Pieced P file := by
  refine ⟨[], htext, ?_⟩
  intro piece hpiece
  cases hpiece

theorem Pieced.extend {file : Option LogFile} (h : Pieced P file) {entry : LogEntry}
    (hwritten : Written entry) (hentry : P entry) (n : Nat) (torn : Bool) :
    Pieced P (LogFile.extend file ((TrustLog.lineOf entry).take n) torn) := by
  rcases h with ⟨pieces, htext, hpieces⟩
  refine ⟨pieces ++ [{ entry := entry, written := n }], ?_, ?_⟩
  · rw [fileText_extend, htext, piecesText, piecesText, List.flatMap_append,
      List.flatMap_singleton]
    rfl
  · intro piece hpiece
    rcases List.mem_append.mp hpiece with hold | hnew
    · exact hpieces piece hold
    · rw [List.mem_singleton.mp hnew]
      exact ⟨hwritten, hentry⟩

theorem Pieced.persist {file : Option LogFile} (h : Pieced P file) {entry : LogEntry}
    (hwritten : Written entry) (hentry : P entry) (writing : Writing) (log : TrustLog) :
    Pieced P (TrustLog.persist entry writing log file).2.1 := by
  have hwhole : Pieced P (LogFile.extend file (TrustLog.lineOf entry) false) := by
    have hall := h.extend hwritten hentry (TrustLog.lineOf entry).length false
    rwa [List.take_length] at hall
  cases writing with
  | complete mtime => exact hwhole
  | mkdirRaises message => exact h
  | openRaises message => exact h
  | writeRaises written torn message => exact h.extend hwritten hentry written torn
  | statRaises message => exact hwhole
  | crash written torn =>
      have hpart := h.extend hwritten hentry (min written entry.dumpJson.length) torn
      rw [TrustLog.lineOf, List.take_append_of_le_length (Nat.min_le_right _ _),
        ← List.take_take, List.take_length] at hpart
      exact hpart
  | crashAfter => exact hwhole

theorem Pieced.append {keys : Keyring} {type : String} {data : List (String × Json)}
    {file : Option LogFile} (h : Pieced P file) (hdata : Json.Wf (Json.obj data))
    (hnew : forall e : LogEntry, e.type = type -> e.data = data -> P e) (now : Datetime)
    (writing : Writing) (log : TrustLog) :
    Pieced P (log.append keys type data now writing file).2.1 := by
  rcases log.append_cases keys type data now writing file with
    ⟨_, e, hcall⟩ | ⟨sign, _, htype, hcall⟩
  · rw [hcall]
    exact h
  · rw [hcall]
    exact h.persist (written_nextEntry htype hdata now log) (hnew _ rfl rfl) writing _

end Pieces

/-!
## The texts of pieces
-/

/-- A text that starts like a line is followed by no second start of the same value. -/
theorem fragment_dumpJson {entry : LogEntry} (h : Written entry) {t : List Char}
    (ht : t <+: entry.dumpJson) : Json.Fragment t :=
  ⟨Json.printFields entry.fields, ht, Json.balanced_printFields h.fields.right, 's', _, rfl,
    by decide⟩

theorem piece_text_cases (piece : Piece) :
    piece.text = TrustLog.lineOf piece.entry ∨ piece.text <+: piece.entry.dumpJson := by
  unfold Piece.text TrustLog.lineOf
  rcases Nat.lt_or_ge piece.entry.dumpJson.length piece.written with hall | hpart
  · left
    apply List.take_of_length_le
    rw [List.length_append]
    exact hall
  · right
    rw [List.take_append_of_le_length hpart]
    exact List.take_prefix _ _

theorem prefix_dumpJson {entry : LogEntry} {t : List Char}
    (ht : t <+: TrustLog.lineOf entry) (hline : '\n' ∉ t) : t <+: entry.dumpJson := by
  rcases List.prefix_concat_iff.mp ht with hwhole | hpart
  · rw [hwhole] at hline
    exact absurd (List.mem_append_right _ (List.mem_singleton_self _)) hline
  · exact hpart

theorem fragments_of_cut {pieces : List Piece}
    (hpieces : forall piece, piece ∈ pieces -> Written piece.entry) {t : List Char}
    (ht : t <+: piecesText pieces) (hline : '\n' ∉ t) :
    exists parts : List (List Char),
      t = parts.flatten ∧ forall u, u ∈ parts -> Json.Fragment u := by
  induction pieces generalizing t with
  | nil =>
      refine ⟨[], List.prefix_nil.mp ht, ?_⟩
      intro u hu
      cases hu
  | cons piece pieces ih =>
      rw [piecesText, List.flatMap_cons] at ht
      have hfirst : piece.text <+: TrustLog.lineOf piece.entry := List.take_prefix _ _
      rcases List.prefix_or_prefix_of_prefix ht (List.prefix_append _ _) with hpart | hpast
      · refine ⟨[t], by simp, ?_⟩
        intro u hu
        rw [List.mem_singleton.mp hu]
        exact fragment_dumpJson (hpieces piece List.mem_cons_self)
          (prefix_dumpJson (hpart.trans hfirst) hline)
      · rcases hpast with ⟨more, rfl⟩
        have hmore : more <+: piecesText pieces := (List.prefix_append_right_inj _).mp ht
        rw [List.mem_append, not_or] at hline
        rcases ih (fun p hp => hpieces p (List.mem_cons_of_mem piece hp)) hmore hline.right with
          ⟨parts, rfl, hparts⟩
        refine ⟨piece.text :: parts, rfl, ?_⟩
        exact List.forall_mem_cons.mpr ⟨fragment_dumpJson (hpieces piece List.mem_cons_self)
          (prefix_dumpJson hfirst hline.left), hparts⟩

theorem head_piecesText {pieces : List Piece} {c : Char} {t : List Char}
    (h : piecesText pieces = c :: t) : c = '{' := by
  induction pieces with
  | nil => cases h
  | cons piece pieces ih =>
      rw [piecesText, List.flatMap_cons] at h
      cases htext : piece.text with
      | nil =>
          rw [htext] at h
          exact ih h
      | cons d rest =>
          rw [htext] at h
          have hpart : d :: rest <+: TrustLog.lineOf piece.entry := by
            rw [← htext]
            exact List.take_prefix _ _
          rcases dumpJson_eq piece.entry with ⟨body, hbody⟩
          rw [TrustLog.lineOf, hbody] at hpart
          rw [← (List.cons.inj h).left]
          exact (List.cons_prefix_cons.mp hpart).left

theorem return_not_mem_piecesText {pieces : List Piece}
    (hpieces : forall piece, piece ∈ pieces -> Written piece.entry) :
    '\r' ∉ piecesText pieces := by
  intro hin
  rcases List.mem_flatMap.mp hin with ⟨piece, hpiece, hc⟩
  rcases List.mem_append.mp (List.mem_of_mem_take hc) with hdump | hnewline
  · have hle := le_of_mem_dumpJson (hpieces piece hpiece) hdump
    revert hle
    decide
  · revert hnewline
    decide

/-!
## Reading lines
-/

section Reading

variable {pydantic : Pydantic}

theorem readLines_cons {line : List Char} {lines : List (List Char)} {i : Nat}
    {read : List LogEntry} (hline : strip line ≠ [])
    (h : readLines pydantic i (line :: lines) = Except.ok read) :
    exists entry more, pydantic.validateJson (strip line) = some entry ∧
      readLines pydantic (i + 1) lines = Except.ok more ∧ read = entry :: more := by
  rw [readLines, if_neg hline] at h
  cases hentry : pydantic.validateJson (strip line) with
  | none =>
      rw [hentry] at h
      cases h
  | some entry =>
      rw [hentry] at h
      simp only at h
      cases hmore : readLines pydantic (i + 1) lines with
      | error e =>
          rw [hmore] at h
          cases h
      | ok more =>
          rw [hmore] at h
          cases h
          exact ⟨entry, more, rfl, rfl, rfl⟩

theorem parse_of_validateJson {line : List Char} {entry : LogEntry}
    (h : pydantic.validateJson line = some entry) : Json.parse line ≠ none := by
  intro hnone
  rw [Pydantic.validateJson, hnone] at h
  cases h

theorem head_of_dumpJson {entry : LogEntry} {c : Char} {q : List Char}
    (hpart : c :: q <+: entry.dumpJson) : c = '{' := by
  rcases dumpJson_eq entry with ⟨body, hbody⟩
  rw [hbody] at hpart
  exact (List.cons_prefix_cons.mp hpart).left

theorem not_isSpace_brace : isSpace '{' = false := by
  decide

theorem firstLine_ne {entry : LogEntry} {pieces : List Piece} {p line rest : List Char} {b : Char}
    (hp : p ≠ []) (hpart : p <+: entry.dumpJson) (hb : isLineBreak b = true)
    (hsplit : p ++ piecesText pieces = line ++ b :: rest) : strip line ≠ p := by
  intro hstrip
  rcases List.exists_cons_of_ne_nil hp with ⟨c, q, rfl⟩
  have hc := head_of_dumpJson hpart
  cases line with
  | nil => cases hstrip
  | cons d tail =>
      have hd : d = c := (List.cons.inj hsplit).left.symm
      have hspace : isSpace d = false := by
        rw [hd, hc]
        exact not_isSpace_brace
      have hkept := strip_prefix hspace tail
      rw [hstrip] at hkept
      rcases hkept.left with ⟨behind, hbehind⟩
      rw [← hbehind, List.append_assoc] at hsplit
      have hmore := List.append_cancel_left hsplit
      cases behind with
      | nil =>
          rw [head_piecesText hmore] at hb
          revert hb
          decide
      | cons x behind =>
          have hx : isSpace x = false := by
            rw [head_piecesText hmore]
            exact not_isSpace_brace
          have hlong := (strip_append_cons (a := q) (b := behind) (hd ▸ hspace) hx).length_le
          rw [hbehind, hstrip] at hlong
          simp at hlong

section Piece

/-!
A piece that lacks its newline, with more pieces behind it.
-/

variable {entry : LogEntry} (hentry : Written entry) {pieces : List Piece}
  (hpieces : forall piece, piece ∈ pieces -> Written piece.entry) {p : List Char}
  (hp : p ≠ []) (hpart : p <+: entry.dumpJson)

include hentry hpieces hp hpart

/-- A line that starts with part of an entry's text is that text, and nothing follows. -/
theorem eq_of_parse {line : List Char} (hline : line <+: p ++ piecesText pieces)
    (hnewline : '\n' ∉ line) (hne : line ≠ []) (hparse : Json.parse line ≠ none) :
    line = p ∧ p = entry.dumpJson := by
  have hwhole : forall {q : List Char}, q <+: entry.dumpJson -> q ≠ [] ->
      forall {parts : List (List Char)}, (forall u, u ∈ parts -> Json.Fragment u) ->
        Json.parse (q ++ parts.flatten) ≠ none -> q = entry.dumpJson := by
    intro q hq hqne parts hparts hread
    by_contra hproper
    exact hread (Json.parse_part_eq_none hentry.fields hqne hq hproper hparts)
  rcases List.prefix_or_prefix_of_prefix (List.prefix_append p _) hline with
    hlonger | hshorter
  · rcases hlonger with ⟨t, rfl⟩
    have ht : t <+: piecesText pieces := (List.prefix_append_right_inj _).mp hline
    rw [List.mem_append, not_or] at hnewline
    rcases fragments_of_cut hpieces ht hnewline.right with ⟨parts, rfl, hparts⟩
    have hall := hwhole hpart hp hparts hparse
    cases htext : parts.flatten with
    | nil =>
        rw [List.append_nil]
        exact ⟨rfl, hall⟩
    | cons c rest =>
        rcases ht with ⟨more, hmore⟩
        rw [htext] at hmore hparse
        rw [head_piecesText hmore.symm, hall] at hparse
        exact absurd (Json.parse_twice_eq_none hentry.fields rest) hparse
  · have hread : Json.parse (line ++ ([] : List (List Char)).flatten) ≠ none := by
      rw [List.flatten_nil, List.append_nil]
      exact hparse
    have hall := hwhole (hshorter.trans hpart) hne (List.forall_mem_nil Json.Fragment) hread
    have hsame : line = p := by
      apply hshorter.eq_of_length_le
      rw [hall]
      exact hpart.length_le
    rw [← hsame]
    exact ⟨rfl, hall⟩

/-- A first line that is read is the piece, and the piece is the whole text of its entry. -/
theorem firstLine_eq {line : List Char} (hline : line <+: p ++ piecesText pieces)
    (hne : line ≠ []) (hclean : forall d, d ∈ line -> isLineBreak d = false) :
    strip line ≠ [] ∧
      (Json.parse (strip line) ≠ none -> strip line = p ∧ p = entry.dumpJson) := by
  rcases List.exists_cons_of_ne_nil hp with ⟨c, q, rfl⟩
  rcases List.exists_cons_of_ne_nil hne with ⟨d, rest, rfl⟩
  have hd : d = '{' := (List.cons_prefix_cons.mp hline).left.trans (head_of_dumpJson hpart)
  rw [hd] at hline hclean ⊢
  rcases strip_prefix not_isSpace_brace rest with ⟨hstrip, hnil⟩
  refine ⟨hnil, ?_⟩
  intro hparse
  apply eq_of_parse hentry hpieces hp hpart (hstrip.trans hline) ?_ hnil hparse
  intro hnewline
  have hbreak := hclean '\n' (hstrip.subset hnewline)
  revert hbreak
  decide

/-- A piece without its newline is a whole line, or the file cannot be read. -/
theorem readLines_piece (hreturn : '\r' ∉ p ++ piecesText pieces) {i : Nat}
    {read : List LogEntry}
    (h : readLines pydantic i (splitlines (p ++ piecesText pieces)) = Except.ok read) :
    read = [entry] := by
  have hnonempty : p ++ piecesText pieces ≠ [] := List.append_ne_nil_of_left_ne_nil hp _
  rcases splitlines_first hnonempty hreturn with
    ⟨hclean, hlines⟩ | ⟨line, b, rest, hsplit, hb, hclean, hlines⟩
  · rw [hlines] at h
    rcases firstLine_eq hentry hpieces hp hpart (List.prefix_refl _) hnonempty hclean with
      ⟨hne, hread⟩
    rcases readLines_cons hne h with ⟨entry', more, hentry', hmore, rfl⟩
    rcases hread (parse_of_validateJson hentry') with ⟨hstrip, hwhole⟩
    rw [hstrip, hwhole, validateJson_dumpJson pydantic hentry] at hentry'
    cases hentry'
    cases hmore
    rfl
  · exfalso
    rw [hlines] at h
    have hline : line ≠ [] := by
      rintro rfl
      rcases List.exists_cons_of_ne_nil hp with ⟨c, q, rfl⟩
      rw [← (List.cons.inj hsplit).left, head_of_dumpJson hpart] at hb
      revert hb
      decide
    have hfront : line <+: p ++ piecesText pieces := ⟨b :: rest, hsplit.symm⟩
    rcases firstLine_eq hentry hpieces hp hpart hfront hline hclean with ⟨hne, hread⟩
    rcases readLines_cons hne h with ⟨entry', more, hentry', _, _⟩
    exact firstLine_ne hp hpart hb hsplit
      (hread (parse_of_validateJson hentry')).left

end Piece

theorem readLines_lineOf {entry : LogEntry} (hentry : Written entry) {rest : List Char}
    {i : Nat} {read : List LogEntry}
    (h : readLines pydantic i (splitlines (TrustLog.lineOf entry ++ rest)) = Except.ok read) :
    exists more, readLines pydantic (i + 1) (splitlines rest) = Except.ok more ∧
      read = entry :: more := by
  rw [TrustLog.lineOf, List.append_assoc, List.singleton_append] at h
  by_cases hplain : Plain entry.data
  · rw [splitlines_line ((isLineBreak_dumpJson_iff hentry).mpr hplain) (by decide)
      (by decide)] at h
    have hne : strip entry.dumpJson ≠ [] := by
      rcases dumpJson_eq entry with ⟨body, hbody⟩
      rw [strip_dumpJson, hbody]
      exact List.cons_ne_nil _ _
    rcases readLines_cons hne h with ⟨entry', more, hentry', hmore, rfl⟩
    rw [strip_dumpJson, validateJson_dumpJson pydantic hentry] at hentry'
    cases hentry'
    exact ⟨more, hmore, rfl⟩
  · rcases broken_line hentry hplain with
      ⟨front, c, back, hsplit, hfront, hc, hcreturn, hclean⟩
    rw [hsplit, List.append_assoc, List.cons_append, splitlines_line hclean hc hcreturn] at h
    rcases readLines_broken pydantic hentry hfront (List.cons_ne_nil c back) hsplit i
      (splitlines (back ++ '\n' :: rest)) with ⟨error, herror⟩
    rw [herror] at h
    cases h

theorem readLines_pieces {pieces : List Piece}
    (hpieces : forall piece, piece ∈ pieces -> Written piece.entry) {i : Nat}
    {read : List LogEntry}
    (h : readLines pydantic i (splitlines (piecesText pieces)) = Except.ok read) :
    forall e, e ∈ read -> exists piece, piece ∈ pieces ∧ piece.entry = e := by
  have hreturn := return_not_mem_piecesText hpieces
  induction pieces generalizing i read with
  | nil =>
      cases h
      intro e he
      cases he
  | cons piece pieces ih =>
      have hpiece := hpieces piece List.mem_cons_self
      have hrest : forall p, p ∈ pieces -> Written p.entry :=
        fun p hp => hpieces p (List.mem_cons_of_mem piece hp)
      have hlater : forall {j : Nat} {more : List LogEntry},
          readLines pydantic j (splitlines (piecesText pieces)) = Except.ok more ->
            forall e, e ∈ more -> exists p, p ∈ piece :: pieces ∧ p.entry = e := by
        intro j more hmore e he
        rcases ih hrest hmore (return_not_mem_piecesText hrest) e he with ⟨p, hp, hentry⟩
        exact ⟨p, List.mem_cons_of_mem piece hp, hentry⟩
      have htext : piecesText (piece :: pieces) = piece.text ++ piecesText pieces :=
        List.flatMap_cons
      rw [htext] at h hreturn
      rcases piece_text_cases piece with hwhole | hpart
      · rw [hwhole] at h
        rcases readLines_lineOf hpiece h with ⟨more, hmore, rfl⟩
        intro e he
        rcases List.mem_cons.mp he with rfl | hin
        · exact ⟨piece, List.mem_cons_self, rfl⟩
        · exact hlater hmore e hin
      · by_cases hnil : piece.text = []
        · rw [hnil, List.nil_append] at h
          exact hlater h
        · rw [readLines_piece hpiece hrest hnil hpart hreturn h]
          intro e he
          exact ⟨piece, List.mem_cons_self, (List.mem_singleton.mp he).symm⟩

end Reading

section Loading

variable {P : LogEntry -> Prop} {keys : Keyring} {pydantic : Pydantic}

theorem Pieced.read {file : LogFile} (h : Pieced P (some file)) {entries : List LogEntry}
    (hread : readVerifiedEntries keys pydantic file = Except.ok entries) :
    forall e, e ∈ entries -> P e := by
  rcases h with ⟨pieces, htext, hpieces⟩
  have hwritten : forall piece, piece ∈ pieces -> Written piece.entry :=
    fun piece hpiece => (hpieces piece hpiece).left
  unfold readVerifiedEntries LogFile.readText at hread
  split at hread
  · cases hread
  rename_i raw hraw
  split at hraw
  · cases hraw
  have hnewlines : raw = piecesText pieces := by
    have hfile : file.text = piecesText pieces := htext
    have hreturn := return_not_mem_piecesText hwritten
    rw [← hfile] at hreturn ⊢
    rw [← Except.ok.inj hraw, universalNewlines_eq hreturn]
  rw [hnewlines] at hread
  split at hread
  · cases hread
  rename_i read hlines
  split at hread
  · cases hread
  cases hread
  intro e he
  rcases readLines_pieces hwritten hlines e he with ⟨piece, hpiece, rfl⟩
  exact (hpieces piece hpiece).right

theorem Pieced.load {file : Option LogFile} (h : Pieced P file) {mtime : Int}
    {log : TrustLog} (hload : TrustLog.new.load keys pydantic file mtime = Except.ok log) :
    forall e, e ∈ log.entries -> P e := by
  cases file with
  | none =>
      cases hload
      intro e he
      cases he
  | some file =>
      rw [TrustLog.load] at hload
      split at hload
      · cases hload
      · rename_i entries hread
        cases hload
        exact h.read hread

theorem Pieced.reloadIfChanged {file : Option LogFile} (h : Pieced P file)
    {mtime after : Int} {changed : Bool} {log log' : TrustLog}
    (hlog : forall e, e ∈ log.entries -> P e)
    (hreload : log.reloadIfChanged keys pydantic file mtime after =
      Except.ok (changed, log')) : forall e, e ∈ log'.entries -> P e := by
  unfold TrustLog.reloadIfChanged at hreload
  split at hreload
  · cases hreload
    exact hlog
  split at hreload
  · cases hreload
    exact hlog
  split at hreload
  · cases hreload
  · rename_i entries hread
    cases hreload
    exact h.read hread

end Loading

end Trust
end PanicMonitr
