import PanicMonitr.Trust.Log
import PanicMonitr.Foundation.JsonScan
import PanicMonitr.Foundation.Machine

/-!
# Writing the log and reading it back

Every line `append` writes is read back as its entry, and the chain it extends is
accepted, as long as no string of the data holds one of the three characters that
`str.splitlines` takes for a line break and the JSON text leaves as they are.
-/

namespace PanicMonitr
namespace Trust

open Foundation

/-- No string of the data holds a character that breaks its line. -/
def Plain (data : List (String × Json)) : Prop :=
  forall c, isWideBreak c = true -> ¬ Json.Mentions c (Json.obj data)

def AsciiText (s : String) : Prop :=
  forall c, c ∈ s.toList -> c.toNat < 128

theorem asciiText_of_all {s : String}
    (h : s.toList.all (fun c => decide (c.toNat < 128)) = true) : AsciiText s := by
  intro c hc
  exact of_decide_eq_true (List.all_eq_true.mp h c hc)

/-!
## Lines of entries
-/

/-- What `append` guarantees of an entry it writes. -/
structure Written (entry : LogEntry) : Prop where
  data : Json.Wf (Json.obj entry.data)
  type : AsciiText entry.type
  timestamp : AsciiText entry.timestamp
  prevHash : AsciiText entry.prevHash
  sig : AsciiText entry.sig

theorem Written.fields {entry : LogEntry} (h : Written entry) :
    Json.Wf (Json.obj entry.fields) :=
  have hkeys : ["seq", "type", "data", "timestamp", "prev_hash", "sig"].Nodup := by decide
  ⟨hkeys, trivial, trivial, h.data, trivial, trivial, trivial, trivial⟩

/-- Outside ASCII a line shows the strings of its data and nothing else. -/
theorem mem_dumpJson_iff {entry : LogEntry} (h : Written entry) {c : Char}
    (hc : 128 <= c.toNat) :
    c ∈ entry.dumpJson <-> Json.Mentions c (Json.obj entry.data) := by
  have hnot : forall s, AsciiText s -> ¬ c ∈ s.toList := by
    intro s hs hin
    have hlt := hs c hin
    omega
  have hkey : forall s : String, s.toList.all (fun d => decide (d.toNat < 128)) = true ->
      (c ∈ s.toList <-> False) := by
    intro s hs
    exact iff_of_false (hnot s (asciiText_of_all hs)) id
  have htext : forall s : String, AsciiText s -> (c ∈ s.toList <-> False) := by
    intro s hs
    exact iff_of_false (hnot s hs) id
  unfold LogEntry.dumpJson
  rw [Json.mem_print_iff hc (Json.obj entry.fields) h.fields]
  simp only [LogEntry.fields, Json.Mentions, Json.MentionsFields,
    hkey "seq" (by decide), hkey "type" (by decide), hkey "data" (by decide),
    hkey "timestamp" (by decide), hkey "prev_hash" (by decide), hkey "sig" (by decide),
    htext _ h.type, htext _ h.timestamp, htext _ h.prevHash, htext _ h.sig, false_or,
    or_false]

theorem le_of_mem_dumpJson {entry : LogEntry} (h : Written entry) {c : Char}
    (hc : c ∈ entry.dumpJson) : 32 <= c.toNat :=
  Json.le_of_mem_print (Json.obj entry.fields) h.fields hc

theorem isLineBreak_dumpJson_iff {entry : LogEntry} (h : Written entry) :
    (forall c, c ∈ entry.dumpJson -> isLineBreak c = false) <-> Plain entry.data := by
  constructor
  · intro hline c hc hin
    rcases isLineBreak_of_isWideBreak hc with ⟨hbreak, _, hwide⟩
    have hnot := hline c ((mem_dumpJson_iff h hwide).mpr hin)
    rw [hbreak] at hnot
    cases hnot
  · intro hplain c hc
    cases hbreak : isLineBreak c with
    | false => rfl
    | true =>
        have hwide := isWideBreak_of_isLineBreak hbreak (le_of_mem_dumpJson h hc)
        rcases isLineBreak_of_isWideBreak hwide with ⟨_, _, hge⟩
        exact absurd ((mem_dumpJson_iff h hge).mp hc) (hplain c hwide)

theorem dumpJson_eq (entry : LogEntry) :
    exists body, entry.dumpJson = '{' :: (body ++ ['}']) :=
  ⟨_, rfl⟩

/-- A line that is not plain shows its first break after its opening brace. -/
theorem broken_line {entry : LogEntry} (h : Written entry) (hplain : ¬ Plain entry.data) :
    exists front c back, entry.dumpJson = front ++ c :: back ∧ front ≠ [] ∧
      isLineBreak c = true ∧ c ≠ '\r' ∧ forall d, d ∈ front -> isLineBreak d = false := by
  have hline : exists c, c ∈ entry.dumpJson ∧ isLineBreak c = true := by
    by_contra hnone
    apply hplain
    apply (isLineBreak_dumpJson_iff h).mp
    intro c hc
    cases hbreak : isLineBreak c with
    | false => rfl
    | true => exact absurd ⟨c, hc, hbreak⟩ hnone
  rcases exists_first hline with ⟨front, c, back, hsplit, hc, hfront⟩
  have hin : c ∈ entry.dumpJson := by
    rw [hsplit]
    exact List.mem_append_right _ (List.mem_cons_self ..)
  refine ⟨front, c, back, hsplit, ?_, hc, ?_, fun d hd => Bool.eq_false_iff.mpr (hfront d hd)⟩
  · intro hnil
    rcases dumpJson_eq entry with ⟨body, hbody⟩
    rw [hbody, hnil, List.nil_append] at hsplit
    rw [← (List.cons.inj hsplit).left] at hc
    revert hc
    decide
  · intro heq
    have hle := le_of_mem_dumpJson h hin
    rw [heq] at hle
    revert hle
    decide

theorem strip_dumpJson (entry : LogEntry) : strip entry.dumpJson = entry.dumpJson := by
  rcases dumpJson_eq entry with ⟨body, hbody⟩
  rw [hbody]
  exact strip_eq_self (by decide) (by decide)

theorem validateJson_dumpJson (pydantic : Pydantic) {entry : LogEntry}
    (h : Written entry) : pydantic.validateJson entry.dumpJson = some entry := by
  unfold Pydantic.validateJson LogEntry.dumpJson
  rw [Json.parse_print h.fields]
  rfl

/-!
## Reading lines
-/

section Reading

variable (pydantic : Pydantic)

theorem readLines_dumpJson {entries : List LogEntry}
    (hwritten : forall e, e ∈ entries -> Written e) (i : Nat) (rest : List (List Char)) :
    readLines pydantic i (entries.map LogEntry.dumpJson ++ rest) =
      (readLines pydantic (i + entries.length) rest).map (fun more => entries ++ more) := by
  induction entries generalizing i with
  | nil =>
      rw [List.map_nil, List.nil_append, List.length_nil]
      cases readLines pydantic (i + 0) rest with
      | error e => rfl
      | ok more => rfl
  | cons entry entries ih =>
      have hentry := hwritten entry (List.mem_cons_self ..)
      have hne : entry.dumpJson ≠ [] := by
        rcases dumpJson_eq entry with ⟨body, hbody⟩
        rw [hbody]
        exact List.cons_ne_nil _ _
      have hrest := ih (fun e he => hwritten e (List.mem_cons_of_mem entry he)) (i + 1)
      rw [List.map_cons, List.cons_append, readLines, strip_dumpJson, if_neg hne,
        validateJson_dumpJson pydantic hentry, hrest, List.length_cons,
        show i + (entries.length + 1) = i + 1 + entries.length by omega]
      cases readLines pydantic (i + 1 + entries.length) rest with
      | error e => rfl
      | ok more => rfl

theorem readLines_broken {entry : LogEntry} (h : Written entry) {front back : List Char}
    (hfront : front ≠ []) (hback : back ≠ []) (hline : entry.dumpJson = front ++ back)
    (i : Nat) (rest : List (List Char)) :
    exists e, readLines pydantic i (front :: rest) = Except.error e := by
  cases front with
  | nil => exact absurd rfl hfront
  | cons c cs =>
      have hc : c = '{' := by
        rcases dumpJson_eq entry with ⟨body, hbody⟩
        rw [hbody, List.cons_append] at hline
        exact (List.cons.inj hline).left.symm
      have hspace : isSpace c = false := by
        rw [hc]
        decide
      rcases strip_prefix hspace cs with ⟨⟨cut, hcut⟩, hne⟩
      have hnone : Json.parse (strip (c :: cs)) = none := by
        apply Json.parse_cut_eq_none h.fields (t := cut ++ back) hne
        · intro hnil
          exact hback (List.append_eq_nil_iff.mp hnil).right
        · show entry.dumpJson = _
          rw [hline, ← List.append_assoc, hcut]
      rw [readLines, if_neg hne, Pydantic.validateJson, hnone]
      exact ⟨_, rfl⟩

end Reading

/-!
## Linking entries
-/

section Chain

variable (keys : Keyring)

/-- The sequence number and hash the entry after these must carry on from. -/
def chainHead (start : Int × String) (entries : List LogEntry) : Int × String :=
  match entries.getLast? with
  | none => start
  | some last => (last.seq, entryHash keys last)

theorem head_eq_chainHead (log : TrustLog) :
    log.head keys = chainHead keys (-1, ZERO_HASH) log.entries :=
  rfl

theorem chainHead_cons (start : Int × String) (entry : LogEntry) (entries : List LogEntry) :
    chainHead keys start (entry :: entries) =
      chainHead keys (entry.seq, entryHash keys entry) entries := by
  unfold chainHead
  rw [List.getLast?_cons]
  cases entries.getLast? with
  | none => rfl
  | some last => rfl

theorem verifyFrom_snoc (start : Int × String) {entries : List LogEntry}
    {entry : LogEntry}
    (hchain : verifyFrom keys start.1 start.2 entries = Except.ok ())
    (hentry : verifyEntry keys (chainHead keys start entries).1
      (chainHead keys start entries).2 entry = Except.ok ()) :
    verifyFrom keys start.1 start.2 (entries ++ [entry]) = Except.ok () := by
  induction entries generalizing start with
  | nil =>
      rw [List.nil_append, verifyFrom]
      rw [show verifyEntry keys start.1 start.2 entry = Except.ok () from hentry]
      rfl
  | cons first entries ih =>
      rw [chainHead_cons] at hentry
      rw [verifyFrom] at hchain
      rw [List.cons_append, verifyFrom]
      cases hfirst : verifyEntry keys start.1 start.2 first with
      | error e =>
          rw [hfirst] at hchain
          cases hchain
      | ok _ =>
          rw [hfirst] at hchain
          exact ih (first.seq, entryHash keys first) hchain hentry

variable {keys}

/-- The entry `append` makes carries the chain on. -/
theorem verifyEntry_nextEntry {sign : String -> List UInt8} (hsign : sign ∈ keys.signingKey)
    {type : String} (htype : type ∈ OP_TYPES) (data : List (String × Json)) (now : Datetime)
    (log : TrustLog) :
    verifyEntry keys (log.head keys).1 (log.head keys).2
      (log.nextEntry keys sign type data now) = Except.ok () := by
  have hseq : (log.nextEntry keys sign type data now).seq = (log.head keys).1 + 1 := rfl
  have hprev : (log.nextEntry keys sign type data now).prevHash = (log.head keys).2 := rfl
  have hop : (log.nextEntry keys sign type data now).type ∈ OP_TYPES := htype
  rw [verifyEntry, if_neg (fun h => h hseq), if_neg (fun h => h hprev),
    if_neg (fun h => h hop), verifySig]
  cases hverify : keys.ownVerifyKey with
  | none => rfl
  | some verify =>
      unfold Keyring.ownVerifyKey at hverify
      split at hverify
      · cases hverify
      · rcases Option.bind_eq_some_iff.mp hverify with ⟨key, hkey, hcheck⟩
        have haccept := keys.accepts sign hsign key hkey verify hcheck
          (log.nextEntry keys sign type data now).payload
        have hsig : fromhex (log.nextEntry keys sign type data now).sig =
            some (sign (log.nextEntry keys sign type data now).payload) :=
          fromhex_hex _
        rw [hsig]
        simp only
        rw [haccept]

end Chain

/-!
## What is stored
-/

def fileText : Option LogFile -> List Char
  | none => []
  | some file => file.text

def fileTorn : Option LogFile -> Bool
  | none => false
  | some file => file.torn

@[simp] theorem fileText_extend (file : Option LogFile) (text : List Char) (torn : Bool) :
    fileText (LogFile.extend file text torn) = fileText file ++ text := by
  cases file with
  | none => rfl
  | some file => rfl

@[simp] theorem fileTorn_extend (file : Option LogFile) (text : List Char) (torn : Bool) :
    fileTorn (LogFile.extend file text torn) = (fileTorn file || torn) := by
  cases file with
  | none => rfl
  | some file => rfl

/-- The file holds these entries, line by line. -/
structure Lines (entries : List LogEntry) (file : Option LogFile) : Prop where
  text : fileText file = unlines (entries.map LogEntry.dumpJson)
  whole : fileTorn file = false
  written : forall e, e ∈ entries -> Written e

theorem dumpJson_injective {e e' : LogEntry} (h : Written e) (h' : Written e')
    (hdump : e.dumpJson = e'.dumpJson) : e = e' := by
  have hfields := Json.obj.inj (Json.print_injective h.fields h'.fields hdump)
  cases e
  cases e'
  simpa [LogEntry.fields] using hfields

theorem Lines.unique {entries entries' : List LogEntry} {file : Option LogFile}
    (h : Lines entries file) (h' : Lines entries' file) : entries = entries' := by
  have hnewline : forall {list : List LogEntry}, (forall e, e ∈ list -> Written e) ->
      forall line, line ∈ list.map LogEntry.dumpJson -> '\n' ∉ line := by
    intro list hwritten line hline hc
    rcases List.mem_map.mp hline with ⟨e, he, rfl⟩
    have hle := le_of_mem_dumpJson (hwritten e he) hc
    revert hle
    decide
  have hmap := unlines_injective (hnewline h.written) (hnewline h'.written)
    (h.text.symm.trans h'.text)
  have hlength : entries.length = entries'.length := by
    have hcount := congrArg List.length hmap
    rw [List.length_map, List.length_map] at hcount
    exact hcount
  apply List.ext_getElem hlength
  intro i hi hi'
  apply dumpJson_injective (h.written _ (List.getElem_mem hi))
    (h'.written _ (List.getElem_mem hi'))
  have hget : (entries.map LogEntry.dumpJson)[i]? = (entries'.map LogEntry.dumpJson)[i]? := by
    rw [hmap]
  rw [List.getElem?_map, List.getElem?_map, List.getElem?_eq_getElem hi,
    List.getElem?_eq_getElem hi'] at hget
  exact Option.some.inj hget

/-- The entries in the file form a chain. -/
structure Stored (keys : Keyring) (entries : List LogEntry) (file : Option LogFile) : Prop
    extends Lines entries file where
  chain : verifyChain keys entries = Except.ok ()

section Stored

variable {keys : Keyring} (pydantic : Pydantic)

theorem lines_empty {file : Option LogFile} (htext : fileText file = [])
    (hwhole : fileTorn file = false) : Lines [] file := by
  constructor
  · exact htext
  · exact hwhole
  · intro e he
    cases he

theorem stored_empty {file : Option LogFile} (htext : fileText file = [])
    (hwhole : fileTorn file = false) : Stored keys [] file :=
  ⟨lines_empty htext hwhole, rfl⟩

theorem Stored.sameBytes {entries : List LogEntry} {file file' : Option LogFile}
    (h : Stored keys entries file) (htext : fileText file' = fileText file)
    (htorn : fileTorn file' = fileTorn file) : Stored keys entries file' := by
  constructor
  · constructor
    · rw [htext, h.text]
    · rw [htorn, h.whole]
    · exact h.written
  · exact h.chain

theorem asciiText_hex (bytes : List UInt8) : AsciiText (hex bytes) := by
  intro c hc
  have hval := hexVal_isSome_of_mem_hex hc
  unfold hexVal at hval
  split at hval
  · rename_i h
    have hle : c.toNat <= '9'.toNat := h.right
    have h9 : '9'.toNat = 57 := rfl
    omega
  · split at hval
    · rename_i h
      have hle : c.toNat <= 'f'.toNat := h.right
      have hf : 'f'.toNat = 102 := rfl
      omega
    · split at hval
      · rename_i h
        have hle : c.toNat <= 'F'.toNat := h.right
        have hF : 'F'.toNat = 70 := rfl
        omega
      · cases hval

theorem asciiText_isoformat (now : Datetime) : AsciiText (isoformat now) := by
  intro c hc
  rw [isoformat, String.toList_ofList] at hc
  rcases isoformatChars_ascii hc with (hdigit | hcolon | hdot) | hdash | hT | hplus
  · exact (Json.isNumberChar_range (Json.isNumberChar_of_isDigit hdigit)).right
  · rw [hcolon]
    decide
  · rw [hdot]
    decide
  · rw [hdash]
    decide
  · rw [hT]
    decide
  · rw [hplus]
    decide

theorem asciiText_op {type : String} (htype : type ∈ OP_TYPES) : AsciiText type := by
  have hall : OP_TYPES.all (fun type => type.toList.all (fun c => decide (c.toNat < 128))) =
      true := by decide
  exact asciiText_of_all (List.all_eq_true.mp hall type htype)

theorem asciiText_head (log : TrustLog) : AsciiText (log.head keys).2 := by
  unfold TrustLog.head
  split
  · show AsciiText ZERO_HASH
    apply asciiText_of_all
    decide
  · exact asciiText_hex _

theorem written_nextEntry {sign : String -> List UInt8} {type : String}
    (htype : type ∈ OP_TYPES) {data : List (String × Json)}
    (hdata : Json.Wf (Json.obj data)) (now : Datetime) (log : TrustLog) :
    Written (log.nextEntry keys sign type data now) := by
  constructor
  · exact hdata
  · exact asciiText_op htype
  · exact asciiText_isoformat now
  · exact asciiText_head log
  · exact asciiText_hex _

theorem Lines.snoc {entries : List LogEntry} {file : Option LogFile}
    (h : Lines entries file) {entry : LogEntry} (hentry : Written entry) :
    Lines (entries ++ [entry]) (LogFile.extend file (TrustLog.lineOf entry) false) := by
  constructor
  · rw [fileText_extend, h.text, List.map_append, unlines_append, List.map_singleton,
      unlines_singleton]
    rfl
  · rw [fileTorn_extend, h.whole]
    rfl
  · intro e he
    rcases List.mem_append.mp he with hold | hnew
    · exact h.written e hold
    · rw [List.mem_singleton.mp hnew]
      exact hentry

/-- A whole line with the next entry keeps the file and the memory together. -/
theorem Stored.snoc {log : TrustLog} {file : Option LogFile}
    (h : Stored keys log.entries file) {sign : String -> List UInt8}
    (hsign : sign ∈ keys.signingKey) {type : String} (htype : type ∈ OP_TYPES)
    {data : List (String × Json)} (hdata : Json.Wf (Json.obj data)) (now : Datetime) :
    Stored keys (log.entries ++ [log.nextEntry keys sign type data now])
      (LogFile.extend file (TrustLog.lineOf (log.nextEntry keys sign type data now)) false) := by
  constructor
  · exact h.toLines.snoc (written_nextEntry htype hdata now log)
  · exact verifyFrom_snoc keys (-1, ZERO_HASH) h.chain
      (verifyEntry_nextEntry hsign htype data now log)

theorem Lines.readText {entries : List LogEntry} {file : LogFile}
    (h : Lines entries (some file)) :
    file.readText = Except.ok (unlines (entries.map LogEntry.dumpJson)) := by
  have htext : file.text = unlines (entries.map LogEntry.dumpJson) := h.text
  have hreturn : '\r' ∉ file.text := by
    rw [htext, unlines]
    intro hin
    rcases List.mem_flatMap.mp hin with ⟨line, hline, hc⟩
    rcases List.mem_map.mp hline with ⟨e, he, rfl⟩
    rcases List.mem_append.mp hc with hc | hc
    · have hle := le_of_mem_dumpJson (h.written e he) hc
      revert hle
      decide
    · revert hc
      decide
  rw [LogFile.readText, show file.torn = false from h.whole, if_neg Bool.false_ne_true,
    universalNewlines_eq hreturn, htext]

theorem Lines.entries_eq_nil {entries : List LogEntry} {file : Option LogFile}
    (h : Lines entries file) (htext : fileText file = []) : entries = [] := by
  cases entries with
  | nil => rfl
  | cons e entries =>
      rcases dumpJson_eq e with ⟨body, hbody⟩
      have hcons := h.text
      rw [htext, List.map_cons, hbody] at hcons
      cases hcons

/-- Plain lines are read back as their entries, before the chain is checked. -/
theorem Lines.read_plain {entries : List LogEntry} {file : LogFile}
    (h : Lines entries (some file)) (hplain : forall e, e ∈ entries -> Plain e.data) :
    readVerifiedEntries keys pydantic file =
      (verifyChain keys entries).map (fun _ => entries) := by
  have hlines : forall line, line ∈ entries.map LogEntry.dumpJson ->
      forall c, c ∈ line -> isLineBreak c = false := by
    intro line hline
    rcases List.mem_map.mp hline with ⟨e, he, rfl⟩
    exact (isLineBreak_dumpJson_iff (h.written e he)).mpr (hplain e he)
  have hread : readLines pydantic 0 (entries.map LogEntry.dumpJson) = Except.ok entries := by
    have hall := readLines_dumpJson pydantic h.written 0 []
    rw [List.append_nil] at hall
    rw [hall, readLines, Except.map, List.append_nil]
  unfold readVerifiedEntries
  rw [h.readText]
  simp only
  rw [splitlines_unlines hlines, hread]
  simp only
  cases verifyChain keys entries with
  | error e => rfl
  | ok _ => rfl

theorem Lines.load_refused {entries : List LogEntry} {file : Option LogFile}
    (h : Lines entries file) (hplain : forall e, e ∈ entries -> Plain e.data)
    {error : PyError} (hchain : verifyChain keys entries = Except.error error)
    (mtime : Int) : TrustLog.new.load keys pydantic file mtime = Except.error error := by
  cases file with
  | none =>
      rw [h.entries_eq_nil rfl] at hchain
      cases hchain
  | some file =>
      rw [TrustLog.load, h.read_plain pydantic hplain, hchain]
      rfl

theorem Stored.load_plain {entries : List LogEntry} {file : Option LogFile}
    (h : Stored keys entries file) (hplain : forall e, e ∈ entries -> Plain e.data)
    (mtime : Int) :
    exists fresh, TrustLog.new.load keys pydantic file mtime = Except.ok fresh ∧
      fresh.entries = entries ∧ fresh.monitorTail = TrustLog.monitorTailFrom entries := by
  cases file with
  | none =>
      have hnil := h.entries_eq_nil rfl
      refine ⟨TrustLog.new, rfl, ?_, ?_⟩
      · rw [hnil]
        rfl
      · rw [hnil]
        rfl
  | some file =>
      refine ⟨TrustLog.mk entries mtime (TrustLog.monitorTailFrom entries), ?_, rfl, rfl⟩
      rw [TrustLog.load, h.read_plain pydantic hplain, h.chain]
      rfl

theorem Stored.load_broken {entries : List LogEntry} {file : Option LogFile}
    (h : Stored keys entries file) (hbroken : exists e, e ∈ entries ∧ ¬ Plain e.data)
    (mtime : Int) :
    exists e, TrustLog.new.load keys pydantic file mtime = Except.error e := by
  rcases exists_first hbroken with ⟨before, entry, after, hentries, hentry, hbefore⟩
  have hmem : forall e, e ∈ before ∨ e = entry -> e ∈ entries := by
    intro e he
    rw [hentries]
    rcases he with he | he
    · exact List.mem_append_left _ he
    · rw [he]
      exact List.mem_append_right _ (List.mem_cons_self ..)
  have hwritten := h.written entry (hmem entry (Or.inr rfl))
  cases file with
  | none =>
      have hnil := h.entries_eq_nil rfl
      rw [hnil] at hmem
      exact absurd (hmem entry (Or.inr rfl)) List.not_mem_nil
  | some file =>
      rcases broken_line hwritten hentry with
        ⟨front, c, back, hsplit, hfront, hc, hreturn, hclean⟩
      have hlines : forall line, line ∈ before.map LogEntry.dumpJson ->
          forall d, d ∈ line -> isLineBreak d = false := by
        intro line hin
        rcases List.mem_map.mp hin with ⟨e, he, rfl⟩
        exact (isLineBreak_dumpJson_iff (h.written e (hmem e (Or.inl he)))).mpr
          (Classical.not_not.mp (hbefore e he))
      have hrest : exists rest, splitlines (unlines (entries.map LogEntry.dumpJson)) =
          before.map LogEntry.dumpJson ++ front :: rest := by
        refine ⟨splitlines (back ++ '\n' :: unlines (after.map LogEntry.dumpJson)), ?_⟩
        rw [hentries, List.map_append, List.map_cons, unlines_append,
          splitlines_unlines_append hlines, unlines, List.flatMap_cons, ← unlines, hsplit]
        simp only [List.append_assoc, List.cons_append, List.nil_append]
        rw [splitlines_line hclean hc hreturn]
      rcases hrest with ⟨rest, hrest⟩
      rcases readLines_broken pydantic hwritten hfront (List.cons_ne_nil c back) hsplit
        (0 + before.length) rest with ⟨error, herror⟩
      refine ⟨error, ?_⟩
      unfold TrustLog.load readVerifiedEntries
      simp only
      rw [h.readText]
      simp only
      rw [hrest, readLines_dumpJson pydantic
        (fun e he => h.written e (hmem e (Or.inl he))), herror]
      rfl

theorem Stored.read_eq {pydantic : Pydantic} {entries read : List LogEntry} {file : LogFile}
    (h : Stored keys entries (some file))
    (hread : readVerifiedEntries keys pydantic file = Except.ok read) : read = entries := by
  have hload : TrustLog.new.load keys pydantic (some file) 0 =
      Except.ok { entries := read, lastMtime := 0,
                  monitorTail := TrustLog.monitorTailFrom read } := by
    rw [TrustLog.load, hread]
  by_cases hplain : forall e, e ∈ entries -> Plain e.data
  · rcases h.load_plain pydantic hplain 0 with ⟨fresh, hfresh, hentries, _⟩
    rw [hload] at hfresh
    cases hfresh
    exact hentries
  · push Not at hplain
    rcases h.load_broken pydantic hplain 0 with ⟨e, herror⟩
    rw [hload] at herror
    cases herror

end Stored

/-!
## Runs of appends
-/

/-- A call of `append`, the clock reading it takes and the file time it leaves. -/
structure Call where
  type : String
  data : List (String × Json)
  now : Datetime
  mtime : Int
  hdata : Json.Wf (Json.obj data)

/-- A log and the file it writes to. -/
structure LogWorld where
  log : TrustLog
  file : Option LogFile

def Call.run (keys : Keyring) (call : Call) (w : LogWorld) :
    TrustLog × Option LogFile × Answer LogEntry :=
  w.log.append keys call.type call.data call.now (Writing.complete call.mtime) w.file

/-- Calls of `append` one after the other, from an empty file. -/
def writer (keys : Keyring) : Machine LogWorld Call where
  start w := w.log = TrustLog.new ∧ fileText w.file = [] ∧ fileTorn w.file = false
  step w call :=
    { log := (call.run keys w).1
      file := (call.run keys w).2.1 }

def Returns (keys : Keyring) (w : LogWorld) (call : Call) : Prop :=
  exists entry, (call.run keys w).2.2 = Answer.returned entry

theorem Returns.run {keys : Keyring} {w : LogWorld} {call : Call}
    (h : Returns keys w call) :
    exists sign, sign ∈ keys.signingKey ∧ call.type ∈ OP_TYPES ∧
      ((writer keys).step w call).log.entries =
        w.log.entries ++ [w.log.nextEntry keys sign call.type call.data call.now] ∧
      ((writer keys).step w call).file = LogFile.extend w.file
        (TrustLog.lineOf (w.log.nextEntry keys sign call.type call.data call.now)) false := by
  rcases h with ⟨entry, hreturn⟩
  rcases TrustLog.append_cases keys call.type call.data call.now
    (Writing.complete call.mtime) w.log w.file with ⟨_, e, hcall⟩ | ⟨sign, hsign, htype, hcall⟩
  · rw [Call.run, hcall] at hreturn
    cases hreturn
  · refine ⟨sign, hsign, htype, ?_, ?_⟩
    · show (call.run keys w).1.entries = _
      rw [Call.run, hcall]
      rfl
    · show (call.run keys w).2.1 = _
      rw [Call.run, hcall]
      rfl

theorem exec_stored {keys : Keyring} {w : LogWorld}
    (hstored : Stored keys w.log.entries w.file) (calls : List Call)
    (hreturn : (writer keys).Guarded (Returns keys) w calls) :
    Stored keys ((writer keys).exec w calls).log.entries ((writer keys).exec w calls).file ∧
      ((writer keys).exec w calls).log.entries.map LogEntry.data =
        w.log.entries.map LogEntry.data ++ calls.map Call.data := by
  induction calls generalizing w with
  | nil => exact ⟨hstored, by rw [List.map_nil, List.append_nil]; rfl⟩
  | cons call calls ih =>
      rcases hreturn with ⟨hfirst, hrest⟩
      rcases hfirst.run with ⟨sign, hsign, htype, hentries, hfile⟩
      have hnext := hstored.snoc hsign htype call.hdata call.now
      rw [← hentries, ← hfile] at hnext
      rcases ih hnext hrest with ⟨hafter, hdata⟩
      refine ⟨hafter, ?_⟩
      rw [Machine.exec, hdata, hentries, List.map_append, List.append_assoc]
      rfl

/-!
## Main result

What a sequence of appends wrote is read back entry by entry if and only if all of its
data is plain.
-/

theorem log_round_trip (keys : Keyring) (pydantic : Pydantic) {w : LogWorld}
    (hstart : (writer keys).start w) (calls : List Call)
    (hreturn : (writer keys).Guarded (Returns keys) w calls) (mtime : Int) :
    (exists fresh,
      TrustLog.new.load keys pydantic ((writer keys).exec w calls).file mtime =
        Except.ok fresh ∧
      fresh.entries = ((writer keys).exec w calls).log.entries) <->
      forall call, call ∈ calls -> Plain call.data := by
  rcases hstart with ⟨hnew, htext, hwhole⟩
  have hempty : Stored keys w.log.entries w.file := by
    rw [hnew]
    exact stored_empty htext hwhole
  rcases exec_stored hempty calls hreturn with ⟨hstored, hdata⟩
  rw [hnew] at hdata
  have hplain : (forall e, e ∈ ((writer keys).exec w calls).log.entries -> Plain e.data) <->
      forall call, call ∈ calls -> Plain call.data := by
    calc (forall e, e ∈ ((writer keys).exec w calls).log.entries -> Plain e.data)
        <-> forall data, data ∈ ((writer keys).exec w calls).log.entries.map LogEntry.data ->
          Plain data := List.forall_mem_map.symm
      _ <-> forall data, data ∈ calls.map Call.data -> Plain data := by
          rw [hdata]
          rfl
      _ <-> forall call, call ∈ calls -> Plain call.data := List.forall_mem_map
  rw [← hplain]
  constructor
  · intro hload e he
    by_contra hbroken
    rcases hload with ⟨fresh, hfresh, _⟩
    rcases hstored.load_broken pydantic ⟨e, he, hbroken⟩ mtime with ⟨error, herror⟩
    rw [hfresh] at herror
    cases herror
  · intro hall
    rcases hstored.load_plain pydantic hall mtime with ⟨fresh, hfresh, hentries, _⟩
    exact ⟨fresh, hfresh, hentries⟩

def strictPydantic : Pydantic where
  intOfFloat := fun _ => none
  intOfStr := fun _ => none
  errorText := fun _ => "Invalid JSON"

def noon : Datetime where
  year := 2026
  month := 3
  day := 1
  hour := 12
  minute := 0
  second := 0
  microsecond := 0
  utcoffset := some 19800000000
  hyear := by decide
  hmonth := by decide
  hday := by decide
  htime := by decide
  hoffset := offset_ist

/-- `add_peer` of a peer with this alias. -/
def aliasCall (text : String) : Call where
  type := OP_ADD_PEER
  data := [("node_id", Json.str "n"), ("alias", Json.str text)]
  now := noon
  mtime := 1
  hdata :=
    have hkeys : ["node_id", "alias"].Nodup := by decide
    ⟨hkeys, trivial, trivial, trivial⟩

def emptyWorld : LogWorld where
  log := TrustLog.new
  file := none

theorem plain_aliasCall {text : String} (h : text.toList.any isWideBreak = false) :
    Plain (aliasCall text).data := by
  have hnames : ("node_id" ++ "n" ++ "alias").toList.any isWideBreak = false := by decide
  have hall : forall c, c ∈ ("node_id" ++ "n" ++ "alias" ++ text).toList ->
      isWideBreak c = false := by
    intro c hc
    apply Bool.eq_false_of_not_eq_true
    apply List.any_eq_false.mp _ c hc
    rw [String.toList_append, List.any_append, hnames, h]
    rfl
  intro c hwide hmentions
  have hin : c ∈ ("node_id" ++ "n" ++ "alias" ++ text).toList := by
    simp only [String.toList_append, List.mem_append]
    rcases hmentions with hkey | hn | hkey' | htext | hnone
    · exact Or.inl (Or.inl (Or.inl hkey))
    · exact Or.inl (Or.inl (Or.inr hn))
    · exact Or.inl (Or.inr hkey')
    · exact Or.inr htext
    · exact hnone.elim
  rw [hall c hin] at hwide
  cases hwide

/-- Three appends, with a letter outside ASCII and a newline among the texts. -/
theorem log_round_trip_alias :
    let calls := [aliasCall "élan\n", aliasCall "Pi", aliasCall ""]
    let w := (writer checksumKeys).exec emptyWorld calls
    w.log.entries.length = 3 ∧
      exists fresh, TrustLog.new.load checksumKeys strictPydantic w.file 2 = Except.ok fresh ∧
        fresh.entries = w.log.entries := by
  have hreturn : (writer checksumKeys).Guarded (Returns checksumKeys) emptyWorld
      [aliasCall "élan\n", aliasCall "Pi", aliasCall ""] :=
    ⟨⟨_, rfl⟩, ⟨_, rfl⟩, ⟨_, rfl⟩, trivial⟩
  have hplain : forall call, call ∈ [aliasCall "élan\n", aliasCall "Pi", aliasCall ""] ->
      Plain call.data := by
    simp only [List.forall_mem_cons]
    exact ⟨plain_aliasCall (by decide), plain_aliasCall (by decide),
      plain_aliasCall (by decide), fun _ hnone => by cases hnone⟩
  exact ⟨rfl, (log_round_trip checksumKeys strictPydantic ⟨rfl, rfl, rfl⟩ _ hreturn 2).mpr
    hplain⟩

/-- A line separator in an alias: every append returned, and the file cannot be loaded. -/
theorem log_round_trip_separator :
    (writer checksumKeys).Guarded (Returns checksumKeys) emptyWorld
      [aliasCall "Pi", aliasCall "a\u2028b"] ∧
    ¬ exists fresh,
      TrustLog.new.load checksumKeys strictPydantic
        ((writer checksumKeys).exec emptyWorld
          [aliasCall "Pi", aliasCall "a\u2028b"]).file 2 = Except.ok fresh ∧
      fresh.entries = ((writer checksumKeys).exec emptyWorld
        [aliasCall "Pi", aliasCall "a\u2028b"]).log.entries := by
  have hreturn : (writer checksumKeys).Guarded (Returns checksumKeys) emptyWorld
      [aliasCall "Pi", aliasCall "a\u2028b"] :=
    ⟨⟨_, rfl⟩, ⟨_, rfl⟩, trivial⟩
  refine ⟨hreturn, ?_⟩
  intro hload
  rcases hload with ⟨fresh, hfresh, _⟩
  have hempty : Stored checksumKeys emptyWorld.log.entries emptyWorld.file :=
    stored_empty rfl rfl
  rcases exec_stored hempty _ hreturn with ⟨hstored, hdata⟩
  have hlast : (aliasCall "a\u2028b").data ∈ ((writer checksumKeys).exec emptyWorld
      [aliasCall "Pi", aliasCall "a\u2028b"]).log.entries.map LogEntry.data := by
    rw [hdata]
    exact List.mem_cons_of_mem _ (List.mem_cons_self ..)
  rcases List.mem_map.mp hlast with ⟨e, he, hedata⟩
  have hbroken : ¬ Plain e.data := by
    rw [hedata]
    intro hplain
    have hin : '\u2028' ∈ "a\u2028b".toList := by decide
    exact hplain '\u2028' (by decide) (Or.inr (Or.inr (Or.inr (Or.inl hin))))
  rcases hstored.load_broken strictPydantic ⟨e, he, hbroken⟩ 2 with ⟨error, herror⟩
  rw [hfresh] at herror
  cases herror

end Trust
end PanicMonitr
