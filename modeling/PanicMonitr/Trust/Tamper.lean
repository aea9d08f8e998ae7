import PanicMonitr.Trust.RoundTrip
import PanicMonitr.Trust.Entries
import PanicMonitr.Foundation.Chain

/-!
# What the last hash fixes

The hash of an entry covers its signed text and its signature, one behind the other.  The
text ends in a brace and no signature that is read as bytes has one, so that the two can be
told apart, and the hash of the last entry fixes all the entries before it.
-/

namespace PanicMonitr
namespace Trust

open Foundation

/-!
## Signed texts
-/

/-- The same signed content; data is compared as JSON, where the order of keys is nothing. -/
structure SameContent (a b : LogEntry) : Prop where
  seq : a.seq = b.seq
  type : a.type = b.type
  data : Json.sortKeys (Json.obj a.data) = Json.sortKeys (Json.obj b.data)
  timestamp : a.timestamp = b.timestamp
  prevHash : a.prevHash = b.prevHash

structure SameEntry (a b : LogEntry) : Prop extends SameContent a b where
  sig : a.sig = b.sig

/-- The fields of an entry that are signed. -/
def LogEntry.signedFields (entry : LogEntry) : List (String × Json) :=
  [("seq", Json.int entry.seq), ("type", Json.str entry.type), ("data", Json.obj entry.data),
    ("timestamp", Json.str entry.timestamp), ("prev_hash", Json.str entry.prevHash)]

theorem keys_signedFields (entry : LogEntry) :
    (Assoc.keys entry.signedFields).Nodup := by
  have hkeys : ["seq", "type", "data", "timestamp", "prev_hash"].Nodup := by decide
  exact hkeys

theorem wf_signedFields {entry : LogEntry} (h : Json.Wf (Json.obj entry.data)) :
    Json.Wf (Json.obj entry.signedFields) :=
  ⟨keys_signedFields entry, trivial, trivial, h, trivial, trivial, trivial⟩

theorem sameContent_of_payload {a b : LogEntry} (ha : Json.Wf (Json.obj a.data))
    (hb : Json.Wf (Json.obj b.data)) (h : a.payload = b.payload) : SameContent a b := by
  have htext : Json.print (Json.sortKeys (Json.obj a.signedFields)) =
      Json.print (Json.sortKeys (Json.obj b.signedFields)) := String.ofList_injective h
  have hsorted := Json.print_injective (Json.wf_sortKeys _ (wf_signedFields ha))
    (Json.wf_sortKeys _ (wf_signedFields hb)) htext
  have hfield : forall {k v v'}, (k, v) ∈ a.signedFields -> (k, v') ∈ b.signedFields ->
      Json.sortKeys v = Json.sortKeys v' :=
    fun hv hv' => Json.sorted_field hsorted (keys_signedFields b) hv hv'
  have hin : forall e : LogEntry, ("seq", Json.int e.seq) ∈ e.signedFields ∧
      ("type", Json.str e.type) ∈ e.signedFields ∧
      ("data", Json.obj e.data) ∈ e.signedFields ∧
      ("timestamp", Json.str e.timestamp) ∈ e.signedFields ∧
      ("prev_hash", Json.str e.prevHash) ∈ e.signedFields := by
    intro e
    simp [LogEntry.signedFields]
  rcases hin a with ⟨hseq, htype, hdata, htimestamp, hprev⟩
  rcases hin b with ⟨hseq', htype', hdata', htimestamp', hprev'⟩
  exact ⟨Json.int.inj (hfield hseq hseq'), Json.str.inj (hfield htype htype'),
    hfield hdata hdata', Json.str.inj (hfield htimestamp htimestamp'),
    Json.str.inj (hfield hprev hprev')⟩

theorem payload_of_sameContent {a b : LogEntry} (h : SameContent a b) :
    a.payload = b.payload := by
  have hfields : forall e : LogEntry, Json.sortFields e.signedFields =
      [("seq", Json.int e.seq), ("type", Json.str e.type),
        ("data", Json.sortKeys (Json.obj e.data)), ("timestamp", Json.str e.timestamp),
        ("prev_hash", Json.str e.prevHash)] := fun _ => rfl
  have hpayload : forall e : LogEntry, e.payload = String.ofList (Json.print (Json.obj
      ((Json.sortFields e.signedFields).insertionSort (fun a b => a.1 <= b.1)))) :=
    fun _ => rfl
  rw [hpayload, hpayload, hfields, hfields, h.seq, h.type, h.data, h.timestamp, h.prevHash]

theorem payload_ends (entry : LogEntry) : exists body, entry.payload.toList = body ++ ['}'] := by
  refine ⟨'{' :: Json.printFields ((Json.sortFields entry.signedFields).insertionSort
    (fun a b => a.1 <= b.1)), ?_⟩
  unfold LogEntry.payload signingPayload canonicalBytes
  rw [String.toList_ofList]
  rfl

/-!
## Accepted entries
-/

section Accepted

variable {keys : Keyring}

theorem linked_of_verifyFrom {start : Int × String} {entries : List LogEntry}
    (h : verifyFrom keys start.1 start.2 entries = Except.ok ()) :
    Linked LogEntry.seq LogEntry.prevHash (entryHash keys) start entries ∧
      forall e, e ∈ entries -> verifySig keys e = Except.ok () := by
  induction entries generalizing start with
  | nil =>
      refine ⟨trivial, ?_⟩
      intro e he
      cases he
  | cons entry entries ih =>
      rw [verifyFrom] at h
      split at h
      · cases h
      rename_i hentry
      have hrest : verifyFrom keys (entry.seq, entryHash keys entry).1
          (entry.seq, entryHash keys entry).2 entries = Except.ok () := h
      rcases ih hrest with ⟨hlinked, hsigs⟩
      unfold verifyEntry at hentry
      split at hentry
      · cases hentry
      rename_i hseq
      split at hentry
      · cases hentry
      rename_i hprev
      split at hentry
      · cases hentry
      exact ⟨⟨Decidable.not_not.mp hseq, Decidable.not_not.mp hprev, hlinked⟩,
        List.forall_mem_cons.mpr ⟨hentry, hsigs⟩⟩

theorem signature_of_verifySig {verify : String -> List UInt8 -> Except VerifyFault Unit}
    (hkey : keys.ownVerifyKey = some verify) {entry : LogEntry}
    (h : verifySig keys entry = Except.ok ()) :
    exists bytes, fromhex entry.sig = some bytes ∧
      verify entry.payload bytes = Except.ok () := by
  unfold verifySig at h
  rw [hkey] at h
  simp only at h
  split at h
  · cases h
  · rename_i bytes hbytes
    refine ⟨bytes, hbytes, ?_⟩
    split at h
    · assumption
    · cases h
    · cases h

theorem brace_not_mem_sig {verify : String -> List UInt8 -> Except VerifyFault Unit}
    (hkey : keys.ownVerifyKey = some verify) {entry : LogEntry}
    (h : verifySig keys entry = Except.ok ()) : '}' ∉ entry.sig.toList := by
  rcases signature_of_verifySig hkey h with ⟨bytes, hbytes, _⟩
  intro hbrace
  rcases char_of_fromhexChars hbytes hbrace with hblank | hdigit
  · revert hblank
    decide
  · revert hdigit
    decide

theorem hashed_split {a b : LogEntry} (ha : '}' ∉ a.sig.toList) (hb : '}' ∉ b.sig.toList)
    (h : a.payload ++ a.sig = b.payload ++ b.sig) :
    a.payload = b.payload ∧ a.sig = b.sig := by
  rcases payload_ends a with ⟨body, hbody⟩
  rcases payload_ends b with ⟨body', hbody'⟩
  have hlist := congrArg String.toList h
  rw [String.toList_append, String.toList_append, hbody, hbody', List.append_assoc,
    List.append_assoc, List.singleton_append, List.singleton_append] at hlist
  have hclean : forall sig : String, '}' ∉ sig.toList -> forall c, c ∈ sig.toList ->
      ¬ c = '}' := by
    intro sig hsig c hc heq
    rw [heq] at hc
    exact hsig hc
  rcases last_split_unique (P := fun c => c = '}') hlist rfl rfl (hclean a.sig ha)
    (hclean b.sig hb) with ⟨hfront, _, hback⟩
  constructor
  · apply String.toList_injective
    rw [hbody, hbody', hfront]
  · exact String.toList_injective hback

/-- Among the hashed texts of these entries there are no two with one hash. -/
def CollisionFree (keys : Keyring) (entries : List LogEntry) : Prop :=
  forall a b, a ∈ entries -> b ∈ entries ->
    keys.sha256 (a.payload ++ a.sig) = keys.sha256 (b.payload ++ b.sig) ->
      a.payload ++ a.sig = b.payload ++ b.sig

/--
Two logs that are accepted under one own key and end in one hash have the same entries.
-/
theorem head_fixes_log {front back : List LogEntry} (hkey : keys.ownVerifyKey ≠ none)
    (hwf : forall e, e ∈ front ++ back -> Json.Wf (Json.obj e.data))
    (hcollision : CollisionFree keys (front ++ back))
    (hfront : verifyChain keys front = Except.ok ())
    (hback : verifyChain keys back = Except.ok ()) {a b : LogEntry}
    (ha : front.getLast? = some a) (hb : back.getLast? = some b)
    (hhead : entryHash keys a = entryHash keys b) : List.Forall₂ SameEntry front back := by
  rcases Option.ne_none_iff_exists'.mp hkey with ⟨verify, hverify⟩
  have hfront' : verifyFrom keys ((-1 : Int), ZERO_HASH).1 ((-1 : Int), ZERO_HASH).2 front =
      Except.ok () := hfront
  have hback' : verifyFrom keys ((-1 : Int), ZERO_HASH).1 ((-1 : Int), ZERO_HASH).2 back =
      Except.ok () := hback
  rcases linked_of_verifyFrom hfront' with ⟨hlinked, hsigs⟩
  rcases linked_of_verifyFrom hback' with ⟨hlinked', hsigs'⟩
  have hsame : forall a, a ∈ front -> forall b, b ∈ back ->
      entryHash keys a = entryHash keys b -> SameEntry a b := by
    intro a ha b hb hhash
    have hin := List.mem_append_left back ha
    have hin' := List.mem_append_right front hb
    have htext := hcollision a b hin hin' (hex_injective hhash)
    rcases hashed_split (brace_not_mem_sig hverify (hsigs a ha))
      (brace_not_mem_sig hverify (hsigs' b hb)) htext with ⟨hpayload, hsig⟩
    exact ⟨sameContent_of_payload (hwf a hin) (hwf b hin') hpayload, hsig⟩
  rcases List.getLast?_eq_some_iff.mp ha with ⟨front', rfl⟩
  rcases List.getLast?_eq_some_iff.mp hb with ⟨back', rfl⟩
  have hseq := seq_tip hlinked
  have hseq' := seq_tip hlinked'
  rw [tip_snoc] at hseq hseq'
  have hlast := (hsame a (List.mem_append_right _ (List.mem_singleton_self a)) b
    (List.mem_append_right _ (List.mem_singleton_self b)) hhead).seq
  refine linked_fixed (fun a b h => h.prevHash) ?_ hsame hlinked hlinked' ?_
  · simp only at hseq hseq'
    omega
  · rw [tip_snoc, tip_snoc]
    exact hhead

theorem verifyEntry_congr {seq : Int} {prevHash : String} {a b : LogEntry}
    (h : SameContent a b) (hsig : fromhex a.sig = fromhex b.sig) :
    verifyEntry keys seq prevHash a = verifyEntry keys seq prevHash b := by
  unfold verifyEntry verifySig
  rw [payload_of_sameContent h, h.seq, h.prevHash, h.type, hsig]

theorem verifyFrom_congr {seq : Int} {prevHash : String} {front back : List LogEntry}
    (h : List.Forall₂ SameEntry front back) :
    verifyFrom keys seq prevHash front = verifyFrom keys seq prevHash back := by
  induction h generalizing seq prevHash with
  | nil => rfl
  | @cons a b front back hab _ ih =>
      have hentry : verifyEntry keys seq prevHash a = verifyEntry keys seq prevHash b :=
        verifyEntry_congr hab.toSameContent (congrArg fromhex hab.sig)
      have hhash : entryHash keys a = entryHash keys b := by
        rw [entryHash, entryHash, payload_of_sameContent hab.toSameContent, hab.sig]
      rw [verifyFrom, verifyFrom, hentry, hhash, hab.seq, ih]

end Accepted

/-!
Two logs with an added peer and its revocation; in one of them the data of the first entry has
its keys in another order, which neither hash nor signature sees.
-/

def peerEntry : LogEntry :=
  TrustLog.new.nextEntry checksumKeys (checksum 64) OP_ADD_PEER
    [("node_id", Json.str "n"), ("alias", Json.str "attic")] noon

def reorderedEntry : LogEntry :=
  { peerEntry with data := [("alias", Json.str "attic"), ("node_id", Json.str "n")] }

def peerLog : TrustLog :=
  { TrustLog.new with entries := [peerEntry] }

def revokeEntryOf (keys : Keyring) : LogEntry :=
  peerLog.nextEntry keys (checksum 64) OP_REVOKE_PEER [("node_id", Json.str "n")] noon

/-- The hash is the text itself, so that no two texts share one. -/
def textKeys : Keyring :=
  { checksumKeys with sha256 := fun m => m.toUTF8.data.toList }

theorem textKeys_injective {m m' : String} (h : textKeys.sha256 m = textKeys.sha256 m') :
    m = m' :=
  String.toByteArray_inj.mp (ByteArray.ext (Array.toList_inj.mp h))

theorem wf_peerEntry : Json.Wf (Json.obj peerEntry.data) := by
  have hkeys : ["node_id", "alias"].Nodup := by decide
  exact ⟨hkeys, trivial, trivial, trivial⟩

theorem wf_reorderedEntry : Json.Wf (Json.obj reorderedEntry.data) := by
  have hkeys : ["alias", "node_id"].Nodup := by decide
  exact ⟨hkeys, trivial, trivial, trivial⟩

theorem wf_revokeEntryOf (keys : Keyring) : Json.Wf (Json.obj (revokeEntryOf keys).data) :=
  ⟨List.nodup_singleton _, trivial, trivial⟩

theorem checksumKeys_own : checksumKeys.ownVerifyKey ≠ none := by
  intro h
  cases h

theorem sameEntry_reorderedEntry : SameEntry peerEntry reorderedEntry :=
  ⟨⟨rfl, rfl, rfl, rfl, rfl⟩, rfl⟩

section Signed

variable {keys : Keyring} (hsign : checksum 64 ∈ keys.signingKey)
include hsign

theorem verifyEntry_peerEntry : verifyEntry keys (-1) ZERO_HASH peerEntry = Except.ok () := by
  have htype : OP_ADD_PEER ∈ OP_TYPES := by decide
  exact verifyEntry_nextEntry hsign htype _ noon TrustLog.new

theorem verifyChain_peerEntry : verifyChain keys [peerEntry] = Except.ok () := by
  rw [verifyChain, verifyFrom, verifyEntry_peerEntry hsign]
  rfl

theorem verifyChain_revokeEntryOf :
    verifyChain keys [peerEntry, revokeEntryOf keys] = Except.ok () := by
  have htype : OP_REVOKE_PEER ∈ OP_TYPES := by decide
  have hentry : verifyEntry keys (peerLog.head keys).1 (peerLog.head keys).2
      (revokeEntryOf keys) = Except.ok () :=
    verifyEntry_nextEntry hsign htype [("node_id", Json.str "n")] noon peerLog
  rw [head_eq_chainHead] at hentry
  exact verifyFrom_snoc keys (-1, ZERO_HASH) (verifyChain_peerEntry hsign) hentry

end Signed

theorem head_fixes_log_reordered :
    List.Forall₂ SameEntry [peerEntry, revokeEntryOf textKeys]
      [reorderedEntry, revokeEntryOf textKeys] := by
  have hchain : verifyChain textKeys [peerEntry, revokeEntryOf textKeys] = Except.ok () :=
    verifyChain_revokeEntryOf rfl
  have hback : verifyChain textKeys [reorderedEntry, revokeEntryOf textKeys] =
      Except.ok () := by
    rw [← hchain]
    apply Eq.symm
    apply verifyFrom_congr
    exact List.Forall₂.cons sameEntry_reorderedEntry
      (List.Forall₂.cons ⟨⟨rfl, rfl, rfl, rfl, rfl⟩, rfl⟩ List.Forall₂.nil)
  have hkey : textKeys.ownVerifyKey ≠ none := checksumKeys_own
  refine head_fixes_log (a := revokeEntryOf textKeys) (b := revokeEntryOf textKeys) hkey ?_
    (fun _ _ _ _ hhash => textKeys_injective hhash) hchain hback rfl rfl rfl
  intro e he
  simp only [List.cons_append, List.nil_append, List.mem_cons, List.not_mem_nil,
    or_false] at he
  rcases he with rfl | rfl | rfl | rfl
  · exact wf_peerEntry
  · exact wf_revokeEntryOf textKeys
  · exact wf_reorderedEntry
  · exact wf_revokeEntryOf textKeys

section Accepted

variable {keys : Keyring}

/-!
## Logs of one history

Whoever made a list of entries, those that verify are taken from the one history the device has
signed.  What is accepted then says what the history says, position by position, as far as it
goes.
-/

/-- None of these entries has a forged signature: if it verifies, the device has signed its text. -/
def Unforgeable (keys : Keyring) (signed entries : List LogEntry) : Prop :=
  forall e, e ∈ entries -> verifySig keys e = Except.ok () ->
    exists e', e' ∈ signed ∧ e'.payload = e.payload

/-- A list of entries that the check of the chain accepts, with dicts as data. -/
structure Accepted (keys : Keyring) (entries : List LogEntry) : Prop where
  chain : verifyChain keys entries = Except.ok ()
  wf : forall e, e ∈ entries -> Json.Wf (Json.obj e.data)

theorem SameContent.symm {a b : LogEntry} (h : SameContent a b) : SameContent b a :=
  ⟨h.seq.symm, h.type.symm, h.data.symm, h.timestamp.symm, h.prevHash.symm⟩

theorem SameContent.trans {a b c : LogEntry} (h : SameContent a b) (h' : SameContent b c) :
    SameContent a c :=
  ⟨h.seq.trans h'.seq, h.type.trans h'.type, h.data.trans h'.data,
    h.timestamp.trans h'.timestamp, h.prevHash.trans h'.prevHash⟩

theorem Accepted.inHistory {signed entries : List LogEntry} (h : Accepted keys entries)
    (hsigned : Accepted keys signed) (hunforgeable : Unforgeable keys signed entries) {i : Nat}
    (hi : i < entries.length) :
    exists hi' : i < signed.length, SameContent entries[i] signed[i] := by
  have hchain : verifyFrom keys ((-1 : Int), ZERO_HASH).1 ((-1 : Int), ZERO_HASH).2 entries =
      Except.ok () := h.chain
  have hchain' : verifyFrom keys ((-1 : Int), ZERO_HASH).1 ((-1 : Int), ZERO_HASH).2 signed =
      Except.ok () := hsigned.chain
  rcases linked_of_verifyFrom hchain with ⟨hlinked, hsigs⟩
  rcases linked_of_verifyFrom hchain' with ⟨hlinked', _⟩
  have hin : entries[i] ∈ entries := List.getElem_mem hi
  rcases hunforgeable entries[i] hin (hsigs entries[i] hin) with ⟨e, he, hpayload⟩
  have hcontent := sameContent_of_payload (hsigned.wf e he) (h.wf entries[i] hin) hpayload
  rcases List.getElem_of_mem he with ⟨j, hj, hje⟩
  have hseq := seq_getElem hlinked hi
  have hseq' := seq_getElem hlinked' hj
  rw [hje, hcontent.seq, hseq] at hseq'
  have hij : i = j := by omega
  cases hij
  refine ⟨hj, ?_⟩
  rw [hje]
  exact hcontent.symm

def Extends (old new : List LogEntry) : Prop :=
  exists front back, new = front ++ back ∧ List.Forall₂ SameContent old front

theorem Extends.length_le {old new : List LogEntry} (h : Extends old new) :
    old.length <= new.length := by
  rcases h with ⟨front, back, rfl, hsame⟩
  rw [hsame.length_eq, List.length_append]
  omega

theorem Accepted.extends_of_length_le {signed old new : List LogEntry}
    (hold : Accepted keys old) (hnew : Accepted keys new) (hsigned : Accepted keys signed)
    (hold' : Unforgeable keys signed old) (hnew' : Unforgeable keys signed new)
    (hlength : old.length <= new.length) :
    Extends old new := by
  refine ⟨new.take old.length, new.drop old.length, (List.take_append_drop ..).symm, ?_⟩
  rw [List.forall₂_iff_get]
  constructor
  · rw [List.length_take]
    omega
  · intro i hi hi'
    rcases hold.inHistory hsigned hold' hi with ⟨_, hsame⟩
    rcases hnew.inHistory hsigned hnew' (Nat.lt_of_lt_of_le hi hlength) with ⟨_, hsame'⟩
    simp only [List.get_eq_getElem, List.getElem_take]
    exact hsame.trans hsame'.symm

end Accepted

/-!
## Reading

The entries of a file hold what was read as JSON, and that is well formed.
-/

section Reading

variable {keys : Keyring} {pydantic : Pydantic}

theorem wf_validateJson {line : List Char} {entry : LogEntry}
    (h : pydantic.validateJson line = some entry) : Json.Wf (Json.obj entry.data) := by
  unfold Pydantic.validateJson at h
  split at h
  · rename_i fields hparse
    have hwf : Json.Wf (Json.obj fields) := Json.wf_parse hparse
    simp only [Option.bind_eq_bind, Option.bind_eq_some_iff] at h
    rcases h with ⟨_, _, _, _, data, ⟨v, hget, hdata⟩, _, _, _, _, _, _, hentry⟩
    cases hentry
    cases v with
    | obj fields' =>
        cases hdata
        exact Json.wfFields_iff.mp hwf.right _ (Assoc.mem_of_get?_eq_some hget)
    | null => cases hdata
    | bool b => cases hdata
    | int n => cases hdata
    | float text => cases hdata
    | str s => cases hdata
    | arr items => cases hdata
  · cases h

theorem wf_readLines {i : Nat} {lines : List (List Char)} {entries : List LogEntry}
    (h : readLines pydantic i lines = Except.ok entries) :
    forall e, e ∈ entries -> Json.Wf (Json.obj e.data) := by
  induction lines generalizing i entries with
  | nil =>
      cases h
      intro e he
      cases he
  | cons line lines ih =>
      rw [readLines] at h
      split at h
      · exact ih h
      split at h
      · cases h
      rename_i entry hentry
      split at h
      · cases h
      rename_i more hmore
      cases h
      exact List.forall_mem_cons.mpr ⟨wf_validateJson hentry, ih hmore⟩

theorem accepted_of_read {file : LogFile} {entries : List LogEntry}
    (h : readVerifiedEntries keys pydantic file = Except.ok entries) :
    Accepted keys entries := by
  unfold readVerifiedEntries at h
  split at h
  · cases h
  split at h
  · cases h
  rename_i hlines
  split at h
  · cases h
  rename_i hchain
  cases h
  exact ⟨hchain, wf_readLines hlines⟩

/--
What a reload installs and what was there before are two stretches of the one history the
device has signed: neither forks, and the old entries are kept when the file has no fewer.
-/
theorem reload_extends_iff {signed : List LogEntry} (hsigned : Accepted keys signed)
    {log log' : TrustLog} (hlog : Accepted keys log.entries)
    (hunforgeable : Unforgeable keys signed log.entries) {file : Option LogFile}
    {mtime after : Int}
    (hreload : log.reloadIfChanged keys pydantic file mtime after = Except.ok (true, log'))
    (hunforgeable' : Unforgeable keys signed log'.entries) :
    (Extends log.entries log'.entries ∨ Extends log'.entries log.entries) ∧
      (Extends log.entries log'.entries <-> log.entries.length <= log'.entries.length) := by
  have hlog' : Accepted keys log'.entries := by
    unfold TrustLog.reloadIfChanged at hreload
    split at hreload
    · cases hreload
    split at hreload
    · cases hreload
    split at hreload
    · cases hreload
    · rename_i hread
      cases hreload
      exact accepted_of_read hread
  have hforward := hlog.extends_of_length_le hlog' hsigned hunforgeable hunforgeable'
  have hbackward := hlog'.extends_of_length_le hlog hsigned hunforgeable' hunforgeable
  refine ⟨?_, fun h => h.length_le, hforward⟩
  rcases Nat.le_total log.entries.length log'.entries.length with hle | hle
  · exact Or.inl (hforward hle)
  · exact Or.inr (hbackward hle)

end Reading

def fileOf (entry : LogEntry) : LogFile where
  text := TrustLog.lineOf entry
  torn := false

theorem reload_stored {keys : Keyring} (pydantic : Pydantic) {entries : List LogEntry}
    {file : LogFile} (hstored : Stored keys entries (some file))
    (hplain : forall e, e ∈ entries -> Plain e.data) {log : TrustLog}
    (hmtime : log.lastMtime < 1) :
    log.reloadIfChanged keys pydantic (some file) 1 1 =
      Except.ok (true, TrustLog.mk entries 1 (TrustLog.monitorTailFrom entries)) := by
  have hread : readVerifiedEntries keys pydantic file = _ :=
    hstored.toLines.read_plain pydantic hplain
  rw [hstored.chain] at hread
  rw [TrustLog.reloadIfChanged, if_neg (by omega), hread]
  rfl

theorem stored_fileOf {keys : Keyring} {entry : LogEntry} (hwritten : Written entry)
    (hchain : verifyChain keys [entry] = Except.ok ()) :
    Stored keys [entry] (some (fileOf entry)) := by
  constructor
  · constructor
    · rw [List.map_singleton, unlines_singleton]
      rfl
    · rfl
    · intro e he
      rw [List.mem_singleton.mp he]
      exact hwritten
  · exact hchain

theorem forall_mem_single {entry : LogEntry} (h : Plain entry.data) :
    forall e, e ∈ [entry] -> Plain e.data := by
  intro e he
  rw [List.mem_singleton.mp he]
  exact h

/-!
A daemon that knows of one entry takes over the file with the next one.  A daemon that has
loaded a revocation takes over the file as it was before it, and an empty file as well.  The
text of a last signature may be another one for the same bytes.
-/

def revokedLog : TrustLog :=
  { TrustLog.new with entries := [peerEntry, revokeEntryOf checksumKeys] }

def revokedFile : LogFile where
  text := (fileOf peerEntry).text ++ TrustLog.lineOf (revokeEntryOf checksumKeys)
  torn := false

theorem written_peerEntry : Written peerEntry := by
  have htype : OP_ADD_PEER ∈ OP_TYPES := by decide
  exact written_nextEntry htype wf_peerEntry noon TrustLog.new

theorem plain_peerEntry : Plain peerEntry.data := by
  have hn : PlainText "n" := plainText_of_all (by decide)
  have hattic : PlainText "attic" := plainText_of_all (by decide)
  exact plain_cons.mpr ⟨plainText_of_all (by decide), plainValue_str.mpr hn,
    plain_cons.mpr ⟨plainText_of_all (by decide), plainValue_str.mpr hattic, plain_nil⟩⟩

theorem plain_revokedLog : forall e, e ∈ revokedLog.entries -> Plain e.data := by
  have hn : PlainText "n" := plainText_of_all (by decide)
  have hrevoke : Plain (revokeEntryOf checksumKeys).data :=
    plain_cons.mpr ⟨plainText_of_all (by decide), plainValue_str.mpr hn, plain_nil⟩
  exact List.forall_mem_cons.mpr ⟨plain_peerEntry, forall_mem_single hrevoke⟩

theorem stored_peerEntry : Stored checksumKeys [peerEntry] (some (fileOf peerEntry)) :=
  stored_fileOf written_peerEntry (verifyChain_peerEntry rfl)

theorem stored_revokedFile :
    Stored checksumKeys revokedLog.entries (some revokedFile) := by
  have hsign : checksum 64 ∈ checksumKeys.signingKey := rfl
  have htype : OP_REVOKE_PEER ∈ OP_TYPES := by decide
  have hpeer : Stored checksumKeys peerLog.entries (some (fileOf peerEntry)) := stored_peerEntry
  exact hpeer.snoc hsign htype (wf_revokeEntryOf checksumKeys) noon

theorem accepted_peerLog : Accepted checksumKeys peerLog.entries := by
  refine ⟨verifyChain_peerEntry rfl, ?_⟩
  intro e he
  rw [List.mem_singleton.mp he]
  exact wf_peerEntry

theorem accepted_revokedLog : Accepted checksumKeys revokedLog.entries := by
  refine ⟨verifyChain_revokeEntryOf rfl, ?_⟩
  intro e he
  simp only [revokedLog, List.mem_cons, List.not_mem_nil, or_false] at he
  rcases he with rfl | rfl
  · exact wf_peerEntry
  · exact wf_revokeEntryOf checksumKeys

theorem unforgeable_of_subset {keys : Keyring} {signed entries : List LogEntry}
    (h : entries ⊆ signed) : Unforgeable keys signed entries :=
  fun e he _ => ⟨e, h he, rfl⟩

theorem reload_extends_iff_peer :
    (exists log', peerLog.reloadIfChanged checksumKeys strictPydantic (some revokedFile) 1 1 =
        Except.ok (true, log') ∧ Extends peerLog.entries log'.entries) ∧
      exists log', revokedLog.reloadIfChanged checksumKeys strictPydantic
          (some (fileOf peerEntry)) 1 1 = Except.ok (true, log') ∧
        Extends log'.entries revokedLog.entries ∧ ¬ Extends revokedLog.entries log'.entries := by
  have hmtime : (0 : Int) < 1 := by decide
  have hsub : [peerEntry] ⊆ revokedLog.entries :=
    List.cons_subset_cons peerEntry (List.nil_subset _)
  have hnone : Unforgeable checksumKeys revokedLog.entries [peerEntry] :=
    unforgeable_of_subset hsub
  have hall : Unforgeable checksumKeys revokedLog.entries revokedLog.entries :=
    unforgeable_of_subset (List.Subset.refl _)
  have hforward := reload_stored strictPydantic stored_revokedFile plain_revokedLog
    (show peerLog.lastMtime < 1 from hmtime)
  have hback := reload_stored strictPydantic stored_peerEntry
    (forall_mem_single plain_peerEntry) (show revokedLog.lastMtime < 1 from hmtime)
  have hlonger : peerLog.entries.length <= revokedLog.entries.length := by decide
  have hshorter : ¬ revokedLog.entries.length <= peerLog.entries.length := by decide
  refine ⟨⟨_, hforward, ?_⟩, ⟨_, hback, ?_⟩⟩
  · exact (reload_extends_iff accepted_revokedLog accepted_peerLog hnone hforward hall).right.mpr
      hlonger
  · have hlaw := reload_extends_iff accepted_revokedLog accepted_revokedLog hall hback hnone
    have hcut := fun h => hshorter (hlaw.right.mp h)
    exact ⟨hlaw.left.resolve_left hcut, hcut⟩

def blankEntry : LogEntry :=
  { peerEntry with sig := peerEntry.sig ++ " " }

theorem verifyChain_blankEntry : verifyChain checksumKeys [blankEntry] = Except.ok () := by
  have hsig : fromhex blankEntry.sig = fromhex peerEntry.sig :=
    (fromhex_hex_blank rfl _).trans (fromhex_hex _).symm
  have hentry : verifyEntry checksumKeys (-1) ZERO_HASH blankEntry =
      verifyEntry checksumKeys (-1) ZERO_HASH peerEntry :=
    verifyEntry_congr ⟨rfl, rfl, rfl, rfl, rfl⟩ hsig
  rw [verifyChain, verifyFrom, hentry, verifyEntry_peerEntry rfl]
  rfl

theorem Written.withSig {entry : LogEntry} (h : Written entry) {sig : String}
    (hsig : AsciiText sig) : Written { entry with sig := sig } :=
  ⟨h.data, h.type, h.timestamp, h.prevHash, hsig⟩

theorem written_blankEntry : Written blankEntry := by
  have hsig : AsciiText blankEntry.sig := by
    intro c hc
    have hsplit : blankEntry.sig = peerEntry.sig ++ " " := rfl
    rw [hsplit, String.toList_append] at hc
    rcases List.mem_append.mp hc with hold | hblank
    · exact written_peerEntry.sig c hold
    · rw [List.mem_singleton.mp hblank]
      decide
  exact written_peerEntry.withSig hsig

theorem plain_blankEntry : Plain blankEntry.data := by
  unfold blankEntry
  exact plain_peerEntry

theorem rollback_accepted :
    Accepted checksumKeys revokedLog.entries ∧ checksumKeys.ownVerifyKey ≠ none ∧
      (exists log', revokedLog.reloadIfChanged checksumKeys strictPydantic
          (some (fileOf peerEntry)) 1 1 = Except.ok (true, log') ∧
        ¬ revokedLog.entries <+: log'.entries) ∧
      (exists log', revokedLog.reloadIfChanged checksumKeys strictPydantic
          (some { text := [], torn := false }) 1 1 = Except.ok (true, log') ∧
        ¬ revokedLog.entries <+: log'.entries) ∧
      (exists log', peerLog.reloadIfChanged checksumKeys strictPydantic
          (some (fileOf blankEntry)) 1 1 = Except.ok (true, log') ∧
        ¬ peerLog.entries <+: log'.entries) := by
  have hmtime : (0 : Int) < 1 := by decide
  refine ⟨accepted_revokedLog, checksumKeys_own, ?_, ?_, ?_⟩
  · refine ⟨_, reload_stored strictPydantic stored_peerEntry
      (forall_mem_single plain_peerEntry) hmtime, ?_⟩
    intro hprefix
    exact absurd hprefix.length_le (by decide)
  · refine ⟨TrustLog.mk [] 1 [], rfl, ?_⟩
    intro hprefix
    exact absurd hprefix.length_le (by decide)
  · have hreload := reload_stored strictPydantic
      (stored_fileOf written_blankEntry verifyChain_blankEntry)
      (forall_mem_single plain_blankEntry) (show peerLog.lastMtime < 1 from hmtime)
    refine ⟨_, hreload, ?_⟩
    intro hprefix
    have hentry : peerEntry = blankEntry := (List.cons_prefix_cons.mp hprefix).left
    have hsplit : blankEntry.sig = peerEntry.sig ++ " " := rfl
    have hlength : peerEntry.sig.length = blankEntry.sig.length := by rw [← hentry]
    rw [hsplit, String.length_append] at hlength
    exact absurd hlength (Nat.ne_of_lt (Nat.lt_add_of_pos_right (by decide)))

end Trust
end PanicMonitr
