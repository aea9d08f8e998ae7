import PanicMonitr.Foundation.JsonParser
import PanicMonitr.Foundation.Lines
import PanicMonitr.Foundation.Datetime
import PanicMonitr.Foundation.Sequences

/-!
# The trust log

The signed log as `log.py` keeps it: a list of entries in memory and one JSON line an
entry on disk, linked by sequence numbers and hashes.  Hashing and signing stand for
`hashlib` and `nacl`, and the lax integers of `pydantic` for its own; the outcome of
every file operation belongs to the call.
-/

namespace PanicMonitr
namespace Trust

open Foundation

inductive PyError where
  | runtimeError (message : String)
  | valueError (message : String)
  | keyError (key : String)
  | typeError (message : String)
  | attributeError (message : String)
  | validationError (model field : String)
  | unicodeDecodeError
  | osError (message : String)
  deriving DecidableEq

/-!
## Operations
-/

def OP_GENESIS : String := "genesis"
def OP_ADD_PEER : String := "add_peer"
def OP_REVOKE_PEER : String := "revoke_peer"
def OP_UPDATE_PERMISSIONS : String := "update_permissions"
def OP_SET_VISIBILITY : String := "set_visibility"
def OP_ADD_PEER_ALIAS : String := "add_peer_alias"
def OP_MONITOR_DOWN : String := "monitor_down"
def OP_MONITOR_UP : String := "monitor_up"
def OP_SHELL_OPEN : String := "shell_open"
def OP_SHELL_CLOSE : String := "shell_close"
def OP_SET_TAGS : String := "set_tags"
def OP_SET_MAINTENANCE : String := "set_maintenance"
def OP_CLEAR_MAINTENANCE : String := "clear_maintenance"

def OP_TYPES : List String :=
  [OP_GENESIS, OP_ADD_PEER, OP_REVOKE_PEER, OP_UPDATE_PERMISSIONS, OP_SET_VISIBILITY,
    OP_ADD_PEER_ALIAS, OP_MONITOR_DOWN, OP_MONITOR_UP, OP_SHELL_OPEN, OP_SHELL_CLOSE,
    OP_SET_TAGS, OP_SET_MAINTENANCE, OP_CLEAR_MAINTENANCE]

def ZERO_HASH : String := String.ofList (List.replicate 64 '0')

/-- `_MONITOR_EVENT_TAIL` -/
def MONITOR_EVENT_TAIL : Nat := 256

structure LogEntry where
  seq : Int
  type : String
  data : List (String × Json)
  timestamp : String
  prevHash : String
  sig : String

def isMonitorEvent (type : String) : Bool :=
  type = OP_MONITOR_DOWN || type = OP_MONITOR_UP

/-!
## Keys and libraries
-/

/-- What `VerifyKey.verify` raises. -/
inductive VerifyFault where
  | badSignature
  | other (e : PyError)

/--
The keys of a device.  Signing and hashing work on the bytes of a text, and a
signature made with the own key verifies under the own node id.
-/
structure Keyring where
  ownNodeId : String
  signingKey : Option (String -> List UInt8)
  sha256 : String -> List UInt8
  verifyKey : List UInt8 -> Option (String -> List UInt8 -> Except VerifyFault Unit)
  accepts : forall sign, sign ∈ signingKey -> forall key, key ∈ fromhex ownNodeId ->
    forall verify, verify ∈ verifyKey key -> forall m, verify m (sign m) = Except.ok ()

/-- How pydantic reads an integer from a float or a text, and what it says of a line. -/
structure Pydantic where
  intOfFloat : List Char -> Option Int
  intOfStr : String -> Option Int
  errorText : List Char -> String

/-- The key signatures are checked with: none for an empty or malformed own node id. -/
def Keyring.ownVerifyKey (keys : Keyring) :
    Option (String -> List UInt8 -> Except VerifyFault Unit) :=
  if keys.ownNodeId = "" then none else (fromhex keys.ownNodeId).bind keys.verifyKey

/-- As many bytes as asked, from the characters of a text. -/
def checksum (length : Nat) (m : String) : List UInt8 :=
  List.replicate length
    (UInt8.ofNat (m.toList.foldl (fun sum c => (sum * 31 + c.toNat) % 251) 0))

/-- A keyring to run examples with: checksums take the place of hashes and signatures. -/
def checksumKeys : Keyring where
  ownNodeId := hex (List.replicate 32 7)
  signingKey := some (checksum 64)
  sha256 := checksum 32
  verifyKey := fun key =>
    if key.length = 32 then
      some (fun m sig =>
        if sig = checksum 64 m then Except.ok () else Except.error VerifyFault.badSignature)
    else none
  accepts := by
    intro sign hsign key _ verify hverify m
    cases hsign
    split at hverify
    · cases hverify
      exact if_pos rfl
    · cases hverify

/-!
## Texts of an entry
-/

/-- `_canonical_bytes(payload)` as a text -/
def canonicalBytes (payload : List (String × Json)) : String :=
  String.ofList (Json.print (Json.sortKeys (Json.obj payload)))

def signingPayload (seq : Int) (type : String) (data : List (String × Json))
    (timestamp prevHash : String) : String :=
  canonicalBytes
    [("seq", Json.int seq), ("type", Json.str type), ("data", Json.obj data),
      ("timestamp", Json.str timestamp), ("prev_hash", Json.str prevHash)]

namespace LogEntry

/-- The payload of `_signing_payload` for the fields of an entry. -/
def payload (entry : LogEntry) : String :=
  signingPayload entry.seq entry.type entry.data entry.timestamp entry.prevHash

def fields (entry : LogEntry) : List (String × Json) :=
  [("seq", Json.int entry.seq), ("type", Json.str entry.type),
    ("data", Json.obj entry.data), ("timestamp", Json.str entry.timestamp),
    ("prev_hash", Json.str entry.prevHash), ("sig", Json.str entry.sig)]

/-- `model_dump_json()` -/
def dumpJson (entry : LogEntry) : List Char :=
  Json.print (Json.obj entry.fields)

end LogEntry

def entryHash (keys : Keyring) (entry : LogEntry) : String :=
  hex (keys.sha256 (entry.payload ++ entry.sig))

namespace Pydantic

variable (pydantic : Pydantic)

/-- An `int` field in lax mode. -/
def laxInt : Json -> Option Int
  | Json.int n => some n
  | Json.bool b => some (if b then 1 else 0)
  | Json.float text => pydantic.intOfFloat text
  | Json.str s => pydantic.intOfStr s
  | _ => none

/-- A `str` field. -/
def laxStr : Json -> Option String
  | Json.str s => some s
  | _ => none

/-- A `dict` field. -/
def laxDict : Json -> Option (List (String × Json))
  | Json.obj fields => some fields
  | _ => none

/-- `LogEntry.model_validate_json(line)`; `none` stands for the error it raises. -/
def validateJson (line : List Char) : Option LogEntry :=
  match Json.parse line with
  | some (Json.obj fields) => do
      let seq <- (Assoc.get? "seq" fields).bind pydantic.laxInt
      let type <- (Assoc.get? "type" fields).bind laxStr
      let data <- (Assoc.get? "data" fields).bind laxDict
      let timestamp <- (Assoc.get? "timestamp" fields).bind laxStr
      let prevHash <- (Assoc.get? "prev_hash" fields).bind laxStr
      let sig <- (Assoc.get? "sig" fields).bind laxStr
      some
        { seq := seq
          type := type
          data := data
          timestamp := timestamp
          prevHash := prevHash
          sig := sig }
  | _ => none

end Pydantic

/-!
## Checking the chain
-/

def verifySig (keys : Keyring) (entry : LogEntry) : Except PyError Unit :=
  match keys.ownVerifyKey with
  | none => Except.ok ()
  | some verify =>
      match fromhex entry.sig with
      | none =>
          Except.error (PyError.valueError "non-hexadecimal number found in fromhex() arg")
      | some bytes =>
          match verify entry.payload bytes with
          | Except.ok () => Except.ok ()
          | Except.error VerifyFault.badSignature =>
              Except.error (PyError.runtimeError
                ("Log signature invalid at seq " ++ toString entry.seq))
          | Except.error (VerifyFault.other e) => Except.error e

/-- One turn of the loop of `_verify_chain`. -/
def verifyEntry (keys : Keyring) (prevSeq : Int) (prevHash : String) (entry : LogEntry) :
    Except PyError Unit :=
  if entry.seq ≠ prevSeq + 1 then
    Except.error (PyError.runtimeError
      ("Log seq gap: got " ++ toString entry.seq ++ ", expected " ++
        toString (prevSeq + 1)))
  else if entry.prevHash ≠ prevHash then
    Except.error (PyError.runtimeError
      ("Log prev_hash mismatch at seq " ++ toString entry.seq))
  else if entry.type ∉ OP_TYPES then
    Except.error (PyError.runtimeError
      ("Unknown op type '" ++ entry.type ++ "' at seq " ++ toString entry.seq))
  else verifySig keys entry

def verifyFrom (keys : Keyring) (prevSeq : Int) (prevHash : String) :
    List LogEntry -> Except PyError Unit
  | [] => Except.ok ()
  | entry :: entries =>
      match verifyEntry keys prevSeq prevHash entry with
      | Except.error e => Except.error e
      | Except.ok () => verifyFrom keys entry.seq (entryHash keys entry) entries

/-- `_verify_chain(entries)` -/
def verifyChain (keys : Keyring) (entries : List LogEntry) : Except PyError Unit :=
  verifyFrom keys (-1) ZERO_HASH entries

/-!
## The file
-/

/--
The bytes of a file as the text they encode.  Once a write stopped inside a character
the bytes are no UTF-8 any more, whatever is appended.
-/
structure LogFile where
  text : List Char
  torn : Bool

/-- What a file holds after more was appended to it; opening it creates it. -/
def LogFile.extend (file : Option LogFile) (text : List Char) (torn : Bool) :
    Option LogFile :=
  match file with
  | none => some { text := text, torn := torn }
  | some old => some { text := old.text ++ text, torn := old.torn || torn }

/-- `path.read_text()` -/
def LogFile.readText (file : LogFile) : Except PyError (List Char) :=
  if file.torn then Except.error PyError.unicodeDecodeError
  else Except.ok (universalNewlines file.text)

/-- The loop of `_read_verified_entries` from line number `i` on. -/
def readLines (pydantic : Pydantic) (i : Nat) :
    List (List Char) -> Except PyError (List LogEntry)
  | [] => Except.ok []
  | line :: lines =>
      if strip line = [] then readLines pydantic (i + 1) lines
      else
        match pydantic.validateJson (strip line) with
        | none =>
            Except.error (PyError.runtimeError
              ("Invalid log entry at line " ++ toString (i + 1) ++ ": " ++
                pydantic.errorText (strip line)))
        | some entry =>
            match readLines pydantic (i + 1) lines with
            | Except.error e => Except.error e
            | Except.ok entries => Except.ok (entry :: entries)

def readVerifiedEntries (keys : Keyring) (pydantic : Pydantic) (file : LogFile) :
    Except PyError (List LogEntry) :=
  match file.readText with
  | Except.error e => Except.error e
  | Except.ok raw =>
      match readLines pydantic 0 (splitlines raw) with
      | Except.error e => Except.error e
      | Except.ok entries =>
          match verifyChain keys entries with
          | Except.error e => Except.error e
          | Except.ok () => Except.ok entries

/-!
## The log in memory
-/

structure TrustLog where
  entries : List LogEntry
  lastMtime : Int
  monitorTail : List LogEntry

namespace TrustLog

def new : TrustLog :=
  { entries := []
    lastMtime := 0
    monitorTail := [] }

def monitorTailFrom (entries : List LogEntry) : List LogEntry :=
  (entries.filter (fun e => isMonitorEvent e.type)).foldl
    (pushBounded MONITOR_EVENT_TAIL) []

/-- `load()` of a log; `mtime` is what `stat` answers. -/
def load (keys : Keyring) (pydantic : Pydantic) (file : Option LogFile) (mtime : Int)
    (log : TrustLog) : Except PyError TrustLog :=
  match file with
  | none => Except.ok log
  | some file =>
      match readVerifiedEntries keys pydantic file with
      | Except.error e => Except.error e
      | Except.ok entries =>
          Except.ok
            { entries := entries
              lastMtime := mtime
              monitorTail := monitorTailFrom entries }

/-- `reload_if_changed()`; `mtime` and `after` are what the two calls of `stat` answer. -/
def reloadIfChanged (keys : Keyring) (pydantic : Pydantic) (file : Option LogFile)
    (mtime after : Int) (log : TrustLog) : Except PyError (Bool × TrustLog) :=
  match file with
  | none => Except.ok (false, log)
  | some file =>
      if mtime <= log.lastMtime then Except.ok (false, log)
      else
        match readVerifiedEntries keys pydantic file with
        | Except.error e => Except.error e
        | Except.ok entries =>
            Except.ok
              (true,
                { entries := entries
                  lastMtime := after
                  monitorTail := monitorTailFrom entries })

/-- `head()` -/
def head (keys : Keyring) (log : TrustLog) : Int × String :=
  match log.entries.getLast? with
  | none => (-1, ZERO_HASH)
  | some last => (last.seq, entryHash keys last)

def opsSince (seq : Int) (log : TrustLog) : List LogEntry :=
  log.entries.filter (fun e => decide (seq < e.seq))

/-- The `node_id` of an entry's data is this text. -/
def namesNode (nodeId : String) (entry : LogEntry) : Bool :=
  match Assoc.get? "node_id" entry.data with
  | some (Json.str s) => s = nodeId
  | _ => false

def monitorEvents (nodeId : Option String) (log : TrustLog) : List LogEntry :=
  match nodeId with
  | none => log.monitorTail
  | some nodeId => log.monitorTail.filter (namesNode nodeId)

end TrustLog

/-!
## Appending
-/

/--
How far the file operations of one `append` get.  A write may stop after any number of
characters, or inside one; `crash` stops before the newline and `crashAfter` behind it.
-/
inductive Writing where
  | complete (mtime : Int)
  | mkdirRaises (message : String)
  | openRaises (message : String)
  | writeRaises (written : Nat) (torn : Bool) (message : String)
  | statRaises (message : String)
  | crash (written : Nat) (torn : Bool)
  | crashAfter
  deriving DecidableEq

inductive Answer (α : Type) where
  | returned (result : α)
  | raised (e : PyError)
  | crashed

namespace TrustLog

/-- The entry `append` makes before it touches anything. -/
def nextEntry (keys : Keyring) (sign : String -> List UInt8) (type : String)
    (data : List (String × Json)) (now : Datetime) (log : TrustLog) : LogEntry :=
  let seq := (log.head keys).1 + 1
  let prevHash := (log.head keys).2
  { seq := seq
    type := type
    data := data
    timestamp := isoformat now
    prevHash := prevHash
    sig := hex (sign (signingPayload seq type data (isoformat now) prevHash)) }

def remember (entry : LogEntry) (log : TrustLog) : TrustLog :=
  { log with
    entries := log.entries ++ [entry]
    monitorTail :=
      if isMonitorEvent entry.type then
        pushBounded MONITOR_EVENT_TAIL log.monitorTail entry
      else log.monitorTail }

def lineOf (entry : LogEntry) : List Char :=
  entry.dumpJson ++ ['\n']

/-- The file operations of `append`, after the entry is in memory. -/
def persist (entry : LogEntry) (writing : Writing) (log : TrustLog)
    (file : Option LogFile) : TrustLog × Option LogFile × Answer LogEntry :=
  match writing with
  | Writing.mkdirRaises message => (log, file, Answer.raised (PyError.osError message))
  | Writing.openRaises message => (log, file, Answer.raised (PyError.osError message))
  | Writing.writeRaises written torn message =>
      (log, LogFile.extend file ((lineOf entry).take written) torn,
        Answer.raised (PyError.osError message))
  | Writing.statRaises message =>
      (log, LogFile.extend file (lineOf entry) false,
        Answer.raised (PyError.osError message))
  | Writing.crash written torn =>
      (log, LogFile.extend file (entry.dumpJson.take written) torn, Answer.crashed)
  | Writing.crashAfter => (log, LogFile.extend file (lineOf entry) false, Answer.crashed)
  | Writing.complete mtime =>
      ({ log with lastMtime := mtime }, LogFile.extend file (lineOf entry) false,
        Answer.returned entry)

/-- `append(type_, data)`: the log, the file and how the call ended. -/
def append (keys : Keyring) (type : String) (data : List (String × Json))
    (now : Datetime) (writing : Writing) (log : TrustLog) (file : Option LogFile) :
    TrustLog × Option LogFile × Answer LogEntry :=
  match keys.signingKey with
  | none =>
      (log, file, Answer.raised
        (PyError.runtimeError "Trust log has no signing key -- cannot append"))
  | some sign =>
      if type ∉ OP_TYPES then
        (log, file, Answer.raised (PyError.valueError ("Unknown op type: " ++ type)))
      else
        persist (log.nextEntry keys sign type data now) writing
          (log.remember (log.nextEntry keys sign type data now)) file

/-- A call either is refused before the entry is made, or goes on to the file. -/
theorem append_cases (keys : Keyring) (type : String) (data : List (String × Json))
    (now : Datetime) (writing : Writing) (log : TrustLog) (file : Option LogFile) :
    ((keys.signingKey = none ∨ type ∉ OP_TYPES) ∧
      exists e, log.append keys type data now writing file = (log, file, Answer.raised e)) ∨
    exists sign, sign ∈ keys.signingKey ∧ type ∈ OP_TYPES ∧
      log.append keys type data now writing file =
        persist (log.nextEntry keys sign type data now) writing
          (log.remember (log.nextEntry keys sign type data now)) file := by
  unfold append
  cases hkey : keys.signingKey with
  | none => exact Or.inl ⟨Or.inl rfl, _, rfl⟩
  | some sign =>
      by_cases htype : type ∈ OP_TYPES
      · right
        refine ⟨sign, rfl, htype, ?_⟩
        simp only [htype, not_true_eq_false, if_false]
      · left
        exact ⟨Or.inr htype, _, if_pos htype⟩

end TrustLog

/-- `persist` gives the log it was handed, its modification time aside. -/
theorem persist_entries (entry : LogEntry) (writing : Writing) (log : TrustLog)
    (file : Option LogFile) :
    (TrustLog.persist entry writing log file).1.entries = log.entries := by
  cases writing with
  | complete mtime => rfl
  | mkdirRaises message => rfl
  | openRaises message => rfl
  | writeRaises written torn message => rfl
  | statRaises message => rfl
  | crash written torn => rfl
  | crashAfter => rfl

end Trust
end PanicMonitr
