import PanicMonitr.Control.AddPeer
import PanicMonitr.Control.Privileges
import PanicMonitr.Trust.Interrupted

/-!
# Node ids in the trust store

The pattern of `validate_node_id` ends in `$`, which also matches before a final newline.
The key parser of the engine does not let such an id through; direct mode has no parser,
and there the newline gets into the store.
-/

namespace PanicMonitr
namespace Control

open Foundation
open Trust

/-!
## Canonical node ids
-/

/-- 64 characters of `0-9a-f` -/
def Canonical (n : String) : Prop :=
  n.toList.length = 64 ∧ n.toList.all isLowerHex = true

instance (n : String) : Decidable (Canonical n) :=
  inferInstanceAs (Decidable (_ ∧ _))

def WithNewline (n : String) : Prop :=
  exists m, Canonical m ∧ n = m ++ "\n"

theorem not_canonical_of_withNewline {n : String} (h : WithNewline n) : ¬ Canonical n := by
  rcases h with ⟨m, hm, rfl⟩
  intro hn
  have hlength := hn.left
  rw [String.toList_append, List.length_append, hm.left] at hlength
  revert hlength
  decide

theorem validateNodeId_iff {n : String} :
    validateNodeId n = true <-> Canonical n ∨ WithNewline n := by
  unfold validateNodeId
  simp only [Bool.and_eq_true, Bool.or_eq_true, decide_eq_true_eq]
  constructor
  · rintro ⟨⟨hlength, hdigits⟩, hrest⟩
    have hsplit := List.take_append_drop 64 n.toList
    rcases hrest with hnil | hnewline
    · left
      rw [hnil, List.append_nil] at hsplit
      rw [hsplit] at hlength hdigits
      exact ⟨hlength, hdigits⟩
    · right
      refine ⟨String.ofList (n.toList.take 64), ?_, ?_⟩
      · rw [Canonical, String.toList_ofList]
        exact ⟨hlength, hdigits⟩
      · rw [hnewline] at hsplit
        apply String.toList_injective
        rw [String.toList_append, String.toList_ofList]
        exact hsplit.symm
  · intro h
    rcases h with ⟨hlength, hdigits⟩ | ⟨m, ⟨hlength, hdigits⟩, rfl⟩
    · rw [List.take_of_length_le (Nat.le_of_eq hlength),
        List.drop_of_length_le (Nat.le_of_eq hlength)]
      exact ⟨⟨hlength, hdigits⟩, Or.inl rfl⟩
    · rw [String.toList_append, ← hlength, List.take_left, List.drop_left]
      exact ⟨⟨rfl, hdigits⟩, Or.inr rfl⟩

theorem exists_digitChar {c : Char} (h : isLowerHex c = true) :
    exists n, n < 16 ∧ c = Nat.digitChar n := by
  have hrange : (48 <= c.toNat ∧ c.toNat <= 57) ∨ (97 <= c.toNat ∧ c.toNat <= 102) := by
    unfold isLowerHex Char.isDigit at h
    simp only [Bool.or_eq_true, Bool.and_eq_true, decide_eq_true_eq] at h
    exact h
  have hchar : c = Char.ofNat c.toNat := (Char.ofNat_toNat c).symm
  generalize c.toNat = k at hrange hchar
  have hdigits : forall n, n < 16 ->
      Nat.digitChar n = Char.ofNat (if n < 10 then n + 48 else n + 87) := by decide
  rcases hrange with ⟨hlow, hhigh⟩ | ⟨hlow, hhigh⟩
  · refine ⟨k - 48, by omega, ?_⟩
    rw [hdigits _ (by omega), if_pos (by omega), Nat.sub_add_cancel hlow, hchar]
  · refine ⟨k - 87, by omega, ?_⟩
    rw [hdigits _ (by omega), if_neg (by omega), Nat.sub_add_cancel (by omega), hchar]

theorem hexByte_of_digits {hi lo : Nat} (hhi : hi < 16) (hlo : lo < 16) :
    hexByte (UInt8.ofNat (16 * hi + lo)) = [Nat.digitChar hi, Nat.digitChar lo] := by
  have hbyte : (UInt8.ofNat (16 * hi + lo)).toNat = 16 * hi + lo := by
    rw [UInt8.toNat_ofNat']
    omega
  unfold hexByte
  rw [hbyte, show (16 * hi + lo) / 16 = hi by omega, show (16 * hi + lo) % 16 = lo by omega]

theorem flatMap_hexByte_of_digits : (cs : List Char) -> cs.length % 2 = 0 ->
    cs.all isLowerHex = true -> exists bytes : List UInt8, cs = bytes.flatMap hexByte
  | [], _, _ => ⟨[], rfl⟩
  | [_], hlength, _ => by cases hlength
  | c :: d :: rest, hlength, hall => by
      simp only [List.all_cons, Bool.and_eq_true] at hall
      rcases exists_digitChar hall.left with ⟨hi, hhi, rfl⟩
      rcases exists_digitChar hall.right.left with ⟨lo, hlo, rfl⟩
      have heven : rest.length % 2 = 0 := by
        rw [List.length_cons, List.length_cons] at hlength
        omega
      rcases flatMap_hexByte_of_digits rest heven hall.right.right with ⟨bytes, rfl⟩
      refine ⟨UInt8.ofNat (16 * hi + lo) :: bytes, ?_⟩
      rw [List.flatMap_cons, hexByte_of_digits hhi hlo]
      rfl

theorem Canonical.hex {n : String} (h : Canonical n) : exists key, n = hex key := by
  rcases flatMap_hexByte_of_digits n.toList (by rw [h.left]) h.right with ⟨bytes, hbytes⟩
  refine ⟨bytes, ?_⟩
  rw [Foundation.hex, ← hbytes, String.ofList_toList]

/-- Both ids are read as one public key. -/
def SamePeer (n m : String) : Prop :=
  fromhex n = fromhex m

theorem Canonical.eq_of_samePeer {n m : String} (hn : Canonical n) (hm : Canonical m)
    (h : SamePeer n m) : n = m := by
  rcases hn.hex with ⟨key, rfl⟩
  rcases hm.hex with ⟨key', rfl⟩
  unfold SamePeer at h
  rw [fromhex_hex, fromhex_hex] at h
  rw [Option.some.inj h]

theorem Canonical.samePeer_newline {n : String} (h : Canonical n) : SamePeer n (n ++ "\n") := by
  rcases h.hex with ⟨key, rfl⟩
  exact (fromhex_hex key).trans (fromhex_hex_blank rfl key).symm

/-!
## Entries and stores
-/

/-- The own node id is not a peer, and the other ones are canonical. -/
def Proper (own n : String) : Prop :=
  Canonical n ∧ n ≠ own

def ProperEntry (own : String) (e : LogEntry) : Prop :=
  forall n, Adds n e -> Proper own n

def ProperStore (own : String) (store : PeerTrustStore) : Prop :=
  forall n peer, store.getPeer n = some peer -> Proper own n

def OneKeyPerPeer (store : PeerTrustStore) : Prop :=
  forall n m peer peer', store.getPeer n = some peer -> store.getPeer m = some peer' ->
    SamePeer n m -> n = m

theorem ProperStore.oneKeyPerPeer {own : String} {store : PeerTrustStore}
    (h : ProperStore own store) : OneKeyPerPeer store := by
  intro n m peer peer' hn hm hsame
  exact (h n peer hn).left.eq_of_samePeer (h m peer' hm).left hsame

theorem properEntry_of_type {own : String} {e : LogEntry} (h : e.type ≠ OP_ADD_PEER) :
    ProperEntry own e :=
  fun _ hadds => absurd hadds.left h

theorem properEntry_addsPeer {own n type : String} {alias_ tags : Json}
    {data : List (String × Json)} (h : AddsPeer n alias_ tags type data) (hn : Proper own n)
    {e : LogEntry} (hdata : e.data = data) : ProperEntry own e := by
  intro m hadds
  have hname := names_iff.mp hadds.right
  have hnode : Assoc.get? "node_id" data = some (Json.str n) := by
    cases h <;> rfl
  rw [hdata, hnode] at hname
  rw [← Json.str.inj (Option.some.inj hname)]
  exact hn

theorem properStore_empty (own : String) : ProperStore own PeerTrustStore.empty := by
  intro n peer hget
  cases hget

theorem properStore_of_rebuild {own : String} {entries : List LogEntry} {store : PeerTrustStore}
    (h : rebuildFromLog entries = Except.ok store)
    (hentries : forall e, e ∈ entries -> ProperEntry own e) : ProperStore own store := by
  intro n peer hget
  rcases (rebuilt_of_ok h).key_iff.mp ⟨peer, hget⟩ with ⟨e, he, hadds⟩
  exact hentries e he n hadds

/-!
## The invariant
-/

/-- The memory, the file however it was written, and the store. -/
structure ProperState (own : String) (s : TrustState) : Prop where
  entries : forall e, e ∈ s.log.entries -> ProperEntry own e
  file : Pieced (ProperEntry own) s.file
  store : ProperStore own s.store

def Daemon.Proper (own : String) : Daemon -> Prop
  | up s => ProperState own s
  | down file => Pieced (ProperEntry own) file

/-- What may be appended: data of JSON type that adds none but proper node ids. -/
def Appendable (own type : String) (data : List (String × Json)) : Prop :=
  Json.Wf (Json.obj data) ∧
    forall e : LogEntry, e.type = type -> e.data = data -> ProperEntry own e

theorem appendable_of_type {own type : String} {data : List (String × Json)}
    (hdata : Json.Wf (Json.obj data)) (htype : type ≠ OP_ADD_PEER) :
    Appendable own type data := by
  refine ⟨hdata, ?_⟩
  intro e hentry _
  apply properEntry_of_type
  rw [hentry]
  exact htype

section Steps

variable {own type : String} {data : List (String × Json)} {s : TrustState}

theorem entries_append {keys : Keyring} {now : Datetime} {writing : Writing} {log : TrustLog}
    {file : Option LogFile} (hlog : forall e, e ∈ log.entries -> ProperEntry own e)
    (hnew : Appendable own type data) :
    forall e, e ∈ (log.append keys type data now writing file).1.entries ->
      ProperEntry own e := by
  rcases append_entries keys type data now writing log file with
    hsame | ⟨entry, ⟨htype, hdata, _⟩, hmore⟩
  · rw [hsame]
    exact hlog
  · rw [hmore]
    exact forall_mem_snoc.mpr ⟨hlog, hnew.right entry htype hdata⟩

theorem ProperState.rebuildAndSave (h : ProperState own s) (env : Surroundings) :
    ProperState own (rebuildAndSave env s).1 := by
  rcases rebuildAndSave_store env s with ⟨hlog, hfile, hstore⟩
  constructor
  · rw [hlog]
    exact h.entries
  · rw [hfile]
    exact h.file
  · rcases hstore with hsame | hrebuilt
    · rw [hsame]
      exact h.store
    · exact properStore_of_rebuild hrebuilt h.entries

theorem ProperState.append (h : ProperState own s) (keys : Keyring) (now : Datetime)
    (writing : Writing) (hnew : Appendable own type data) :
    ProperState own
      { s with
        log := (s.log.append keys type data now writing s.file).1
        file := (s.log.append keys type data now writing s.file).2.1 } :=
  ⟨entries_append h.entries hnew, h.file.append hnew.left hnew.right now writing s.log,
    h.store⟩

theorem ProperState.commit (h : ProperState own s) (keys : Keyring) (env : Surroundings)
    (hnew : Appendable own type data) : ProperState own (commit keys type data env s).1 := by
  have happended : ProperState own
      { s with
        log := (s.log.append keys type data env.now env.writing s.file).1
        file := (s.log.append keys type data env.now env.writing s.file).2.1 } :=
    h.append keys env.now env.writing hnew
  unfold Trust.commit
  rcases hcall : s.log.append keys type data env.now env.writing s.file with
    ⟨log, file, answer⟩
  rw [hcall] at happended
  cases answer with
  | raised e => exact happended
  | crashed => exact happended
  | returned entry => exact happended.rebuildAndSave env

theorem ProperState.effect {α : Type} {keys : Keyring} {env : Surroundings}
    {allowed : String -> List (String × Json) -> Prop} {result : TrustState × Answer α}
    (h : ProperState own s) (heffect : Effect keys env allowed s result)
    (hallowed : forall type data, allowed type data -> Appendable own type data) :
    ProperState own result.1 := by
  cases heffect with
  | quiet _ => exact h
  | commits hdata hcommit _ =>
      have hstate := h.commit keys env (hallowed _ _ hdata)
      rw [hcommit] at hstate
      exact hstate

theorem Daemon.proper_after {α : Type} {result : TrustState × Answer α}
    (h : ProperState own result.1) : Daemon.Proper own (Daemon.after result) := by
  rcases result with ⟨s', answer⟩
  cases answer with
  | returned a => exact h
  | raised e => exact h
  | crashed => exact h.file

theorem Daemon.proper_started {result : TrustState × Answer Bool}
    (h : ProperState own result.1) : Daemon.Proper own (Daemon.started result) := by
  rcases result with ⟨s', answer⟩
  cases answer with
  | returned a => exact h
  | raised e => exact h.file
  | crashed => exact h.file

theorem Daemon.Proper.file {d : Daemon} (h : Daemon.Proper own d) :
    Pieced (ProperEntry own) d.file := by
  cases d with
  | up s => exact ProperState.file h
  | down file => exact h

theorem Daemon.Proper.withFile {d : Daemon} (h : Daemon.Proper own d) {file : Option LogFile}
    (hfile : Pieced (ProperEntry own) file) : Daemon.Proper own (d.withFile file) := by
  cases d with
  | up s =>
      have hs : ProperState own s := h
      exact ⟨hs.entries, hfile, hs.store⟩
  | down _ => exact hfile

theorem ProperState.buildTrust {keys : Keyring} {pydantic : Pydantic} {env : Surroundings}
    {mtime : Int} {file : Option LogFile} (hfile : Pieced (ProperEntry own) file) :
    ProperState own (buildTrust keys pydantic env mtime file).1 := by
  have hnew : Appendable own OP_GENESIS [("node_id", Json.str keys.ownNodeId)] :=
    appendable_of_type ⟨List.nodup_singleton _, trivial, trivial⟩ (by decide)
  have hempty := properStore_empty own
  unfold Control.buildTrust
  split
  · refine ⟨?_, hfile, hempty⟩
    intro e he
    cases he
  rename_i log hload
  have hlog : ProperState own { log := log, file := file, store := PeerTrustStore.empty } :=
    ⟨hfile.load hload, hfile, hempty⟩
  have hgenesis : ProperState own
      { log := (ensureGenesis keys env log file).1
        file := (ensureGenesis keys env log file).2.1
        store := PeerTrustStore.empty } := by
    unfold ensureGenesis
    split
    · exact hlog
    split
    · exact hlog
    have happended := hlog.append keys env.now env.writing hnew
    simp only at happended
    split
    all_goals
      rename_i hcall
      rw [hcall] at happended
      exact happended
  rcases hcall : ensureGenesis keys env log file with ⟨log', file', answer⟩
  rw [hcall] at hgenesis
  cases answer with
  | raised e => exact hgenesis
  | crashed => exact hgenesis
  | returned _ => exact hgenesis.rebuildAndSave env

theorem ProperState.checkReload {engine : Engine} {env : Surroundings} (h : ProperState own s)
    (mtime after : Int) : ProperState own (engine.checkReload env mtime after s) := by
  unfold Engine.checkReload reloadStore
  split
  · exact ⟨h.entries, h.file, h.store⟩
  · rename_i log hlog
    exact ⟨h.file.reloadIfChanged h.entries hlog, h.file, h.store⟩
  · rename_i log hlog
    apply ProperState.rebuildAndSave
    exact ⟨h.file.reloadIfChanged h.entries hlog, h.file, h.store⟩

end Steps

/-!
## What the front ends append
-/

theorem wf_pyList {v : Json} {items : List Json} (hv : Json.Wf v)
    (h : pyList v = Except.ok items) : Json.WfItems items := by
  cases v with
  | arr items' =>
      cases h
      exact hv
  | str s =>
      cases h
      have hmap : s.toList.map (fun c => Json.str (String.singleton c)) =
          (s.toList.map String.singleton).map Json.str := by
        rw [List.map_map]
        rfl
      rw [hmap]
      exact wfItems_texts _
  | obj fields =>
      cases h
      exact wfItems_texts _
  | null => cases h
  | bool b => cases h
  | int n => cases h
  | float text => cases h

theorem wf_empty : Json.Wf (Json.arr []) := by
  trivial

theorem wf_textOrNull (p : Prop) [Decidable p] (text : String) :
    Json.Wf (if p then Json.null else Json.str text) := by
  split <;> trivial

theorem wf_bodyGet {k : String} {body v : Json} (hbody : Json.Wf body)
    (h : bodyGet k body = Except.ok v) : Json.Wf v := by
  cases body with
  | obj fields =>
      cases h
      cases hget : Assoc.get? k fields with
      | none => trivial
      | some v => exact Json.wfFields_iff.mp hbody.right _ (Assoc.mem_of_get?_eq_some hget)
  | null => cases h
  | bool b => cases h
  | int n => cases h
  | float text => cases h
  | str s => cases h
  | arr items => cases h

theorem wf_pyOr {v default : Json} (hv : Json.Wf v) (hdefault : Json.Wf default) :
    Json.Wf (pyOr v default) := by
  unfold pyOr
  split
  · exact hv
  · exact hdefault

theorem appendable_addsPeer {own n type : String} {alias_ tags : Json}
    {data : List (String × Json)} (hn : Proper own n) (halias : Json.Wf alias_)
    (htags : Json.Wf tags) (h : AddsPeer n alias_ tags type data) :
    Appendable own type data := by
  refine ⟨?_, fun e _ hdata => properEntry_addsPeer h hn hdata⟩
  cases h with
  | plain hperms =>
      rcases permissions_texts hperms with ⟨texts, rfl, _⟩
      have hkeys : ["node_id", "alias", "permissions"].Nodup := by decide
      exact ⟨hkeys, trivial, halias, wfItems_texts texts, trivial⟩
  | tagged hperms hitems =>
      rcases permissions_texts hperms with ⟨texts, rfl, _⟩
      have hkeys : ["node_id", "alias", "permissions", "tags"].Nodup := by decide
      exact ⟨hkeys, trivial, halias, wfItems_texts texts, wf_pyList htags hitems, trivial⟩

section FrontEnds

variable {engine : Engine} {s : TrustState}
  (hparser : forall n, WithNewline n -> engine.publicKey n = false)
  (hnode : engine.nodeIdStr = engine.keys.ownNodeId)

include hparser hnode

theorem Checked.proper {nodeId : Json} {n : String} (h : Checked engine nodeId n) :
    Proper engine.keys.ownNodeId n := by
  constructor
  · rcases validateNodeId_iff.mp h.valid with hcanonical | hnewline
    · exact hcanonical
    · have hkey := h.key
      rw [hparser n hnewline] at hkey
      cases hkey
  · rw [← hnode]
    exact h.other

theorem engineAdd_effect {env : Surroundings} {nodeId alias_ permissions tags : Json}
    (halias : Json.Wf alias_) (htags : Json.Wf tags) :
    Effect engine.keys env (Appendable engine.keys.ownNodeId) s
      (engine.addPeer env nodeId alias_ permissions tags s) := by
  apply (addPeer_checked engine env nodeId alias_ permissions tags s).mono
  rintro type data ⟨n, hchecked, _, hadds⟩
  exact appendable_addsPeer (hchecked.proper hparser hnode) halias htags hadds

theorem appendable_appends {request : Request} {type : String} {data : List (String × Json)}
    (h : Appends engine s request type data) :
    Appendable engine.keys.ownNodeId type data := by
  cases h with
  | @add body alias_ tags n _ _ hadmitted halias htags hadds =>
      have hbody := request.hbody body hadmitted.read
      have hchecked : Checked engine (Json.str n) n :=
        ⟨rfl, hadmitted.valid, hadmitted.other, hadmitted.key⟩
      exact appendable_addsPeer (hchecked.proper hparser hnode) (wf_bodyGet hbody halias)
        (wf_pyOr (wf_bodyGet hbody htags) wf_empty) hadds
  | permissions _ _ _ hperms =>
      rcases permissions_texts hperms with ⟨texts, rfl, _⟩
      have hkeys : ["node_id", "permissions"].Nodup := by decide
      exact appendable_of_type ⟨hkeys, trivial, wfItems_texts texts, trivial⟩ (by decide)
  | ungated _ hungated =>
      rcases ungated_data hungated with ⟨hdata, htype, _⟩
      exact appendable_of_type hdata htype

theorem ProperState.serve (h : ProperState engine.keys.ownNodeId s) (env : Serving)
    (request : Request) : ProperState engine.keys.ownNodeId (engine.serve env request s).1 := by
  have hserved : Served engine env request s (engine.serve env request s) := serve_served
  generalize engine.serve env request s = handled at hserved
  cases hserved with
  | effect heffect =>
      exact h.effect heffect (fun _ _ happends => appendable_appends hparser hnode happends)
  | reload response => exact h.checkReload env.mtime env.mtimeAfter

theorem apiAddPeer_effect {lower : String -> String} {env : Surroundings} {data : Json} :
    Effect engine.keys env (Appendable engine.keys.ownNodeId) s
      (apiAddPeer engine lower env data s) := by
  unfold apiAddPeer
  apply attempt_effect
  intro nodeRaw _
  apply attempt_effect
  intro nodeId _
  apply attempt_effect
  intro aliasRaw _
  apply attempt_effect
  intro alias_ _
  apply attempt_effect
  intro perms _
  split
  · apply Effect.replyWith
    have htags : Json.Wf Json.null := trivial
    exact engineAdd_effect hparser hnode (wf_textOrNull _ _) htags
  · exact sendError_effect _ _

theorem submitPeer_effect {env : Surroundings} {nodeId alias_ permsStr : String} :
    Effect engine.keys env (Appendable engine.keys.ownNodeId) s
      (submitPeer engine env nodeId alias_ permsStr s) := by
  unfold submitPeer
  split
  · exact Effect.quiet (by simp)
  split
  · exact Effect.quiet (by simp)
  · have htags : Json.Wf Json.null := trivial
    exact engineAdd_effect hparser hnode (wf_textOrNull _ _) htags

theorem Daemon.Proper.step {d : Daemon} (h : Daemon.Proper engine.keys.ownNodeId d)
    (e : DaemonEvent) : Daemon.Proper engine.keys.ownNodeId ((daemons engine).step d e) := by
  cases e with
  | start env mtime =>
      have hstarted : Daemon.Proper engine.keys.ownNodeId
          (Daemon.started (Control.buildTrust engine.keys engine.pydantic env mtime d.file)) :=
        Daemon.proper_started (ProperState.buildTrust h.file)
      cases d with
      | up s => exact hstarted
      | down file => exact hstarted
  | serve env request =>
      cases d with
      | down file => exact h
      | up s => exact Daemon.proper_after (ProperState.serve hparser hnode h env request)
  | record env type data htype hdata =>
      cases d with
      | down file => exact h
      | up s =>
          have hs : ProperState engine.keys.ownNodeId s := h
          have hevent : forall op, op ∈ EVENT_OPS -> op ≠ OP_ADD_PEER := by decide
          exact Daemon.proper_after
            (hs.append engine.keys env.now env.writing
              (appendable_of_type hdata (hevent type htype)))
  | cycle env mtime after =>
      cases d with
      | down file => exact h
      | up s => exact ProperState.checkReload h mtime after

end FrontEnds

/-!
## Direct mode
-/

theorem wf_tagList (tags : Option (List String)) :
    Json.Wf (tags.elim Json.null (fun tags => Json.arr (tags.map Json.str))) := by
  cases tags with
  | none => trivial
  | some tags => exact wfItems_texts tags

/-- Permissions that `add_peer` accepts are valid. -/
theorem all_of_addAccepted {n : String} {items : List Json} {s : TrustState}
    (h : AddAccepted n (Json.arr items) s) : items.all isPermission = true := by
  rcases h with ⟨⟨perms, hperms, hvalid⟩, _⟩
  cases items with
  | nil => rfl
  | cons item items =>
      cases hperms
      exact all_of_arePermissions hvalid

theorem ProperState.cliAddPeer {engine : Engine} {loading env : Surroundings} {mtime : Int}
    {args : AddArgs} {file : Option LogFile}
    (hfile : Pieced (ProperEntry engine.keys.ownNodeId) file)
    (hproper : (args.perms.map Json.str).all isPermission = true ->
      Proper engine.keys.ownNodeId args.addPeer) :
    ProperState engine.keys.ownNodeId (cliAddPeer engine loading mtime env args file).1 := by
  have hbuilt : ProperState engine.keys.ownNodeId
      (Control.buildTrust engine.keys engine.pydantic loading mtime file).1 :=
    ProperState.buildTrust hfile
  unfold Control.cliAddPeer
  rcases hcall : Control.buildTrust engine.keys engine.pydantic loading mtime file with
    ⟨s, answer⟩
  rw [hcall] at hbuilt
  cases answer with
  | raised e => exact hbuilt
  | crashed => exact hbuilt
  | returned b =>
      apply hbuilt.effect (effect_of_mutation (addPeer_result _ _ _ _ _ _ _))
      rintro type data ⟨haccepted, hadds⟩
      exact appendable_addsPeer (hproper (all_of_addAccepted haccepted))
        (AddArgs.wf_optionJson args.alias_) (wf_tagList args.tagList) hadds

theorem addPeer_true {keys : Keyring} {env : Surroundings} {n : String}
    {alias_ permissions tags : Json} {s s' : TrustState}
    (h : Trust.addPeer keys env n alias_ permissions tags s = (s', Answer.returned true)) :
    exists data, Assoc.get? "node_id" data = some (Json.str n) ∧
      commit keys OP_ADD_PEER data env s = (s', Answer.returned true) := by
  unfold Trust.addPeer at h
  split at h
  · cases h
  split at h
  · cases h
  · cases h
  split at h
  · cases h
  split at h
  · split at h
    · cases h
    · exact ⟨_, rfl, h⟩
  · exact ⟨_, rfl, h⟩

theorem getPeer_cliAddPeer {engine : Engine} {loading env : Surroundings} {mtime : Int}
    {args : AddArgs} {file : Option LogFile} {s' : TrustState}
    (h : cliAddPeer engine loading mtime env args file = (s', Answer.returned true)) :
    exists peer, s'.store.getPeer args.addPeer = some peer := by
  unfold Control.cliAddPeer at h
  rcases hcall : Control.buildTrust engine.keys engine.pydantic loading mtime file with
    ⟨s, answer⟩
  rw [hcall] at h
  cases answer with
  | raised e => cases h
  | crashed => cases h
  | returned b =>
      rcases addPeer_true h with ⟨data, hnode, hcommit⟩
      rcases commit_true hcommit with ⟨⟨e, ⟨htype, hdata, _⟩, hentries⟩, hrebuild⟩
      have hadds : Adds args.addPeer e := by
        refine ⟨htype, names_iff.mpr ?_⟩
        rw [hdata]
        exact hnode
      have hmem : e ∈ s'.log.entries := by
        rw [hentries]
        exact List.mem_append_right _ List.mem_cons_self
      exact (rebuilt_of_ok hrebuild).key_iff.mpr ⟨e, hmem, hadds⟩

/-!
## Runs
-/

/--
No `--add-peer` in direct mode is given a canonical node id with a newline behind it,
unless it has invalid permissions as well.
-/
def Trimmed (w : Monitor) : MonitorEvent -> Prop
  | MonitorEvent.cli reachable _ _ _ args =>
      viaSocket w.daemon reachable = none ->
        (args.perms.map Json.str).all isPermission = true -> ¬ WithNewline args.addPeer
  | _ => True

structure Monitor.Proper (own : String) (w : Monitor) : Prop where
  daemon : Daemon.Proper own w.daemon
  stores : forall store, store ∈ w.stores -> ProperStore own store

theorem Monitor.Proper.become {own : String} {w : Monitor} {d : Daemon}
    (h : Monitor.Proper own w) (hd : Daemon.Proper own d) : Monitor.Proper own (w.become d) := by
  refine ⟨hd, ?_⟩
  intro store hstore
  rcases List.mem_append.mp hstore with hold | hnew
  · exact h.stores store hold
  · cases d with
    | up s =>
        have hs : ProperState own s := hd
        rw [List.mem_singleton.mp hnew]
        exact hs.store
    | down file => cases hnew

theorem Daemon.Proper.whenUp {own : String} {d : Daemon} {next : TrustState -> Daemon}
    (h : Daemon.Proper own d)
    (hnext : forall s, ProperState own s -> Daemon.Proper own (next s)) :
    Daemon.Proper own (d.whenUp next) := by
  cases d with
  | up s => exact hnext s h
  | down file => exact h

theorem up_of_viaSocket {d : Daemon} {reachable : Bool} {s : TrustState}
    (h : viaSocket d reachable = some s) : d = Daemon.up s := by
  cases d with
  | down file => cases h
  | up s' =>
      cases reachable with
      | false => cases h
      | true =>
          cases h
          rfl

section Runs

variable {engine : Engine} {lower : String -> String}
  (hparser : forall n, WithNewline n -> engine.publicKey n = false)
  (hnode : engine.nodeIdStr = engine.keys.ownNodeId)

include hparser hnode

theorem Monitor.Proper.cli {w : Monitor} (h : Monitor.Proper engine.keys.ownNodeId w)
    {reachable : Bool} {serving : Serving} {loading : Surroundings} {mtime : Int}
    {args : AddArgs} (hguard : Trimmed w (MonitorEvent.cli reachable serving loading mtime args)) :
    Monitor.Proper engine.keys.ownNodeId (w.cli engine reachable serving loading mtime args) := by
  unfold Monitor.cli
  split
  · exact h
  rename_i hvalid
  rw [Bool.not_eq_false] at hvalid
  split
  · -- through the socket the engine checks what it is sent
    rename_i s hvia
    have hs : ProperState engine.keys.ownNodeId s := by
      have hdaemon := h.daemon
      rw [up_of_viaSocket hvia] at hdaemon
      exact hdaemon
    exact h.become (Daemon.proper_after (ProperState.serve hparser hnode hs _ _))
  · rename_i hvia
    split
    · exact h
    rename_i hother
    have hproper : (args.perms.map Json.str).all isPermission = true ->
        Control.Proper engine.keys.ownNodeId args.addPeer := by
      intro hperms
      rcases validateNodeId_iff.mp hvalid with hcanonical | hnewline
      · exact ⟨hcanonical, hother⟩
      · exact absurd hnewline (hguard hvia hperms)
    have hleft : ProperState engine.keys.ownNodeId
        (cliAddPeer engine loading mtime serving.toSurroundings args w.daemon.file).1 :=
      ProperState.cliAddPeer h.daemon.file hproper
    refine ⟨h.daemon.withFile hleft.file, ?_⟩
    intro store hstore
    rcases List.mem_append.mp hstore with hold | hnew
    · exact h.stores store hold
    · rw [List.mem_singleton.mp hnew]
      exact hleft.store

theorem Monitor.Proper.step {w : Monitor} (h : Monitor.Proper engine.keys.ownNodeId w)
    (e : MonitorEvent) (hguard : Trimmed w e) :
    Monitor.Proper engine.keys.ownNodeId ((monitors engine lower).step w e) := by
  cases e with
  | daemon e => exact h.become (h.daemon.step hparser hnode e)
  | cli reachable serving loading mtime args => exact h.cli hparser hnode hguard
  | dashboard env data hdata =>
      apply h.become
      apply h.daemon.whenUp
      intro s hs
      exact Daemon.proper_after
        (hs.effect (apiAddPeer_effect hparser hnode) (fun _ _ happendable => happendable))
  | terminal env nodeId alias_ permsStr =>
      apply h.become
      apply h.daemon.whenUp
      intro s hs
      exact Daemon.proper_after
        (hs.effect (submitPeer_effect hparser hnode) (fun _ _ happendable => happendable))

theorem Monitor.proper_of_reachable {w : Monitor}
    (hrun : (monitors engine lower).Reachable Trimmed w) :
    Monitor.Proper engine.keys.ownNodeId w := by
  apply hrun.invariant (I := Monitor.Proper engine.keys.ownNodeId)
  · intro w hstart
    rcases hstart with ⟨⟨file, hdown, htext, _⟩, hstores⟩
    constructor
    · rw [hdown]
      exact pieced_empty htext
    · intro store hstore
      rw [hstores] at hstore
      cases hstore
  · intro w e hw hguard
    exact hw.step hparser hnode e hguard

end Runs

/--
`validate_node_id` accepts the canonical node ids and those with a newline behind them.  As
long as direct mode is given none of the latter, every key of every store is canonical and
not the own node id, and no peer has two keys; one that is added there becomes a key.
-/
theorem store_keys_canonical {engine : Engine} (lower : String -> String)
    (hparser : forall n, WithNewline n -> engine.publicKey n = false)
    (hnode : engine.nodeIdStr = engine.keys.ownNodeId) :
    (forall n, (validateNodeId n = true <-> Canonical n) <-> ¬ WithNewline n) ∧
      (forall w, (monitors engine lower).Reachable Trimmed w ->
        forall store, store ∈ w.stores ->
          ProperStore engine.keys.ownNodeId store ∧ OneKeyPerPeer store) ∧
      forall loading env mtime args file left, WithNewline args.addPeer ->
        cliAddPeer engine loading mtime env args file = (left, Answer.returned true) ->
          ¬ ProperStore engine.keys.ownNodeId left.store := by
  refine ⟨?_, ?_, ?_⟩
  · intro n
    rw [validateNodeId_iff]
    constructor
    · intro hiff hnewline
      exact not_canonical_of_withNewline hnewline (hiff.mp (Or.inr hnewline))
    · intro hnot
      exact ⟨fun h => h.resolve_right hnot, Or.inl⟩
  · intro w hrun store hstore
    have hproper := (Monitor.proper_of_reachable hparser hnode hrun).stores store hstore
    exact ⟨hproper, hproper.oneKeyPerPeer⟩
  · intro loading env mtime args file left hnewline hcall hproper
    rcases getPeer_cliAddPeer hcall with ⟨peer, hget⟩
    exact not_canonical_of_withNewline hnewline (hproper args.addPeer peer hget).left

/-!
A peer that is added in direct mode, before the daemon starts and the dashboard is used; and
the same peer once more, with a newline.
-/

def parsingEngine : Engine where
  keys := checksumKeys
  pydantic := strictPydantic
  nodeIdStr := checksumKeys.ownNodeId
  unlockIdentity := testEngine.unlockIdentity
  publicKey := fun n => decide (Canonical n)
  hown := testEngine.hown

theorem parsingEngine_newline {n : String} (h : WithNewline n) :
    parsingEngine.publicKey n = false :=
  decide_eq_false (not_canonical_of_withNewline h)

theorem canonical_peerId : Canonical peerId := by
  decide

def newMonitor : Monitor where
  daemon := Daemon.down none
  stores := []

def monitorArgs (n : String) : AddArgs where
  addPeer := n
  alias_ := none
  permissions := "monitor"
  tags := none
  password := "open sesame"

def directAdd (n : String) : MonitorEvent :=
  MonitorEvent.cli false calmServing calmServing.toSurroundings 0 (monitorArgs n)

theorem wf_emptyBody : Json.Wf (Json.obj []) :=
  ⟨List.nodup_nil, trivial⟩

def mixedAdds : List MonitorEvent :=
  [directAdd peerId, MonitorEvent.daemon (DaemonEvent.start calmServing.toSurroundings 0),
    MonitorEvent.dashboard calmServing.toSurroundings (Json.obj []) wf_emptyBody]

/-- What is left when the id of the peer comes with a newline. -/
def newlineLeft : TrustState :=
  (cliAddPeer parsingEngine calmServing.toSurroundings 0 calmServing.toSurroundings
    (monitorArgs (peerId ++ "\n")) none).1

theorem newline_added :
    cliAddPeer parsingEngine calmServing.toSurroundings 0 calmServing.toSurroundings
      (monitorArgs (peerId ++ "\n")) none = (newlineLeft, Answer.returned true) :=
  Prod.ext rfl rfl

theorem withNewline_peerId : WithNewline (peerId ++ "\n") :=
  ⟨peerId, canonical_peerId, rfl⟩

theorem store_keys_canonical_mixed :
    (forall store, store ∈ ((monitors parsingEngine id).exec newMonitor mixedAdds).stores ->
      ProperStore parsingEngine.keys.ownNodeId store ∧ OneKeyPerPeer store) ∧
      ¬ ProperStore parsingEngine.keys.ownNodeId newlineLeft.store := by
  have hkeys := store_keys_canonical id (fun _ => parsingEngine_newline) rfl
  have hstart : (monitors parsingEngine id).Run Trimmed [] newMonitor :=
    Machine.Run.start ⟨⟨none, rfl, rfl, rfl⟩, rfl⟩
  have htrimmed : Trimmed newMonitor (directAdd peerId) := by
    intro _ _ hnewline
    exact not_canonical_of_withNewline hnewline canonical_peerId
  constructor
  · exact hkeys.right.left _ ⟨_, hstart.exec mixedAdds ⟨htrimmed, trivial, trivial, trivial⟩⟩
  · exact hkeys.right.right _ _ _ _ none _ withNewline_peerId newline_added

theorem newline_in_store :
    ¬ (forall n, validateNodeId n = true <-> Canonical n) ∧
      exists store, store ∈ ((monitors parsingEngine id).exec newMonitor
          [directAdd (peerId ++ "\n")]).stores ∧
        ¬ ProperStore parsingEngine.keys.ownNodeId store ∧
        exists n peer, store.getPeer n = some peer ∧ SamePeer peerId n ∧ n ≠ peerId := by
  have hnot := not_canonical_of_withNewline withNewline_peerId
  rcases getPeer_cliAddPeer newline_added with ⟨peer, hget⟩
  constructor
  · intro hiff
    exact hnot ((hiff _).mp (validateNodeId_iff.mpr (Or.inr withNewline_peerId)))
  · refine ⟨newlineLeft.store, List.mem_cons_self, ?_, ?_⟩
    · intro hproper
      exact hnot (hproper _ peer hget).left
    · refine ⟨peerId ++ "\n", peer, hget, ?_, ?_⟩
      · exact canonical_peerId.samePeer_newline
      · intro heq
        rw [heq] at hnot
        exact hnot canonical_peerId

end Control
end PanicMonitr
