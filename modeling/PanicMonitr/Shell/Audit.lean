import PanicMonitr.Shell.Serve
import PanicMonitr.Trust.Sharing

/-!
# The audit of remote shells

Whether bash runs for a peer only behind a `shell_open` entry in the trust log, and
whether every session that is over has one `shell_close` entry after it.
-/

namespace PanicMonitr
namespace Shell

open Foundation
open Trust

/-!
## The entries of a session
-/

def NamesSession (sessionId : String) (e : LogEntry) : Prop :=
  Assoc.get? "session_id" e.data = some (Json.str sessionId)

def Opens (sessionId remote : String) (e : LogEntry) : Prop :=
  e.type = OP_SHELL_OPEN ∧ NamesSession sessionId e ∧
    Assoc.get? "node_id" e.data = some (Json.str remote)

def Closes (sessionId : String) (e : LogEntry) : Prop :=
  e.type = OP_SHELL_CLOSE ∧ NamesSession sessionId e

/-- The whole line of an entry is in a text. -/
def OnDisk (e : LogEntry) (text : List Char) : Prop :=
  TrustLog.lineOf e <:+: text

/--
No shell without a record: what the log file held when bash was spawned has the entry.
A session that is over, with its last append returned, has one close after its open.
-/
structure Audited (h : ShellHost) : Prop where
  recorded : forall sessionId session length,
    Assoc.get? sessionId h.sessions = some session -> session.bash = some length ->
      exists e, e ∈ h.log.entries ∧ Opens sessionId session.remote e ∧
        OnDisk e ((fileText h.file).take length)
  paired : forall sessionId session,
    Assoc.get? sessionId h.sessions = some session ->
    session.phase = ServePhase.ended -> session.closed = true ->
      exists before opened between closed after,
        h.log.entries = before ++ opened :: (between ++ closed :: after) ∧
          Opens sessionId session.remote opened ∧ Closes sessionId closed ∧
          OnDisk opened (fileText h.file) ∧ OnDisk closed (fileText h.file) ∧
          forall e, e ∈ before ++ (between ++ after) -> ¬ Closes sessionId e

/-- Session ids are unique, and no other task writes a `shell_close`. -/
def UniqueIds (h : ShellHost) : ShellEvent -> Prop
  | ShellEvent.serve _ sessionId _ _ =>
      Assoc.get? sessionId h.sessions = none ∧
        forall e, e ∈ h.log.entries -> ¬ Closes sessionId e
  | ShellEvent.append type _ _ _ => type ≠ OP_SHELL_CLOSE
  | _ => True

/-- The `shell_open` of a session is written. -/
def OpenWritten (keys : Keyring) : ShellEvent -> Prop
  | ShellEvent.serve _ _ _ writing => keys.signingKey ≠ none ∧ WritesLine writing
  | _ => True

/-!
## One append
-/

theorem OnDisk.mono {e : LogEntry} {text text' : List Char} (h : OnDisk e text)
    (hgrown : text <+: text') : OnDisk e text' :=
  h.trans hgrown.isInfix

theorem onDisk_extend (e : LogEntry) (file : Option LogFile) :
    OnDisk e (fileText (LogFile.extend file (TrustLog.lineOf e) false)) := by
  rw [fileText_extend]
  exact (List.suffix_append _ _).isInfix

theorem fileText_persist (e : LogEntry) (writing : Writing) (log : TrustLog)
    (file : Option LogFile) :
    fileText file <+: fileText (TrustLog.persist e writing log file).2.1 := by
  cases writing with
  | mkdirRaises message => exact List.prefix_refl _
  | openRaises message => exact List.prefix_refl _
  | complete mtime => exact (fileText_extend file _ _) ▸ List.prefix_append _ _
  | writeRaises written torn message =>
      exact (fileText_extend file _ _) ▸ List.prefix_append _ _
  | statRaises message => exact (fileText_extend file _ _) ▸ List.prefix_append _ _
  | crash written torn => exact (fileText_extend file _ _) ▸ List.prefix_append _ _
  | crashAfter => exact (fileText_extend file _ _) ▸ List.prefix_append _ _

theorem onDisk_persist (e : LogEntry) {writing : Writing} (hwriting : WritesLine writing)
    (log : TrustLog) (file : Option LogFile) :
    OnDisk e (fileText (TrustLog.persist e writing log file).2.1) := by
  cases writing with
  | complete mtime => exact onDisk_extend e file
  | statRaises message => exact onDisk_extend e file
  | mkdirRaises message => cases hwriting
  | openRaises message => cases hwriting
  | writeRaises written torn message => cases hwriting
  | crash written torn => cases hwriting
  | crashAfter => cases hwriting

theorem writesLine_of_returned {e e' : LogEntry} {writing : Writing} {log : TrustLog}
    {file : Option LogFile}
    (h : (TrustLog.persist e writing log file).2.2 = Answer.returned e') :
    WritesLine writing := by
  cases writing with
  | complete mtime => trivial
  | statRaises message => trivial
  | mkdirRaises message => cases h
  | openRaises message => cases h
  | writeRaises written torn message => cases h
  | crash written torn => cases h
  | crashAfter => cases h

namespace ShellHost

/--
An append that is refused before the entry is made changes nothing; otherwise the entry
is in memory, and on disk if the line was written or the call returned.
-/
theorem append_cases (keys : Keyring) (h : ShellHost) (type : String)
    (data : List (String × Json)) (now : Datetime) (writing : Writing) :
    let recorded := h.append keys type data now writing
    ((keys.signingKey = none ∨ type ∉ OP_TYPES) ∧ recorded.1.log = h.log ∧
        recorded.1.file = h.file ∧ forall e, recorded.2 ≠ Answer.returned e) ∨
      exists e, e.type = type ∧ e.data = data ∧
        recorded.1.log.entries = h.log.entries ++ [e] ∧
        fileText h.file <+: fileText recorded.1.file ∧
        (WritesLine writing -> OnDisk e (fileText recorded.1.file)) ∧
        forall e', recorded.2 = Answer.returned e' -> OnDisk e (fileText recorded.1.file) := by
  intro recorded
  rcases h.log.append_cases keys type data now writing h.file with
    ⟨hrefused, error, hcall⟩ | ⟨sign, hsign, htype, hcall⟩
  · refine Or.inl ⟨hrefused, congrArg Prod.fst hcall,
      congrArg (fun r => r.2.1) hcall, ?_⟩
    intro e hreturned
    have hanswer : recorded.2 = Answer.raised error := congrArg (fun r => r.2.2) hcall
    rw [hanswer] at hreturned
    cases hreturned
  · have hlog : recorded.1.log = _ := congrArg Prod.fst hcall
    have hfile : recorded.1.file = _ := congrArg (fun r => r.2.1) hcall
    have hanswer : recorded.2 = _ := congrArg (fun r => r.2.2) hcall
    refine Or.inr ⟨h.log.nextEntry keys sign type data now, rfl, rfl, ?_, ?_, ?_, ?_⟩
    · rw [hlog, persist_entries]
      rfl
    · rw [hfile]
      exact fileText_persist _ writing _ h.file
    · intro hwritten
      rw [hfile]
      exact onDisk_persist _ hwritten _ h.file
    · intro e' hreturned
      rw [hfile]
      exact onDisk_persist _ (writesLine_of_returned (hanswer.symm.trans hreturned)) _ h.file

end ShellHost

/-!
## What is kept about a session
-/

/-- The closes after the open of a session: none while it runs, one when it has ended. -/
def ClosedOnce (sessionId : String) (session : ServedSession) (after : List LogEntry)
    (text : List Char) : Prop :=
  (session.phase ≠ ServePhase.ended -> forall e, e ∈ after -> ¬ Closes sessionId e) ∧
    (session.phase = ServePhase.ended -> session.closed = true ->
      exists between closed rest, after = between ++ closed :: rest ∧
        Closes sessionId closed ∧ OnDisk closed text ∧
        forall e, e ∈ between ++ rest -> ¬ Closes sessionId e)

structure Kept (sessionId : String) (session : ServedSession) (entries : List LogEntry)
    (text : List Char) : Prop where
  opened : exists before opened after, entries = before ++ opened :: after ∧
    Opens sessionId session.remote opened ∧ OnDisk opened text ∧
    (forall e, e ∈ before -> ¬ Closes sessionId e) ∧
    ClosedOnce sessionId session after text
  bash : forall length, session.bash = some length ->
    exists e, e ∈ entries ∧ Opens sessionId session.remote e ∧ OnDisk e (text.take length)

theorem Opens.not_closes {sessionId sessionId' remote : String} {e : LogEntry}
    (h : Opens sessionId remote e) : ¬ Closes sessionId' e := by
  intro hcloses
  have htypes := h.left.symm.trans hcloses.left
  revert htypes
  decide

section Kept

variable {sessionId : String} {session session' : ServedSession} {entries : List LogEntry}
  {text text' : List Char}

theorem Kept.grow (h : Kept sessionId session entries text) {added : List LogEntry}
    (hadded : forall e, e ∈ added -> ¬ Closes sessionId e) (hgrown : text <+: text') :
    Kept sessionId session (entries ++ added) text' := by
  constructor
  · rcases h.opened with ⟨before, opened, after, heq, hopens, hdisk, hbefore, hnone, hone⟩
    refine ⟨before, opened, after ++ added, ?_, hopens, hdisk.mono hgrown, hbefore, ?_, ?_⟩
    · rw [heq, List.append_assoc, List.cons_append]
    · intro hrunning e he
      rcases List.mem_append.mp he with hold | hnew
      · exact hnone hrunning e hold
      · exact hadded e hnew
    · intro hended hclosed
      rcases hone hended hclosed with ⟨between, closed, rest, hafter, hcloses, hline, hrest⟩
      refine ⟨between, closed, rest ++ added, ?_, hcloses, hline.mono hgrown, ?_⟩
      · rw [hafter, List.append_assoc, List.cons_append]
      · intro e he
        rw [← List.append_assoc] at he
        rcases List.mem_append.mp he with hold | hnew
        · exact hrest e hold
        · exact hadded e hnew
  · intro length hlength
    rcases h.bash length hlength with ⟨e, he, hopens, hdisk⟩
    refine ⟨e, List.mem_append_left _ he, hopens, hdisk.mono ?_⟩
    exact hgrown.take length

theorem Kept.goes (h : Kept sessionId session entries text)
    (hremote : session'.remote = session.remote)
    (hphase : session'.phase = ServePhase.ended <-> session.phase = ServePhase.ended)
    (hclosed : session'.closed = session.closed)
    (hbash : session'.bash = session.bash ∨ session'.bash = some text.length) :
    Kept sessionId session' entries text := by
  rcases h.opened with ⟨before, opened, after, heq, hopens, hdisk, hbefore, hnone, hone⟩
  constructor
  · refine ⟨before, opened, after, heq, hremote ▸ hopens, hdisk, hbefore, ?_, ?_⟩
    · exact fun hrunning => hnone (fun hended => hrunning (hphase.mpr hended))
    · exact fun hended hclosed' => hone (hphase.mp hended) (hclosed ▸ hclosed')
  · intro length hlength
    rw [hremote]
    rcases hbash with hsame | hnow
    · exact h.bash length (hsame ▸ hlength)
    · rw [hnow] at hlength
      cases hlength
      refine ⟨opened, ?_, hopens, ?_⟩
      · rw [heq]
        exact List.mem_append_right _ (List.mem_cons_self ..)
      · rw [List.take_length]
        exact hdisk

/-- The `shell_open` of a new session. -/
theorem kept_opened {opened : LogEntry} (hopens : Opens sessionId session.remote opened)
    (hdisk : OnDisk opened text) (hfresh : forall e, e ∈ entries -> ¬ Closes sessionId e)
    (hphase : session.phase = ServePhase.spawning) (hbash : session.bash = none) :
    Kept sessionId session (entries ++ [opened]) text := by
  constructor
  · refine ⟨entries, opened, [], rfl, hopens, hdisk, hfresh, ?_, ?_⟩
    · intro _ e he
      cases he
    · intro hended
      rw [hphase] at hended
      cases hended
  · intro length hlength
    rw [hbash] at hlength
    cases hlength

theorem endSession_closed {answer : Answer LogEntry}
    (hclosed : (ShellHost.endSession session answer).closed = true) :
    exists e, answer = Answer.returned e := by
  unfold ShellHost.endSession at hclosed
  simp only at hclosed
  split at hclosed
  · rename_i e
    exact ⟨e, rfl⟩
  · cases hclosed

/-- The `shell_close` of a session that has been running. -/
theorem Kept.close (h : Kept sessionId session entries text) {closed : LogEntry}
    {answer : Answer LogEntry} (hrunning : session.phase ≠ ServePhase.ended)
    (hcloses : Closes sessionId closed) (hgrown : text <+: text')
    (hline : forall e, answer = Answer.returned e -> OnDisk closed text') :
    Kept sessionId (ShellHost.endSession session answer) (entries ++ [closed]) text' := by
  constructor
  · rcases h.opened with ⟨before, opened, after, heq, hopens, hdisk, hbefore, hnone, _⟩
    refine ⟨before, opened, after ++ [closed], ?_, hopens, hdisk.mono hgrown, hbefore,
      fun hnot => absurd rfl hnot, ?_⟩
    · rw [heq, List.append_assoc, List.cons_append]
    · intro _ hclosed
      rcases endSession_closed hclosed with ⟨e, hreturned⟩
      refine ⟨after, closed, [], rfl, hcloses, hline e hreturned, ?_⟩
      rw [List.append_nil]
      exact hnone hrunning
  · intro length hlength
    rcases h.bash length hlength with ⟨e, he, hopens, hdisk⟩
    exact ⟨e, List.mem_append_left _ he, hopens, hdisk.mono (hgrown.take length)⟩

/-- The call ends and its `shell_close` is refused. -/
theorem Kept.refused (h : Kept sessionId session entries text) {answer : Answer LogEntry}
    (hraised : forall e, answer ≠ Answer.returned e) :
    Kept sessionId (ShellHost.endSession session answer) entries text := by
  rcases h.opened with ⟨before, opened, after, heq, hopens, hdisk, hbefore, _, _⟩
  constructor
  · refine ⟨before, opened, after, heq, hopens, hdisk, hbefore,
      fun hnot => absurd rfl hnot, ?_⟩
    intro _ hclosed
    rcases endSession_closed hclosed with ⟨e, hreturned⟩
    exact absurd hreturned (hraised e)
  · exact h.bash

end Kept

/-!
## One step of the host
-/

def AllKept (h : ShellHost) : Prop :=
  forall sessionId session, Assoc.get? sessionId h.sessions = some session ->
    Kept sessionId session h.log.entries (fileText h.file)

theorem kept_set {sessionId : String} {session : ServedSession}
    {sessions : List (String × ServedSession)} {entries : List LogEntry} {text : List Char}
    (hown : Kept sessionId session entries text)
    (hothers : forall other found, other ≠ sessionId -> Assoc.get? other sessions = some found ->
      Kept other found entries text) :
    forall other found, Assoc.get? other (Assoc.set sessionId session sessions) = some found ->
      Kept other found entries text := by
  intro other found hfound
  rcases Assoc.of_get?_set hfound with ⟨rfl, rfl⟩ | ⟨hne, hold⟩
  · exact hown
  · exact hothers other found hne hold

def Goes (length : Nat) (go : ServedSession -> Option ServedSession) : Prop :=
  forall session session', go session = some session' ->
    session'.remote = session.remote ∧
      (session'.phase = ServePhase.ended <-> session.phase = ServePhase.ended) ∧
      session'.closed = session.closed ∧
      (session'.bash = session.bash ∨ session'.bash = some length)

section Goes

variable (length : Nat)

theorem goes_advance {src dst : ServePhase} (hsrc : src ≠ ServePhase.ended)
    (hdst : dst ≠ ServePhase.ended) : Goes length (ServedSession.advance src dst) := by
  intro session session' hgo
  unfold ServedSession.advance at hgo
  split at hgo
  · rename_i hphase
    cases hgo
    refine ⟨rfl, iff_of_false hdst ?_, rfl, Or.inl rfl⟩
    rw [hphase]
    exact hsrc
  · cases hgo

theorem goes_setStop : Goes length ServedSession.setStop := by
  intro session session' hgo
  cases hgo
  exact ⟨rfl, Iff.rfl, rfl, Or.inl rfl⟩

theorem goes_spawned : Goes length (ServedSession.spawned length) := by
  intro session session' hgo
  rcases Option.map_eq_some_iff.mp hgo with ⟨advanced, hadvance, heq⟩
  rcases goes_advance length (by decide) (by decide) session advanced hadvance with
    ⟨hremote, hphase, hclosed, _⟩
  cases heq
  exact ⟨hremote, hphase, hclosed, Or.inr rfl⟩

theorem goes_streamRaises : Goes length ServedSession.streamRaises := by
  intro session session' hgo
  rcases Option.bind_eq_some_iff.mp hgo with ⟨advanced, hadvance, hstop⟩
  cases hstop
  exact goes_advance length (by decide) (by decide) session advanced hadvance

theorem goes_stopped : Goes length ServedSession.stopped := by
  intro session session' hgo
  unfold ServedSession.stopped at hgo
  split at hgo
  · exact goes_advance length (by decide) (by decide) session session' hgo
  · cases hgo

end Goes

namespace AllKept

variable {keys : Keyring} {h : ShellHost} (hkept : AllKept h)
include hkept

theorem update (sessionId : String) {go : ServedSession -> Option ServedSession}
    (hgo : Goes (fileText h.file).length go) : AllKept (h.update sessionId go) := by
  unfold ShellHost.update
  split
  · exact hkept
  · rename_i session' hnext
    rcases Option.bind_eq_some_iff.mp hnext with ⟨session, hsession, hstep⟩
    rcases hgo session session' hstep with ⟨hremote, hphase, hclosed, hbash⟩
    exact kept_set ((hkept sessionId session hsession).goes hremote hphase hclosed hbash)
      (fun other found _ hold => hkept other found hold)

theorem append {type : String} (htype : type ≠ OP_SHELL_CLOSE) (data : List (String × Json))
    (now : Datetime) (writing : Writing) :
    AllKept (h.append keys type data now writing).1 := by
  intro sessionId session hsession
  have hbefore := hkept sessionId session hsession
  rcases h.append_cases keys type data now writing with
    ⟨_, hlog, hfile, _⟩ | ⟨e, hetype, _, hentries, hgrown, _, _⟩
  · rw [hlog, hfile]
    exact hbefore
  · rw [hentries]
    apply hbefore.grow _ hgrown
    intro x hx hcloses
    rw [List.mem_singleton.mp hx] at hcloses
    exact htype (hetype.symm.trans hcloses.left)

theorem serve {remote sessionId : String} {now : Datetime} {writing : Writing}
    (hunique : UniqueIds h (ShellEvent.serve remote sessionId now writing))
    (hwritten : OpenWritten keys (ShellEvent.serve remote sessionId now writing)) :
    AllKept (h.serve keys remote sessionId now writing) := by
  unfold ShellHost.serve
  split
  · exact hkept
  · split
    · exact hkept
    · rcases (h.register remote sessionId now).append_cases keys OP_SHELL_OPEN
        (ShellHost.openData remote sessionId now) now writing with
        ⟨hrefused, _⟩ | ⟨e, htype, hdata, hentries, hgrown, hline, _⟩
      · rcases hrefused with hkey | htype
        · exact absurd hkey hwritten.left
        · exact absurd (by decide) htype
      · have hopens : Opens sessionId remote e := by
          refine ⟨htype, ?_, ?_⟩
          · rw [NamesSession, hdata]
            rfl
          · rw [hdata]
            rfl
        unfold AllKept
        rw [hentries]
        apply kept_set (kept_opened hopens (hline hwritten.right) hunique.right rfl rfl)
        intro other session _ hold
        apply (hkept other session hold).grow _ hgrown
        intro x hx
        rw [List.mem_singleton.mp hx]
        exact hopens.not_closes

theorem close {src : ServePhase} (hsrc : src ≠ ServePhase.ended) (sessionId : String)
    (exitCode : Int) (now : Datetime) (duration : List Char) (writing : Writing) :
    AllKept (h.close keys sessionId src exitCode now duration writing) := by
  unfold ShellHost.close
  split
  · exact hkept
  · rename_i session hsession
    split
    · rename_i hphase
      have hrunning : session.phase ≠ ServePhase.ended := by
        rw [hphase]
        exact hsrc
      have hbefore := hkept sessionId session hsession
      rcases (h.release session.remote sessionId).append_cases keys OP_SHELL_CLOSE
        (ShellHost.closeData session.remote sessionId now exitCode duration) now writing with
        ⟨_, hlog, hfile, hraised⟩ | ⟨e, htype, hdata, hentries, hgrown, _, hline⟩
      · unfold AllKept
        simp only
        rw [hlog, hfile]
        exact kept_set (hbefore.refused hraised) (fun other found _ hold => hkept other found hold)
      · have hnames : NamesSession sessionId e := by
          rw [NamesSession, hdata]
          rfl
        unfold AllKept
        simp only
        rw [hentries]
        apply kept_set (hbefore.close hrunning ⟨htype, hnames⟩ hgrown hline)
        intro other found hown hold
        apply (hkept other found hold).grow _ hgrown
        intro x hx hcloses
        rw [List.mem_singleton.mp hx, Closes, NamesSession, hnames] at hcloses
        exact hown (Json.str.inj (Option.some.inj hcloses.right)).symm
    · exact hkept

theorem step {e : ShellEvent} (hunique : UniqueIds h e) (hwritten : OpenWritten keys e) :
    AllKept (h.step keys e) := by
  unfold ShellHost.step
  split
  · cases e with
    | serve remote sessionId now writing => exact hkept.serve hunique hwritten
    | spawnRaises sessionId now duration writing =>
        exact hkept.close (by decide) sessionId (-1) now duration writing
    | spawned sessionId => exact hkept.update sessionId (goes_spawned _)
    | streamRaises sessionId => exact hkept.update sessionId (goes_streamRaises _)
    | streamsOpened sessionId =>
        exact hkept.update sessionId (goes_advance _ (by decide) (by decide))
    | stop sessionId => exact hkept.update sessionId (goes_setStop _)
    | stopped sessionId => exact hkept.update sessionId (goes_stopped _)
    | flushed sessionId =>
        exact hkept.update sessionId (goes_advance _ (by decide) (by decide))
    | reaped sessionId exitCode now duration writing =>
        exact hkept.close (by decide) sessionId exitCode now duration writing
    | append type data now writing => exact hkept.append hunique data now writing
  · exact hkept

theorem audited : Audited h := by
  constructor
  · intro sessionId session length hsession hbash
    exact (hkept sessionId session hsession).bash length hbash
  · intro sessionId session hsession hended hclosed
    rcases (hkept sessionId session hsession).opened with
      ⟨before, opened, after, heq, hopens, hdisk, hbefore, _, hone⟩
    rcases hone hended hclosed with ⟨between, closed, rest, hafter, hcloses, hline, hrest⟩
    refine ⟨before, opened, between, closed, rest, hafter ▸ heq, hopens, hcloses, hdisk,
      hline, ?_⟩
    intro e he
    rcases List.mem_append.mp he with hfront | hback
    · exact hbefore e hfront
    · exact hrest e hback

end AllKept

/-!
## Main result
-/

/-- If the `shell_open` of every session is written, every remote shell is audited. -/
theorem shells_audited (keys : Keyring) {past : List ShellHost} {h : ShellHost}
    (hrun : (shellHost keys).Run (fun h e => UniqueIds h e ∧ OpenWritten keys e) past h) :
    Audited h := by
  have hstart : forall h, (shellHost keys).start h -> AllKept h := by
    intro h hstart sessionId session hsession
    rw [hstart.right.right.left] at hsession
    cases hsession
  have hstep : forall h e, AllKept h -> UniqueIds h e ∧ OpenWritten keys e ->
      AllKept ((shellHost keys).step h e) :=
    fun h e hkept hguard => hkept.step hguard.left hguard.right
  exact (hrun.invariant hstart hstep).audited

def idleHost : ShellHost where
  log := TrustLog.new
  file := none
  serverTeardowns := []
  peerCounts := []
  sessions := []
  running := true

theorem idleHost_start : idleHost.Start :=
  ⟨rfl, rfl, rfl, rfl⟩

def sessionScript : List ShellEvent :=
  [ShellEvent.serve "laptop" "0123456789abcdef" noon (Writing.complete 1),
    ShellEvent.spawned "0123456789abcdef",
    ShellEvent.streamsOpened "0123456789abcdef",
    ShellEvent.stop "0123456789abcdef",
    ShellEvent.stopped "0123456789abcdef",
    ShellEvent.flushed "0123456789abcdef",
    ShellEvent.reaped "0123456789abcdef" 0 noon ['1', '.', '5'] (Writing.complete 2)]

theorem shells_audited_session :
    let h := (shellHost checksumKeys).exec idleHost sessionScript
    (exists session, Assoc.get? "0123456789abcdef" h.sessions = some session ∧
      session.phase = ServePhase.ended ∧ session.closed = true) ∧ Audited h := by
  have hserve : UniqueIds idleHost
      (ShellEvent.serve "laptop" "0123456789abcdef" noon (Writing.complete 1)) := by
    constructor
    · rfl
    · intro e he
      cases he
  have hkey : checksumKeys.signingKey ≠ none := by
    intro hnone
    cases hnone
  refine ⟨⟨_, rfl, rfl, rfl⟩, ?_⟩
  exact shells_audited checksumKeys
    ((Machine.Run.start idleHost_start).exec sessionScript
      ⟨⟨hserve, hkey, trivial⟩, ⟨trivial, trivial⟩, ⟨trivial, trivial⟩, ⟨trivial, trivial⟩,
        ⟨trivial, trivial⟩, ⟨trivial, trivial⟩, ⟨trivial, trivial⟩, trivial⟩)

/-- A full disk: the open is not written, and bash runs all the same. -/
theorem shell_unaudited :
    ¬ forall (keys : Keyring) (past : List ShellHost) (h : ShellHost),
      (shellHost keys).Run (fun h e => UniqueIds h e) past h -> Audited h := by
  intro hclaim
  let full := ShellEvent.serve "laptop" "0123456789abcdef" noon
    (Writing.openRaises "No space left on device")
  have hserve : UniqueIds idleHost full := by
    constructor
    · rfl
    · intro e he
      cases he
  have haudited := hclaim checksumKeys _ _
    ((Machine.Run.start idleHost_start).exec [full, ShellEvent.spawned "0123456789abcdef"]
      ⟨hserve, trivial, trivial⟩)
  rcases haudited.recorded "0123456789abcdef" _ 0 rfl rfl with ⟨e, _, _, hdisk⟩
  have hempty : TrustLog.lineOf e = [] := List.infix_nil.mp hdisk
  exact List.append_ne_nil_of_right_ne_nil _ (List.cons_ne_nil _ _) hempty

end Shell
end PanicMonitr
