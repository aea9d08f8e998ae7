import PanicMonitr.Control.Growth
import PanicMonitr.Control.Privileges
import PanicMonitr.Foundation.JsonDumps

/-!
# Inbound connections

The six `accept` handlers of the daemon ask the trust store for one permission or for the
first of two.  Whom they let in is followed through whole lives of the daemon: requests on
the control socket, events, reloads, rebuilds of the iroh node, crashes and new starts.
-/

namespace PanicMonitr
namespace Control

open Foundation
open Trust

/-!
## Handlers
-/

/-- The protocols of `src/alpn`. -/
inductive Alpn where
  | heartbeat
  | push
  | status
  | sync
  | logs
  | shell
  deriving DecidableEq

/--
The start of an `accept`: the permissions it asks for until one is granted, what it cannot
serve without, and what it closes the connection with then.
-/
structure Acceptor where
  permissions : List String
  engine : Bool
  logstore : Bool
  unready : String

def heartbeatProtocol : Acceptor where
  permissions := ["monitor"]
  engine := false
  logstore := false
  unready := ""

/-- Without an engine a push is acknowledged and not recorded. -/
def pushProtocol : Acceptor where
  permissions := ["monitor"]
  engine := false
  logstore := false
  unready := ""

def statusProtocol : Acceptor where
  permissions := ["view_dashboard", "monitor"]
  engine := true
  logstore := false
  unready := "engine not ready"

def syncProtocol : Acceptor where
  permissions := ["monitor"]
  engine := true
  logstore := true
  unready := "logstore not ready"

def containerLogsProtocol : Acceptor where
  permissions := ["view_dashboard", "monitor"]
  engine := true
  logstore := false
  unready := "engine not ready"

def shellProtocol : Acceptor where
  permissions := ["shell"]
  engine := true
  logstore := false
  unready := "engine not ready"

def Alpn.acceptor : Alpn -> Acceptor
  | heartbeat => heartbeatProtocol
  | push => pushProtocol
  | status => statusProtocol
  | sync => syncProtocol
  | logs => containerLogsProtocol
  | shell => shellProtocol

/-- `if not ok: ok, reason = verify_and_authorize(...)`; the last answer counts. -/
def askInTurn (own remote : String) (store : PeerTrustStore) : List String -> Bool × String
  | [] => (false, "")
  | [protocol] => store.verifyAndAuthorize own remote protocol
  | protocol :: others =>
      if (store.verifyAndAuthorize own remote protocol).1 then
        store.verifyAndAuthorize own remote protocol
      else askInTurn own remote store others

/-- The connection is closed with a code and a reason, or served. -/
inductive Reception where
  | closed (code : Nat) (reason : List UInt8)
  | served

/-- `accept(conn)` up to what the protocol is about. -/
def Acceptor.accept (acceptor : Acceptor) (own remote : String) (store : PeerTrustStore)
    (engine logstore : Bool) : Reception :=
  if (askInTurn own remote store acceptor.permissions).1 = false then
    Reception.closed 403
      ((encodeUtf8 (askInTurn own remote store acceptor.permissions).2.toList).take 120)
  else if (acceptor.engine && !engine) || (acceptor.logstore && !logstore) then
    Reception.closed 500 (encodeUtf8 acceptor.unready.toList)
  else Reception.served

/-!
## The host
-/

structure Visit where
  alpn : Alpn
  remote : String

/--
The daemon, its iroh node and whether the handlers know the engine, whether there is a log
store, and the connections being served.  `admitted` is a history variable: every connection
that was let in.
-/
structure Host where
  daemon : Daemon
  node : Bool
  bound : Bool
  logstore : Bool
  serving : List Visit
  admitted : List Visit

inductive HostEvent where
  | daemon (e : DaemonEvent)
  /-- `memory_with_options` has returned; the creators do not know the engine yet. -/
  | nodeUp (logstore : Bool)
  | bind
  /-- The node is torn down for a rebuild. -/
  | nodeDown
  | connect (alpn : Alpn) (remote : String)
  | leave (index : Nat)

namespace Host

def nodeDown (h : Host) : Host :=
  { h with node := false, bound := false, serving := [] }

def daemonStep (engine : Engine) (h : Host) (e : DaemonEvent) : Host :=
  match e, (daemons engine).step h.daemon e with
  | DaemonEvent.start _ _, d => { h.nodeDown with daemon := d }
  | _, Daemon.down file => { h.nodeDown with daemon := Daemon.down file }
  | _, Daemon.up s => { h with daemon := Daemon.up s }

/-- The answer of a handler, when there is a node to answer. -/
def receive (engine : Engine) (h : Host) (alpn : Alpn) (remote : String) : Option Reception :=
  match h.daemon with
  | Daemon.up s =>
      if h.node then
        some (alpn.acceptor.accept engine.keys.ownNodeId remote s.store h.bound h.logstore)
      else none
  | Daemon.down _ => none

def connect (engine : Engine) (h : Host) (alpn : Alpn) (remote : String) : Host :=
  match h.receive engine alpn remote with
  | some Reception.served =>
      { h with
        serving := h.serving ++ [⟨alpn, remote⟩]
        admitted := h.admitted ++ [⟨alpn, remote⟩] }
  | _ => h

def step (engine : Engine) (h : Host) : HostEvent -> Host
  | HostEvent.daemon e => h.daemonStep engine e
  | HostEvent.nodeUp logstore => { h.nodeDown with node := true, logstore := logstore }
  | HostEvent.bind => { h with bound := h.node }
  | HostEvent.nodeDown => h.nodeDown
  | HostEvent.connect alpn remote => h.connect engine alpn remote
  | HostEvent.leave index => { h with serving := h.serving.eraseIdx index }

end Host

def hosts (engine : Engine) (h : Host) : Machine Host HostEvent where
  start h' := h' = h
  step := Host.step engine

/-- What happens to the daemon is harmless to its log. -/
def HarmlessHost (engine : Engine) (h : Host) : HostEvent -> Prop
  | HostEvent.daemon e => Harmless engine h.daemon e
  | _ => True

/-- No request adds the peer. -/
def NoAdd (engine : Engine) (n : String) (h : Host) (e : HostEvent) : Prop :=
  forall env request s body, e = HostEvent.daemon (DaemonEvent.serve env request) ->
    h.daemon = Daemon.up s -> ¬ Admitted engine s request body n

def NoPassword (engine : Engine) (_ : Host) (e : HostEvent) : Prop :=
  forall env request body, e = HostEvent.daemon (DaemonEvent.serve env request) ->
    request.body = Except.ok body -> engine.checkPassword body ≠ Except.ok true

/-!
## Whom a handler lets in
-/

theorem askInTurn_iff {own remote : String} {store : PeerTrustStore} {permissions : List String} :
    (askInTurn own remote store permissions).1 = true <->
      exists p, p ∈ permissions ∧ (store.verifyAndAuthorize own remote p).1 = true := by
  induction permissions with
  | nil => exact iff_of_false (fun h => by cases h) (fun ⟨_, hmem, _⟩ => by cases hmem)
  | cons first others ih =>
      cases others with
      | nil =>
          simp only [askInTurn, List.mem_singleton]
          constructor
          · exact fun h => ⟨first, rfl, h⟩
          · rintro ⟨_, rfl, h⟩
            exact h
      | cons second others =>
          unfold askInTurn
          split
          · rename_i hfirst
            exact iff_of_true hfirst ⟨first, List.mem_cons_self .., hfirst⟩
          · rename_i hfirst
            rw [ih]
            constructor
            · rintro ⟨p, hmem, hp⟩
              exact ⟨p, List.mem_cons_of_mem first hmem, hp⟩
            · rintro ⟨p, hmem, hp⟩
              rcases List.mem_cons.mp hmem with rfl | hmem
              · exact absurd hp hfirst
              · exact ⟨p, hmem, hp⟩

theorem accept_served_iff {acceptor : Acceptor} {own remote : String} {store : PeerTrustStore}
    {engine logstore : Bool} :
    acceptor.accept own remote store engine logstore = Reception.served <->
      (exists p, p ∈ acceptor.permissions ∧ (store.verifyAndAuthorize own remote p).1 = true) ∧
        (acceptor.engine = true -> engine = true) ∧
        (acceptor.logstore = true -> logstore = true) := by
  rw [← askInTurn_iff]
  unfold Acceptor.accept
  cases hasked : (askInTurn own remote store acceptor.permissions).1 with
  | false =>
      rw [if_pos rfl]
      exact iff_of_false (fun h => by cases h) (fun h => by cases h.left)
  | true =>
      rw [if_neg (by decide)]
      cases acceptor.engine <;> cases acceptor.logstore <;> cases engine <;> cases logstore <;>
        simp

/-!
## Authorization in a log that grows
-/

theorem exists_lastAdd {n : String} {entries : List LogEntry}
    (h : exists e, e ∈ entries ∧ Adds n e) :
    exists before add after, LastAdd n entries before add after := by
  induction entries using List.reverseRecOn with
  | nil =>
      rcases h with ⟨e, he, _⟩
      cases he
  | append_singleton entries entry ih =>
      by_cases hadds : Adds n entry
      · exact ⟨entries, entry, [], rfl, hadds, fun e he => by cases he⟩
      · rcases h with ⟨e, he, hadd⟩
        rcases List.mem_append.mp he with hold | hnew
        · rcases ih ⟨e, hold, hadd⟩ with ⟨before, add, after, hlast⟩
          exact ⟨before, add, after ++ [entry], hlast.snoc hadds⟩
        · rw [List.mem_singleton.mp hnew] at hadd
          exact absurd hadd hadds

/-- An entry that restricts authorizes nobody who was not authorized before. -/
theorem authorized_of_snoc {n protocol : String} {entries : List LogEntry} {entry : LogEntry}
    (hentry : Restricting entry) (h : Authorized n protocol (entries ++ [entry])) :
    Authorized n protocol entries := by
  rcases h with ⟨before, add, after, hlast, hnot, texts, htexts, hgrants⟩
  have hadds : ¬ Adds n entry := fun h => hentry.left h.left
  have hmem : add ∈ entries ++ [entry] := by
    rw [hlast.split]
    exact List.mem_append_right _ (List.mem_cons_self ..)
  have hold : exists e, e ∈ entries ∧ Adds n e := by
    rcases List.mem_append.mp hmem with hold | hnew
    · exact ⟨add, hold, hlast.adds⟩
    · exact absurd (List.mem_singleton.mp hnew ▸ hlast.adds) hadds
  rcases exists_lastAdd hold with ⟨before', add', after', hlast'⟩
  rcases hlast.unique (hlast'.snoc hadds) with ⟨rfl, rfl, rfl⟩
  refine ⟨before, add, after', hlast', (forall_mem_snoc.mp hnot).left, texts, ?_, hgrants⟩
  rw [effectivePermissions_snoc, if_neg (fun h => hentry.right h.left)] at htexts
  exact htexts

theorem not_authorized_of_withdrawn {n : String} {entries : List LogEntry}
    (h : Withdrawn n entries) (protocol : String) : ¬ Authorized n protocol entries := by
  rintro ⟨before, add, after, hlast, hnot, _⟩
  rcases h.after hlast with ⟨e, he, hrevokes⟩
  exact hnot e he hrevokes

/-!
## Steps of the host
-/

section Steps

variable {engine : Engine} {h : Host} {entries : List LogEntry}

structure Withdraws (h h' : Host) : Prop where
  serving : h'.serving.Sublist h.serving
  admitted : h'.admitted = h.admitted

theorem withdraws_daemonStep (engine : Engine) (h : Host) (e : DaemonEvent) :
    (h.daemonStep engine e).daemon = (daemons engine).step h.daemon e ∧
      Withdraws h (h.daemonStep engine e) := by
  unfold Host.daemonStep
  split
  · exact ⟨rfl, List.nil_sublist _, rfl⟩
  · rename_i file hstep
    exact ⟨hstep.symm, List.nil_sublist _, rfl⟩
  · rename_i s hstep
    exact ⟨hstep.symm, List.Sublist.refl _, rfl⟩

/-- Of the events of a host only a connection lets somebody in. -/
inductive HostStep (engine : Engine) (h : Host) : HostEvent -> Host -> Prop where
  | daemon {e : DaemonEvent} {h' : Host} : h'.daemon = (daemons engine).step h.daemon e ->
      Withdraws h h' -> HostStep engine h (HostEvent.daemon e) h'
  | other {e : HostEvent} {h' : Host} : (forall e', e ≠ HostEvent.daemon e') ->
      h'.daemon = h.daemon -> Withdraws h h' -> HostStep engine h e h'
  | enters {alpn : Alpn} {remote : String} :
      h.receive engine alpn remote = some Reception.served ->
        HostStep engine h (HostEvent.connect alpn remote) { h with
          serving := h.serving ++ [⟨alpn, remote⟩]
          admitted := h.admitted ++ [⟨alpn, remote⟩] }

theorem host_step (engine : Engine) (h : Host) (e : HostEvent) :
    HostStep engine h e (h.step engine e) := by
  cases e with
  | daemon e =>
      rcases withdraws_daemonStep engine h e with ⟨hdaemon, hrest⟩
      exact HostStep.daemon hdaemon hrest
  | nodeUp logstore =>
      exact HostStep.other (fun _ heq => by cases heq) rfl ⟨List.nil_sublist _, rfl⟩
  | bind => exact HostStep.other (fun _ heq => by cases heq) rfl ⟨List.Sublist.refl _, rfl⟩
  | nodeDown =>
      exact HostStep.other (fun _ heq => by cases heq) rfl ⟨List.nil_sublist _, rfl⟩
  | connect alpn remote =>
      show HostStep engine h _ (h.connect engine alpn remote)
      unfold Host.connect
      split
      · rename_i hserved
        exact HostStep.enters hserved
      · exact HostStep.other (fun _ heq => by cases heq) rfl ⟨List.Sublist.refl _, rfl⟩
  | leave index =>
      exact HostStep.other (fun _ heq => by cases heq) rfl ⟨List.eraseIdx_sublist .., rfl⟩

theorem receive_served_iff (hholds : Holds engine.keys entries h.daemon) {alpn : Alpn}
    {remote : String} (hremote : remote ≠ engine.keys.ownNodeId) :
    h.receive engine alpn remote = some Reception.served <->
      (exists s, h.daemon = Daemon.up s) ∧ h.node = true ∧
        (exists p, p ∈ alpn.acceptor.permissions ∧ Authorized remote p entries) ∧
        (alpn.acceptor.engine = true -> h.bound = true) ∧
        (alpn.acceptor.logstore = true -> h.logstore = true) := by
  unfold Host.receive
  cases hdaemon : h.daemon with
  | down file => exact iff_of_false (fun heq => by cases heq) (fun ⟨⟨_, heq⟩, _⟩ => by cases heq)
  | up s =>
      rw [hdaemon] at hholds
      rcases hholds with ⟨rfl, hhealthy⟩
      have hrebuilt := rebuilt_of_ok hhealthy.projected
      have hanswers : forall p, (s.store.verifyAndAuthorize engine.keys.ownNodeId remote p).1 =
          true <-> Authorized remote p s.log.entries := fun p =>
        (hrebuilt.answers hhealthy.sane.wellFormed remote p).left _ hremote
      simp only
      cases hnode : h.node with
      | false => exact iff_of_false (fun heq => by cases heq) (fun ⟨_, heq, _⟩ => by cases heq)
      | true =>
          rw [if_pos rfl, Option.some_inj, accept_served_iff]
          simp only [hanswers]
          constructor
          · rintro ⟨hallowed, hengine, hlogstore⟩
            exact ⟨⟨s, rfl⟩, trivial, hallowed, hengine, hlogstore⟩
          · rintro ⟨_, _, hallowed, hengine, hlogstore⟩
            exact ⟨hallowed, hengine, hlogstore⟩

theorem holds_step {I : List LogEntry -> Prop} {h' : Host} {e : HostEvent}
    (hholds : Holds engine.keys entries h.daemon) (hI : I entries)
    (hstep : HostStep engine h e h') (hharmless : HarmlessHost engine h e)
    (hmore : forall e' entry, e = HostEvent.daemon e' ->
      Wrote engine h.daemon e' entry.type entry.data -> I (entries ++ [entry])) :
    exists entries', Holds engine.keys entries' h'.daemon ∧ I entries' := by
  cases hstep with
  | @daemon e' h' hdaemon _ =>
      rw [hdaemon]
      cases hholds.step e' hharmless with
      | same hsame => exact ⟨entries, hsame, hI⟩
      | more hwrote hnext => exact ⟨_, hnext, hmore _ _ rfl hwrote⟩
  | other _ hdaemon _ =>
      rw [hdaemon]
      exact ⟨entries, hholds, hI⟩
  | enters _ => exact ⟨entries, hholds, hI⟩

/-!
## After a revocation
-/

def visitsOf (n : String) (visits : List Visit) : List Visit :=
  visits.filter (fun v => v.remote = n)

/-- The peer is revoked in the log, has not been let in since, and only leaves. -/
structure ShutOut (keys : Keyring) (n : String) (before : List Visit) (h : Host) : Prop where
  withdrawn : exists entries, Holds keys entries h.daemon ∧ Withdrawn n entries
  admitted : forall v, v ∈ h.admitted -> v.remote ≠ n
  serving : (visitsOf n h.serving).Sublist before

theorem not_adds_of_wrote {n type : String} {data : List (String × Json)} {d : Daemon}
    {e : DaemonEvent} {entry : LogEntry} (hwrote : Wrote engine d e type data)
    (htype : entry.type = type) (hdata : entry.data = data)
    (hnot : forall env request s body, e = DaemonEvent.serve env request ->
      d = Daemon.up s -> ¬ Admitted engine s request body n) : ¬ Adds n entry := by
  intro hadds
  have hop : type = OP_ADD_PEER := htype.symm.trans hadds.left
  cases hwrote with
  | genesis env mtime => exact absurd hop (by decide)
  | record hevent _ =>
      rw [hop] at hevent
      exact absurd hevent (by decide)
  | @request env request s _ _ hup happends =>
      cases happends with
      | @add body _ _ n' _ _ hadmitted _ _ hadds' =>
          have hne : n' ≠ n := by
            rintro rfl
            exact hnot env request s body rfl hup hadmitted
          rcases addsPeer_other hne hadds' with htype' | hdata'
          · exact htype' hop
          · rw [← hdata] at hdata'
            exact hdata' (names_iff.mp hadds.right)
      | permissions _ _ _ _ => exact absurd hop (by decide)
      | ungated _ hungated => exact absurd hop (ungated_data hungated).right.left

theorem ShutOut.step {n : String} {before : List Visit} (hn : n ≠ engine.keys.ownNodeId)
    (hshut : ShutOut engine.keys n before h) (e : HostEvent)
    (hharmless : HarmlessHost engine h e) (hnot : NoAdd engine n h e) :
    ShutOut engine.keys n before (h.step engine e) := by
  rcases hshut.withdrawn with ⟨entries, hholds, hwithdrawn⟩
  have hstep := host_step engine h e
  have hlog : exists entries', Holds engine.keys entries' (h.step engine e).daemon ∧
      Withdrawn n entries' := by
    apply holds_step hholds hwithdrawn hstep hharmless
    intro e' entry heq hwrote
    apply hwithdrawn.snoc
    apply not_adds_of_wrote hwrote rfl rfl
    intro env request s body hserve hup
    exact hnot env request s body (heq.trans (congrArg HostEvent.daemon hserve)) hup
  generalize h.step engine e = h' at hstep hlog
  refine ⟨hlog, ?_, ?_⟩
  · cases hstep with
    | daemon _ hrest => exact hrest.admitted ▸ hshut.admitted
    | other _ _ hrest => exact hrest.admitted ▸ hshut.admitted
    | @enters alpn remote hserved =>
        intro v hv
        rcases List.mem_append.mp hv with hold | hnew
        · exact hshut.admitted v hold
        · rw [List.mem_singleton.mp hnew]
          rintro rfl
          rcases ((receive_served_iff hholds hn).mp hserved).right.right.left with ⟨p, _, hauth⟩
          exact not_authorized_of_withdrawn hwithdrawn p hauth
  · cases hstep with
    | daemon _ hrest => exact (hrest.serving.filter _).trans hshut.serving
    | other _ _ hrest => exact (hrest.serving.filter _).trans hshut.serving
    | @enters alpn remote hserved =>
        have hother : remote ≠ n := by
          rintro rfl
          rcases ((receive_served_iff hholds hn).mp hserved).right.right.left with ⟨p, _, hauth⟩
          exact not_authorized_of_withdrawn hwithdrawn p hauth
        have hsame : visitsOf n (h.serving ++ [⟨alpn, remote⟩]) = visitsOf n h.serving := by
          unfold visitsOf
          rw [List.filter_append]
          simp [hother]
        show (visitsOf n (h.serving ++ [⟨alpn, remote⟩])).Sublist before
        rw [hsame]
        exact hshut.serving

/-!
## Without the password
-/

/-- The log authorizes nobody it did not authorize before. -/
def NoGain (before entries : List LogEntry) : Prop :=
  forall n protocol, Authorized n protocol entries -> Authorized n protocol before

structure Guarded (keys : Keyring) (before : List LogEntry) (h : Host) : Prop where
  gains : exists entries, Holds keys entries h.daemon ∧ NoGain before entries
  admitted : forall v, v ∈ h.admitted -> v.remote = keys.ownNodeId ∨
    exists p, p ∈ v.alpn.acceptor.permissions ∧ Authorized v.remote p before

theorem restricting_of_wrote {d : Daemon} {e : DaemonEvent} {entry : LogEntry}
    (hwrote : Wrote engine d e entry.type entry.data)
    (hnot : forall env request body, e = DaemonEvent.serve env request ->
      request.body = Except.ok body -> engine.checkPassword body ≠ Except.ok true) :
    Restricting entry := by
  generalize htype : entry.type = type at hwrote
  generalize entry.data = data at hwrote
  unfold Restricting
  rw [htype]
  cases hwrote with
  | genesis env mtime => exact ⟨by decide, by decide⟩
  | record hevent _ =>
      constructor
      · rintro rfl
        exact absurd hevent (by decide)
      · rintro rfl
        exact absurd hevent (by decide)
  | @request env request s _ _ hup happends =>
      cases happends with
      | add hadmitted _ _ _ =>
          exact absurd hadmitted.password (hnot env request _ rfl hadmitted.read)
      | permissions hbody haccepted _ _ =>
          exact absurd haccepted (hnot env request _ rfl hbody)
      | ungated _ hungated => exact (ungated_data hungated).right

theorem Guarded.step {before : List LogEntry} (hguarded : Guarded engine.keys before h)
    (e : HostEvent) (hharmless : HarmlessHost engine h e) (hnot : NoPassword engine h e) :
    Guarded engine.keys before (h.step engine e) := by
  rcases hguarded.gains with ⟨entries, hholds, hgains⟩
  have hstep := host_step engine h e
  have hlog : exists entries', Holds engine.keys entries' (h.step engine e).daemon ∧
      NoGain before entries' := by
    apply holds_step hholds hgains hstep hharmless
    intro e' entry heq hwrote n protocol hauth
    apply hgains n protocol
    refine authorized_of_snoc (restricting_of_wrote hwrote ?_) hauth
    intro env request body hserve
    exact hnot env request body (heq.trans (congrArg HostEvent.daemon hserve))
  generalize h.step engine e = h' at hstep hlog
  refine ⟨hlog, ?_⟩
  cases hstep with
  | daemon _ hrest => exact hrest.admitted ▸ hguarded.admitted
  | other _ _ hrest => exact hrest.admitted ▸ hguarded.admitted
  | @enters alpn remote hserved =>
      intro v hv
      rcases List.mem_append.mp hv with hold | hnew
      · exact hguarded.admitted v hold
      · rw [List.mem_singleton.mp hnew]
        by_cases hremote : remote = engine.keys.ownNodeId
        · exact Or.inl hremote
        · rcases ((receive_served_iff hholds hremote).mp hserved).right.right.left with
            ⟨p, hp, hauth⟩
          exact Or.inr ⟨p, hp, hgains remote p hauth⟩

end Steps

/-!
## Main result
-/

/--
From any sound daemon on, whatever it goes through: the handlers let in exactly whom the log
of the moment authorizes for a permission they ask for.  A peer that is revoked is not let in
by any of them until a request adds it again, though what it had open may go on.  And without
the password nobody comes in whom the log did not authorize at the start.
-/
theorem inbound_law {engine : Engine} {h : Host} {entries : List LogEntry}
    (hholds : Holds engine.keys entries h.daemon) (hnew : h.admitted = []) :
    (forall past t, (hosts engine h).Run (HarmlessHost engine) past t ->
      forall s, t.daemon = Daemon.up s -> forall (alpn : Alpn) remote,
        remote ≠ engine.keys.ownNodeId ->
        (t.receive engine alpn remote = some Reception.served <->
          t.node = true ∧
          (exists p, p ∈ alpn.acceptor.permissions ∧ Authorized remote p s.log.entries) ∧
          (alpn.acceptor.engine = true -> t.bound = true) ∧
          (alpn.acceptor.logstore = true -> t.logstore = true))) ∧
    (forall n, n ≠ engine.keys.ownNodeId -> Withdrawn n entries -> forall past t,
      (hosts engine h).Run (fun h e => HarmlessHost engine h e ∧ NoAdd engine n h e) past t ->
        (forall v, v ∈ t.admitted -> v.remote ≠ n) ∧
          (visitsOf n t.serving).Sublist (visitsOf n h.serving)) ∧
    (forall past t,
      (hosts engine h).Run (fun h e => HarmlessHost engine h e ∧ NoPassword engine h e) past t ->
        forall v, v ∈ t.admitted -> v.remote = engine.keys.ownNodeId ∨
          exists p, p ∈ v.alpn.acceptor.permissions ∧ Authorized v.remote p entries) := by
  have hnobody : forall v, ¬ v ∈ h.admitted := by
    rw [hnew]
    exact fun v => List.not_mem_nil
  refine ⟨?_, ?_, ?_⟩
  · intro past t hrun s hup alpn remote hremote
    have hsound : exists entries', Holds engine.keys entries' t.daemon := by
      apply hrun.invariant (I := fun t => exists entries', Holds engine.keys entries' t.daemon)
      · rintro t rfl
        exact ⟨entries, hholds⟩
      · rintro t e ⟨entries', ht⟩ hharmless
        rcases holds_step (I := fun _ => True) ht trivial (host_step engine t e) hharmless
          (fun _ _ _ _ => trivial) with ⟨entries'', hnext, _⟩
        exact ⟨entries'', hnext⟩
    rcases hsound with ⟨entries', ht⟩
    rw [receive_served_iff ht hremote]
    rw [hup] at ht ⊢
    rw [ht.left]
    exact ⟨fun hserved => hserved.right, fun hserved => ⟨⟨s, rfl⟩, hserved⟩⟩
  · intro n hn hwithdrawn past t hrun
    have hshut : ShutOut engine.keys n (visitsOf n h.serving) t := by
      apply hrun.invariant (I := ShutOut engine.keys n (visitsOf n h.serving))
      · rintro t rfl
        exact ⟨⟨entries, hholds, hwithdrawn⟩, fun v hv => absurd hv (hnobody v),
          List.Sublist.refl _⟩
      · exact fun t e ht hguard => ht.step hn e hguard.left hguard.right
    exact ⟨hshut.admitted, hshut.serving⟩
  · intro past t hrun
    have hguarded : Guarded engine.keys entries t := by
      apply hrun.invariant (I := Guarded engine.keys entries)
      · rintro t rfl
        exact ⟨⟨entries, hholds, fun _ _ hauth => hauth⟩, fun v hv => absurd hv (hnobody v)⟩
      · exact fun t e ht hguard => ht.step e hguard.left hguard.right
    exact hguarded.admitted

/-! A peer is added with `shell` and revoked.  Whatever happens after, it is not let in. -/

theorem inbound_law_revoked :
    exists s, (daemons testEngine).exec (Daemon.down none) revokedScript = Daemon.up s ∧
      forall past t, (hosts testEngine ⟨Daemon.up s, true, true, true, [], []⟩).Run
        (fun h e => HarmlessHost testEngine h e ∧ NoAdd testEngine peerId h e) past t ->
          forall v, v ∈ t.admitted -> v.remote ≠ peerId := by
  have hstart : (daemons testEngine).Run (Harmless testEngine) [] (Daemon.down none) :=
    Machine.Run.start ⟨none, rfl, rfl, rfl⟩
  rcases holds_run (hstart.exec revokedScript
    ⟨trivial, ⟨trivial, fun _ s _ => harmless_postShell s⟩,
      ⟨trivial, fun _ s _ => harmless_deletePeer s⟩, trivial⟩) with ⟨entries, hholds⟩
  have hwithdrawn : Withdrawn peerId entries := by
    rw [← hholds.left]
    exact ⟨[_, _], _, [], rfl, ⟨rfl, rfl⟩, fun e he => by cases he⟩
  refine ⟨_, rfl, ?_⟩
  intro past t hrun
  exact ((inbound_law (h := ⟨_, true, true, true, [], []⟩) hholds rfl).right.left peerId
    (by decide) hwithdrawn past t hrun).left

end Control
end PanicMonitr
