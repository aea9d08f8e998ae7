import PanicMonitr.Control.Clients
import PanicMonitr.Control.Requests
import PanicMonitr.Trust.Authorization

/-!
# Permission commands through the socket

`--set-permissions` and `--add-permission` ask the daemon for its peers, prompt for the
password, and then put a whole set of permissions.  What `--add-permission` puts is made
from the permissions it was shown, which others may have changed in the meantime.
-/

namespace PanicMonitr
namespace Control

open Foundation
open Trust

/-!
## Commands
-/

/-- `[p.strip() for p in csv.split(",") if p.strip()]` -/
def csvPermissions (csv : String) : List String :=
  ((csv.toList.splitOn ',').map (fun p => stripText (String.ofList p))).filter (fun p => p ≠ "")

inductive Command where
  | setPermissions (csv : String)
  | addPermission (csv : String)

/-- `_merge(current)` -/
def merge (perms current : List String) : List String :=
  current ++ perms.filter (fun p => p ∉ current)

/-- The permissions a command puts when the peer has the current ones. -/
def Command.apply (current : List String) : Command -> List String
  | setPermissions csv => csvPermissions csv
  | addPermission csv => merge (csvPermissions csv) current

/-- How far a client is: it has resolved its target and read the permissions, or is done. -/
inductive Phase where
  | idle
  | fetched (nid : String) (current : List String)
  | succeeded
  | failed

structure Client where
  target : String
  command : Command
  password : String
  phase : Phase

/-- `GET /v1/peers` -/
def listRequest (euid : Option Nat) : Request where
  euid := euid
  method := Method.get
  path := "/v1/peers"
  queryTag := none
  body := Except.ok (Json.obj [])
  hbody := by
    intro v hv
    cases hv
    exact ⟨List.nodup_nil, trivial⟩

def permsBody (perms : List String) (password : String) : Json :=
  Json.obj [("permissions", Json.arr (perms.map Json.str)), ("password", Json.str password)]

/-- `PUT /v1/peers/<nid>/perms` -/
def permsRequest (euid : Option Nat) (nid : String) (perms : List String)
    (password : String) : Request where
  euid := euid
  method := Method.put
  path := "/v1/peers/" ++ nid ++ "/perms"
  queryTag := none
  body := Except.ok (permsBody perms password)
  hbody := by
    intro v hv
    cases hv
    have hkeys : ["permissions", "password"].Nodup := by decide
    exact ⟨hkeys, wfItems_texts perms, trivial, trivial⟩

def Response.succeeds : Response -> Bool
  | json status _ => decide (200 <= status ∧ status < 300)
  | failed _ _ => false

namespace Client

variable (engine : Engine) (env : Serving) (euid : Option Nat)

def read (peers : List TrustedPeer) (client : Client) : Phase :=
  match indexTarget peers client.target with
  | none => Phase.failed
  | some nid =>
      Phase.fetched nid ((Assoc.get? nid (peerIndex peers)).elim [] TrustedPeer.permissions)

def list (d : Daemon) (client : Client) : Phase :=
  match d with
  | Daemon.down _ => Phase.failed
  | Daemon.up s =>
      match (engine.serve env (listRequest euid) s).2 with
      | Answer.returned response =>
          if response.succeeds then client.read s.store.peers else Phase.failed
      | _ => Phase.failed

def submit (nid : String) (current : List String) (d : Daemon) (client : Client) :
    Daemon × Phase :=
  match d with
  | Daemon.down file => (Daemon.down file, Phase.failed)
  | Daemon.up s =>
      let served := engine.serve env
        (permsRequest euid nid (client.command.apply current) client.password) s
      match served.2 with
      | Answer.returned response =>
          (Daemon.after served, if response.succeeds then Phase.succeeded else Phase.failed)
      | _ => (Daemon.after served, Phase.failed)

end Client

/-!
## Sessions
-/

structure Session where
  daemon : Daemon
  clients : List Client

inductive CliEvent where
  | get (i : Nat) (env : Serving) (euid : Option Nat)
  | put (i : Nat) (env : Serving) (euid : Option Nat)

def Session.step (engine : Engine) (w : Session) : CliEvent -> Session
  | CliEvent.get i env euid =>
      match w.clients[i]? with
      | none => w
      | some client =>
          match client.phase with
          | Phase.idle =>
              { w with clients :=
                  w.clients.set i { client with phase := client.list engine env euid w.daemon } }
          | _ => w
  | CliEvent.put i env euid =>
      match w.clients[i]? with
      | none => w
      | some client =>
          match client.phase with
          | Phase.fetched nid current =>
              let result := client.submit engine env euid nid current w.daemon
              { daemon := result.1
                clients := w.clients.set i { client with phase := result.2 } }
          | _ => w

/-- Sessions that start with a running daemon and clients that have done nothing yet. -/
def sessions (engine : Engine) (s : TrustState) (clients : List Client) :
    Machine Session CliEvent where
  start w := w = { daemon := Daemon.up s, clients := clients } ∧
    forall c, c ∈ clients -> c.phase = Phase.idle
  step := Session.step engine

/--
Once all commands have succeeded, the permissions of the peer are what the commands make
of the ones it had, one after another in some order.
-/
def Serializable (nid : String) (s : TrustState) (clients : List Client) (w : Session) : Prop :=
  (forall c, c ∈ w.clients -> c.phase = Phase.succeeded) ->
    forall peer, s.store.getPeer nid = some peer ->
      exists t peer' order, w.daemon = Daemon.up t ∧ t.store.getPeer nid = some peer' ∧
        List.Perm order (clients.map Client.command) ∧
        forall p, p ∈ peer'.permissions <-> p ∈ order.foldl Command.apply peer.permissions

/-- The set an `--add-permission` puts is the one it would make of the set in force. -/
def Command.Fresh (shown current : List String) : Command -> Prop
  | setPermissions _ => True
  | addPermission csv =>
      forall p, p ∈ merge (csvPermissions csv) shown <-> p ∈ merge (csvPermissions csv) current

/--
All targets resolve to the one peer, and what a command puts is made from permissions that
are still good.
-/
def Timely (nid : String) (w : Session) : CliEvent -> Prop
  | CliEvent.get i _ _ => forall s c n, w.daemon = Daemon.up s -> w.clients[i]? = some c ->
      indexTarget s.store.peers c.target = some n -> n = nid
  | CliEvent.put i _ _ => forall s c n shown peer, w.daemon = Daemon.up s ->
      w.clients[i]? = some c -> c.phase = Phase.fetched n shown ->
        s.store.getPeer nid = some peer -> c.command.Fresh shown peer.permissions

/-!
## What a command leaves
-/

theorem mem_merge {perms current : List String} {p : String} :
    p ∈ merge perms current <-> p ∈ current ∨ p ∈ perms := by
  unfold merge
  rw [List.mem_append, List.mem_filter, decide_eq_true_iff]
  constructor
  · intro h
    rcases h with hold | ⟨hnew, _⟩
    · exact Or.inl hold
    · exact Or.inr hnew
  · intro h
    by_cases hold : p ∈ current
    · exact Or.inl hold
    · rcases h with hcurrent | hnew
      · exact Or.inl hcurrent
      · exact Or.inr ⟨hnew, hold⟩

theorem Command.apply_congr (command : Command) {current current' : List String}
    (h : forall p, p ∈ current <-> p ∈ current') (p : String) :
    p ∈ command.apply current <-> p ∈ command.apply current' := by
  cases command with
  | setPermissions csv => exact Iff.rfl
  | addPermission csv => rw [Command.apply, Command.apply, mem_merge, mem_merge, h p]

theorem Command.Fresh.apply {command : Command} {shown current : List String}
    (h : command.Fresh shown current) (p : String) :
    p ∈ command.apply shown <-> p ∈ command.apply current := by
  cases command with
  | setPermissions csv => exact Iff.rfl
  | addPermission csv => exact h p

/-- A log that holds an `add_peer` of the peer. -/
def Enrolled (nid : String) (s : TrustState) : Prop :=
  exists e, e ∈ s.log.entries ∧ Adds nid e

/-- After a successful update the peer has the permissions that were put. -/
theorem permissions_of_commit {keys : Keyring} {env : Surroundings} {nid : String}
    {perms : List String} {s s' : TrustState} (henrolled : Enrolled nid s)
    (h : commit keys OP_UPDATE_PERMISSIONS
      [("node_id", Json.str nid), ("permissions", Json.arr (perms.map Json.str))] env s =
        (s', Answer.returned true)) :
    Enrolled nid s' ∧ exists peer, s'.store.getPeer nid = some peer ∧
      peer.permissions = perms := by
  rcases commit_true h with ⟨⟨e, ⟨htype, hdata, _⟩, hentries⟩, hrebuild⟩
  have hrebuilt := rebuilt_of_ok hrebuild
  have henrolled' : Enrolled nid s' := by
    rcases henrolled with ⟨add, hadd, hadds⟩
    refine ⟨add, ?_, hadds⟩
    rw [hentries]
    exact List.mem_append_left _ hadd
  have hupdates : Updates nid e := by
    refine ⟨htype, names_iff.mpr ?_⟩
    rw [hdata]
    rfl
  refine ⟨henrolled', ?_⟩
  rcases hrebuilt.key_iff.mpr henrolled' with ⟨peer, hget⟩
  refine ⟨peer, hget, ?_⟩
  rcases hrebuilt.known hget with ⟨view, hknown, hrecord⟩
  cases hknown with
  | @since _ before after add hlast _ _ hlist =>
      -- the update is the last entry, so it stands behind the last `add_peer`
      have hsplit := hlast.split
      rw [hentries] at hsplit
      rcases List.eq_nil_or_concat after with rfl | ⟨init, last, rfl⟩
      · have hadd := List.append_inj_right' hsplit rfl
        have hnot : OP_UPDATE_PERMISSIONS ≠ OP_ADD_PEER := by decide
        rw [← List.singleton_inj.mp hadd] at hlast
        exact absurd (htype.symm.trans hlast.adds.left) hnot
      · rw [List.concat_eq_append, ← List.cons_append, ← List.append_assoc] at hsplit
        have hlast' := List.append_inj_right' hsplit rfl
        rw [List.concat_eq_append, effectivePermissions_snoc,
          ← List.singleton_inj.mp hlast', if_pos hupdates, LogEntry.getD, hdata] at hlist
        apply texts_injective
        rw [← hrecord.permissions]
        exact (Except.ok.inj hlist).symm

/-!
## The request that puts permissions
-/

theorem permsPath (nid : String) :
    ("/v1/peers/" ++ nid ++ "/perms").toList =
      '/' :: ("v1".toList ++ '/' :: ("peers".toList ++ '/' ::
        (nid.toList ++ '/' :: "perms".toList))) := by
  rw [String.toList_append, String.toList_append, List.append_assoc]
  rfl

theorem route_perms {engine : Engine} {env : Serving} {euid : Option Nat} {nid password : String}
    {perms : List String} (hvalid : validateNodeId nid = true) (s : TrustState) :
    engine.route env (permsRequest euid nid perms password) s =
      engine.putPerms env nid (permsBody perms password) s := by
  have hput : (permsRequest euid nid perms password).method = Method.put := rfl
  have hparts : pathParts (trimPath (permsRequest euid nid perms password).path) =
      ["v1", "peers", nid, "perms"] := by
    exact pathParts_trimPath (permsPath nid) (slash_not_mem hvalid) (by decide) (by decide)
  unfold Engine.route
  simp only [hput, hparts]
  simp [Engine.routePeers, permsRequest, attempt]

theorem attempt_returned {α β : Type} {s s' : TrustState} {x : Except PyError α}
    {next : α -> TrustState × Answer β} {b : β}
    (h : attempt s x next = (s', Answer.returned b)) :
    exists a, x = Except.ok a ∧ next a = (s', Answer.returned b) := by
  cases x with
  | error e => cases h
  | ok a => exact ⟨a, rfl, h⟩

theorem orRefusal_none {refusal : String} {result : TrustState × Answer Bool} {s : TrustState}
    (h : orRefusal refusal result = (s, Answer.returned none)) :
    result = (s, Answer.returned true) := by
  rcases result with ⟨t, answer⟩
  cases answer with
  | returned b =>
      cases b with
      | true =>
          cases h
          rfl
      | false => cases h
  | raised e => cases h
  | crashed => cases h

theorem reply_succeeds {result : EngineResult} {s : TrustState} {response : Response}
    (h : reply result = (s, Answer.returned response)) (hsucceeds : response.succeeds = true) :
    result = (s, Answer.returned none) := by
  rcases result with ⟨t, answer⟩
  cases answer with
  | returned err =>
      cases err with
      | none =>
          cases h
          rfl
      | some err =>
          cases h
          cases hsucceeds
  | raised e => cases h
  | crashed => cases h

theorem updatePermissions_true {keys : Keyring} {env : Surroundings} {nid : String}
    {perms : List Json} {s s' : TrustState}
    (h : updatePermissions keys env nid (Json.arr perms) s = (s', Answer.returned true)) :
    commit keys OP_UPDATE_PERMISSIONS
      [("node_id", Json.str nid), ("permissions", Json.arr perms)] env s =
        (s', Answer.returned true) := by
  unfold updatePermissions at h
  simp only [pyList] at h
  split at h
  · cases h
  · cases h
  split at h
  · cases h
  split at h
  · cases h
  · exact h

/-- A request that succeeds has appended an update with just the permissions it brought. -/
theorem commit_of_putPerms {engine : Engine} {env : Serving} {nid password : String}
    {perms : List String} {s s' : TrustState} {response : Response}
    (h : engine.putPerms env nid (permsBody perms password) s =
      (s', Answer.returned response)) (hsucceeds : response.succeeds = true) :
    commit engine.keys OP_UPDATE_PERMISSIONS
      [("node_id", Json.str nid), ("permissions", Json.arr (perms.map Json.str))]
      env.toSurroundings s = (s', Answer.returned true) := by
  unfold Engine.putPerms at h
  rcases attempt_returned h with ⟨verified, _, h⟩
  split at h
  · cases h
    cases hsucceeds
  rcases attempt_returned h with ⟨permissions, hpermissions, h⟩
  cases hpermissions
  have hupdate := reply_succeeds h hsucceeds
  unfold Engine.updatePeerPermissions Engine.mutatePeer at hupdate
  split at hupdate
  · cases hupdate
  · exact updatePermissions_true (orRefusal_none hupdate)

theorem commit_of_serve {engine : Engine} {env : Serving} {euid : Option Nat}
    {nid password : String} {perms : List String} {s s' : TrustState} {response : Response}
    (hvalid : validateNodeId nid = true)
    (h : engine.serve env (permsRequest euid nid perms password) s =
      (s', Answer.returned response)) (hsucceeds : response.succeeds = true) :
    commit engine.keys OP_UPDATE_PERMISSIONS
      [("node_id", Json.str nid), ("permissions", Json.arr (perms.map Json.str))]
      env.toSurroundings s = (s', Answer.returned true) := by
  unfold Engine.serve at h
  split at h
  · cases h
    cases hsucceeds
  split at h
  · cases h
    cases hsucceeds
  rw [route_perms hvalid] at h
  split at h
  · cases h
    cases hsucceeds
  · exact commit_of_putPerms h hsucceeds

/-!
## Runs of sessions
-/

def Client.isDone (client : Client) : Bool :=
  match client.phase with
  | Phase.succeeded => true
  | _ => false

def Session.done (w : Session) : List Command :=
  (w.clients.filter Client.isDone).map Client.command

/-- The peer has what the commands done so far make of its first permissions, in some order. -/
structure Serialized (nid : String) (initial : List String) (w : Session) : Prop where
  targets : forall c n shown, c ∈ w.clients -> c.phase = Phase.fetched n shown -> n = nid
  state : exists t peer order, w.daemon = Daemon.up t ∧ Enrolled nid t ∧
    t.store.getPeer nid = some peer ∧ List.Perm order w.done ∧
    forall p, p ∈ peer.permissions <-> p ∈ order.foldl Command.apply initial

def Session.AnyFailed (w : Session) : Prop :=
  exists c, c ∈ w.clients ∧ c.phase = Phase.failed

/-- The client with number `i` stands somewhere, and setting it changes nothing else. -/
theorem split_set {clients : List Client} {i : Nat} {old : Client}
    (h : clients[i]? = some old) (new : Client) :
    exists front back, clients = front ++ old :: back ∧
      clients.set i new = front ++ new :: back := by
  rcases List.getElem?_eq_some_iff.mp h with ⟨hi, hget⟩
  have hsplit : exists front back, clients = front ++ clients[i] :: back ∧
      front.length = i ∧ clients.set i new = front ++ new :: back :=
    List.exists_of_set hi
  rcases hsplit with ⟨front, back, hsplit, _, hset⟩
  rw [hget] at hsplit
  exact ⟨front, back, hsplit, hset⟩

/-- A step moves one client at most, from `idle` or from `fetched`. -/
inductive Moved (engine : Engine) (w : Session) : CliEvent -> Session -> Prop where
  | still (e : CliEvent) : Moved engine w e w
  | listed {i : Nat} {env : Serving} {euid : Option Nat} {front back : List Client}
      {client : Client} : w.clients[i]? = some client ->
      w.clients = front ++ client :: back -> client.phase = Phase.idle ->
        Moved engine w (CliEvent.get i env euid)
          { daemon := w.daemon
            clients := front ++
              { client with phase := client.list engine env euid w.daemon } :: back }
  | submitted {i : Nat} {env : Serving} {euid : Option Nat} {front back : List Client}
      {client : Client} {n : String} {shown : List String} : w.clients[i]? = some client ->
      w.clients = front ++ client :: back -> client.phase = Phase.fetched n shown ->
        Moved engine w (CliEvent.put i env euid)
          { daemon := (client.submit engine env euid n shown w.daemon).1
            clients := front ++
              { client with
                phase := (client.submit engine env euid n shown w.daemon).2 } :: back }

section Sessions

variable {engine : Engine} {nid : String} {initial : List String}

theorem moved_step (w : Session) (e : CliEvent) : Moved engine w e (w.step engine e) := by
  cases e with
  | get i env euid =>
      simp only [Session.step]
      split
      · exact Moved.still _
      · rename_i client hget
        split
        · rename_i hphase
          rcases split_set hget { client with phase := client.list engine env euid w.daemon }
            with ⟨front, back, hsplit, hset⟩
          rw [hset]
          exact Moved.listed hget hsplit hphase
        · exact Moved.still _
  | put i env euid =>
      simp only [Session.step]
      split
      · exact Moved.still _
      · rename_i client hget
        split
        · rename_i n shown hphase
          rcases split_set hget
            { client with phase := (client.submit engine env euid n shown w.daemon).2 }
            with ⟨front, back, hsplit, hset⟩
          rw [hset]
          exact Moved.submitted hget hsplit hphase
        · exact Moved.still _

theorem commands_step (w : Session) (e : CliEvent) :
    (w.step engine e).clients.map Client.command = w.clients.map Client.command := by
  have hmoved : Moved engine w e (w.step engine e) := moved_step w e
  generalize w.step engine e = w' at hmoved
  cases hmoved with
  | still _ => rfl
  | listed _ hsplit _ => rw [hsplit, List.map_append, List.map_append, List.map_cons,
      List.map_cons]
  | submitted _ hsplit _ => rw [hsplit, List.map_append, List.map_append, List.map_cons,
      List.map_cons]

theorem anyFailed_step {w : Session} (h : w.AnyFailed) (e : CliEvent) :
    (w.step engine e).AnyFailed := by
  have hmoved : Moved engine w e (w.step engine e) := moved_step w e
  generalize w.step engine e = w' at hmoved
  rcases h with ⟨c, hc, hfailed⟩
  have hother : forall {front back : List Client} {client : Client} (new : Client),
      w.clients = front ++ client :: back -> client.phase ≠ Phase.failed ->
        c ∈ front ++ new :: back := by
    intro front back client new hsplit hphase
    rw [hsplit] at hc
    rcases List.mem_append.mp hc with hfront | hrest
    · exact List.mem_append_left _ hfront
    · rcases List.mem_cons.mp hrest with heq | hback
      · rw [heq] at hfailed
        exact absurd hfailed hphase
      · exact List.mem_append_right _ (List.mem_cons_of_mem _ hback)
  cases hmoved with
  | still _ => exact ⟨c, hc, hfailed⟩
  | listed _ hsplit hphase =>
      refine ⟨c, hother _ hsplit ?_, hfailed⟩
      rw [hphase]
      exact Phase.noConfusion
  | submitted _ hsplit hphase =>
      refine ⟨c, hother _ hsplit ?_, hfailed⟩
      rw [hphase]
      exact Phase.noConfusion

theorem list_cases (engine : Engine) (client : Client) (env : Serving) (euid : Option Nat) (d : Daemon) :
    client.list engine env euid d = Phase.failed ∨
      exists s n shown, d = Daemon.up s ∧ indexTarget s.store.peers client.target = some n ∧
        client.list engine env euid d = Phase.fetched n shown := by
  unfold Client.list
  cases d with
  | down _ => exact Or.inl rfl
  | up s =>
      simp only
      split
      · split
        · unfold Client.read
          cases htarget : indexTarget s.store.peers client.target with
          | none => exact Or.inl rfl
          | some n => exact Or.inr ⟨s, n, _, rfl, htarget, rfl⟩
        · exact Or.inl rfl
      · exact Or.inl rfl

theorem submit_cases (engine : Engine) (client : Client) (env : Serving) (euid : Option Nat)
    (shown : List String) (d : Daemon) (hvalid : validateNodeId nid = true) :
    (client.submit engine env euid nid shown d).2 = Phase.failed ∨
      exists s s', d = Daemon.up s ∧
        client.submit engine env euid nid shown d = (Daemon.up s', Phase.succeeded) ∧
        commit engine.keys OP_UPDATE_PERMISSIONS
          [("node_id", Json.str nid),
            ("permissions", Json.arr ((client.command.apply shown).map Json.str))]
          env.toSurroundings s = (s', Answer.returned true) := by
  unfold Client.submit
  cases d with
  | down _ => exact Or.inl rfl
  | up s =>
      simp only
      rcases hserved : engine.serve env
        (permsRequest euid nid (client.command.apply shown) client.password) s with
        ⟨s', answer⟩
      cases answer with
      | raised e => exact Or.inl rfl
      | crashed => exact Or.inl rfl
      | returned response =>
          simp only
          by_cases hsucceeds : response.succeeds = true
          · right
            refine ⟨s, s', rfl, ?_, commit_of_serve hvalid hserved hsucceeds⟩
            rw [if_pos hsucceeds]
            rfl
          · left
            rw [if_neg hsucceeds]

theorem done_pending {w : Session} {front back : List Client} {client : Client}
    (hsplit : w.clients = front ++ client :: back) (h : client.isDone = false) :
    w.done = (front.filter Client.isDone).map Client.command ++
      (back.filter Client.isDone).map Client.command := by
  unfold Session.done
  rw [hsplit, List.filter_append,
    List.filter_cons_of_neg (by rw [h]; exact Bool.false_ne_true), List.map_append]

theorem done_succeeded {w : Session} {front back : List Client} {client : Client}
    (hsplit : w.clients = front ++ client :: back) (h : client.isDone = true) :
    w.done = (front.filter Client.isDone).map Client.command ++
      client.command :: (back.filter Client.isDone).map Client.command := by
  unfold Session.done
  rw [hsplit, List.filter_append, List.filter_cons_of_pos h, List.map_append, List.map_cons]

theorem isDone_pending {client : Client} (h : client.phase ≠ Phase.succeeded) :
    client.isDone = false := by
  unfold Client.isDone
  split
  · rename_i hphase
    exact absurd hphase h
  · rfl

/-- The fetched peer is the one peer, also after one client was replaced. -/
theorem targets_replace {w : Session} (h : Serialized nid initial w)
    {front back : List Client} {client new : Client}
    (hsplit : w.clients = front ++ client :: back)
    (hnew : forall n shown, new.phase = Phase.fetched n shown -> n = nid) :
    forall c n shown, c ∈ front ++ new :: back -> c.phase = Phase.fetched n shown ->
      n = nid := by
  intro c n shown hc hphase
  have hold : forall d, d ∈ front ∨ d ∈ back -> d ∈ w.clients := by
    intro d hd
    rw [hsplit]
    rcases hd with hfront | hback
    · exact List.mem_append_left _ hfront
    · exact List.mem_append_right _ (List.mem_cons_of_mem _ hback)
  rcases List.mem_append.mp hc with hfront | hrest
  · exact h.targets c n shown (hold c (Or.inl hfront)) hphase
  · rcases List.mem_cons.mp hrest with heq | hback
    · rw [heq] at hphase
      exact hnew n shown hphase
    · exact h.targets c n shown (hold c (Or.inr hback)) hphase

theorem serialized_step {w : Session} (h : Serialized nid initial w)
    (hvalid : validateNodeId nid = true) {e : CliEvent} (htimely : Timely nid w e) :
    (w.step engine e).AnyFailed ∨ Serialized nid initial (w.step engine e) := by
  have hmoved : Moved engine w e (w.step engine e) := moved_step w e
  generalize w.step engine e = w' at hmoved
  cases hmoved with
  | still _ => exact Or.inr h
  | @listed i env euid front back client hget hsplit hphase =>
      have hpending : client.isDone = false :=
        isDone_pending (by rw [hphase]; exact Phase.noConfusion)
      have hlist := list_cases engine client env euid w.daemon
      generalize client.list engine env euid w.daemon = phase at hlist
      rcases hlist with rfl | ⟨s, n, shown, hup, htarget, rfl⟩
      · left
        exact ⟨_, List.mem_append_right _ (List.mem_cons_self ..), rfl⟩
      · right
        have hn : n = nid := htimely s client n hup hget htarget
        constructor
        · apply targets_replace h hsplit
          intro m shown' hnew
          cases hnew
          exact hn
        · rcases h.state with ⟨t, peer, order, hdaemon, henrolled, hpeer, hperm, hmem⟩
          refine ⟨t, peer, order, hdaemon, henrolled, hpeer, ?_, hmem⟩
          rw [done_pending hsplit hpending] at hperm
          rw [done_pending rfl (isDone_pending Phase.noConfusion)]
          exact hperm
  | @submitted i env euid front back client n shown hget hsplit hphase =>
      have hn : n = nid := h.targets client n shown (List.mem_of_getElem? hget) hphase
      rw [hn] at hphase ⊢
      have hpending : client.isDone = false :=
        isDone_pending (by rw [hphase]; exact Phase.noConfusion)
      have hsubmit := submit_cases engine client env euid shown w.daemon hvalid
      generalize client.submit engine env euid nid shown w.daemon = result at hsubmit
      rcases hsubmit with hfailed | ⟨s, s', hup, rfl, hcommit⟩
      · left
        exact ⟨_, List.mem_append_right _ (List.mem_cons_self ..), hfailed⟩
      · right
        rcases h.state with ⟨t, peer, order, hdaemon, henrolled, hpeer, hperm, hmem⟩
        cases hup.symm.trans hdaemon
        rcases permissions_of_commit henrolled hcommit with
          ⟨henrolled', peer', hpeer', hpermissions⟩
        have hfresh := htimely s client nid shown peer hup hget hphase hpeer
        constructor
        · apply targets_replace h hsplit
          intro m shown' hnew
          cases hnew
        · refine ⟨s', peer', order ++ [client.command], rfl, henrolled', hpeer', ?_, ?_⟩
          · rw [done_pending hsplit hpending] at hperm
            rw [done_succeeded rfl rfl]
            have hcons := (List.perm_append_singleton client.command order).trans
              (hperm.cons client.command)
            exact hcons.trans List.perm_middle.symm
          · intro p
            rw [hpermissions, List.foldl_append, List.foldl_cons, List.foldl_nil, hfresh.apply p]
            exact client.command.apply_congr hmem p

end Sessions

/-- The store is the projection of the log as it once was. -/
def Projected (s : TrustState) : Prop :=
  exists entries more, s.log.entries = entries ++ more ∧
    rebuildFromLog entries = Except.ok s.store

theorem enrolled_of_projected {nid : String} {s : TrustState} {peer : TrustedPeer}
    (h : Projected s) (hget : s.store.getPeer nid = some peer) : Enrolled nid s := by
  rcases h with ⟨entries, more, hentries, hrebuild⟩
  rcases (rebuilt_of_ok hrebuild).key_iff.mp ⟨peer, hget⟩ with ⟨add, hadd, hadds⟩
  refine ⟨add, ?_, hadds⟩
  rw [hentries]
  exact List.mem_append_left _ hadd

/--
In every run of clients on one peer in which no `--add-permission` puts what it made from
outdated permissions, the commands are serializable.
-/
theorem permissions_serializable {engine : Engine} {nid : String} {s : TrustState}
    {clients : List Client} (hvalid : validateNodeId nid = true) (hprojected : Projected s)
    {past : List Session} {w : Session}
    (hrun : (sessions engine s clients).Run (Timely nid) past w) :
    Serializable nid s clients w := by
  have hcommands : w.clients.map Client.command = clients.map Client.command := by
    refine hrun.invariant
      (I := fun w => w.clients.map Client.command = clients.map Client.command) ?_ ?_
    · intro w hstart
      rw [hstart.left]
    · intro w e hw _
      exact (commands_step w e).trans hw
  intro hall peer hget
  have hinvariant : w.AnyFailed ∨ Serialized nid peer.permissions w := by
    refine hrun.invariant
      (I := fun w => w.AnyFailed ∨ Serialized nid peer.permissions w) ?_ ?_
    · intro w hstart
      rcases hstart with ⟨rfl, hidle⟩
      right
      constructor
      · intro c n shown hc hphase
        rw [hidle c hc] at hphase
        cases hphase
      · refine ⟨s, peer, [], rfl, enrolled_of_projected hprojected hget, hget, ?_,
          fun _ => Iff.rfl⟩
        have hnone : clients.filter Client.isDone = [] := by
          rw [List.filter_eq_nil_iff]
          intro c hc
          rw [isDone_pending (by rw [hidle c hc]; exact Phase.noConfusion)]
          exact Bool.false_ne_true
        unfold Session.done
        rw [hnone]
        exact List.Perm.nil
    · intro w e hw htimely
      rcases hw with hfailed | hserialized
      · exact Or.inl (anyFailed_step hfailed e)
      · exact serialized_step hserialized hvalid htimely
  rcases hinvariant with ⟨c, hc, hfailed⟩ | hserialized
  · rw [hall c hc] at hfailed
    cases hfailed
  · rcases hserialized.state with ⟨t, peer', order, hdaemon, _, hpeer', hperm, hmem⟩
    refine ⟨t, peer', order, hdaemon, hpeer', ?_, hmem⟩
    have hdone : w.done = w.clients.map Client.command := by
      unfold Session.done
      rw [List.filter_eq_self.mpr]
      intro c hc
      unfold Client.isDone
      rw [hall c hc]
    rw [← hcommands, ← hdone]
    exact hperm

/-!
## Additions
-/

theorem mem_foldl_of_mem {order : List Command}
    (hadds : forall c, c ∈ order -> exists csv, c = Command.addPermission csv) {p : String}
    {current : List String} (hp : p ∈ current) : p ∈ order.foldl Command.apply current := by
  induction order generalizing current with
  | nil => exact hp
  | cons command order ih =>
      rcases hadds command (List.mem_cons_self ..) with ⟨csv, rfl⟩
      apply ih (fun c hc => hadds c (List.mem_cons_of_mem _ hc))
      exact mem_merge.mpr (Or.inl hp)

/-- One after another, no `--add-permission` loses what another one adds. -/
theorem mem_foldl_of_add {order : List Command}
    (hadds : forall c, c ∈ order -> exists csv, c = Command.addPermission csv) {csv p : String}
    (hin : Command.addPermission csv ∈ order) (hp : p ∈ csvPermissions csv)
    (current : List String) : p ∈ order.foldl Command.apply current := by
  induction order generalizing current with
  | nil => cases hin
  | cons command order ih =>
      have hrest := fun c hc => hadds c (List.mem_cons_of_mem command hc)
      rcases List.mem_cons.mp hin with rfl | htail
      · exact mem_foldl_of_mem hrest (mem_merge.mpr (Or.inr hp))
      · exact ih hrest htail _

/-!
Two clients that each add a permission: one after the other both are kept, and with both
lists fetched first the second one takes away what the first one added.
-/

def watcherEntry : LogEntry where
  seq := 0
  type := OP_ADD_PEER
  data := addPeerData peerId Json.null [Json.str "monitor"]
  timestamp := isoformat noon
  prevHash := ZERO_HASH
  sig := ""

def watcher : TrustedPeer where
  nodeId := peerId
  alias_ := none
  permissions := ["monitor"]
  tags := []
  maintenanceStart := none
  maintenanceEnd := none
  addedAt := noon
  revokedAt := none

def watcherState : TrustState where
  log := { TrustLog.new with entries := [watcherEntry] }
  file := none
  store := PeerTrustStore.ofPeers [watcher]

def adder (csv : String) : Client where
  target := peerId
  command := Command.addPermission csv
  password := "open sesame"
  phase := Phase.idle

def adders : List Client :=
  [adder "chat", adder "drop"]

def getBy (i : Nat) : CliEvent :=
  CliEvent.get i calmServing (some 1000)

def putBy (i : Nat) : CliEvent :=
  CliEvent.put i calmServing (some 1000)

def adderSession : Session where
  daemon := Daemon.up watcherState
  clients := adders

theorem projected_watcherState : Projected watcherState :=
  ⟨[watcherEntry], [], rfl, rfl⟩

/-- What the two clients leave when both have succeeded. -/
def addedSession (t : TrustState) : Session where
  daemon := Daemon.up t
  clients := adders.map (fun c => { c with phase := Phase.succeeded })

theorem permissions_serializable_adders :
    Serializable peerId watcherState adders ((sessions testEngine watcherState adders).exec
      adderSession [getBy 0, putBy 0, getBy 1, putBy 1]) := by
  have hstart : (sessions testEngine watcherState adders).Run (Timely peerId) []
      adderSession := by
    refine Machine.Run.start ⟨rfl, ?_⟩
    intro c hc
    simp only [adders, List.mem_cons, List.not_mem_nil, or_false] at hc
    rcases hc with rfl | rfl
    · rfl
    · rfl
  refine permissions_serializable (by decide) projected_watcherState
    (hstart.exec [getBy 0, putBy 0, getBy 1, putBy 1] ⟨?_, ?_, ?_, ?_, trivial⟩)
  · intro s c n hs hc hn
    cases hs
    cases hc
    cases hn
    rfl
  · intro s c n shown peer hs hc hphase hpeer
    cases hs
    cases hc
    cases hphase
    cases hpeer
    exact fun _ => Iff.rfl
  · intro s c n hs hc hn
    cases hs
    cases hc
    cases hn
    rfl
  · intro s c n shown peer hs hc hphase hpeer
    cases hs
    cases hc
    cases hphase
    cases hpeer
    exact fun _ => Iff.rfl

theorem addition_lost :
    ¬ Serializable peerId watcherState adders ((sessions testEngine watcherState adders).exec
      adderSession [getBy 0, getBy 1, putBy 0, putBy 1]) := by
  have hlost : exists t peer, (sessions testEngine watcherState adders).exec adderSession
      [getBy 0, getBy 1, putBy 0, putBy 1] = addedSession t ∧
        t.store.getPeer peerId = some peer ∧ peer.permissions = ["monitor", "drop"] :=
    ⟨_, _, rfl, rfl, rfl⟩
  rcases hlost with ⟨t, peer, hsession, hpeer, hpermissions⟩
  rw [hsession]
  intro hserializable
  have hall : forall c, c ∈ (addedSession t).clients -> c.phase = Phase.succeeded := by
    intro c hc
    rcases List.mem_map.mp hc with ⟨old, _, rfl⟩
    rfl
  rcases hserializable hall watcher rfl with ⟨t', peer', order, hup, hpeer', hperm, hmem⟩
  cases hup
  cases hpeer.symm.trans hpeer'
  have hadds : forall c, c ∈ order -> exists csv, c = Command.addPermission csv := by
    intro c hc
    rcases List.mem_map.mp (hperm.mem_iff.mp hc) with ⟨client, hclient, rfl⟩
    simp only [adders, List.mem_cons, List.not_mem_nil, or_false] at hclient
    rcases hclient with rfl | rfl
    · exact ⟨"chat", rfl⟩
    · exact ⟨"drop", rfl⟩
  have hchat : Command.addPermission "chat" ∈ order :=
    hperm.mem_iff.mpr (List.mem_cons_self ..)
  have hkept := (hmem "chat").mpr (mem_foldl_of_add hadds hchat (by decide) _)
  rw [hpermissions] at hkept
  exact absurd hkept (by decide)

end Control
end PanicMonitr
