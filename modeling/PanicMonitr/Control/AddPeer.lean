import PanicMonitr.Control.FrontEnds
import PanicMonitr.Control.Permissions

/-!
# Adding a peer

The ways a node id gets into the trust store: `--add-peer` through the socket of the daemon
or with a trust manager of its own, and the two dashboards, which call the engine.  All of
them end in `add_peer` of the trust manager; only the engine has the key parsed as well.
-/

namespace PanicMonitr
namespace Control

open Foundation
open Trust

/-!
## The command line
-/

/-- The arguments of `--add-peer` with its options, and the password that is asked for. -/
structure AddArgs where
  addPeer : String
  alias_ : Option String
  permissions : String
  tags : Option String
  password : String

namespace AddArgs

def perms (args : AddArgs) : List String :=
  csvPermissions args.permissions

/-- `[...] if args.tags else None` -/
def tagList (args : AddArgs) : Option (List String) :=
  (args.tags.filter (fun tags => tags ≠ "")).map csvPermissions

def body (args : AddArgs) : Json :=
  Json.obj
    [("node_id", Json.str args.addPeer), ("alias", optionJson args.alias_),
      ("permissions", Json.arr (args.perms.map Json.str)),
      ("tags", Json.arr ((args.tagList.getD []).map Json.str)),
      ("password", Json.str args.password)]

theorem wf_optionJson (v : Option String) : Json.Wf (optionJson v) := by
  cases v <;> trivial

theorem wf_body (args : AddArgs) : Json.Wf args.body :=
  have hkeys : ["node_id", "alias", "permissions", "tags", "password"].Nodup := by decide
  ⟨hkeys, trivial, wf_optionJson args.alias_, wfItems_texts args.perms,
    wfItems_texts (args.tagList.getD []), trivial, trivial⟩

end AddArgs

/-- `POST /v1/peers` as the command line sends it -/
def addPeerRequest (euid : Nat) (args : AddArgs) : Request where
  euid := some euid
  method := Method.post
  path := "/v1/peers"
  queryTag := none
  body := Except.ok args.body
  hbody := by
    intro v hv
    cases hv
    exact args.wf_body

/--
`--add-peer` in direct mode, after the password has opened the identity: the log is loaded,
and the node id is added as it stands.
-/
def cliAddPeer (engine : Engine) (loading : Surroundings) (mtime : Int) (env : Surroundings)
    (args : AddArgs) (file : Option LogFile) : TrustState × Answer Bool :=
  match buildTrust engine.keys engine.pydantic loading mtime file with
  | (s, Answer.returned _) =>
      Trust.addPeer engine.keys env args.addPeer (optionJson args.alias_)
        (Json.arr (args.perms.map Json.str))
        (args.tagList.elim Json.null (fun tags => Json.arr (tags.map Json.str))) s
  | failed => failed

/-!
## The dashboards
-/

section Dashboards

variable (engine : Engine) (lower : String -> String) (env : Surroundings)

/-- `api_add_peer()` of the web dashboard; `lower` is `str.lower`. -/
def apiAddPeer (data : Json) (s : TrustState) : Handled :=
  let data := pyOr data (Json.obj [])
  attempt s (bodyGet "node_id" data) (fun nodeId =>
    attempt s (pyStrip (pyOr nodeId (Json.str ""))) (fun nodeId =>
      attempt s (bodyGet "alias" data) (fun alias_ =>
        attempt s (pyStrip (pyOr alias_ (Json.str ""))) (fun alias_ =>
          attempt s (bodyGet "permissions" data) (fun perms =>
            match pyOr perms (Json.arr [Json.str "monitor"]) with
            | Json.arr items =>
                reply (engine.addPeer env (Json.str (lower nodeId))
                  (if alias_ = "" then Json.null else Json.str alias_) (Json.arr items)
                  Json.null s)
            | _ => sendError 400 "permissions must be a list" s)))))

/-- `_submit()` of the terminal interface. -/
def submitPeer (nodeId alias_ permsStr : String) (s : TrustState) : EngineResult :=
  if stripText nodeId = "" then (s, Answer.returned (some "node_id cannot be empty"))
  else if stripText permsStr = "" then
    (s, Answer.returned (some "select at least one permission"))
  else
    engine.addPeer env (Json.str (stripText nodeId))
      (if stripText alias_ = "" then Json.null else Json.str (stripText alias_))
      (Json.arr ((csvPermissions (stripText permsStr)).map Json.str)) Json.null s

end Dashboards

/-!
## Runs
-/

/-- The daemon or the file it left, and all trust stores that processes have held so far. -/
structure Monitor where
  daemon : Daemon
  stores : List PeerTrustStore

def Daemon.stores : Daemon -> List PeerTrustStore
  | up s => [s.store]
  | down _ => []

def Daemon.withFile (file : Option LogFile) : Daemon -> Daemon
  | up s => up { s with file := file }
  | down _ => down file

/-- The daemon after a step, with the stores it was seen to hold. -/
def Monitor.become (w : Monitor) (d : Daemon) : Monitor :=
  { daemon := d
    stores := w.stores ++ d.stores }

inductive MonitorEvent where
  | daemon (e : DaemonEvent)
  | cli (reachable : Bool) (serving : Serving) (loading : Surroundings) (mtime : Int)
      (args : AddArgs)
  | dashboard (env : Surroundings) (data : Json) (hdata : Json.Wf data)
  | terminal (env : Surroundings) (nodeId alias_ permsStr : String)

/-- `_via_socket()` finds the daemon. -/
def viaSocket (d : Daemon) (reachable : Bool) : Option TrustState :=
  match d with
  | Daemon.up s => if reachable then some s else none
  | Daemon.down _ => none

/-- `--add-peer` with any arguments -/
def Monitor.cli (engine : Engine) (reachable : Bool) (serving : Serving)
    (loading : Surroundings) (mtime : Int) (args : AddArgs) (w : Monitor) : Monitor :=
  if validateNodeId args.addPeer = false then w
  else
    match viaSocket w.daemon reachable with
    | some s =>
        w.become (Daemon.after (engine.serve serving (addPeerRequest serving.euid args) s))
    | none =>
        if args.addPeer = engine.keys.ownNodeId then w
        else
          let left := (cliAddPeer engine loading mtime serving.toSurroundings args
            w.daemon.file).1
          { daemon := w.daemon.withFile left.file
            stores := w.stores ++ [left.store] }

def monitors (engine : Engine) (lower : String -> String) : Machine Monitor MonitorEvent where
  start w := (exists file, w.daemon = Daemon.down file ∧ fileText file = [] ∧
    fileTorn file = false) ∧ w.stores = []
  step w e :=
    match e with
    | MonitorEvent.daemon e => w.become ((daemons engine).step w.daemon e)
    | MonitorEvent.cli reachable serving loading mtime args =>
        w.cli engine reachable serving loading mtime args
    | MonitorEvent.dashboard env data _ =>
        w.become (w.daemon.whenUp (fun s =>
          Daemon.after (apiAddPeer engine lower env data s)))
    | MonitorEvent.terminal env nodeId alias_ permsStr =>
        w.become (w.daemon.whenUp (fun s =>
          Daemon.after (submitPeer engine env nodeId alias_ permsStr s)))

end Control
end PanicMonitr
