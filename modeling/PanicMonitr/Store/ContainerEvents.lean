import PanicMonitr.Store.Answers
import PanicMonitr.Store.Migration
import PanicMonitr.Store.Sequence

/-!
# Container events

The stats cycle of the monitored node: it compares the containers of a tick with those of
the tick before, records an event for each transition, and then stores the snapshot.  The
containers of the tick before are in memory, or in the latest snapshot of the store.
-/

namespace PanicMonitr
namespace Store

open Foundation

def EV_AGENT_STARTED : String := "agent_started"
def EV_AGENT_SHUTDOWN : String := "agent_shutdown"
def EV_CONTAINER_RESTARTED : String := "container_restarted"

def CONTAINER_EVENTS : List String :=
  [EV_CONTAINER_EXITED, EV_CONTAINER_RESTARTED, EV_CONTAINER_UNHEALTHY]

/-!
## Snapshots
-/

/-- The fields of `ContainerInfo` the comparison reads; the other ones are kept as they are. -/
structure ContainerInfo where
  id : String
  name : String
  image : String
  status : String
  health : Option String
  others : List (String × Json)

def ContainerInfo.toDict (c : ContainerInfo) : List (String × Json) :=
  ("id", Json.str c.id) :: ("name", Json.str c.name) :: ("image", Json.str c.image) ::
    ("status", Json.str c.status) :: ("health", nullable Json.str c.health) :: c.others

/-- `readings` are the fields before `containers`. -/
structure SystemSnapshot where
  readings : List (String × Json)
  containers : List ContainerInfo
  processes : Json
  hreadings : "containers" ∉ Assoc.keys readings

def SystemSnapshot.toDict (snap : SystemSnapshot) : List (String × Json) :=
  snap.readings ++
    [("containers", Json.arr (snap.containers.map (fun c => Json.obj c.toDict))),
      ("processes", snap.processes)]

def asDict : Json -> Option (List (String × Json))
  | Json.obj fields => some fields
  | _ => none

/-- `snap.get("containers", [])` -/
def containersOf (snap : List (String × Json)) : List (List (String × Json)) :=
  match Assoc.get? "containers" snap with
  | some (Json.arr items) => items.filterMap asDict
  | _ => []

/-- `c.get("name", "")` -/
def nameOf (c : List (String × Json)) : String :=
  match Assoc.get? "name" c with
  | some (Json.str name) => name
  | _ => ""

/-- `c.get(k) == text` -/
def isText (k text : String) (c : List (String × Json)) : Bool :=
  match Assoc.get? k c with
  | some (Json.str s) => s = text
  | _ => false

/-!
## Comparing
-/

def byKey (entries : List (String × List (String × Json))) :
    List (String × List (String × Json)) :=
  entries.foldl (fun d e => Assoc.set e.1 e.2 d) []

/-- `c["name"]` with `c`; `none` is a `KeyError`. -/
def named (c : List (String × Json)) : Option (String × List (String × Json)) :=
  match Assoc.get? "name" c with
  | some (Json.str name) => some (name, c)
  | _ => none

/-- `{c["name"]: c for c in containers}` -/
def byName (containers : List (List (String × Json))) :
    Option (List (String × List (String × Json))) :=
  (containers.mapM named).map byKey

/-- `{c.get("name", ""): c for c in new_containers if c.get("name")}` -/
def cacheOf (newContainers : List (List (String × Json))) :
    List (String × List (String × Json)) :=
  byKey ((newContainers.filter (fun c => nameOf c ≠ "")).map (fun c => (nameOf c, c)))

/-- `json.dumps({"name": name, "image": image})` -/
def eventDetail (name : String) (image : Json) : String :=
  String.ofList (Json.dumps (Json.obj [("name", Json.str name), ("image", image)]))

def containerReports (prevByName : List (String × List (String × Json)))
    (c : List (String × Json)) : List (String × String) :=
  let detail := eventDetail (nameOf c) ((Assoc.get? "image" c).getD Json.null)
  match Assoc.get? (nameOf c) prevByName with
  | none => []
  | some prev =>
      (if isText "status" "running" prev && isText "status" "exited" c then
        [(EV_CONTAINER_EXITED, detail)]
      else if (isText "status" "exited" prev || isText "status" "stopped" prev) &&
          isText "status" "running" c then
        [(EV_CONTAINER_RESTARTED, detail)]
      else []) ++
      (if isText "health" "unhealthy" c && !isText "health" "unhealthy" prev then
        [(EV_CONTAINER_UNHEALTHY, detail)]
      else [])

variable {V : Type}

/-- The calls of `record_event` one after the other, each with its reading of the clock. -/
def recordReports (clock : Nat -> Instant) : Nat -> List (String × String) -> LogStore V ->
    LogStore V
  | _, [], s => s
  | i, (event, detail) :: reports, s =>
      recordReports clock (i + 1) reports (recordEvent event (some detail) (clock i) s)

/-!
## The agent
-/

/--
The store of the monitored node and the cache of its process.  The last clock reading and
the containers of the ticks so far are history variables.
-/
structure Agent (V : Type) where
  node : Node V
  up : Bool
  prevContainersByName : List (String × List (String × Json))
  clock : Instant
  ticks : List (List ContainerInfo)

/-- What a tick compares with; an empty cache is seeded from the store. -/
def baseline (n : Node V) (prevByName : List (String × List (String × Json))) :
    Option (List (String × List (String × Json))) :=
  if prevByName ≠ [] then some prevByName
  else
    match n.latestSnapshot with
    | none => some prevByName
    | some prevSnap => byName (containersOf prevSnap)

/--
`_run_stats_cycle()` for what the collector returned; `clock` gives the readings of the
tick.  When the seed raises, the cache is still updated and the snapshot is not stored.
-/
def runStatsCycle (read : Json -> Snapshot V) (snap : Option SystemSnapshot)
    (clock : Nat -> Instant) (a : Agent V) : Agent V :=
  match snap with
  | none => a
  | some snap =>
      let newContainers := containersOf snap.toDict
      let ticked := { a with
        prevContainersByName := cacheOf newContainers
        ticks := a.ticks ++ [snap.containers] }
      match baseline a.node a.prevContainersByName with
      | none => ticked
      | some prevByName =>
          let reports := newContainers.flatMap (containerReports prevByName)
          { ticked with
            node := { a.node with
              store := recordReports clock 0 reports a.node.store }.record read snap.toDict
                (clock reports.length)
            clock := clock reports.length }

def agentDetail (s : LogStore V) : Option String :=
  some (String.ofList (Json.dumps (Json.obj [("node_id", Json.str s.ownNodeId)])))

def eventsFile (s : LogStore V) : Option EventsTable :=
  some (EventsTable.keyed s.events true true true)

/-- What a process leaves in its store; only a clean shutdown is recorded. -/
def leftStore (stopped : Option Instant) (s : LogStore V) : LogStore V :=
  stopped.elim s (fun now => recordEvent EV_AGENT_SHUTDOWN (agentDetail s) now s)

/--
The end of one process and the start of the next.  A constructor that raises leaves no
agent.
-/
def restartAgent (stopped : Option Instant) (started : Instant) (a : Agent V) : Agent V :=
  let left := leftStore stopped a.node.store
  match runScript EventsStatement.exec (eventsPhases left.own) (eventsFile left) with
  | Except.ok (some (EventsTable.keyed rows _ _ _)) =>
      { a with
        node := { a.node with
          store := recordEvent EV_AGENT_STARTED (agentDetail left) started
            { left with events := rows } }
        up := true
        prevContainersByName := []
        clock := started }
  | _ => { a with node := { a.node with store := left }, up := false }

inductive AgentEvent where
  | tick (snap : Option SystemSnapshot) (clock : Nat -> Instant)
  | restart (stopped : Option Instant) (started : Instant)

def Agent.step (read : Json -> Snapshot V) (a : Agent V) : AgentEvent -> Agent V
  | AgentEvent.tick snap clock => if a.up then runStatsCycle read snap clock a else a
  | AgentEvent.restart stopped started => restartAgent stopped started a

def agents (read : Json -> Snapshot V) : Machine (Agent V) AgentEvent where
  start a := a.node.store.events = [] ∧ a.node.store.raw = [] ∧ a.up = true ∧
    a.prevContainersByName = [] ∧ a.ticks = []
  step := Agent.step read

def containerEvents (s : LogStore V) : List (String × Option String) :=
  (s.events.filter (fun r => decide (r.peerNodeId = s.own ∧ r.event ∈ CONTAINER_EVENTS))).map
    (fun r => (r.event, r.detail))

/-!
## Transitions

What the events should be: the differences between each tick and the one before.
-/

structure Transition where
  event : String
  name : String
  image : String
  deriving DecidableEq

/-- The container of a name in a tick; the last one, should there be several. -/
def lastNamed (name : String) (containers : List ContainerInfo) : Option ContainerInfo :=
  (containers.filter (fun c => c.name = name)).getLast?

def changesOf (prev c : ContainerInfo) : List String :=
  (if prev.status = "running" ∧ c.status = "exited" then [EV_CONTAINER_EXITED]
    else if (prev.status = "exited" ∨ prev.status = "stopped") ∧ c.status = "running" then
      [EV_CONTAINER_RESTARTED]
    else []) ++
  (if c.health = some "unhealthy" ∧ prev.health ≠ some "unhealthy" then
    [EV_CONTAINER_UNHEALTHY]
  else [])

/-- The transitions of the containers that were there in the tick before. -/
def tickTransitions (prev containers : List ContainerInfo) : List Transition :=
  containers.flatMap (fun c =>
    (lastNamed c.name prev).elim [] (fun p =>
      (changesOf p c).map (fun event => { event := event, name := c.name, image := c.image })))

def transitions : List (List ContainerInfo) -> List Transition
  | prev :: containers :: ticks =>
      tickTransitions prev containers ++ transitions (containers :: ticks)
  | _ => []

def lastTick (ticks : List (List ContainerInfo)) : List ContainerInfo :=
  ticks.getLast?.getD []

def Transition.report (t : Transition) : String × String :=
  (t.event, eventDetail t.name (Json.str t.image))

def Transition.columns (t : Transition) : String × Option String :=
  (t.event, some (eventDetail t.name (Json.str t.image)))

end Store
end PanicMonitr
