import PanicMonitr.Store.ContainerEvents

/-!
# The container events of a run

Whether a tick finds the containers of the one before in memory or in the store makes no
difference: the snapshot that was stored last is the one of the last tick, however often
the agent has been started since.
-/

namespace PanicMonitr
namespace Store

open Foundation

/-!
## Reading dicts
-/

theorem get?_byKey (entries : List (String × List (String × Json))) (k : String) :
    Assoc.get? k (byKey entries) =
      (entries.filter (fun e => decide (e.1 = k))).getLast?.map Prod.snd := by
  unfold byKey
  rw [Assoc.get?_foldl_set, Assoc.get?_nil, Option.or_none]

theorem containersOf_toDict (snap : SystemSnapshot) :
    containersOf snap.toDict = snap.containers.map ContainerInfo.toDict := by
  have hget : Assoc.get? "containers" snap.toDict =
      some (Json.arr (snap.containers.map (fun c => Json.obj c.toDict))) :=
    Assoc.get?_append_of_not_mem snap.hreadings _
  unfold containersOf
  rw [hget]
  simp only
  rw [List.filterMap_map]
  exact congrFun List.filterMap_eq_map' snap.containers

@[simp] theorem nameOf_toDict (c : ContainerInfo) : nameOf c.toDict = c.name := rfl

@[simp] theorem get?_image_toDict (c : ContainerInfo) :
    Assoc.get? "image" c.toDict = some (Json.str c.image) := rfl

@[simp] theorem isText_status_toDict (text : String) (c : ContainerInfo) :
    isText "status" text c.toDict = decide (c.status = text) := rfl

@[simp] theorem isText_health_toDict (text : String) (c : ContainerInfo) :
    isText "health" text c.toDict = decide (c.health = some text) := by
  have hget : Assoc.get? "health" c.toDict = some (nullable Json.str c.health) := rfl
  unfold isText
  rw [hget]
  cases c.health with
  | none => rfl
  | some health => simp [nullable]

def namedDicts (containers : List ContainerInfo) : List (String × List (String × Json)) :=
  containers.map (fun c => (c.name, c.toDict))

theorem byName_toDict (containers : List ContainerInfo) :
    byName (containers.map ContainerInfo.toDict) = some (byKey (namedDicts containers)) := by
  have hnamed : (containers.map ContainerInfo.toDict).mapM named =
      some (namedDicts containers) := by
    induction containers with
    | nil => rfl
    | cons c containers ih =>
        rw [List.map_cons, List.mapM_cons, ih]
        rfl
  unfold byName
  rw [hnamed]
  rfl

theorem cacheOf_toDict {containers : List ContainerInfo}
    (hnamed : forall c, c ∈ containers -> c.name ≠ "") :
    cacheOf (containers.map ContainerInfo.toDict) = byKey (namedDicts containers) := by
  have hall : (containers.map ContainerInfo.toDict).filter (fun c => nameOf c ≠ "") =
      containers.map ContainerInfo.toDict := by
    rw [List.filter_eq_self]
    intro c hc
    rcases List.mem_map.mp hc with ⟨container, hcontainer, rfl⟩
    exact decide_eq_true (hnamed container hcontainer)
  unfold cacheOf
  rw [hall, List.map_map]
  rfl

theorem get?_namedDicts (name : String) (containers : List ContainerInfo) :
    Assoc.get? name (byKey (namedDicts containers)) =
      (lastNamed name containers).map ContainerInfo.toDict := by
  unfold namedDicts lastNamed
  rw [get?_byKey, List.filter_map, List.getLast?_map, Option.map_map]
  rfl

/-!
## The events of a tick
-/

/-- The dicts that stand for the containers of a tick. -/
def Represents (prevByName : List (String × List (String × Json)))
    (prev : List ContainerInfo) : Prop :=
  forall name, Assoc.get? name prevByName = (lastNamed name prev).map ContainerInfo.toDict

theorem containerReports_toDict {prevByName : List (String × List (String × Json))}
    {prev : List ContainerInfo} (h : Represents prevByName prev) (c : ContainerInfo) :
    containerReports prevByName c.toDict =
      ((lastNamed c.name prev).elim [] (fun p =>
        (changesOf p c).map
          (fun event => ({ event := event, name := c.name, image := c.image } : Transition)))).map
        Transition.report := by
  unfold containerReports
  simp only [nameOf_toDict, get?_image_toDict, h c.name]
  cases lastNamed c.name prev with
  | none => rfl
  | some p =>
      simp only [Option.map_some, Option.elim_some, isText_status_toDict, isText_health_toDict,
        changesOf, List.map_append, Bool.and_eq_true, Bool.or_eq_true, decide_eq_true_eq,
        Bool.not_eq_true', decide_eq_false_iff_not]
      congr 1
      · split
        · rfl
        · split <;> rfl
      · split <;> rfl

theorem reports_toDict {prevByName : List (String × List (String × Json))}
    {prev : List ContainerInfo} (h : Represents prevByName prev)
    (containers : List ContainerInfo) :
    (containers.map ContainerInfo.toDict).flatMap (containerReports prevByName) =
      (tickTransitions prev containers).map Transition.report := by
  unfold tickTransitions
  rw [List.flatMap_map, List.map_flatMap]
  apply List.flatMap_congr
  intro c _
  exact containerReports_toDict h c

variable {V : Type}

def reportRows (own : String) (clock : Nat -> Instant) : Nat -> List (String × String) ->
    List EventRow
  | _, [] => []
  | i, (event, detail) :: reports =>
      { peerNodeId := own, ts := (clock i).tdiv 1000, event := event, detail := some detail } ::
        reportRows own clock (i + 1) reports

theorem recordReports_eq (clock : Nat -> Instant) (i : Nat) (reports : List (String × String))
    (s : LogStore V) :
    recordReports clock i reports s =
      { s with
        events := insertMany eventKey s.events (reportRows s.own clock i reports) } := by
  induction reports generalizing i s with
  | nil => rfl
  | cons report reports ih =>
      rcases report with ⟨event, detail⟩
      rw [recordReports, ih]
      rfl

/-- The columns of a row that `containerEvents` shows. -/
theorem reportRows_columns (own : String) (clock : Nat -> Instant) (i : Nat)
    (found : List Transition) :
    (reportRows own clock i (found.map Transition.report)).map (fun r => (r.event, r.detail)) =
      found.map Transition.columns := by
  induction found generalizing i with
  | nil => rfl
  | cons t found ih =>
      rw [List.map_cons, List.map_cons, ← ih (i + 1)]
      rfl

theorem event_of_changesOf {prev c : ContainerInfo} {event : String}
    (h : event ∈ changesOf prev c) : event ∈ CONTAINER_EVENTS := by
  unfold changesOf at h
  rcases List.mem_append.mp h with hstatus | hhealth
  · split at hstatus
    · rw [List.mem_singleton.mp hstatus]
      decide
    · split at hstatus
      · rw [List.mem_singleton.mp hstatus]
        decide
      · cases hstatus
  · split at hhealth
    · rw [List.mem_singleton.mp hhealth]
      decide
    · cases hhealth

theorem event_of_tickTransitions {prev containers : List ContainerInfo} {t : Transition}
    (h : t ∈ tickTransitions prev containers) : t.event ∈ CONTAINER_EVENTS := by
  rcases List.mem_flatMap.mp h with ⟨c, _, ht⟩
  cases hlast : lastNamed c.name prev with
  | none =>
      rw [hlast] at ht
      cases ht
  | some p =>
      rw [hlast] at ht
      rcases List.mem_map.mp ht with ⟨event, hevent, rfl⟩
      exact event_of_changesOf hevent

theorem tickTransitions_nil (containers : List ContainerInfo) :
    tickTransitions [] containers = [] :=
  List.flatMap_eq_nil_iff.mpr (fun _ _ => rfl)

theorem transitions_snoc (ticks : List (List ContainerInfo)) (containers : List ContainerInfo) :
    transitions (ticks ++ [containers]) =
      transitions ticks ++ tickTransitions (lastTick ticks) containers := by
  induction ticks with
  | nil =>
      show [] = [] ++ tickTransitions [] containers
      rw [tickTransitions_nil]
      rfl
  | cons first ticks ih =>
      cases ticks with
      | nil =>
          show tickTransitions first containers ++ [] = [] ++ tickTransitions first containers
          rw [List.append_nil, List.nil_append]
      | cons second ticks =>
          show tickTransitions first second ++ transitions ((second :: ticks) ++ [containers]) =
            tickTransitions first second ++ transitions (second :: ticks) ++
              tickTransitions (lastTick (first :: second :: ticks)) containers
          rw [ih, List.append_assoc]
          rfl

/-!
## The events in the store
-/

theorem containerEvents_append {s : LogStore V} {added : List EventRow}
    (hadded : forall r, r ∈ added -> r.peerNodeId = s.own ∧ r.event ∈ CONTAINER_EVENTS) :
    containerEvents { s with events := s.events ++ added } =
      containerEvents s ++ added.map (fun r => (r.event, r.detail)) := by
  have hkept : added.filter
      (fun r => decide (r.peerNodeId = s.own ∧ r.event ∈ CONTAINER_EVENTS)) = added := by
    rw [List.filter_eq_self]
    intro r hr
    exact decide_eq_true (hadded r hr)
  show ((s.events ++ added).filter
    (fun r => decide (r.peerNodeId = s.own ∧ r.event ∈ CONTAINER_EVENTS))).map _ = _
  rw [List.filter_append, hkept, List.map_append]
  rfl

theorem containerEvents_recordEvent {event : String} (hevent : event ∉ CONTAINER_EVENTS)
    (detail : Option String) (now : Instant) (s : LogStore V) :
    containerEvents (recordEvent event detail now s) = containerEvents s := by
  have hhidden : forall r : EventRow, r.event = event ->
      decide (r.peerNodeId = s.own ∧ r.event ∈ CONTAINER_EVENTS) = false := by
    intro r hr
    apply decide_eq_false
    intro h
    rw [hr] at h
    exact hevent h.right
  apply congrArg (List.map (fun r : EventRow => (r.event, r.detail)))
  show (insertMany eventKey s.events [_]).filter
    (fun r => decide (r.peerNodeId = s.own ∧ r.event ∈ CONTAINER_EVENTS)) = _
  apply filter_insertMany
  intro r hr
  rw [List.mem_singleton.mp hr]
  exact hhidden _ rfl

theorem containerEvents_scaled (s : LogStore V) :
    containerEvents { s with events := s.events.map scaled } = containerEvents s := by
  show ((s.events.map scaled).filter
    (fun r => decide (r.peerNodeId = s.own ∧ r.event ∈ CONTAINER_EVENTS))).map _ = _
  rw [List.filter_map, List.map_map]
  rfl

theorem eventKey_of_scaled {a b : EventRow} (hsame : eventKey (scaled a) = eventKey (scaled b))
    (hstale : isStale a.ts = isStale b.ts) : eventKey a = eventKey b := by
  simp only [eventKey, scaled, toMs, Prod.mk.injEq, hstale] at hsame ⊢
  have hts : a.ts = b.ts := by
    have htimes := hsame.right.left
    split at htimes
    · omega
    · exact htimes
  exact ⟨hsame.left, hts, hsame.right.right⟩

theorem nodup_scaled {rows : List EventRow} (hnodup : (rows.map eventKey).Nodup)
    (hfree : ¬ Collides rows) : ((rows.map scaled).map eventKey).Nodup := by
  -- a scaled row that meets one that is not scaled would have collided with it
  have hfresh : forall {a b : EventRow}, a ∈ rows -> b ∈ rows ->
      eventKey (scaled a) = eventKey (scaled b) -> isStale b.ts = false ->
        isStale a.ts = false := by
    intro a b ha hb hsame hb'
    cases hstale : isStale a.ts with
    | false => rfl
    | true =>
        refine absurd ⟨a, ha, hstale, ?_⟩ hfree
        rw [hsame, scaled, toMs_of_not_stale hb']
        exact List.mem_map_of_mem hb
  rw [List.map_map]
  rw [List.Nodup, List.pairwise_map] at hnodup ⊢
  refine hnodup.imp_of_mem ?_
  intro a b ha hb hne hsame
  apply hne
  apply eventKey_of_scaled hsame
  cases hstale : isStale b.ts with
  | false => exact hfresh ha hb hsame hstale
  | true =>
      cases hstale' : isStale a.ts with
      | true => rfl
      | false =>
          rw [hfresh hb ha hsame.symm hstale'] at hstale
          cases hstale

/-!
## The latest snapshot
-/

/-- The snapshot is stored under the highest time, and under no lower one. -/
def StoredLast (n : Node V) (dict : List (String × Json)) : Prop :=
  exists x, x ∈ n.held ∧ x.2 = dict ∧ forall y, y ∈ n.held -> y.1.ts < x.1.ts ∨ y = x

theorem latestSnapshot_of_storedLast {n : Node V} {dict : List (String × Json)}
    (h : StoredLast n dict) : n.latestSnapshot = some dict := by
  rcases h with ⟨x, hx, rfl, htop⟩
  have hsorted := orderBy_sorted (fun x => x.1.ts) n.held
  have hx' : x ∈ orderBy (fun x => x.1.ts) n.held := mem_orderBy.mpr hx
  unfold Node.latestSnapshot
  rcases List.eq_nil_or_concat (orderBy (fun x => x.1.ts) n.held) with hnil | ⟨front, y, hsnoc⟩
  · rw [hnil] at hx'
    cases hx'
  · rw [List.concat_eq_append] at hsnoc
    have hy' : y ∈ orderBy (fun x => x.1.ts) n.held := by
      rw [hsnoc]
      exact List.mem_append_right _ (List.mem_singleton_self y)
    have hy : y ∈ n.held := mem_orderBy.mp hy'
    rw [hsnoc] at hsorted hx' ⊢
    have hle : x.1.ts <= y.1.ts := by
      rcases List.mem_append.mp hx' with hfront | hlast
      · exact (List.pairwise_append.mp hsorted).right.right x hfront y
          (List.mem_singleton_self y)
      · rw [List.mem_singleton.mp hlast]
    rcases htop y hy with hlower | hsame
    · omega
    · rw [List.getLast?_concat, hsame]
      rfl

theorem held_record {read : Json -> Snapshot V} {snap : List (String × Json)} {now : Instant}
    {n : Node V} {x : RawRow V × List (String × Json)}
    (h : x ∈ (n.record read snap now).held) :
    (x ∈ n.held ∧ x.1.ts ≠ epochOf now) ∨
      x = ({ peerNodeId := n.store.own, ts := epochOf now, payload := read (Json.obj snap),
             seq := some (latestSeq n.store + 1) }, snap) := by
  rcases mem_held.mp h with ⟨hr, hown, hpayload⟩
  rcases mem_raw_recordSnapshot.mp hr with ⟨hold, hkey⟩ | hnew
  · have hts : x.1.ts ≠ epochOf now := by
      intro heq
      exact hkey (Prod.ext hown heq)
    have hdict : x.2 = n.payloads x.1.ts := hpayload.trans (if_neg hts)
    exact Or.inl ⟨mem_held.mpr ⟨hold, hown, hdict⟩, hts⟩
  · right
    apply Prod.ext hnew
    rw [hpayload, hnew]
    exact if_pos rfl

theorem storedLast_record {n : Node V} {now : Instant}
    (hpast : forall x, x ∈ n.held -> x.1.ts <= epochOf now) (read : Json -> Snapshot V)
    (snap : List (String × Json)) : StoredLast (n.record read snap now) snap := by
  refine ⟨({ peerNodeId := n.store.own, ts := epochOf now, payload := read (Json.obj snap),
             seq := some (latestSeq n.store + 1) }, snap), ?_, rfl, ?_⟩
  · refine mem_held.mpr ⟨mem_raw_recordSnapshot.mpr (Or.inr rfl), rfl, ?_⟩
    exact (if_pos rfl).symm
  · intro y hy
    rcases held_record hy with ⟨hold, hts⟩ | hnew
    · exact Or.inl (lt_of_le_of_ne (hpast y hold) hts)
    · exact Or.inr hnew

/-!
## The condition
-/

/--
Containers have names, the clock does not run backwards, and the statements of a start
succeed.
-/
def Regular (a : Agent V) : AgentEvent -> Prop
  | AgentEvent.tick none _ => True
  | AgentEvent.tick (some snap) clock =>
      (forall c, c ∈ snap.containers -> c.name ≠ "") ∧ a.clock <= clock 0 ∧
        forall i, clock i <= clock (i + 1)
  | AgentEvent.restart stopped started =>
      (forall now, now ∈ stopped -> a.clock <= now ∧ now <= started) ∧ a.clock <= started ∧
        ¬ Collides (leftStore stopped a.node.store).events

def transitionRows (a : Agent V) (snap : SystemSnapshot) (clock : Nat -> Instant) :
    List EventRow :=
  reportRows a.node.store.own clock 0
    ((tickTransitions (lastTick a.ticks) snap.containers).map Transition.report)

/-- No transition falls on the millisecond of an equal one: same event, name and image. -/
def Unrepeated (a : Agent V) : AgentEvent -> Prop
  | AgentEvent.tick (some snap) clock =>
      ((transitionRows a snap clock).map eventKey).Nodup ∧
        forall r, r ∈ transitionRows a snap clock ->
          eventKey r ∉ a.node.store.events.map eventKey
  | _ => True

instance (a : Agent V) (e : AgentEvent) : Decidable (Unrepeated a e) :=
  match e with
  | AgentEvent.tick (some snap) clock =>
      inferInstanceAs (Decidable (((transitionRows a snap clock).map eventKey).Nodup ∧
        forall r, r ∈ transitionRows a snap clock ->
          eventKey r ∉ a.node.store.events.map eventKey))
  | AgentEvent.tick none _ => isTrue trivial
  | AgentEvent.restart _ _ => isTrue trivial

instance (a : Agent V) (stopped : Option Instant) (started : Instant) :
    Decidable (Regular a (AgentEvent.restart stopped started)) :=
  inferInstanceAs (Decidable ((forall now, now ∈ stopped -> a.clock <= now ∧ now <= started) ∧
    a.clock <= started ∧ ¬ Collides (leftStore stopped a.node.store).events))

/-!
## The invariant
-/

structure Tracks (a : Agent V) : Prop where
  up : a.up = true
  distinct : (a.node.store.events.map eventKey).Nodup
  past : forall x, x ∈ a.node.held -> x.1.ts <= epochOf a.clock
  cold : a.ticks = [] -> a.node.held = [] ∧ a.prevContainersByName = []
  warm : a.ticks ≠ [] -> (forall c, c ∈ lastTick a.ticks -> c.name ≠ "") ∧
    (a.prevContainersByName = byKey (namedDicts (lastTick a.ticks)) ∨
      a.prevContainersByName = []) ∧
    exists dict, StoredLast a.node dict ∧
      containersOf dict = (lastTick a.ticks).map ContainerInfo.toDict

theorem represents_namedDicts (containers : List ContainerInfo) :
    Represents (byKey (namedDicts containers)) containers :=
  fun name => get?_namedDicts name containers

/-- From memory or from the store, a tick is compared with the one before. -/
theorem Tracks.baseline {a : Agent V} (h : Tracks a) :
    exists prevByName, Store.baseline a.node a.prevContainersByName = some prevByName ∧
      Represents prevByName (lastTick a.ticks) := by
  by_cases hticks : a.ticks = []
  · rcases h.cold hticks with ⟨hheld, hcache⟩
    have hlatest : a.node.latestSnapshot = none := by
      unfold Node.latestSnapshot
      rw [hheld]
      rfl
    refine ⟨[], ?_, ?_⟩
    · rw [Store.baseline, hcache, if_neg (fun hne => hne rfl), hlatest]
    · rw [hticks]
      exact fun _ => rfl
  · rcases h.warm hticks with ⟨_, hcache, dict, hstored, hdict⟩
    refine ⟨byKey (namedDicts (lastTick a.ticks)), ?_, represents_namedDicts _⟩
    unfold Store.baseline
    by_cases hempty : a.prevContainersByName = []
    · rw [if_neg (fun hne => hne hempty), latestSnapshot_of_storedLast hstored]
      simp only
      rw [hdict, byName_toDict]
    · rw [if_pos hempty, hcache.resolve_right hempty]

theorem Tracks.runStatsCycle {a : Agent V} (h : Tracks a) (read : Json -> Snapshot V)
    {snap : SystemSnapshot} (hnamed : forall c, c ∈ snap.containers -> c.name ≠ "")
    (clock : Nat -> Instant) :
    Store.runStatsCycle read (some snap) clock a =
      { node := { a.node with
          store := { a.node.store with
            events := insertMany eventKey a.node.store.events
              (transitionRows a snap clock) } }.record read snap.toDict
                (clock (tickTransitions (lastTick a.ticks) snap.containers).length)
        up := a.up
        prevContainersByName := byKey (namedDicts snap.containers)
        clock := clock (tickTransitions (lastTick a.ticks) snap.containers).length
        ticks := a.ticks ++ [snap.containers] } := by
  rcases h.baseline with ⟨prevByName, hbaseline, hrepresents⟩
  unfold Store.runStatsCycle
  simp only
  rw [hbaseline]
  simp only
  rw [containersOf_toDict, cacheOf_toDict hnamed, reports_toDict hrepresents,
    recordReports_eq, List.length_map]
  rfl

theorem lastTick_snoc (ticks : List (List ContainerInfo)) (containers : List ContainerInfo) :
    lastTick (ticks ++ [containers]) = containers := by
  unfold lastTick
  rw [List.getLast?_concat]
  rfl

theorem clock_le {clock : Nat -> Instant} (h : forall i, clock i <= clock (i + 1)) (n : Nat) :
    clock 0 <= clock n := by
  induction n with
  | zero => exact Int.le_refl _
  | succ n ih => exact Int.le_trans ih (h n)

theorem epochOf_mono {t u : Instant} (h : t <= u) : epochOf t <= epochOf u :=
  Int.tdiv_le_tdiv (by decide) h

theorem Tracks.tick {a : Agent V} (h : Tracks a) (read : Json -> Snapshot V)
    {snap : SystemSnapshot} {clock : Nat -> Instant}
    (hregular : Regular a (AgentEvent.tick (some snap) clock)) :
    Tracks (Store.runStatsCycle read (some snap) clock a) := by
  rcases hregular with ⟨hnamed, hstart, hsteps⟩
  rw [h.runStatsCycle read hnamed clock]
  have hlater := Int.le_trans hstart
    (clock_le hsteps (tickTransitions (lastTick a.ticks) snap.containers).length)
  have hpast : forall x, x ∈ a.node.held -> x.1.ts <=
      epochOf (clock (tickTransitions (lastTick a.ticks) snap.containers).length) :=
    fun x hx => Int.le_trans (h.past x hx) (epochOf_mono hlater)
  constructor
  · exact h.up
  · exact nodup_insertMany _ h.distinct
  · intro x hx
    rcases held_record hx with ⟨hold, _⟩ | hnew
    · exact hpast x hold
    · rw [hnew]
  · intro hnil
    exact absurd hnil (List.append_ne_nil_of_right_ne_nil _ (List.cons_ne_nil _ _))
  · intro _
    show (forall c, c ∈ lastTick (a.ticks ++ [snap.containers]) -> c.name ≠ "") ∧
      (byKey (namedDicts snap.containers) =
          byKey (namedDicts (lastTick (a.ticks ++ [snap.containers]))) ∨ _) ∧
      exists dict, StoredLast _ dict ∧
        containersOf dict =
          (lastTick (a.ticks ++ [snap.containers])).map ContainerInfo.toDict
    rw [lastTick_snoc]
    exact ⟨hnamed, Or.inl rfl, snap.toDict, storedLast_record hpast read snap.toDict,
      containersOf_toDict snap⟩

theorem restartAgent_eq {a : Agent V} {stopped : Option Instant} {started : Instant}
    (hdistinct : ((leftStore stopped a.node.store).events.map eventKey).Nodup)
    (hfree : ¬ Collides (leftStore stopped a.node.store).events) :
    restartAgent stopped started a =
      { a with
        node := { a.node with
          store := recordEvent EV_AGENT_STARTED (agentDetail (leftStore stopped a.node.store))
            started
            { leftStore stopped a.node.store with
              events := (leftStore stopped a.node.store).events.map scaled } }
        up := true
        prevContainersByName := []
        clock := started } := by
  unfold restartAgent eventsFile
  simp only
  rw [open_events_keyed, if_neg (fun h => hfree h.right), settled,
    dedupe_of_nodup (nodup_scaled hdistinct hfree)]

theorem nodup_leftStore {s : LogStore V} (hdistinct : (s.events.map eventKey).Nodup)
    (stopped : Option Instant) : ((leftStore stopped s).events.map eventKey).Nodup := by
  cases stopped with
  | none => exact hdistinct
  | some now => exact nodup_insertOrIgnore _ hdistinct

theorem Tracks.restart {a : Agent V} (h : Tracks a) {stopped : Option Instant}
    {started : Instant} (hregular : Regular a (AgentEvent.restart stopped started)) :
    Tracks (restartAgent stopped started a) := by
  rcases hregular with ⟨_, hclock, hfree⟩
  have hdistinct := nodup_leftStore h.distinct stopped
  rw [restartAgent_eq hdistinct hfree]
  have hheld : forall (rows : List EventRow) (detail : Option String),
      (({ a.node with
          store := recordEvent EV_AGENT_STARTED detail started
            { leftStore stopped a.node.store with events := rows } } : Node V)).held =
        a.node.held := by
    intro rows detail
    cases stopped <;> rfl
  constructor
  · rfl
  · exact nodup_insertOrIgnore _ (nodup_scaled hdistinct hfree)
  · intro x hx
    rw [hheld] at hx
    exact Int.le_trans (h.past x hx) (epochOf_mono hclock)
  · intro hticks
    rw [hheld]
    exact ⟨(h.cold hticks).left, rfl⟩
  · intro hticks
    rcases h.warm hticks with ⟨hnamed, _, dict, hstored, hdict⟩
    refine ⟨hnamed, Or.inr rfl, dict, ?_, hdict⟩
    unfold StoredLast
    rw [hheld]
    exact hstored

/-!
## Runs
-/

theorem Tracks.step {a : Agent V} (h : Tracks a) (read : Json -> Snapshot V) (e : AgentEvent)
    (hregular : Regular a e) : Tracks (Agent.step read a e) := by
  cases e with
  | tick snap clock =>
      rw [Agent.step, if_pos h.up]
      cases snap with
      | none => exact h
      | some snap => exact h.tick read hregular
  | restart stopped started => exact h.restart hregular

theorem tracks_start {read : Json -> Snapshot V} {a : Agent V} (h : (agents read).start a) :
    Tracks a := by
  rcases h with ⟨hevents, hraw, hup, hcache, hticks⟩
  have hheld : a.node.held = [] := by
    unfold Node.held
    rw [hraw]
    rfl
  constructor
  · exact hup
  · rw [hevents]
    exact List.nodup_nil
  · intro x hx
    rw [hheld] at hx
    cases hx
  · intro _
    exact ⟨hheld, hcache⟩
  · intro hne
    exact absurd hticks hne

theorem tracks_of_reachable {read : Json -> Snapshot V} {a : Agent V}
    (h : (agents read).Reachable Regular a) : Tracks a :=
  h.invariant (fun _ => tracks_start) (fun _ e htracks => htracks.step read e)

def newTransitions (a : Agent V) : AgentEvent -> List Transition
  | AgentEvent.tick (some snap) _ => tickTransitions (lastTick a.ticks) snap.containers
  | _ => []

theorem transitionRows_own {own : String} {clock : Nat -> Instant} {i : Nat}
    {found : List Transition} (hfound : forall t, t ∈ found -> t.event ∈ CONTAINER_EVENTS)
    {r : EventRow} (hr : r ∈ reportRows own clock i (found.map Transition.report)) :
    r.peerNodeId = own ∧ r.event ∈ CONTAINER_EVENTS := by
  induction found generalizing i with
  | nil => cases hr
  | cons t found ih =>
      rcases List.mem_cons.mp hr with rfl | hlater
      · exact ⟨rfl, hfound t List.mem_cons_self⟩
      · exact ih (fun u hu => hfound u (List.mem_cons_of_mem t hu)) hlater

theorem Tracks.events_tick {a : Agent V} (h : Tracks a) (read : Json -> Snapshot V)
    {snap : SystemSnapshot} (hnamed : forall c, c ∈ snap.containers -> c.name ≠ "")
    (clock : Nat -> Instant) :
    exists added, added.Sublist (transitionRows a snap clock) ∧
      (Store.runStatsCycle read (some snap) clock a).node.store.events =
        a.node.store.events ++ added ∧
      containerEvents (Store.runStatsCycle read (some snap) clock a).node.store =
        containerEvents a.node.store ++ added.map (fun r => (r.event, r.detail)) := by
  rcases insertMany_sublist eventKey a.node.store.events (transitionRows a snap clock) with
    ⟨added, hevents, hsub⟩
  refine ⟨added, hsub, ?_, ?_⟩
  · rw [h.runStatsCycle read hnamed clock]
    exact hevents
  · rw [h.runStatsCycle read hnamed clock, hevents]
    exact containerEvents_append (s := a.node.store) (fun r hr =>
      transitionRows_own (fun _ ht => event_of_tickTransitions ht) (hsub.subset hr))

theorem containerEvents_leftStore (stopped : Option Instant) (s : LogStore V) :
    containerEvents (leftStore stopped s) = containerEvents s := by
  cases stopped with
  | none => rfl
  | some now => exact containerEvents_recordEvent (by decide) _ now s

theorem Tracks.events_restart {a : Agent V} (h : Tracks a) {stopped : Option Instant}
    {started : Instant} (hregular : Regular a (AgentEvent.restart stopped started)) :
    containerEvents (restartAgent stopped started a).node.store =
      containerEvents a.node.store := by
  rw [restartAgent_eq (nodup_leftStore h.distinct stopped) hregular.right.right]
  exact (containerEvents_recordEvent (by decide) _ started _).trans
    ((containerEvents_scaled _).trans (containerEvents_leftStore stopped a.node.store))

/-- One step adds events of the new transitions only, and all of them if none is repeated. -/
theorem Tracks.events_step {a : Agent V} (h : Tracks a) (read : Json -> Snapshot V)
    (e : AgentEvent) (hregular : Regular a e) :
    exists added, added.Sublist ((newTransitions a e).map Transition.columns) ∧
      containerEvents (Agent.step read a e).node.store = containerEvents a.node.store ++ added ∧
      (Unrepeated a e -> added = (newTransitions a e).map Transition.columns) := by
  cases e with
  | tick snap clock =>
      rw [Agent.step, if_pos h.up]
      cases snap with
      | none => exact ⟨[], List.Sublist.refl _, (List.append_nil _).symm, fun _ => rfl⟩
      | some snap =>
          rcases h.events_tick read hregular.left clock with ⟨added, hsub, hevents, hshown⟩
          have hcolumns := reportRows_columns a.node.store.own clock 0
            (newTransitions a (AgentEvent.tick (some snap) clock))
          refine ⟨added.map (fun r => (r.event, r.detail)), ?_, hshown, ?_⟩
          · rw [← hcolumns]
            exact hsub.map _
          · intro hfree
            rw [← hcolumns]
            apply congrArg
            rw [h.runStatsCycle read hregular.left clock] at hevents
            exact List.append_cancel_left (hevents.symm.trans
              ((insertMany_eq_append_iff eventKey h.distinct).mpr hfree))
  | restart stopped started =>
      exact ⟨[], List.Sublist.refl _,
        (h.events_restart hregular).trans (List.append_nil _).symm, fun _ => rfl⟩

theorem Tracks.transitions_step {a : Agent V} (h : Tracks a) (read : Json -> Snapshot V)
    (e : AgentEvent) (hregular : Regular a e) :
    transitions (Agent.step read a e).ticks = transitions a.ticks ++ newTransitions a e := by
  cases e with
  | tick snap clock =>
      rw [Agent.step, if_pos h.up]
      cases snap with
      | none => exact (List.append_nil _).symm
      | some snap =>
          rw [h.runStatsCycle read hregular.left clock]
          exact transitions_snoc a.ticks snap.containers
  | restart stopped started =>
      show transitions (restartAgent stopped started a).ticks = _
      rw [restartAgent_eq (nodup_leftStore h.distinct stopped) hregular.right.right]
      exact (List.append_nil _).symm

/-- A tick records all of its transitions exactly when none of them is repeated. -/
theorem Tracks.records_all_iff {a : Agent V} (h : Tracks a) (read : Json -> Snapshot V)
    {snap : SystemSnapshot} {clock : Nat -> Instant}
    (hregular : Regular a (AgentEvent.tick (some snap) clock)) :
    containerEvents (Agent.step read a (AgentEvent.tick (some snap) clock)).node.store =
        containerEvents a.node.store ++
          (tickTransitions (lastTick a.ticks) snap.containers).map Transition.columns <->
      Unrepeated a (AgentEvent.tick (some snap) clock) := by
  constructor
  · intro hall
    rw [Agent.step, if_pos h.up] at hall
    rcases h.events_tick read hregular.left clock with ⟨added, hsub, hevents, hshown⟩
    have hcolumns := List.append_cancel_left (hshown.symm.trans hall)
    rw [← reportRows_columns a.node.store.own clock 0] at hcolumns
    have hlength : added.length = (transitionRows a snap clock).length := by
      have hcount := congrArg List.length hcolumns
      rw [List.length_map, List.length_map] at hcount
      exact hcount
    rw [h.runStatsCycle read hregular.left clock, hsub.eq_of_length hlength] at hevents
    exact (insertMany_eq_append_iff eventKey h.distinct).mp hevents
  · intro hfree
    rcases h.events_step read _ hregular with ⟨added, _, hshown, hadded⟩
    rw [hshown, hadded hfree]
    rfl

theorem no_events_at_start {read : Json -> Snapshot V} {a : Agent V}
    (hstart : (agents read).start a) :
    containerEvents a.node.store = [] ∧ transitions a.ticks = [] := by
  rcases hstart with ⟨hevents, _, _, _, hticks⟩
  rw [containerEvents, hevents, hticks]
  exact ⟨rfl, rfl⟩

theorem containerEvents_sublist {read : Json -> Snapshot V} {a : Agent V}
    (h : (agents read).Reachable Regular a) :
    (containerEvents a.node.store).Sublist ((transitions a.ticks).map Transition.columns) := by
  refine (h.invariant (I := fun a => Tracks a ∧
    (containerEvents a.node.store).Sublist ((transitions a.ticks).map Transition.columns))
    ?_ ?_).right
  · intro a hstart
    rw [(no_events_at_start hstart).left]
    exact ⟨tracks_start hstart, List.nil_sublist _⟩
  · rintro a e ⟨htracks, hsub⟩ hregular
    refine ⟨htracks.step read e hregular, ?_⟩
    rcases htracks.events_step read e hregular with ⟨added, hadded, hevents, _⟩
    show (containerEvents (Agent.step read a e).node.store).Sublist
      ((transitions (Agent.step read a e).ticks).map Transition.columns)
    rw [hevents, htracks.transitions_step read e hregular, List.map_append]
    exact hsub.append hadded

theorem containerEvents_eq {read : Json -> Snapshot V} {a : Agent V}
    (h : (agents read).Reachable (fun a e => Regular a e ∧ Unrepeated a e) a) :
    containerEvents a.node.store = (transitions a.ticks).map Transition.columns := by
  refine (h.invariant (I := fun a => Tracks a ∧
    containerEvents a.node.store = (transitions a.ticks).map Transition.columns) ?_ ?_).right
  · intro a hstart
    rw [(no_events_at_start hstart).left, (no_events_at_start hstart).right]
    exact ⟨tracks_start hstart, rfl⟩
  · rintro a e ⟨htracks, heq⟩ ⟨hregular, hfree⟩
    refine ⟨htracks.step read e hregular, ?_⟩
    rcases htracks.events_step read e hregular with ⟨added, _, hevents, hadded⟩
    show containerEvents (Agent.step read a e).node.store =
      (transitions (Agent.step read a e).ticks).map Transition.columns
    rw [hevents, htracks.transitions_step read e hregular, List.map_append, heq, hadded hfree]

/-- Every transition is in the table after its tick, be it from an earlier one. -/
theorem Tracks.recorded {a : Agent V} (h : Tracks a) (read : Json -> Snapshot V)
    {snap : SystemSnapshot} {clock : Nat -> Instant}
    (hregular : Regular a (AgentEvent.tick (some snap) clock)) {r : EventRow}
    (hr : r ∈ transitionRows a snap clock) :
    eventKey r ∈ (Agent.step read a
      (AgentEvent.tick (some snap) clock)).node.store.events.map eventKey := by
  rw [Agent.step, if_pos h.up, h.runStatsCycle read hregular.left clock]
  exact keys_insertMany.mpr (Or.inr (List.mem_map_of_mem hr))

/--
The container events of a run are its transitions in order, also across restarts; missing
are those that equal an event in the table, of the same millisecond, type, name and image.
-/
theorem container_events_are_transitions (read : Json -> Snapshot V) :
    (forall a, (agents read).Reachable Regular a ->
      (containerEvents a.node.store).Sublist ((transitions a.ticks).map Transition.columns)) ∧
    (forall a, (agents read).Reachable (fun a e => Regular a e ∧ Unrepeated a e) a ->
      containerEvents a.node.store = (transitions a.ticks).map Transition.columns) ∧
    (forall (a : Agent V) (snap : SystemSnapshot) (clock : Nat -> Instant),
      (agents read).Reachable Regular a -> Regular a (AgentEvent.tick (some snap) clock) ->
        let a' := Agent.step read a (AgentEvent.tick (some snap) clock)
        (forall r, r ∈ transitionRows a snap clock ->
          eventKey r ∈ a'.node.store.events.map eventKey) ∧
        (containerEvents a'.node.store = containerEvents a.node.store ++
            (tickTransitions (lastTick a.ticks) snap.containers).map Transition.columns <->
          Unrepeated a (AgentEvent.tick (some snap) clock))) := by
  refine ⟨fun a => containerEvents_sublist, fun a => containerEvents_eq, ?_⟩
  intro a snap clock hreach hregular
  have htracks := tracks_of_reachable hreach
  exact ⟨fun r hr => htracks.recorded read hregular hr, htracks.records_all_iff read hregular⟩

/-! A container that exits while the agent is down, and one that does so twice at once. -/

theorem no_readings : "containers" ∉ Assoc.keys ([] : List (String × Json)) :=
  List.not_mem_nil

def webContainer (status : String) (health : Option String) : ContainerInfo where
  id := "4f1c"
  name := "web"
  image := "nginx:1.27"
  status := status
  health := health
  others := []

def webTick (status : String) (health : Option String) (now : Instant) : AgentEvent :=
  AgentEvent.tick
    (some
      { readings := []
        containers := [webContainer status health]
        processes := Json.arr []
        hreadings := no_readings })
    (fun _ => now)

def newAgent : Agent Int where
  node :=
    { store := { ownNodeId := "self", events := [], raw := [], buckets := [], daily := [] }
      payloads := fun _ => [] }
  up := true
  prevContainersByName := []
  clock := 0
  ticks := []

theorem newAgent_start : (agents (fun _ => idleSnapshot)).start newAgent :=
  ⟨rfl, rfl, rfl, rfl, rfl⟩

theorem regular_webTick {a : Agent V} {status : String} {health : Option String}
    {now : Instant} (hclock : a.clock <= now) : Regular a (webTick status health now) := by
  refine ⟨?_, hclock, fun _ => Int.le_refl _⟩
  intro c hc
  rw [List.mem_singleton.mp hc]
  show "web" ≠ ""
  decide

def webRun : List AgentEvent :=
  [webTick "running" none 1700000000000000,
    AgentEvent.restart (some 1700000001000000) 1700000060000000,
    webTick "exited" none 1700000070000000,
    AgentEvent.restart none 1700000080000000,
    webTick "running" (some "unhealthy") 1700000090000000]

theorem container_events_are_transitions_web :
    let a := (agents (fun _ => idleSnapshot)).exec newAgent webRun
    containerEvents a.node.store = (transitions a.ticks).map Transition.columns ∧
      (transitions a.ticks).map Transition.event =
        [EV_CONTAINER_EXITED, EV_CONTAINER_RESTARTED, EV_CONTAINER_UNHEALTHY] := by
  refine ⟨(container_events_are_transitions (fun _ => idleSnapshot)).right.left _
    ⟨_, (Machine.Run.start newAgent_start).exec webRun ?_⟩, by decide⟩
  exact ⟨⟨regular_webTick (by decide), by decide⟩, ⟨by decide, trivial⟩,
    ⟨regular_webTick (by decide), by decide⟩, ⟨by decide, trivial⟩,
    ⟨regular_webTick (by decide), by decide⟩, trivial⟩

def flappingRun : List AgentEvent :=
  [webTick "running" none 1700000000000000, webTick "exited" none 1700000000000000,
    webTick "running" none 1700000000000000, webTick "exited" none 1700000000000000]

theorem container_event_repeated_at_once :
    ¬ forall (read : Json -> Snapshot Int) (a : Agent Int),
      (agents read).Reachable Regular a ->
        containerEvents a.node.store = (transitions a.ticks).map Transition.columns := by
  intro hclaim
  have hrun : (agents (fun _ => idleSnapshot)).Guarded Regular newAgent flappingRun :=
    ⟨regular_webTick (by decide), regular_webTick (by decide), regular_webTick (by decide),
      regular_webTick (by decide), trivial⟩
  have hall := hclaim (fun _ => idleSnapshot) _
    ⟨_, (Machine.Run.start newAgent_start).exec flappingRun hrun⟩
  have hlength := congrArg List.length hall
  revert hlength
  decide

end Store
end PanicMonitr
