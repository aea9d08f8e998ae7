import PanicMonitr.Foundation.Blocks
import PanicMonitr.Liveness.History
import PanicMonitr.Store.Answers

/-!
# Incidents

No table of outages is kept: `incidents` goes once over the probe rows of a node and
watches the edges.  What it returns are the maximal blocks of rows that are not `ALIVE`.
-/

namespace PanicMonitr
namespace Liveness

open Foundation
open Store (epochText)

/-!
## The loop
-/

/-- `PeerStatus.value` -/
def PeerStatus.value : PeerStatus -> String
  | PeerStatus.alive => "ALIVE"
  | PeerStatus.dead => "DEAD"
  | PeerStatus.unknown => "UNKNOWN"
  | PeerStatus.unreachable => "UNREACHABLE"

/-- A row of the query: `ts` and the text of the status. -/
structure StatusRow where
  ts : Int
  status : String
  deriving DecidableEq

structure Incident where
  started : String
  ended : Option String
  durationS : Int
  ongoing : Bool
  deriving DecidableEq

def StatusRow.down (row : StatusRow) : Bool :=
  row.status ≠ PeerStatus.alive.value

/-- `prev_status is not None and prev_status != PeerStatus.ALIVE.value` -/
def wasDown : Option String -> Bool
  | none => false
  | some prev => prev ≠ PeerStatus.alive.value

/-- The record of an outage that is over; `none` is a time that has no date. -/
def closedIncident (start ts : Int) : Option Incident := do
  let started <- epochText start
  let ended <- epochText ts
  some { started := started, ended := some ended, durationS := max 0 (ts - start),
         ongoing := false }

def ongoingIncident (start lastTs : Int) : Option Incident := do
  let started <- epochText start
  some { started := started, ended := none, durationS := max 0 (lastTs - start),
         ongoing := true }

/-- The loop over the rows: the records it appends, and `open_start` at the end. -/
def incidentLoop (openStart : Option Int) (prevStatus : Option String) :
    List StatusRow -> Option (List Incident × Option Int)
  | [] => some ([], openStart)
  | row :: rows =>
      if row.down && !wasDown prevStatus then
        incidentLoop (some row.ts) (some row.status) rows
      else if !row.down && wasDown prevStatus then
        match openStart with
        | none => incidentLoop none (some row.status) rows
        | some start => do
            let incident <- closedIncident start row.ts
            let (incidents, openEnd) <- incidentLoop none (some row.status) rows
            some (incident :: incidents, openEnd)
      else incidentLoop openStart (some row.status) rows

/-- What stands behind the loop, up to `incidents.reverse()`. -/
def appendOngoing (lastTs : Option Int) (result : List Incident × Option Int) :
    Option (List Incident) :=
  match result.2, lastTs with
  | some start, some lastTs => do
      let incident <- ongoingIncident start lastTs
      some (result.1 ++ [incident])
  | _, _ => some result.1

/-- `xs[:limit]` -/
def sliceTo {elem : Type} (limit : Int) (xs : List elem) : List elem :=
  if 0 <= limit then xs.take limit.toNat else xs.take (xs.length - limit.natAbs)

/-- `incidents` from the rows of its query on. -/
def incidentsOf (rows : List StatusRow) (limit : Int) : Option (List Incident) := do
  let result <- incidentLoop none none rows
  let incidents <- appendOngoing (rows.getLast?.map StatusRow.ts) result
  some (sliceTo limit incidents.reverse)

def statusRow (row : ProbeRow) : StatusRow :=
  { ts := row.ts, status := row.status.value }

/-- `incidents(node_id, hours, limit)` at a clock reading. -/
def incidents (rows : List ProbeRow) (nodeId : String) (hours : Nat) (limit : Int)
    (now : Instant) : Option (List Incident) :=
  incidentsOf ((recentRows rows nodeId hours now).map statusRow) limit

/-!
## The outages of a sequence of rows
-/

/-- The maximal blocks of rows that are not `ALIVE`, each with the row after it. -/
def outages (rows : List StatusRow) : List (Block StatusRow) :=
  maximalBlocks StatusRow.down rows

/-- The record of an outage; only the time its start and its end have need a date. -/
def outageIncident (outage : Block StatusRow) : Option Incident := do
  let started <- epochText outage.first.ts
  match outage.next with
  | some back => do
      let ended <- epochText back.ts
      some { started := started, ended := some ended,
             durationS := back.ts - outage.first.ts, ongoing := false }
  | none =>
      some { started := started, ended := none,
             durationS := outage.last.ts - outage.first.ts, ongoing := true }

/-!
## Edges
-/

theorem incidentLoop_run (openStart : Option Int) (prevStatus : Option String)
    {group : List StatusRow} (rest : List StatusRow)
    (hgroup : forall row, row ∈ group -> row.down = wasDown prevStatus) :
    exists prevStatus', wasDown prevStatus' = wasDown prevStatus ∧
      incidentLoop openStart prevStatus (group ++ rest) =
        incidentLoop openStart prevStatus' rest := by
  induction group generalizing prevStatus with
  | nil => exact ⟨prevStatus, rfl, rfl⟩
  | cons row group ih =>
      have hrow := hgroup row (List.mem_cons_self ..)
      have hsame : wasDown (some row.status) = wasDown prevStatus := hrow
      rcases ih (some row.status)
        (fun r hr => (hgroup r (List.mem_cons_of_mem row hr)).trans hsame.symm) with
        ⟨prevStatus', hkept, hloop⟩
      refine ⟨prevStatus', hkept.trans hsame, ?_⟩
      rw [← hloop, List.cons_append]
      simp only [incidentLoop, hrow]
      cases wasDown prevStatus with
      | true => rfl
      | false => rfl

theorem incidentLoop_opens {openStart : Option Int} {prevStatus : Option String}
    {row : StatusRow} (rows : List StatusRow) (hup : wasDown prevStatus = false)
    (hdown : row.down = true) :
    incidentLoop openStart prevStatus (row :: rows) =
      incidentLoop (some row.ts) (some row.status) rows := by
  simp only [incidentLoop, hup, hdown]
  rfl

theorem incidentLoop_closes {start : Int} {prevStatus : Option String}
    {row : StatusRow} (rows : List StatusRow) (hdown : wasDown prevStatus = true)
    (hup : row.down = false) :
    incidentLoop (some start) prevStatus (row :: rows) =
      (closedIncident start row.ts).bind (fun incident =>
        (incidentLoop none (some row.status) rows).bind
          (fun result => some (incident :: result.1, result.2))) := by
  simp only [incidentLoop, hup, hdown]
  rfl

theorem appendOngoing_cons (lastTs : Option Int) (incident : Incident)
    (result : List Incident × Option Int) :
    appendOngoing lastTs (incident :: result.1, result.2) =
      (appendOngoing lastTs result).map (fun incidents => incident :: incidents) := by
  rcases result with ⟨incidents, _ | start⟩
  · rfl
  · cases lastTs with
    | none => rfl
    | some lastTs =>
        simp only [appendOngoing]
        cases ongoingIncident start lastTs with
        | none => rfl
        | some incident => rfl

theorem closedIncident_outage {outage : Block StatusRow} {back : StatusRow}
    (hnext : outage.next = some back) (hle : outage.first.ts <= back.ts) :
    closedIncident outage.first.ts back.ts = outageIncident outage := by
  unfold closedIncident outageIncident
  rw [hnext, Int.max_eq_right (by omega)]

theorem ongoingIncident_outage {outage : Block StatusRow} (hnext : outage.next = none)
    (hle : outage.first.ts <= outage.last.ts) :
    ongoingIncident outage.first.ts outage.last.ts = outageIncident outage := by
  unfold ongoingIncident outageIncident
  rw [hnext, Int.max_eq_right (by omega)]

/-- `mapM` over outages, one at a time. -/
theorem mapM_cons_outage (outage : Block StatusRow) (outages : List (Block StatusRow)) :
    (outage :: outages).mapM outageIncident =
      (outageIncident outage).bind (fun incident =>
        (outages.mapM outageIncident).map (fun incidents => incident :: incidents)) := by
  rw [List.mapM_cons]
  cases outageIncident outage with
  | none => rfl
  | some incident =>
      cases outages.mapM outageIncident with
      | none => rfl
      | some incidents => rfl

theorem last_cons_mem {first : StatusRow} {more : List StatusRow} {next : Option StatusRow} :
    (first :: more).getLast? = some (Block.last { first := first, more := more, next := next }) := by
  rw [List.getLast?_cons]
  rfl

theorem first_le_last {first : StatusRow} {more : List StatusRow} {next : Option StatusRow}
    (hsorted : (first :: more).Pairwise (fun a b => a.ts <= b.ts)) :
    first.ts <= (Block.last { first := first, more := more, next := next }).ts := by
  unfold Block.last
  cases hlast : more.getLast? with
  | none => exact Int.le_refl _
  | some row => exact (List.pairwise_cons.mp hsorted).left row (List.mem_of_getLast? hlast)

/--
The invariant of the loop over alternating runs: before a run that is up nothing is open,
or one outage is, and what the loop goes on to append are the records of the outages.
-/
structure LoopFollows (kind : Bool) (groups : List (List StatusRow)) (lastTs : Option Int) :
    Prop where
  closed : forall prevStatus, wasDown prevStatus = false ->
    (incidentLoop none prevStatus groups.flatten).bind (appendOngoing lastTs) =
      (blocksOf StatusRow.down groups).mapM outageIncident
  opened : kind = false -> forall (outage : Block StatusRow) prevStatus,
    wasDown prevStatus = true -> outage.next = groups.flatten.head? ->
    outage.first.ts <= outage.last.ts ->
    (forall row, row ∈ groups.flatten -> outage.first.ts <= row.ts) ->
    (groups.flatten = [] -> lastTs = some outage.last.ts) ->
    (incidentLoop (some outage.first.ts) prevStatus groups.flatten).bind
        (appendOngoing lastTs) =
      (outageIncident outage).bind (fun incident =>
        ((blocksOf StatusRow.down groups).mapM outageIncident).map
          (fun incidents => incident :: incidents))

theorem loopFollows {kind : Bool} {groups : List (List StatusRow)} {lastTs : Option Int}
    (h : AlternateRuns StatusRow.down kind groups)
    (hsorted : groups.flatten.Pairwise (fun a b => a.ts <= b.ts))
    (hlast : forall row, row ∈ groups.flatten.getLast? -> lastTs = some row.ts) :
    LoopFollows kind groups lastTs := by
  induction h with
  | nil kind =>
      constructor
      · intro prevStatus _
        rfl
      · intro _ outage prevStatus _ hnext hle _ hend
        rw [hend rfl, ← ongoingIncident_outage hnext hle]
        rfl
  | @cons kind first more groups hkind hrest ih =>
      have hfirst := hkind first (List.mem_cons_self ..)
      rw [List.flatten_cons] at hsorted hlast
      rcases List.pairwise_append.mp hsorted with ⟨hgroup, hlater, hacross⟩
      have hfollows : LoopFollows (!kind) groups lastTs := by
        apply ih hlater
        intro row hrow
        apply hlast row
        rw [List.getLast?_append, hrow]
        rfl
      cases kind with
      | false =>
          constructor
          · intro prevStatus hup
            rcases incidentLoop_run none prevStatus groups.flatten
              (fun row hrow => (hkind row hrow).trans hup.symm) with ⟨prev', hprev', hloop⟩
            rw [List.flatten_cons, hloop, blocksOf_cons_false hfirst]
            exact hfollows.closed prev' (hprev'.trans hup)
          · intro _ outage prevStatus hdown hnext hle hstart _
            have hback : outage.first.ts <= first.ts := hstart first (by simp)
            rcases incidentLoop_run none (some first.status) groups.flatten (fun row hrow =>
                (hkind row (List.mem_cons_of_mem first hrow)).trans hfirst.symm) with
              ⟨prev', hprev', hloop⟩
            have hafter := hfollows.closed prev' (hprev'.trans hfirst)
            rw [List.flatten_cons, List.cons_append, incidentLoop_closes _ hdown hfirst, hloop,
              closedIncident_outage hnext hback, blocksOf_cons_false hfirst, ← hafter]
            cases outageIncident outage with
            | none => rfl
            | some incident =>
                cases incidentLoop none prev' groups.flatten with
                | none => rfl
                | some result => exact appendOngoing_cons lastTs incident result
      | true =>
          constructor
          · intro prevStatus hup
            rcases incidentLoop_run (some first.ts) (some first.status) groups.flatten
              (fun row hrow =>
                (hkind row (List.mem_cons_of_mem first hrow)).trans hfirst.symm) with
              ⟨prev', hprev', hloop⟩
            rw [List.flatten_cons, List.cons_append, incidentLoop_opens _ hup hfirst, hloop,
              blocksOf_cons_true hfirst, mapM_cons_outage]
            refine hfollows.opened rfl
              { first := first, more := more, next := groups.flatten.head? } prev'
              (hprev'.trans hfirst) rfl ?_ ?_ ?_
            · exact first_le_last hgroup
            · intro row hrow
              exact hacross first (List.mem_cons_self ..) row hrow
            · intro hempty
              apply hlast
              rw [hempty, List.append_nil]
              exact last_cons_mem
          · intro hkind'
            cases hkind'

/-!
## What is returned
-/

/-- The loop and what stands behind it append the records of the outages. -/
theorem incidentLoop_outages {rows : List StatusRow}
    (hsorted : rows.Pairwise (fun a b => a.ts <= b.ts)) :
    (incidentLoop none none rows).bind (appendOngoing (rows.getLast?.map StatusRow.ts)) =
      (outages rows).mapM outageIncident := by
  rcases alternateRuns_splitBy StatusRow.down rows with ⟨kind, halt⟩
  have hflatten : (rows.splitBy (fun a b => a.down == b.down)).flatten = rows :=
    List.flatten_splitBy _ rows
  have hfollows : LoopFollows kind (rows.splitBy (fun a b => a.down == b.down))
      (rows.getLast?.map StatusRow.ts) := by
    apply loopFollows halt
    · rw [hflatten]
      exact hsorted
    · intro row hrow
      rw [hflatten] at hrow
      rw [hrow]
      rfl
  have hclosed := hfollows.closed none rfl
  rw [hflatten] at hclosed
  exact hclosed

theorem incidentsOf_eq {rows : List StatusRow}
    (hsorted : rows.Pairwise (fun a b => a.ts <= b.ts)) {limit : Int} (hlimit : 0 <= limit) :
    incidentsOf rows limit =
      ((outages rows).mapM outageIncident).map
        (fun incidents => incidents.reverse.take limit.toNat) := by
  have hslice : forall incidents : List Incident,
      sliceTo limit incidents = incidents.take limit.toNat := fun _ => if_pos hlimit
  rw [← incidentLoop_outages hsorted]
  unfold incidentsOf
  cases incidentLoop none none rows with
  | none => rfl
  | some result =>
      show (appendOngoing (rows.getLast?.map StatusRow.ts) result).bind
        (fun incidents => some (sliceTo limit incidents.reverse)) = _
      simp only [hslice]
      exact Option.map_eq_bind.symm

theorem mapM_cons_some {outage : Block StatusRow} {later : List (Block StatusRow)}
    {incidents : List Incident} (h : (outage :: later).mapM outageIncident = some incidents) :
    exists incident rest, outageIncident outage = some incident ∧
      later.mapM outageIncident = some rest ∧ incidents = incident :: rest := by
  rw [mapM_cons_outage] at h
  rcases Option.bind_eq_some_iff.mp h with ⟨incident, hincident, hrest⟩
  rcases Option.map_eq_some_iff.mp hrest with ⟨rest, hrest, heq⟩
  exact ⟨incident, rest, hincident, hrest, heq.symm⟩

theorem outageIncident_closed {outage : Block StatusRow} {back : StatusRow}
    (hnext : outage.next = some back) {incident : Incident}
    (h : outageIncident outage = some incident) :
    incident.ongoing = false ∧ incident.ended ≠ none := by
  unfold outageIncident at h
  rw [hnext] at h
  rcases Option.bind_eq_some_iff.mp h with ⟨started, _, h⟩
  rcases Option.bind_eq_some_iff.mp h with ⟨ended, _, h⟩
  cases h
  exact ⟨rfl, Option.some_ne_none ended⟩

theorem closed_of_dropLast {found : List (Block StatusRow)}
    (hseparate : found.Pairwise
      (fun older newer => exists back, older.next = some back ∧ back.ts <= newer.first.ts))
    {incidents : List Incident} (h : found.mapM outageIncident = some incidents) :
    forall incident, incident ∈ incidents.dropLast ->
      incident.ongoing = false ∧ incident.ended ≠ none := by
  induction found generalizing incidents with
  | nil =>
      cases h
      intro incident hmem
      cases hmem
  | cons outage later ih =>
      rcases List.pairwise_cons.mp hseparate with ⟨hhead, htail⟩
      rcases mapM_cons_some h with ⟨first, rest, hfirst, hrest, rfl⟩
      intro incident hmem
      cases later with
      | nil =>
          cases hrest
          cases hmem
      | cons newer later =>
          rcases mapM_cons_some hrest with ⟨second, rest', _, _, rfl⟩
          rw [List.dropLast_cons_cons] at hmem
          rcases List.mem_cons.mp hmem with rfl | hmem
          · rcases hhead newer (List.mem_cons_self ..) with ⟨back, hnext, _⟩
            exact outageIncident_closed hnext hfirst
          · exact ih htail hrest incident hmem

theorem mapM_outages_some {found : List (Block StatusRow)}
    (h : forall outage, outage ∈ found -> outageIncident outage ≠ none) :
    exists incidents, found.mapM outageIncident = some incidents := by
  induction found with
  | nil => exact ⟨[], rfl⟩
  | cons outage later ih =>
      rcases Option.ne_none_iff_exists'.mp (h outage (List.mem_cons_self ..)) with
        ⟨incident, hincident⟩
      rcases ih (fun o ho => h o (List.mem_cons_of_mem outage ho)) with ⟨rest, hrest⟩
      refine ⟨incident :: rest, ?_⟩
      rw [mapM_cons_outage, hincident, hrest]
      rfl

theorem last_of_next_none {rows : List StatusRow} {outage : Block StatusRow}
    (h : outage.Maximal StatusRow.down rows) (hnext : outage.next = none) :
    rows.getLast? = some outage.last := by
  rcases h.place with ⟨before, after, hrows, hafter, _⟩
  rw [hnext] at hafter
  rw [hrows, List.head?_eq_none_iff.mp hafter, List.append_nil,
    Block.elems, List.getLast?_append_of_ne_nil _ (List.cons_ne_nil outage.first outage.more)]
  exact last_cons_mem

theorem outageIncident_some {rows : List StatusRow} {outage : Block StatusRow}
    (h : outage.Maximal StatusRow.down rows)
    (hdates : forall row, row ∈ rows -> epochText row.ts ≠ none) :
    outageIncident outage ≠ none := by
  rcases h.place with ⟨before, after, hrows, hafter, _⟩
  have hfirst : outage.first ∈ rows := by
    rw [hrows]
    exact List.mem_append_left _ (List.mem_append_right _ (List.mem_cons_self ..))
  rcases Option.ne_none_iff_exists'.mp (hdates _ hfirst) with ⟨started, hstarted⟩
  unfold outageIncident
  rw [hstarted]
  cases hnext : outage.next with
  | none => exact Option.some_ne_none _
  | some back =>
      have hback : back ∈ rows := by
        rw [hrows]
        exact List.mem_append_right _ (List.mem_of_head? (hafter.trans hnext))
      rcases Option.ne_none_iff_exists'.mp (hdates _ hback) with ⟨ended, hended⟩
      show ((epochText back.ts).bind _) ≠ none
      rw [hended]
      exact Option.some_ne_none _

/--
The records are those of the outages, newest first and cut to the limit.  An outage ends
before the next begins, so that only the newest may go on; each row that is down belongs to
one of them; and there is an answer as long as the times have dates.
-/
structure DerivedIncidents (rows : List StatusRow) (limit : Int)
    (answer : Option (List Incident)) : Prop where
  records : answer = ((outages rows).mapM outageIncident).map
    (fun incidents => incidents.reverse.take limit.toNat)
  whole : (outages rows).length <= limit.toNat ->
    answer = ((outages rows).mapM outageIncident).map List.reverse
  maximal : forall outage, outage ∈ outages rows -> outage.Maximal StatusRow.down rows
  last : forall outage, outage ∈ outages rows -> outage.next = none ->
    rows.getLast? = some outage.last
  separate : (outages rows).Pairwise
    (fun older newer => exists back, older.next = some back ∧ back.ts <= newer.first.ts)
  ongoing : forall incidents, answer = some incidents ->
    forall incident, incident ∈ incidents.tail ->
      incident.ongoing = false ∧ incident.ended ≠ none
  downRows : (outages rows).flatMap Block.elems = rows.filter StatusRow.down
  answers : (forall row, row ∈ rows -> epochText row.ts ≠ none) -> answer ≠ none

theorem length_mapM_outages {found : List (Block StatusRow)} {incidents : List Incident}
    (h : found.mapM outageIncident = some incidents) : incidents.length = found.length := by
  induction found generalizing incidents with
  | nil =>
      cases h
      rfl
  | cons outage later ih =>
      rcases mapM_cons_some h with ⟨incident, rest, _, hrest, rfl⟩
      rw [List.length_cons, ih hrest, List.length_cons]

theorem derivedIncidents {rows : List StatusRow}
    (hsorted : rows.Pairwise (fun a b => a.ts <= b.ts)) {limit : Int} (hlimit : 0 <= limit) :
    DerivedIncidents rows limit (incidentsOf rows limit) := by
  have hmaximal : forall outage, outage ∈ outages rows ->
      outage.Maximal StatusRow.down rows := fun _ => maximal_of_mem StatusRow.down rows
  have hseparate := separate_maximalBlocks StatusRow.down rows hsorted
  have hanswer := incidentsOf_eq hsorted hlimit
  constructor
  · exact hanswer
  · intro hlong
    rw [hanswer]
    cases hfound : (outages rows).mapM outageIncident with
    | none => rfl
    | some incidents =>
        have hlength := length_mapM_outages hfound
        show some (incidents.reverse.take limit.toNat) = some incidents.reverse
        rw [List.take_of_length_le (by rw [List.length_reverse]; omega)]
  · exact hmaximal
  · intro outage hmem
    exact last_of_next_none (hmaximal outage hmem)
  · exact hseparate
  · intro incidents hincidents incident hmem
    rw [hanswer] at hincidents
    rcases Option.map_eq_some_iff.mp hincidents with ⟨found, hfound, rfl⟩
    apply closed_of_dropLast hseparate hfound
    have htail : incident ∈ found.reverse.tail :=
      (List.take_sublist limit.toNat found.reverse).tail.subset hmem
    rw [List.tail_reverse] at htail
    exact List.mem_reverse.mp htail
  · exact flatMap_maximalBlocks StatusRow.down rows
  · intro hdates
    rcases mapM_outages_some (fun o ho => outageIncident_some (hmaximal o ho) hdates) with
      ⟨found, hfound⟩
    rw [hanswer, hfound]
    exact Option.some_ne_none _

theorem sorted_recentRows (rows : List ProbeRow) (nodeId : String) (hours : Nat)
    (now : Instant) :
    ((recentRows rows nodeId hours now).map statusRow).Pairwise (fun a b => a.ts <= b.ts) := by
  have htotal : Std.Total (fun a b : ProbeRow => a.ts <= b.ts) :=
    ⟨fun a b => Int.le_total a.ts b.ts⟩
  have htrans : IsTrans ProbeRow (fun a b => a.ts <= b.ts) :=
    ⟨fun _ _ _ hab hbc => Int.le_trans hab hbc⟩
  apply List.pairwise_map.mpr
  exact List.pairwise_insertionSort _ _

/-- For rows of any times and texts, and for what the query selects from any store. -/
theorem incidents_are_outages {limit : Int} (hlimit : 0 <= limit) :
    (forall rows : List StatusRow, rows.Pairwise (fun a b => a.ts <= b.ts) ->
      DerivedIncidents rows limit (incidentsOf rows limit)) ∧
    forall (store : List ProbeRow) (nodeId : String) (hours : Nat) (now : Instant),
      DerivedIncidents ((recentRows store nodeId hours now).map statusRow) limit
        (incidents store nodeId hours limit now) :=
  ⟨fun _ hsorted => derivedIncidents hsorted hlimit,
    fun store nodeId hours now =>
      derivedIncidents (sorted_recentRows store nodeId hours now) hlimit⟩

/-- An outage of two rows that is over, and one that goes on. -/
def probedRows : List StatusRow :=
  [{ ts := 60, status := "DEAD" }, { ts := 120, status := "DEAD" },
    { ts := 180, status := "ALIVE" }, { ts := 180, status := "DEAD" }]

theorem incidents_are_outages_probed :
    incidentsOf probedRows 20 = some
      [{ started := "1970-01-01T05:33:00+05:30", ended := none, durationS := 0, ongoing := true },
        { started := "1970-01-01T05:31:00+05:30", ended := some "1970-01-01T05:33:00+05:30",
          durationS := 120, ongoing := false }] := by
  have hlimit : (0 : Int) <= 20 := by decide
  have hderived := (incidents_are_outages hlimit).left probedRows (by decide)
  rw [hderived.records]
  decide

end Liveness
end PanicMonitr
