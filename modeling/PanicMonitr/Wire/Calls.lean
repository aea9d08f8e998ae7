import PanicMonitr.Foundation.JsonLoads
import PanicMonitr.Foundation.Machine
import PanicMonitr.Trust.Projection
import PanicMonitr.Wire.Pipes
import PanicMonitr.Wire.Responses

/-!
# One request, one response

A call of the logs, status and sync protocols from the client's `open_uni` to the value it
returns: two streams whose bytes come in pieces, a handler that may close the connection
behind its answer or hold it open, timeouts on both sides, and a connection that may be
lost at any moment.
-/

namespace PanicMonitr
namespace Wire

open Foundation

/-!
## Handlers
-/

/--
What `accept` does with a request it has parsed.  It answers, and then returns at once or
`holds` the connection until the client closes it; what it raises it logs, and holds.
-/
inductive Served where
  | failed
  | refused
  | reply (response : Json) (holds : Bool)

/-- `ContainerLogsProtocol.accept`; its two refusals `return` behind their answer. -/
def logsServed (host : LogsHost) (req : Json) : Served :=
  match logsOutcome host req with
  | LogsOutcome.failed => Served.failed
  | LogsOutcome.refused message => Served.reply (errorJson message) false
  | LogsOutcome.fetched (Except.error message) => Served.reply (errorJson message) true
  | LogsOutcome.fetched (Except.ok logs) => Served.reply (logsJson logs) true

/-- `StatusProtocol.accept` -/
def statusServed (host : StatusHost) (req : Json) : Served :=
  match statusResponse host req with
  | none => Served.failed
  | some response => Served.reply response true

/-- `if not last_seen_raw` -/
def lacksLastSeen (req : Json) : Bool :=
  match field? "last_seen_timestamp" req with
  | some none => true
  | some (some raw) => !Trust.truthy raw
  | none => false

/-- `SyncProtocol.accept`; without a time it closes with 400. -/
def syncServed (host : SyncHost) (req : Json) : Served :=
  if lacksLastSeen req then Served.refused
  else
    match syncResponse host req with
    | none => Served.failed
    | some response => Served.reply response true

namespace Exchange

def request : Exchange -> Json
  | logs _ req => req
  | status _ req => req
  | sync _ req => req

/-- The size the handler calls `_read_framed` with. -/
def requestMax : Exchange -> Nat
  | logs _ _ => 1024
  | status _ _ => 1024
  | sync _ _ => 4096

def served : Exchange -> Json -> Served
  | logs host _ => logsServed host
  | status host _ => statusServed host
  | sync host _ => syncServed host

structure Printable (x : Exchange) : Prop where
  request : Json.Wf x.request
  response : forall json holds, x.served x.request = Served.reply json holds -> Json.Wf json

end Exchange

/-- `json.dumps(value).encode("utf-8")` -/
def frameOf (v : Json) : List UInt8 :=
  encodeUtf8 v.dumps

/-!
## The machine
-/

/-- Where the client is; `ended` holds what it returns, or nothing when it raises. -/
inductive Calling where
  | opening
  | writing
  | reading
  | ended (result : Option Json)

/-- Where the handler is, once the peer is let in. -/
inductive Serving where
  | reading
  | opening (response : Json) (holds : Bool)
  | writing (holds : Bool)
  | holding
  | returned

/--
The two parties, the two streams with what has arrived of them, and whether the connection is
up.  `handled` is a history variable: the requests the handler has acted on.
-/
structure Call where
  client : Calling
  server : Serving
  request : Pipe
  response : Pipe
  toServer : List UInt8
  toClient : List UInt8
  up : Bool
  handled : List Json

/-- How much of either stream can still be read when the connection is closed. -/
structure Kept where
  atServer : Nat
  atClient : Nat

inductive CallEvent where
  /-- The client goes on, if what it waits for is there. -/
  | client (kept : Kept)
  | server (kept : Kept)
  | clientTimeout (kept : Kept)
  | serverTimeout (kept : Kept)
  | acceptRequest (n : Nat)
  | deliverRequest (n : Nat)
  | acceptResponse (n : Nat)
  | deliverResponse (n : Nat)
  /-- The connection is lost. -/
  | drop (kept : Kept)

namespace Call

/-- The connection is closed, and what has not arrived never will. -/
def hangUp (s : Call) (kept : Kept) : Call :=
  if s.up then
    { s with
      request := (s.request.gone s.toServer kept.atServer).2
      toServer := (s.request.gone s.toServer kept.atServer).1
      response := (s.response.gone s.toClient kept.atClient).2
      toClient := (s.response.gone s.toClient kept.atClient).1
      up := false }
  else s

/-- The client returns or raises, and closes the connection. -/
def finish (s : Call) (result : Option Json) (kept : Kept) : Call :=
  { s with client := Calling.ended result }.hangUp kept

/-- The handler returns, and the transport closes the connection. -/
def leave (s : Call) (kept : Kept) : Call :=
  { s with server := Serving.returned }.hangUp kept

def clientStep (x : Exchange) (s : Call) (kept : Kept) : Call :=
  match s.client with
  | Calling.opening =>
      match s.request.put (frameOf x.request) with
      | none => s.finish none kept
      | some request => { s with client := Calling.writing, request := request }
  | Calling.writing =>
      if s.request.stopped then s.finish none kept
      else if s.request.pending = [] then
        { s with client := Calling.reading, request := s.request.finish }
      else s
  | Calling.reading =>
      if s.response.ready x.maxSize s.toClient then
        match readFramed x.maxSize s.toClient with
        | Except.ok (payload, _) => s.finish (Json.loads payload) kept
        | Except.error _ => s.finish none kept
      else s
  | Calling.ended _ => s

def handle (x : Exchange) (s : Call) (payload : List UInt8) (kept : Kept) : Call :=
  match Json.loads payload with
  | none => { s with server := Serving.holding }
  | some req =>
      match x.served req with
      | Served.failed =>
          { s with server := Serving.holding, handled := s.handled ++ [req] }
      | Served.refused => { s with handled := s.handled ++ [req] }.leave kept
      | Served.reply response holds =>
          { s with
            server := Serving.opening response holds
            handled := s.handled ++ [req] }

def serverStep (x : Exchange) (s : Call) (kept : Kept) : Call :=
  match s.server with
  | Serving.reading =>
      if s.request.ready x.requestMax s.toServer then
        match readFramed x.requestMax s.toServer with
        | Except.ok (payload, rest) => { s with toServer := rest }.handle x payload kept
        | Except.error _ => { s with server := Serving.holding }
      else s
  | Serving.opening response holds =>
      match s.response.put (frameOf response) with
      | none => { s with server := Serving.holding }
      | some stream => { s with server := Serving.writing holds, response := stream }
  | Serving.writing holds =>
      if s.response.stopped then { s with server := Serving.holding }
      else if s.response.pending = [] then
        if holds then { s with server := Serving.holding, response := s.response.finish }
        else { s with response := s.response.finish }.leave kept
      else s
  | Serving.holding => if s.up then s else { s with server := Serving.returned }
  | Serving.returned => s

/-- `write_all` and `finish` have no timeout, on either side. -/
def clientTimeout (s : Call) (kept : Kept) : Call :=
  match s.client with
  | Calling.opening => s.finish none kept
  | Calling.reading => s.finish none kept
  | _ => s

def serverTimeout (s : Call) (kept : Kept) : Call :=
  match s.server with
  | Serving.reading => { s with server := Serving.holding }
  | Serving.opening _ _ => { s with server := Serving.holding }
  | Serving.holding => s.leave kept
  | _ => s

def step (x : Exchange) (s : Call) : CallEvent -> Call
  | CallEvent.client kept => s.clientStep x kept
  | CallEvent.server kept => s.serverStep x kept
  | CallEvent.clientTimeout kept => s.clientTimeout kept
  | CallEvent.serverTimeout kept => s.serverTimeout kept
  | CallEvent.acceptRequest n => { s with request := s.request.accept n }
  | CallEvent.deliverRequest n =>
      { s with
        request := (s.request.deliver n).2
        toServer := s.toServer ++ (s.request.deliver n).1 }
  | CallEvent.acceptResponse n => { s with response := s.response.accept n }
  | CallEvent.deliverResponse n =>
      { s with
        response := (s.response.deliver n).2
        toClient := s.toClient ++ (s.response.deliver n).1 }
  | CallEvent.drop kept => s.hangUp kept

end Call

def Call.started : Call where
  client := Calling.opening
  server := Serving.reading
  request := Pipe.fresh
  response := Pipe.fresh
  toServer := []
  toClient := []
  up := true
  handled := []

def calls (x : Exchange) : Machine Call CallEvent where
  start s := s = Call.started
  step := Call.step x

/-!
## What is on the streams
-/

/-- The handler has acted on the request and answered `json`. -/
def Replied (x : Exchange) (s : Call) (json : Json) : Prop :=
  s.handled = [x.request] ∧ exists holds, x.served x.request = Served.reply json holds

/--
Each stream holds one frame at most: the request, and the answer to it.  What has not been
read of them is still there, as long as there is somebody to read it.
-/
structure CallReads (x : Exchange) (s : Call) : Prop where
  request : s.request.written = [] ∨ s.request.written = [frameOf x.request]
  unsent : s.client = Calling.opening -> s.request.written = []
  unread : s.server = Serving.reading ->
    s.handled = [] ∧ s.response.written = [] ∧
      Carries s.request s.toServer s.request.written
  opening : forall json holds, s.server = Serving.opening json holds ->
    s.handled = [x.request] ∧ x.served x.request = Served.reply json holds ∧
      s.response.written = []
  handled : s.handled = [] ∨ s.handled = [x.request]
  replied : s.response.written = [] ∨
    exists json, s.response.written = [frameOf json] ∧ Replied x s json
  awaited : (forall result, s.client ≠ Calling.ended result) ->
    Carries s.response s.toClient s.response.written
  returned : forall v, s.client = Calling.ended (some v) ->
    Replied x s v ∧ (frameOf v).length <= x.maxSize

section Steps

variable {x : Exchange} {s : Call}

theorem callReads_started (x : Exchange) : CallReads x Call.started where
  request := Or.inl rfl
  unsent := fun _ => rfl
  unread := fun _ => ⟨rfl, rfl, carries_fresh⟩
  opening := fun _ _ h => by cases h
  handled := Or.inl rfl
  replied := Or.inl rfl
  awaited := fun _ => carries_fresh
  returned := fun _ h => by cases h

theorem CallReads.hangUp (h : CallReads x s) (kept : Kept) : CallReads x (s.hangUp kept) := by
  unfold Call.hangUp
  split
  · constructor
    · exact h.request
    · exact h.unsent
    · intro hserver
      rcases h.unread hserver with ⟨hhandled, hwritten, hcarries⟩
      exact ⟨hhandled, hwritten, hcarries.gone kept.atServer⟩
    · exact h.opening
    · exact h.handled
    · exact h.replied
    · exact fun hclient => (h.awaited hclient).gone kept.atClient
    · exact h.returned
  · exact h

theorem CallReads.finish (h : CallReads x s) {result : Option Json}
    (hresult : forall v, result = some v -> Replied x s v ∧ (frameOf v).length <= x.maxSize)
    (kept : Kept) : CallReads x (s.finish result kept) := by
  apply CallReads.hangUp
  constructor
  · exact h.request
  · exact fun hclient => by cases hclient
  · exact h.unread
  · exact h.opening
  · exact h.handled
  · exact h.replied
  · exact fun hclient => absurd rfl (hclient result)
  · intro v hv
    cases hv
    exact hresult v rfl

/-- The handler has gone on to a point where it neither reads nor answers. -/
theorem CallReads.pass (h : CallReads x s) {server : Serving}
    (hreading : server ≠ Serving.reading)
    (hopening : forall json holds, server ≠ Serving.opening json holds) :
    CallReads x { s with server := server } where
  request := h.request
  unsent := h.unsent
  unread := fun hserver => absurd hserver hreading
  opening := fun json holds hserver => absurd hserver (hopening json holds)
  handled := h.handled
  replied := h.replied
  awaited := h.awaited
  returned := h.returned

theorem CallReads.hold (h : CallReads x s) : CallReads x { s with server := Serving.holding } :=
  h.pass (fun hserver => by cases hserver) (fun _ _ hserver => by cases hserver)

theorem CallReads.leave (h : CallReads x s) (kept : Kept) : CallReads x (s.leave kept) :=
  (h.pass (fun hserver => by cases hserver) (fun _ _ hserver => by cases hserver)).hangUp kept

theorem CallReads.clientStep (h : CallReads x s) (hx : x.Printable) (kept : Kept) :
    CallReads x (s.clientStep x kept) := by
  have hraise : forall s', CallReads x s' -> CallReads x (s'.finish none kept) :=
    fun s' h' => h'.finish (fun v hv => by cases hv) kept
  unfold Call.clientStep
  cases hclient : s.client with
  | opening =>
      simp only
      cases hput : s.request.put (frameOf x.request) with
      | none => exact hraise s h
      | some request =>
          have hwritten : request.written = [frameOf x.request] := by
            rw [put_written hput, h.unsent hclient, List.nil_append]
          constructor
          · exact Or.inr hwritten
          · exact fun hnow => by cases hnow
          · intro hserver
            rcases h.unread hserver with ⟨hhandled, hresponse, hcarries⟩
            refine ⟨hhandled, hresponse, ?_⟩
            have hmore := hcarries.put hput
            rw [← put_written hput] at hmore
            exact hmore
          · exact h.opening
          · exact h.handled
          · exact h.replied
          · exact fun _ => h.awaited (fun result hnow => by rw [hclient] at hnow; cases hnow)
          · exact fun v hnow => by cases hnow
  | writing =>
      simp only
      split
      · exact hraise s h
      split
      · constructor
        · exact h.request
        · exact fun hnow => by cases hnow
        · intro hserver
          rcases h.unread hserver with ⟨hhandled, hresponse, hcarries⟩
          exact ⟨hhandled, hresponse, hcarries.finish⟩
        · exact h.opening
        · exact h.handled
        · exact h.replied
        · exact fun _ => h.awaited (fun result hnow => by rw [hclient] at hnow; cases hnow)
        · exact fun v hnow => by cases hnow
      · exact h
  | reading =>
      have hcarries := h.awaited (fun result hnow => by rw [hclient] at hnow; cases hnow)
      simp only
      split
      · cases hread : readFramed x.maxSize s.toClient with
        | error error => exact hraise s h
        | ok frame =>
            rcases frame with ⟨payload, later⟩
            apply h.finish
            intro v hloads
            rcases hcarries.read hread with ⟨hfits, left, hleft, _⟩
            rcases h.replied with hnone | ⟨json, hwritten, hreplied⟩
            · rw [hnone] at hleft
              cases hleft
            · rw [hwritten] at hleft
              rcases List.cons.inj hleft with ⟨hpayload, _⟩
              rcases hreplied.right with ⟨holds, hserved⟩
              rw [← hpayload] at hfits
              rw [← hpayload, frameOf, Json.loads_dumps (hx.response json holds hserved)]
                at hloads
              rw [← Option.some.inj hloads]
              exact ⟨hreplied, hfits⟩
      · exact h
  | ended result => exact h

theorem CallReads.handle (h : CallReads x s) (hx : x.Printable)
    (hserver : s.server = Serving.reading) {payload rest : List UInt8}
    (hread : readFramed x.requestMax s.toServer = Except.ok (payload, rest)) (kept : Kept) :
    CallReads x ({ s with toServer := rest }.handle x payload kept) := by
  rcases h.unread hserver with ⟨hhandled, hresponse, hcarries⟩
  rcases hcarries.read hread with ⟨_, left, hleft, _⟩
  have hpayload : payload = frameOf x.request := by
    rcases h.request with hnone | hone
    · rw [hnone] at hleft
      cases hleft
    · rw [hone] at hleft
      exact (List.cons.inj hleft).left.symm
  have hloads : Json.loads payload = some x.request := by
    rw [hpayload, frameOf, Json.loads_dumps hx.request]
  have hnext : forall server, server ≠ Serving.reading ->
      (forall json holds, server = Serving.opening json holds ->
        x.served x.request = Served.reply json holds) ->
      CallReads x { s with
        toServer := rest
        server := server
        handled := s.handled ++ [x.request] } := by
    intro server hreading hopening
    have hone : s.handled ++ [x.request] = [x.request] := by
      rw [hhandled, List.nil_append]
    constructor
    · exact h.request
    · exact h.unsent
    · exact fun hnow => absurd hnow hreading
    · exact fun json holds hnow => ⟨hone, hopening json holds hnow, hresponse⟩
    · exact Or.inr hone
    · exact Or.inl hresponse
    · exact h.awaited
    · intro v hv
      rcases (h.returned v hv).left.left.symm.trans hhandled with hnone
      cases hnone
  unfold Call.handle
  rw [hloads]
  simp only
  cases hserved : x.served x.request with
  | failed =>
      exact hnext Serving.holding (fun hnow => by cases hnow) (fun _ _ hnow => by cases hnow)
  | refused =>
      exact (hnext Serving.returned (fun hnow => by cases hnow)
        (fun _ _ hnow => by cases hnow)).hangUp kept
  | reply json holds =>
      apply hnext (Serving.opening json holds) (fun hnow => by cases hnow)
      intro json' holds' hnow
      cases hnow
      exact hserved

theorem CallReads.serverStep (h : CallReads x s) (hx : x.Printable) (kept : Kept) :
    CallReads x (s.serverStep x kept) := by
  unfold Call.serverStep
  cases hserver : s.server with
  | reading =>
      simp only
      split
      · cases hread : readFramed x.requestMax s.toServer with
        | error error => exact h.hold
        | ok frame => exact h.handle hx hserver hread kept
      · exact h
  | opening json holds =>
      rcases h.opening json holds hserver with ⟨hhandled, hserved, hnone⟩
      simp only
      cases hput : s.response.put (frameOf json) with
      | none => exact h.hold
      | some response =>
          have hwritten : response.written = [frameOf json] := by
            rw [put_written hput, hnone, List.nil_append]
          constructor
          · exact h.request
          · exact h.unsent
          · exact fun hnow => by cases hnow
          · exact fun _ _ hnow => by cases hnow
          · exact h.handled
          · exact Or.inr ⟨json, hwritten, hhandled, holds, hserved⟩
          · intro hclient
            have hmore := (h.awaited hclient).put hput
            rw [← put_written hput] at hmore
            exact hmore
          · exact h.returned
  | writing holds =>
      have hfinish : CallReads x { s with response := s.response.finish } := by
        constructor
        · exact h.request
        · exact h.unsent
        · exact fun hnow => by rw [hserver] at hnow; cases hnow
        · exact fun _ _ hnow => by rw [hserver] at hnow; cases hnow
        · exact h.handled
        · exact h.replied
        · exact fun hclient => (h.awaited hclient).finish
        · exact h.returned
      simp only
      split
      · exact h.hold
      split
      · split
        · exact hfinish.hold
        · exact hfinish.leave kept
      · exact h
  | holding =>
      simp only
      split
      · exact h
      · exact h.pass (fun hnow => by cases hnow) (fun _ _ hnow => by cases hnow)
  | returned => exact h

theorem CallReads.moveRequest (h : CallReads x s) {request : Pipe} {toServer : List UInt8}
    (hwritten : request.written = s.request.written)
    (hcarries : Carries s.request s.toServer s.request.written ->
      Carries request toServer s.request.written) :
    CallReads x { s with request := request, toServer := toServer } := by
  constructor
  · exact hwritten ▸ h.request
  · exact fun hclient => hwritten.trans (h.unsent hclient)
  · intro hserver
    rcases h.unread hserver with ⟨hhandled, hresponse, hunread⟩
    refine ⟨hhandled, hresponse, ?_⟩
    show Carries request toServer request.written
    rw [hwritten]
    exact hcarries hunread
  · exact h.opening
  · exact h.handled
  · exact h.replied
  · exact h.awaited
  · exact h.returned

theorem CallReads.moveResponse (h : CallReads x s) {response : Pipe} {toClient : List UInt8}
    (hwritten : response.written = s.response.written)
    (hcarries : Carries s.response s.toClient s.response.written ->
      Carries response toClient s.response.written) :
    CallReads x { s with response := response, toClient := toClient } := by
  constructor
  · exact h.request
  · exact h.unsent
  · intro hserver
    rcases h.unread hserver with ⟨hhandled, hresponse, hunread⟩
    exact ⟨hhandled, hwritten.trans hresponse, hunread⟩
  · intro json holds hserver
    rcases h.opening json holds hserver with ⟨hhandled, hserved, hnone⟩
    exact ⟨hhandled, hserved, hwritten.trans hnone⟩
  · exact h.handled
  · exact hwritten ▸ h.replied
  · intro hclient
    show Carries response toClient response.written
    rw [hwritten]
    exact hcarries (h.awaited hclient)
  · exact h.returned

theorem CallReads.step (h : CallReads x s) (hx : x.Printable) (e : CallEvent) :
    CallReads x (s.step x e) := by
  cases e with
  | client kept => exact h.clientStep hx kept
  | server kept => exact h.serverStep hx kept
  | clientTimeout kept =>
      have hraise : CallReads x (s.finish none kept) := h.finish (fun v hv => by cases hv) kept
      show CallReads x (s.clientTimeout kept)
      unfold Call.clientTimeout
      cases s.client with
      | opening => exact hraise
      | writing => exact h
      | reading => exact hraise
      | ended result => exact h
  | serverTimeout kept =>
      show CallReads x (s.serverTimeout kept)
      unfold Call.serverTimeout
      cases s.server with
      | reading => exact h.hold
      | opening json holds => exact h.hold
      | writing holds => exact h
      | holding => exact h.leave kept
      | returned => exact h
  | acceptRequest n => exact h.moveRequest rfl (fun hcarries => hcarries.accept n)
  | deliverRequest n => exact h.moveRequest rfl (fun hcarries => hcarries.deliver n)
  | acceptResponse n => exact h.moveResponse rfl (fun hcarries => hcarries.accept n)
  | deliverResponse n => exact h.moveResponse rfl (fun hcarries => hcarries.deliver n)
  | drop kept => exact h.hangUp kept

theorem callReads_run (hx : x.Printable) {guard : Call -> CallEvent -> Prop} {past : List Call}
    (hrun : (calls x).Run guard past s) : CallReads x s :=
  hrun.invariant (fun _ hs => hs ▸ callReads_started x) (fun _ e h _ => h.step hx e)

end Steps

/-!
## When nothing goes wrong

No timeout runs out and the connection is not lost.  The handler has an answer, and both
frames are under the caps of their readers.
-/

def CallEvent.Calm : CallEvent -> Prop
  | client _ => True
  | server _ => True
  | acceptRequest _ => True
  | deliverRequest _ => True
  | acceptResponse _ => True
  | deliverResponse _ => True
  | _ => False

structure Answered (x : Exchange) (json : Json) (holds : Bool) : Prop where
  served : x.served x.request = Served.reply json holds
  asks : (frameOf x.request).length <= x.requestMax
  fits : (frameOf json).length <= x.maxSize

theorem Exchange.max_lt (x : Exchange) : x.requestMax < 2 ^ 32 ∧ x.maxSize < 2 ^ 32 := by
  cases x with
  | logs host req => exact ⟨by show 1024 < 2 ^ 32; decide, by show LOGS_RESPONSE_MAX < _; decide⟩
  | status host req =>
      exact ⟨by show 1024 < 2 ^ 32; decide, by show STATUS_RESPONSE_MAX < _; decide⟩
  | sync host req => exact ⟨by show 4096 < 2 ^ 32; decide, by show SYNC_RESPONSE_MAX < _; decide⟩

theorem put_of_length {p : Pipe} {payload : List UInt8} (hwritable : p.writable = true)
    (hlength : payload.length < 2 ^ 32) :
    exists framed, p.put payload = some
      { p with written := p.written ++ [payload], pending := p.pending ++ framed } ∧
        framed.length = 4 + payload.length := by
  rcases writeFramed_of_length hlength with ⟨framed, hframed⟩
  refine ⟨framed, ?_, writeFramed_length hframed⟩
  unfold Pipe.put
  rw [if_pos hwritable, hframed]
  rfl

def Calling.OnTheWay (x : Exchange) (request : Pipe) : Calling -> Prop
  | opening => request.writable = true
  | writing => request.written = [frameOf x.request]
  | reading => request.written = [frameOf x.request] ∧ request.pending = []
  | ended _ => False

def Serving.OnTheWay (json : Json) (response : Pipe) : Serving -> Prop
  | reading => response.writable = true
  | opening _ _ => response.writable = true
  | writing holds => holds = true ∧ response.written = [frameOf json]
  | holding => response.written = [frameOf json] ∧ response.pending = []
  | returned => False

/-- The connection is up, or the client has closed it with the answer in its hands. -/
inductive Going (x : Exchange) (json : Json) (s : Call) : Prop where
  | up (hup : s.up = true) (hrequest : s.request.stopped = false)
      (hresponse : s.response.stopped = false) (hclient : s.client.OnTheWay x s.request)
      (hserver : s.server.OnTheWay json s.response)
  | done (hup : s.up = false) (hrequest : s.request.stopped = true)
      (hresponse : s.response.stopped = true) (hclosed : s.response.writable = false)
      (hclient : s.client = Calling.ended (some json))

section Calm

variable {x : Exchange} {json : Json} {s : Call}

theorem going_started (x : Exchange) (json : Json) : Going x json Call.started :=
  Going.up rfl rfl rfl rfl rfl

/-- A frame of a stream that is up is read only when it has arrived, and it is no other. -/
theorem read_of_ready {p : Pipe} {arrived frame : List UInt8} {max : Nat}
    (hcarries : Carries p arrived p.written)
    (hwritten : p.written = [] ∨ p.written = [frame]) (hfits : frame.length <= max)
    (hstopped : p.stopped = false) (hready : p.ready max arrived = true) :
    exists rest, readFramed max arrived = Except.ok (frame, rest) := by
  cases hread : readFramed max arrived with
  | error error =>
      cases error with
      | streamEnded =>
          unfold Pipe.ready at hready
          rw [hread, hstopped] at hready
          cases hready
      | tooLarge length cap =>
          have hcap := readFramed_cap hread
          subst hcap
          rcases readFramed_front_tooLarge hcarries.bytes hread with ⟨payload, left, hleft, hlong⟩
          rcases hwritten with hnone | hone
          · rw [hnone] at hleft
            cases hleft
          · rw [hone] at hleft
            rw [← (List.cons.inj hleft).left] at hlong
            exact absurd hfits (Nat.not_le.mpr hlong)
  | ok read =>
      rcases read with ⟨payload, rest⟩
      rcases hcarries.read hread with ⟨_, left, hleft, _⟩
      rcases hwritten with hnone | hone
      · rw [hnone] at hleft
        cases hleft
      · rw [hone] at hleft
        rw [(List.cons.inj hleft).left]
        exact ⟨rest, rfl⟩

theorem ready_of_stopped {p : Pipe} (hstopped : p.stopped = true) (max : Nat)
    (arrived : List UInt8) : p.ready max arrived = true := by
  unfold Pipe.ready
  split
  · exact hstopped
  · rfl

def Calling.left (x : Exchange) : Calling -> Nat
  | opening => 2 * (4 + (frameOf x.request).length) + 3
  | writing => 2
  | reading => 1
  | ended _ => 0

def Serving.left (json : Json) : Serving -> Nat
  | reading => 2 * (4 + (frameOf json).length) + 4
  | opening _ _ => 2 * (4 + (frameOf json).length) + 3
  | writing _ => 2
  | holding => 1
  | returned => 0

def Pipe.left (p : Pipe) : Nat :=
  2 * p.pending.length + p.transit.length

def Call.left (x : Exchange) (json : Json) (s : Call) : Nat :=
  s.client.left x + s.server.left json + (s.request.left + s.response.left)

theorem accept_cases (p : Pipe) (n : Nat) :
    p.accept n = p ∨ (p.accept n).left < p.left := by
  cases htake : p.pending.take n with
  | nil =>
      left
      have hdrop : p.pending.drop n = p.pending := by
        have hsplit := List.take_append_drop n p.pending
        rw [htake, List.nil_append] at hsplit
        exact hsplit
      unfold Pipe.accept
      rw [htake, hdrop, List.append_nil]
  | cons b bytes =>
      right
      have hlength := congrArg List.length (List.take_append_drop n p.pending)
      rw [htake, List.length_append] at hlength
      show 2 * (p.pending.drop n).length + (p.transit ++ p.pending.take n).length <
        2 * p.pending.length + p.transit.length
      rw [htake, List.length_append]
      simp only [List.length_cons] at hlength ⊢
      omega

theorem deliver_cases (p : Pipe) (n : Nat) :
    p.deliver n = ([], p) ∨ (p.deliver n).2.left < p.left := by
  cases htake : p.transit.take n with
  | nil =>
      left
      have hdrop : p.transit.drop n = p.transit := by
        have hsplit := List.take_append_drop n p.transit
        rw [htake, List.nil_append] at hsplit
        exact hsplit
      unfold Pipe.deliver
      rw [htake, hdrop]
  | cons b bytes =>
      right
      have hlength := congrArg List.length (List.take_append_drop n p.transit)
      rw [htake, List.length_append] at hlength
      show 2 * p.pending.length + (p.transit.drop n).length <
        2 * p.pending.length + p.transit.length
      simp only [List.length_cons] at hlength
      omega

/-- An event does nothing, or keeps the call going with less left to do. -/
def GoesOn (x : Exchange) (json : Json) (s s' : Call) : Prop :=
  s' = s ∨ Going x json s' ∧ s'.left x json < s.left x json

theorem goesOn_finish (hup : s.up = true) (hclient : s.client = Calling.reading) (kept : Kept) :
    GoesOn x json s (s.finish (some json) kept) := by
  right
  unfold Call.finish Call.hangUp
  rw [if_pos hup]
  constructor
  · exact Going.done rfl rfl rfl rfl rfl
  · show 0 + s.server.left json + (0 + 0) < s.client.left x + s.server.left json +
      (s.request.left + s.response.left)
    rw [hclient]
    show 0 + s.server.left json + (0 + 0) < 1 + s.server.left json +
      (s.request.left + s.response.left)
    omega

theorem Going.clientStep (hg : Going x json s) (h : CallReads x s) (hx : x.Printable)
    (ha : Answered x json true) (kept : Kept) : GoesOn x json s (s.clientStep x kept) := by
  have hcaps := x.max_lt
  cases hg with
  | done hup hrequest hresponse hclosed hclient =>
      left
      unfold Call.clientStep
      rw [hclient]
  | up hup hrequest hresponse hclient hserver =>
      unfold Call.clientStep
      cases hstage : s.client with
      | opening =>
          rw [hstage] at hclient
          rcases put_of_length hclient (Nat.lt_of_le_of_lt ha.asks hcaps.left) with
            ⟨framed, hput, hlength⟩
          have hwritten : s.request.written ++ [frameOf x.request] = [frameOf x.request] := by
            rw [h.unsent hstage, List.nil_append]
          simp only [hput]
          right
          constructor
          · exact Going.up hup hrequest hresponse hwritten hserver
          · show 2 + s.server.left json + (2 * (s.request.pending ++ framed).length +
                s.request.transit.length + s.response.left) < s.client.left x +
              s.server.left json + (s.request.left + s.response.left)
            rw [hstage, List.length_append, hlength]
            simp only [Calling.left, Pipe.left]
            omega
      | writing =>
          rw [hstage] at hclient
          simp only [hrequest, Bool.false_eq_true, if_false]
          split
          · rename_i hpending
            right
            constructor
            · exact Going.up hup hrequest hresponse ⟨hclient, hpending⟩ hserver
            · show 1 + s.server.left json + (s.request.left + s.response.left) <
                s.client.left x + s.server.left json + (s.request.left + s.response.left)
              rw [hstage]
              simp only [Calling.left]
              omega
          · exact Or.inl rfl
      | reading =>
          have hcarries := h.awaited (fun result hnow => by rw [hstage] at hnow; cases hnow)
          have hwritten : s.response.written = [] ∨ s.response.written = [frameOf json] := by
            rcases h.replied with hnone | ⟨json', hone, hreplied⟩
            · exact Or.inl hnone
            · rcases hreplied.right with ⟨holds, hserved⟩
              rw [ha.served] at hserved
              cases hserved
              exact Or.inr hone
          simp only
          split
          · rename_i hready
            rcases read_of_ready hcarries hwritten ha.fits hresponse hready with ⟨rest, hread⟩
            rw [hread]
            simp only
            rw [frameOf, Json.loads_dumps (hx.response json true ha.served)]
            exact goesOn_finish hup hstage kept
          · exact Or.inl rfl
      | ended result =>
          rw [hstage] at hclient
          exact hclient.elim

theorem Going.serverReading (hg : Going x json s) (h : CallReads x s) (hx : x.Printable)
    (ha : Answered x json true) (hstage : s.server = Serving.reading) (kept : Kept) :
    GoesOn x json s (s.serverStep x kept) := by
  rcases h.unread hstage with ⟨_, _, hcarries⟩
  have hless : forall request response,
      Call.left x json ⟨s.client, Serving.opening json true, s.request, s.response, request,
        s.toClient, s.up, response⟩ < s.left x json := by
    intro request response
    show s.client.left x + (2 * (4 + (frameOf json).length) + 3) +
      (s.request.left + s.response.left) < _
    unfold Call.left
    rw [hstage]
    simp only [Serving.left]
    omega
  have hnext : forall payload rest, readFramed x.requestMax s.toServer =
      Except.ok (payload, rest) ->
      s.serverStep x kept = { s with
        toServer := rest
        server := Serving.opening json true
        handled := s.handled ++ [x.request] } ∨ s.serverStep x kept = s := by
    intro payload rest hread
    rcases hcarries.read hread with ⟨_, left, hleft, _⟩
    have hpayload : payload = frameOf x.request := by
      rcases h.request with hnone | hone
      · rw [hnone] at hleft
        cases hleft
      · rw [hone] at hleft
        exact (List.cons.inj hleft).left.symm
    unfold Call.serverStep
    rw [hstage]
    simp only
    split
    · left
      rw [hread]
      simp only
      unfold Call.handle
      rw [hpayload, frameOf, Json.loads_dumps hx.request]
      simp only [ha.served]
    · exact Or.inr rfl
  cases hg with
  | up hup hrequest hresponse hclient hserver =>
      by_cases hready : s.request.ready x.requestMax s.toServer = true
      · rcases read_of_ready hcarries h.request ha.asks hrequest hready with ⟨rest, hread⟩
        rcases hnext _ rest hread with hstep | hstep
        · rw [hstep]
          rw [hstage] at hserver
          exact Or.inr ⟨Going.up hup hrequest hresponse hclient hserver, hless rest _⟩
        · exact Or.inl hstep
      · left
        unfold Call.serverStep
        rw [hstage]
        simp only
        rw [if_neg hready]
  | done hup hrequest hresponse hclosed hclient =>
      cases hread : readFramed x.requestMax s.toServer with
      | ok frame =>
          rcases hnext frame.1 frame.2 hread with hstep | hstep
          · rw [hstep]
            exact Or.inr ⟨Going.done hup hrequest hresponse hclosed hclient, hless _ _⟩
          · exact Or.inl hstep
      | error error =>
          right
          unfold Call.serverStep
          rw [hstage]
          simp only
          rw [if_pos (ready_of_stopped hrequest _ _), hread]
          constructor
          · exact Going.done hup hrequest hresponse hclosed hclient
          · show s.client.left x + 1 + (s.request.left + s.response.left) < _
            unfold Call.left
            rw [hstage]
            simp only [Serving.left]
            omega

theorem Going.serverStep (hg : Going x json s) (h : CallReads x s) (hx : x.Printable)
    (ha : Answered x json true) (kept : Kept) : GoesOn x json s (s.serverStep x kept) := by
  have hcaps := x.max_lt
  have hless : forall server, Serving.left json server < Serving.left json s.server ->
      s.client.left x + Serving.left json server + (s.request.left + s.response.left) <
        s.left x json := by
    intro server hserver
    unfold Call.left
    omega
  cases hstage : s.server with
  | reading => exact hg.serverReading h hx ha hstage kept
  | opening response holds =>
      rcases h.opening response holds hstage with ⟨_, hserved, hnone⟩
      rw [ha.served] at hserved
      cases hserved
      unfold Call.serverStep
      rw [hstage]
      simp only
      right
      cases hg with
      | up hup hrequest hresponse hclient hserver =>
          rw [hstage] at hserver
          rcases put_of_length hserver (Nat.lt_of_le_of_lt ha.fits hcaps.right) with
            ⟨framed, hput, hlength⟩
          have hwritten : s.response.written ++ [frameOf json] = [frameOf json] := by
            rw [hnone, List.nil_append]
          rw [hput]
          constructor
          · exact Going.up hup hrequest hresponse hclient ⟨rfl, hwritten⟩
          · show s.client.left x + 2 + (s.request.left + (2 * (s.response.pending ++
                framed).length + s.response.transit.length)) < s.client.left x +
              s.server.left json + (s.request.left + s.response.left)
            rw [hstage, List.length_append, hlength]
            simp only [Serving.left, Pipe.left]
            omega
      | done hup hrequest hresponse hclosed hclient =>
          have hput : s.response.put (frameOf json) = none := by
            unfold Pipe.put
            rw [hclosed]
            exact if_neg (by decide)
          rw [hput]
          constructor
          · exact Going.done hup hrequest hresponse hclosed hclient
          · apply hless Serving.holding
            rw [hstage]
            simp only [Serving.left]
            omega
  | writing holds =>
      have hlower : Serving.left json Serving.holding < Serving.left json s.server := by
        rw [hstage]
        exact Nat.lt_succ_self 1
      unfold Call.serverStep
      rw [hstage]
      cases hg with
      | up hup hrequest hresponse hclient hserver =>
          rw [hstage] at hserver
          simp only [hresponse, hserver.left, Bool.false_eq_true, if_false, if_true]
          split
          · rename_i hpending
            right
            constructor
            · exact Going.up hup hrequest hresponse hclient ⟨hserver.right, hpending⟩
            · exact hless Serving.holding hlower
          · exact Or.inl rfl
      | done hup hrequest hresponse hclosed hclient =>
          right
          simp only [hresponse, if_true]
          constructor
          · exact Going.done hup hrequest hresponse hclosed hclient
          · exact hless Serving.holding hlower
  | holding =>
      unfold Call.serverStep
      rw [hstage]
      cases hg with
      | up hup hrequest hresponse hclient hserver =>
          left
          simp only [hup, if_true]
      | done hup hrequest hresponse hclosed hclient =>
          right
          simp only [hup, Bool.false_eq_true, if_false]
          constructor
          · exact Going.done rfl hrequest hresponse hclosed hclient
          · apply hless Serving.returned
            rw [hstage]
            exact Nat.lt_succ_self 0
  | returned =>
      left
      unfold Call.serverStep
      rw [hstage]

theorem Going.moveRequest (hg : Going x json s) {request : Pipe} {toServer : List UInt8}
    (hwritten : request.written = s.request.written)
    (hwritable : request.writable = s.request.writable)
    (hstopped : request.stopped = s.request.stopped)
    (hpending : s.request.pending = [] -> request.pending = [])
    (hless : request.left < s.request.left) :
    GoesOn x json s { s with request := request, toServer := toServer } := by
  right
  constructor
  · cases hg with
    | done hup hrequest hresponse hclosed hclient =>
        exact Going.done hup (hstopped.trans hrequest) hresponse hclosed hclient
    | up hup hrequest hresponse hclient hserver =>
        have hnext : s.client.OnTheWay x request := by
          cases hstage : s.client with
          | opening =>
              rw [hstage] at hclient
              exact hwritable.trans hclient
          | writing =>
              rw [hstage] at hclient
              exact hwritten.trans hclient
          | reading =>
              rw [hstage] at hclient
              exact ⟨hwritten.trans hclient.left, hpending hclient.right⟩
          | ended result =>
              rw [hstage] at hclient
              exact hclient
        exact Going.up hup (hstopped.trans hrequest) hresponse hnext hserver
  · show s.client.left x + s.server.left json + (request.left + s.response.left) <
      s.client.left x + s.server.left json + (s.request.left + s.response.left)
    omega

theorem Going.moveResponse (hg : Going x json s) {response : Pipe} {toClient : List UInt8}
    (hwritten : response.written = s.response.written)
    (hwritable : response.writable = s.response.writable)
    (hstopped : response.stopped = s.response.stopped)
    (hpending : s.response.pending = [] -> response.pending = [])
    (hless : response.left < s.response.left) :
    GoesOn x json s { s with response := response, toClient := toClient } := by
  right
  constructor
  · cases hg with
    | done hup hrequest hresponse hclosed hclient =>
        exact Going.done hup hrequest (hstopped.trans hresponse) (hwritable.trans hclosed) hclient
    | up hup hrequest hresponse hclient hserver =>
        have hnext : s.server.OnTheWay json response := by
          cases hstage : s.server with
          | reading =>
              rw [hstage] at hserver
              exact hwritable.trans hserver
          | opening answer holds =>
              rw [hstage] at hserver
              exact hwritable.trans hserver
          | writing holds =>
              rw [hstage] at hserver
              exact ⟨hserver.left, hwritten.trans hserver.right⟩
          | holding =>
              rw [hstage] at hserver
              exact ⟨hwritten.trans hserver.left, hpending hserver.right⟩
          | returned =>
              rw [hstage] at hserver
              exact hserver
        exact Going.up hup hrequest (hstopped.trans hresponse) hclient hnext
  · show s.client.left x + s.server.left json + (s.request.left + response.left) <
      s.client.left x + s.server.left json + (s.request.left + s.response.left)
    omega

theorem Going.step (hg : Going x json s) (h : CallReads x s) (hx : x.Printable)
    (ha : Answered x json true) {e : CallEvent} (he : e.Calm) :
    GoesOn x json s (s.step x e) := by
  have hdrop : forall (p : Pipe) n, p.pending = [] -> (p.accept n).pending = [] := by
    intro p n hpending
    show p.pending.drop n = []
    rw [hpending, List.drop_nil]
  cases e with
  | client kept => exact hg.clientStep h hx ha kept
  | server kept => exact hg.serverStep h hx ha kept
  | clientTimeout kept => exact he.elim
  | serverTimeout kept => exact he.elim
  | acceptRequest n =>
      rcases accept_cases s.request n with hsame | hless
      · left
        show { s with request := s.request.accept n } = s
        rw [hsame]
      · exact hg.moveRequest rfl rfl rfl (hdrop s.request n) hless
  | deliverRequest n =>
      rcases deliver_cases s.request n with hsame | hless
      · left
        show { s with
          request := (s.request.deliver n).2
          toServer := s.toServer ++ (s.request.deliver n).1 } = s
        rw [hsame, List.append_nil]
      · exact hg.moveRequest rfl rfl rfl (fun hpending => hpending) hless
  | acceptResponse n =>
      rcases accept_cases s.response n with hsame | hless
      · left
        show { s with response := s.response.accept n } = s
        rw [hsame]
      · exact hg.moveResponse rfl rfl rfl (hdrop s.response n) hless
  | deliverResponse n =>
      rcases deliver_cases s.response n with hsame | hless
      · left
        show { s with
          response := (s.response.deliver n).2
          toClient := s.toClient ++ (s.response.deliver n).1 } = s
        rw [hsame, List.append_nil]
      · exact hg.moveResponse rfl rfl rfl (fun hpending => hpending) hless
  | drop kept => exact he.elim

theorem Going.of_goesOn {s' : Call} (hg : Going x json s) (h : GoesOn x json s s') :
    Going x json s' := by
  rcases h with hsame | ⟨hgoing, _⟩
  · exact hsame ▸ hg
  · exact hgoing

/-- No event but a timeout or the loss of the connection changes anything. -/
def Stuck (x : Exchange) (s : Call) : Prop :=
  forall e, e.Calm -> s.step x e = s

theorem Stuck.request (h : Stuck x s) : s.request.pending = [] ∧ s.request.transit = [] := by
  have haccept := congrArg (fun s' => s'.request.pending) (h (CallEvent.acceptRequest
    s.request.pending.length) trivial)
  have hdeliver := congrArg (fun s' => s'.request.transit) (h (CallEvent.deliverRequest
    s.request.transit.length) trivial)
  constructor
  · exact haccept.symm.trans (List.drop_length ..)
  · exact hdeliver.symm.trans (List.drop_length ..)

theorem Stuck.response (h : Stuck x s) : s.response.pending = [] ∧ s.response.transit = [] := by
  have haccept := congrArg (fun s' => s'.response.pending) (h (CallEvent.acceptResponse
    s.response.pending.length) trivial)
  have hdeliver := congrArg (fun s' => s'.response.transit) (h (CallEvent.deliverResponse
    s.response.transit.length) trivial)
  constructor
  · exact haccept.symm.trans (List.drop_length ..)
  · exact hdeliver.symm.trans (List.drop_length ..)

theorem ready_of_arrived {p : Pipe} {arrived frame : List UInt8} (max : Nat)
    (hcarries : Carries p arrived p.written) (hwritten : p.written = [frame])
    (hstopped : p.stopped = false) (hempty : p.pending = [] ∧ p.transit = []) :
    p.ready max arrived = true := by
  cases hready : p.ready max arrived with
  | true => rfl
  | false =>
      have hnil := hcarries.nil_of_waiting hstopped hempty.right hempty.left hready
      rw [hwritten] at hnil
      cases hnil

theorem hangUp_client (s : Call) (kept : Kept) : (s.hangUp kept).client = s.client := by
  unfold Call.hangUp
  split
  · rfl
  · rfl

theorem hangUp_server (s : Call) (kept : Kept) : (s.hangUp kept).server = s.server := by
  unfold Call.hangUp
  split
  · rfl
  · rfl

theorem handle_moves (x : Exchange) (s : Call) (payload : List UInt8) (kept : Kept) :
    (s.handle x payload kept).server ≠ Serving.reading := by
  unfold Call.handle
  cases Json.loads payload with
  | none => exact fun h => by cases h
  | some req =>
      simp only
      cases x.served req with
      | failed => exact fun h => by cases h
      | refused =>
          simp only [Call.leave, hangUp_server]
          exact fun h => by cases h
      | reply response holds => exact fun h => by cases h

theorem reading_moves (kept : Kept) (hready : s.request.ready x.requestMax s.toServer = true)
    (hstage : s.server = Serving.reading) :
    (s.serverStep x kept).server ≠ Serving.reading := by
  unfold Call.serverStep
  rw [hstage]
  simp only
  rw [if_pos hready]
  cases readFramed x.requestMax s.toServer with
  | error error => exact fun h => by cases h
  | ok frame => exact handle_moves x _ frame.1 kept

theorem opening_moves (kept : Kept) {response : Json} {holds : Bool}
    (hstage : s.server = Serving.opening response holds) :
    (s.serverStep x kept).server ≠ s.server := by
  unfold Call.serverStep
  rw [hstage]
  simp only
  cases s.response.put (frameOf response) with
  | none => exact fun h => by cases h
  | some stream => exact fun h => by cases h

theorem client_ends (kept : Kept) (hready : s.response.ready x.maxSize s.toClient = true)
    (hstage : s.client = Calling.reading) :
    (s.clientStep x kept).client ≠ Calling.reading := by
  unfold Call.clientStep
  rw [hstage]
  simp only
  rw [if_pos hready]
  cases readFramed x.maxSize s.toClient with
  | error error =>
      simp only [Call.finish, hangUp_client]
      exact fun h => by cases h
  | ok frame =>
      simp only [Call.finish, hangUp_client]
      exact fun h => by cases h

theorem not_stuck_of_up (h : CallReads x s) (ha : Answered x json true)
    (hrequest : s.request.stopped = false) (hresponse : s.response.stopped = false)
    (hclient : s.client.OnTheWay x s.request) (hserver : s.server.OnTheWay json s.response) :
    ¬ Stuck x s := by
  intro hstuck
  have hcaps := x.max_lt
  have hcalled := congrArg Call.client (hstuck (CallEvent.client ⟨0, 0⟩) trivial)
  have hserved := congrArg Call.server (hstuck (CallEvent.server ⟨0, 0⟩) trivial)
  have hsent := hstuck.request
  have hanswered := hstuck.response
  cases hstage : s.client with
  | opening =>
      rw [hstage] at hclient
      rcases put_of_length hclient (Nat.lt_of_le_of_lt ha.asks hcaps.left) with
        ⟨framed, hput, _⟩
      simp only [Call.step, Call.clientStep, hstage, hput] at hcalled
      cases hcalled
  | writing =>
      simp only [Call.step, Call.clientStep, hstage, hrequest, hsent.left, Bool.false_eq_true,
        if_false, if_true] at hcalled
      cases hcalled
  | ended result =>
      rw [hstage] at hclient
      exact hclient
  | reading =>
      rw [hstage] at hclient
      cases hhandler : s.server with
      | reading =>
          rcases h.unread hhandler with ⟨_, _, hcarries⟩
          have hready := ready_of_arrived x.requestMax hcarries hclient.left hrequest hsent
          exact reading_moves ⟨0, 0⟩ hready hhandler (hserved.trans hhandler)
      | opening response holds => exact opening_moves ⟨0, 0⟩ hhandler hserved
      | writing holds =>
          rw [hhandler] at hserver
          simp only [Call.step, Call.serverStep, hhandler, hresponse, hanswered.left,
            hserver.left, Bool.false_eq_true, if_false, if_true] at hserved
          cases hserved
      | holding =>
          rw [hhandler] at hserver
          have hcarries := h.awaited (fun result hnow => by rw [hstage] at hnow; cases hnow)
          have hready := ready_of_arrived x.maxSize hcarries hserver.left hresponse hanswered
          exact client_ends ⟨0, 0⟩ hready hstage (hcalled.trans hstage)
      | returned =>
          rw [hhandler] at hserver
          exact hserver

/-- When nothing is left to do, the client has its answer and the handler has returned. -/
theorem Going.of_stuck (hg : Going x json s) (h : CallReads x s) (ha : Answered x json true)
    (hstuck : Stuck x s) :
    s.client = Calling.ended (some json) ∧ s.server = Serving.returned := by
  cases hg with
  | up hup hrequest hresponse hclient hserver =>
      exact absurd hstuck (not_stuck_of_up h ha hrequest hresponse hclient hserver)
  | done hup hrequest hresponse hclosed hclient =>
      have hserved := congrArg Call.server (hstuck (CallEvent.server ⟨0, 0⟩) trivial)
      refine ⟨hclient, ?_⟩
      cases hhandler : s.server with
      | reading =>
          have hready := ready_of_stopped hrequest x.requestMax s.toServer
          exact absurd (hserved.trans hhandler) (reading_moves ⟨0, 0⟩ hready hhandler)
      | opening response holds => exact absurd hserved (opening_moves ⟨0, 0⟩ hhandler)
      | writing holds =>
          simp only [Call.step, Call.serverStep, hhandler, hresponse, if_true] at hserved
          cases hserved
      | holding =>
          simp only [Call.step, Call.serverStep, hhandler, hup, Bool.false_eq_true,
            if_false] at hserved
          cases hserved
      | returned => rfl

theorem going_run (hx : x.Printable) (ha : Answered x json true) {past : List Call}
    (hrun : (calls x).Run (fun _ e => e.Calm) past s) : Going x json s ∧ CallReads x s := by
  refine hrun.invariant (I := fun s => Going x json s ∧ CallReads x s) ?_ ?_
  · intro s hs
    rw [hs]
    exact ⟨going_started x json, callReads_started x⟩
  · intro s e h he
    exact ⟨h.left.of_goesOn (h.left.step h.right hx ha he), h.right.step hx e⟩

/-- The client has the answer whenever it has ended, and it ends unless others can go on. -/
structure Delivered (x : Exchange) (json : Json) (s : Call) : Prop where
  ended : forall result, s.client = Calling.ended result -> result = some json
  stuck : Stuck x s -> s.client = Calling.ended (some json) ∧ s.server = Serving.returned

theorem delivered_run (hx : x.Printable) (ha : Answered x json true) {past : List Call}
    (hrun : (calls x).Run (fun _ e => e.Calm) past s) : Delivered x json s := by
  rcases going_run hx ha hrun with ⟨hgoing, hreads⟩
  constructor
  · intro result hended
    cases hgoing with
    | up hup hrequest hresponse hclient hserver =>
        rw [hended] at hclient
        exact hclient.elim
    | done hup hrequest hresponse hclosed hclient =>
        rw [hclient] at hended
        cases hended
        rfl
  · exact hgoing.of_stuck hreads ha

theorem effective_le (hx : x.Printable) (ha : Answered x json true) {es : List CallEvent}
    (hg : Going x json s) (h : CallReads x s)
    (hes : (calls x).Guarded (fun s e => e.Calm ∧ s.step x e ≠ s) s es) :
    es.length <= s.left x json := by
  induction es generalizing s with
  | nil => exact Nat.zero_le _
  | cons e es ih =>
      rcases hes with ⟨⟨hcalm, heffect⟩, hrest⟩
      rcases hg.step h hx ha hcalm with hsame | ⟨hgoing, hless⟩
      · exact absurd hsame heffect
      · have hbound := ih hgoing (h.step hx e) hrest
        rw [List.length_cons]
        exact Nat.le_trans (Nat.succ_le_succ hbound) hless

/-!
## A handler that does not hold

Its answer may be cut off by its own return, however calm the connection is.
-/

/-- The request is sent and read, and the transport takes the answer. -/
def toAnswer (request response : List UInt8) : List CallEvent :=
  [CallEvent.client ⟨0, 0⟩, CallEvent.acceptRequest request.length, CallEvent.client ⟨0, 0⟩,
    CallEvent.deliverRequest request.length, CallEvent.server ⟨0, 0⟩, CallEvent.server ⟨0, 0⟩,
    CallEvent.acceptResponse response.length]

/-- The handler returns before anything of its answer has arrived. -/
def cutOff (request response : List UInt8) : List CallEvent :=
  toAnswer request response ++ [CallEvent.server ⟨0, 0⟩, CallEvent.client ⟨0, 0⟩]

theorem cutOff_calm (request response : List UInt8) :
    forall s, (calls x).Guarded (fun _ e => e.Calm) s (cutOff request response) :=
  fun _ => ⟨trivial, trivial, trivial, trivial, trivial, trivial, trivial, trivial, trivial,
    trivial⟩

theorem exec_toAnswer (hx : x.Printable) {holds : Bool} (ha : Answered x json holds)
    {request response : List UInt8} (hrequest : writeFramed (frameOf x.request) = some request)
    (hresponse : writeFramed (frameOf json) = some response) :
    (calls x).exec Call.started (toAnswer request response) =
      ⟨Calling.reading, Serving.writing holds, ⟨[frameOf x.request], [], [], [], false, false⟩,
        ⟨[frameOf json], [], response, [], true, false⟩, [], [], true, [x.request]⟩ := by
  have hread : readFramed x.requestMax request = Except.ok (frameOf x.request, []) := by
    have hback := readFramed_writeFramed x.requestMax hrequest []
    rw [List.append_nil, if_pos ha.asks] at hback
    exact hback
  have hloads : Json.loads (frameOf x.request) = some x.request := Json.loads_dumps hx.request
  simp [toAnswer, Machine.exec, calls, Call.step, Call.clientStep, Call.serverStep, Call.handle,
    Call.started, Pipe.put, Pipe.fresh, Pipe.accept, Pipe.deliver, Pipe.finish, Pipe.ready,
    hrequest, hresponse, hread, hloads, ha.served]

theorem cutOff_ends (hx : x.Printable) (ha : Answered x json false) {request response : List UInt8}
    (hrequest : writeFramed (frameOf x.request) = some request)
    (hresponse : writeFramed (frameOf json) = some response) :
    ((calls x).exec Call.started (cutOff request response)).client = Calling.ended none := by
  have hnothing : readFramed x.maxSize [] = Except.error ReadError.streamEnded := rfl
  rw [cutOff, Machine.exec_append, exec_toAnswer hx ha hrequest hresponse]
  simp [Machine.exec, calls, Call.step, Call.clientStep, Call.serverStep, Call.leave, Call.finish,
    Call.hangUp, Pipe.finish, Pipe.gone, Pipe.ready, hnothing]

theorem arrived_ends (hx : x.Printable) {holds : Bool} (ha : Answered x json holds)
    {request response : List UInt8} (hrequest : writeFramed (frameOf x.request) = some request)
    (hresponse : writeFramed (frameOf json) = some response) :
    ((calls x).exec Call.started (toAnswer request response ++
      [CallEvent.deliverResponse response.length, CallEvent.client ⟨0, 0⟩])).client =
        Calling.ended (some json) := by
  have hread : readFramed x.maxSize response = Except.ok (frameOf json, []) := by
    have hback := readFramed_writeFramed x.maxSize hresponse []
    rw [List.append_nil, if_pos ha.fits] at hback
    exact hback
  have hloads : Json.loads (frameOf json) = some json :=
    Json.loads_dumps (hx.response json holds ha.served)
  rw [Machine.exec_append, exec_toAnswer hx ha hrequest hresponse]
  simp [Machine.exec, calls, Call.step, Call.clientStep, Call.finish, Call.hangUp, Pipe.deliver,
    Pipe.ready, hread, hloads]

end Calm

/-!
## Main results
-/

/--
The handler acts on nothing but the request, and once at most; what the client returns is
the very value the handler answered that request with, and under the client's cap.
-/
structure CallLaw (x : Exchange) (s : Call) : Prop where
  handled : s.handled = [] ∨ s.handled = [x.request]
  returned : forall v, s.client = Calling.ended (some v) ->
    s.handled = [x.request] ∧ (frameOf v).length <= x.maxSize ∧
      exists holds, x.served x.request = Served.reply v holds

/-- Whatever is lost, cut or delayed. -/
theorem call_law {x : Exchange} (hx : x.Printable) {past : List Call} {s : Call}
    (hrun : (calls x).Run (fun _ _ => True) past s) : CallLaw x s := by
  have h := callReads_run hx hrun
  constructor
  · exact h.handled
  · intro v hended
    rcases h.returned v hended with ⟨⟨hhandled, hserved⟩, hfits⟩
    exact ⟨hhandled, hfits, hserved⟩

/--
With no timeout and no loss, the answer is sure to come exactly when the handler holds the
connection open behind it, and then only so many events can do anything before it has come.
-/
theorem call_delivered {x : Exchange} (hx : x.Printable) {json : Json} {holds : Bool}
    (ha : Answered x json holds) :
    ((forall past s, (calls x).Run (fun _ e => e.Calm) past s -> Delivered x json s) <->
      holds = true) ∧
    (holds = true -> forall es, (calls x).Guarded (fun s e => e.Calm ∧ s.step x e ≠ s)
      Call.started es -> es.length <= Call.started.left x json) := by
  have hcaps := x.max_lt
  constructor
  · constructor
    · intro hall
      cases holds with
      | true => rfl
      | false =>
          rcases writeFramed_of_length (Nat.lt_of_le_of_lt ha.asks hcaps.left) with
            ⟨request, hrequest⟩
          rcases writeFramed_of_length (Nat.lt_of_le_of_lt ha.fits hcaps.right) with
            ⟨response, hresponse⟩
          have hrun := (Machine.Run.start (M := calls x) rfl).exec (cutOff request response)
            (cutOff_calm request response _)
          have hended := (hall _ _ hrun).ended none (cutOff_ends hx ha hrequest hresponse)
          cases hended
    · intro hholds past s hrun
      subst hholds
      exact delivered_run hx ha hrun
  · intro hholds es hes
    subst hholds
    exact effective_le hx ha (going_started x json) (callReads_started x) hes

/-!
## A call that comes through
-/

theorem wf_errorJson (message : String) : (errorJson message).Wf :=
  ⟨List.nodup_singleton _, trivial, trivial⟩

theorem wf_logsJson (logs : List Char) : (logsJson logs).Wf :=
  ⟨List.nodup_singleton _, trivial, trivial⟩

theorem logs_printable (host : LogsHost) {req : Json} (hreq : req.Wf) :
    (Exchange.logs host req).Printable := by
  refine ⟨hreq, ?_⟩
  intro json holds hserved
  have hserved' : logsServed host req = Served.reply json holds := hserved
  unfold logsServed at hserved'
  split at hserved'
  · cases hserved'
  · cases hserved'
    exact wf_errorJson _
  · cases hserved'
    exact wf_errorJson _
  · cases hserved'
    exact wf_logsJson _

def webLogs : Exchange :=
  Exchange.logs (printing ['u', 'p']) (Json.obj [("cid", Json.str "web"), ("tail", Json.int 5)])

theorem webLogs_printable : webLogs.Printable :=
  logs_printable _ ⟨by decide, trivial, trivial, trivial⟩

theorem webLogs_answered : Answered webLogs (logsJson ['u', 'p']) true where
  served := rfl
  asks := by decide
  fits := by decide

/-- A run in which the client gets the line, without a timeout or a loss. -/
theorem webLogs_run :
    exists past s, (calls webLogs).Run (fun _ e => e.Calm) past s ∧
      s.client = Calling.ended (some (logsJson ['u', 'p'])) := by
  have hcaps := webLogs.max_lt
  have ha := webLogs_answered
  rcases writeFramed_of_length (Nat.lt_of_le_of_lt ha.asks hcaps.left) with ⟨request, hrequest⟩
  rcases writeFramed_of_length (Nat.lt_of_le_of_lt ha.fits hcaps.right) with
    ⟨response, hresponse⟩
  have hstart : (calls webLogs).Run (fun _ e => e.Calm) [] Call.started := Machine.Run.start rfl
  have hrun := hstart.exec
    (toAnswer request response ++
      [CallEvent.deliverResponse response.length, CallEvent.client ⟨0, 0⟩])
    ⟨trivial, trivial, trivial, trivial, trivial, trivial, trivial, trivial, trivial, trivial⟩
  exact ⟨_, _, hrun, arrived_ends webLogs_printable ha hrequest hresponse⟩

theorem call_law_webLogs :
    exists past s, (calls webLogs).Run (fun _ _ => True) past s ∧
      s.client = Calling.ended (some (logsJson ['u', 'p'])) ∧ CallLaw webLogs s := by
  rcases webLogs_run with ⟨past, s, hcalm, hended⟩
  have hrun : (calls webLogs).Run (fun _ _ => True) past s := hcalm.mono (fun _ _ _ => trivial)
  exact ⟨past, s, hrun, hended, call_law webLogs_printable hrun⟩

theorem call_delivered_webLogs :
    exists past s, (calls webLogs).Run (fun _ e => e.Calm) past s ∧
      s.client = Calling.ended (some (logsJson ['u', 'p'])) ∧
      Delivered webLogs (logsJson ['u', 'p']) s := by
  rcases webLogs_run with ⟨past, s, hrun, hended⟩
  have hsure := (call_delivered webLogs_printable webLogs_answered).left.mpr rfl
  exact ⟨past, s, hrun, hended, hsure past s hrun⟩

end Wire
end PanicMonitr
