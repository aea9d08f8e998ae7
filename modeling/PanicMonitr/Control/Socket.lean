import PanicMonitr.Control.Engine
import Mathlib.Data.List.DropRight

/-!
# The control socket

The request handler of `controlsock.py`: every method and path, with the texts of its
answers.  A request brings what the HTTP layer read of it; the answers of the event loop
(the own dashboard, a sync, a fetched dashboard) belong to the surroundings.
-/

namespace PanicMonitr
namespace Control

open Foundation
open Trust

inductive Method where
  | get
  | post
  | put
  | delete
  deriving DecidableEq

def Method.name : Method -> String
  | get => "GET"
  | post => "POST"
  | put => "PUT"
  | delete => "DELETE"

/--
A request: the peer's effective uid, `urlparse(self.path).path`, the first `tag` of the
query, and what `_read_body()` gives.  The fields of an object read from JSON have
different names.
-/
structure Request where
  euid : Option Nat
  method : Method
  path : String
  queryTag : Option String
  body : Except PyError Json
  hbody : forall v, body = Except.ok v -> Json.Wf v

/-- What the surroundings of one request decide. -/
structure Serving extends Surroundings where
  euid : Nat
  mtime : Int
  mtimeAfter : Int
  fetched : Except PyError Json

/-- An answer; `failed` has status 500 and the error text is `context` and `str(exc)`. -/
inductive Response where
  | json (status : Nat) (payload : Json)
  | failed (context : String) (e : PyError)

/-- `path.rstrip("/") or "/"` -/
def trimPath (path : String) : String :=
  let trimmed := path.toList.rdropWhile (fun c => c = '/')
  if trimmed = [] then "/" else String.ofList trimmed

/-- `path.lstrip("/").split("/")` -/
def pathParts (path : String) : List String :=
  ((path.toList.dropWhile (fun c => c = '/')).splitOn '/').map String.ofList

abbrev Handled := TrustState × Answer Response

def sendError (status : Nat) (message : String) (s : TrustState) : Handled :=
  (s, Answer.returned (Response.json status (Json.obj [("error", Json.str message)])))

def sendJson (payload : Json) (s : TrustState) : Handled :=
  (s, Answer.returned (Response.json 200 payload))

def okPayload : Json :=
  Json.obj [("ok", Json.bool true)]

/-- An expression that may raise, and what follows it. -/
def attempt {α β : Type} (s : TrustState) (x : Except PyError α)
    (next : α -> TrustState × Answer β) : TrustState × Answer β :=
  match x with
  | Except.error e => (s, Answer.raised e)
  | Except.ok a => next a

/-- `body.get(k)` -/
def bodyGet (k : String) : Json -> Except PyError Json
  | Json.obj fields => Except.ok ((Assoc.get? k fields).getD Json.null)
  | v =>
      Except.error (PyError.attributeError
        ("'" ++ typeName v ++ "' object has no attribute 'get'"))

def replyWith (success : Response) : EngineResult -> Handled
  | (s, Answer.returned none) => (s, Answer.returned success)
  | (s, Answer.returned (some err)) => sendError 400 err s
  | (s, Answer.raised e) => (s, Answer.raised e)
  | (s, Answer.crashed) => (s, Answer.crashed)

/-- `_reply(err)` -/
def reply : EngineResult -> Handled :=
  replyWith (Response.json 200 okPayload)

def optionJson (v : Option String) : Json :=
  v.elim Json.null Json.str

def peerView (peer : TrustedPeer) : Json :=
  Json.obj
    [("node_id", Json.str peer.nodeId), ("alias", optionJson peer.alias_),
      ("permissions", Json.arr (peer.permissions.map Json.str)),
      ("tags", Json.arr (peer.tags.map Json.str)),
      ("added_at", Json.str (isoformat peer.addedAt)),
      ("revoked_at", optionJson (peer.revokedAt.map isoformat)),
      ("maintenance_start", optionJson (peer.maintenanceStart.map isoformat)),
      ("maintenance_end", optionJson (peer.maintenanceEnd.map isoformat))]

/-- `GET /v1/peers` -/
def listing (s : TrustState) : Json :=
  Json.obj [("peers", Json.arr (s.store.peers.map peerView))]

namespace Engine

variable (engine : Engine) (env : Serving)

/-- The password of a body is looked at before anything else of it. -/
def checkPassword (body : Json) : Except PyError Bool := do
  let password <- bodyGet "password" body
  engine.verifyIdentityPassword (pyOr password (Json.str ""))

def notAllowed (method : Method) : TrustState -> Handled :=
  sendError 405 ("method " ++ method.name ++ " not allowed")

/-!
## Peers
-/

def postPeer (body : Json) (s : TrustState) : Handled :=
  attempt s (engine.checkPassword body) (fun verified =>
    if verified = false then sendError 403 "password verification failed" s
    else
      attempt s (bodyGet "node_id" body) (fun nodeId =>
        attempt s (bodyGet "alias" body) (fun alias_ =>
          attempt s (bodyGet "permissions" body) (fun permissions =>
            attempt s (bodyGet "tags" body) (fun tags =>
              replyWith
                (Response.json 201
                  (Json.obj [("ok", Json.bool true), ("node_id", nodeId)]))
                (engine.addPeer env.toSurroundings nodeId alias_
                  (pyOr permissions (Json.arr [Json.str "monitor"]))
                  (pyOr tags (Json.arr [])) s))))))

def putPerms (nid : String) (body : Json) (s : TrustState) : Handled :=
  attempt s (engine.checkPassword body) (fun verified =>
    if verified = false then sendError 403 "password verification failed" s
    else
      attempt s (bodyGet "permissions" body) (fun permissions =>
        match permissions with
        | Json.arr items =>
            reply (engine.updatePeerPermissions env.toSurroundings nid items s)
        | _ => sendError 400 "permissions must be a list" s))

def routePeer (method : Method) (nid : String) (s : TrustState) : Handled :=
  match method with
  | Method.delete => reply (engine.revokePeer env.toSurroundings nid s)
  | Method.get =>
      match s.store.getPeer nid with
      | none => sendError 404 "peer not found" s
      | some peer => sendJson (peerView peer) s
  | _ => notAllowed method s

def putTags (nid : String) (body : Json) (s : TrustState) : Handled :=
  attempt s (bodyGet "tags" body) (fun tags =>
    match tags with
    | Json.arr items => reply (engine.setPeerTags env.toSurroundings nid items s)
    | _ => sendError 400 "tags must be a list" s)

def postTag (nid : String) (body : Json) (s : TrustState) : Handled :=
  attempt s (bodyGet "tag" body) (fun tag =>
    match tag with
    | Json.str tag =>
        if tag = "" then sendError 400 "tag must be a non-empty string" s
        else reply (engine.addPeerTag env.toSurroundings nid tag s)
    | _ => sendError 400 "tag must be a non-empty string" s)

/-- The tag to remove stands in the query, or else in the body. -/
def deleteTag (nid : String) (request : Request) (s : TrustState) : Handled :=
  match request.queryTag.filter (fun tag => tag ≠ "") with
  | some tag => reply (engine.removePeerTag env.toSurroundings nid (Json.str tag) s)
  | none =>
      attempt s (request.body.bind (bodyGet "tag")) (fun tag =>
        if truthy tag = false then sendError 400 "tag must be specified" s
        else reply (engine.removePeerTag env.toSurroundings nid tag s))

def routeTags (nid : String) (request : Request) (s : TrustState) : Handled :=
  match request.method with
  | Method.delete => engine.deleteTag env nid request s
  | Method.put => attempt s request.body (fun body => engine.putTags env nid body s)
  | Method.post => attempt s request.body (fun body => engine.postTag env nid body s)
  | Method.get => attempt s request.body (fun _ => notAllowed Method.get s)

/-- `datetime.fromisoformat(raw)` of a body value: its `ValueError` is answered. -/
def readBound (raw : Json) : Except PyError (Except PyError Datetime) :=
  match raw with
  | Json.str text => Except.ok (readIso text)
  | _ => Except.error (PyError.typeError "fromisoformat: argument must be str")

def errorText : PyError -> String
  | PyError.valueError message => message
  | _ => ""

def putMaintenance (nid : String) (body : Json) (s : TrustState) : Handled :=
  attempt s (bodyGet "start" body) (fun startRaw =>
    attempt s (bodyGet "end" body) (fun endRaw =>
      if truthy startRaw = false || truthy endRaw = false then
        sendError 400 "start and end required (ISO 8601)" s
      else
        attempt s (readBound startRaw) (fun start =>
          match start with
          | Except.error e => sendError 400 ("invalid timestamp: " ++ errorText e) s
          | Except.ok start =>
              attempt s (readBound endRaw) (fun end_ =>
                match end_ with
                | Except.error e => sendError 400 ("invalid timestamp: " ++ errorText e) s
                | Except.ok end_ =>
                    reply (engine.setPeerMaintenance env.toSurroundings nid start end_ s)))))

def routeMaintenance (nid : String) (request : Request) (s : TrustState) : Handled :=
  match request.method with
  | Method.put => attempt s request.body (fun body => engine.putMaintenance env nid body s)
  | Method.delete => reply (engine.clearPeerMaintenance env.toSurroundings nid s)
  | method => notAllowed method s

/-!
## What the event loop answers
-/

def syncResult (s : TrustState) : Handled :=
  match env.fetched with
  | Except.ok result => sendJson result s
  | Except.error (PyError.attributeError _) => sendError 501 "sync_peer not implemented" s
  | Except.error e => (s, Answer.returned (Response.failed "sync failed: " e))

def postSync (body : Json) (s : TrustState) : Handled :=
  attempt s (bodyGet "since" body) (fun sinceRaw =>
    if truthy sinceRaw = false then syncResult env s
    else
      attempt s (readBound sinceRaw) (fun since =>
        match since with
        | Except.error e => sendError 400 ("invalid since: " ++ errorText e) s
        | Except.ok _ => syncResult env s))

def dashboardResult (s : TrustState) : Handled :=
  match env.fetched with
  | Except.ok result => sendJson result s
  | Except.error e => (s, Answer.returned (Response.failed "fetch failed: " e))

/-!
## Routes
-/

/-- `_route_peers(method, rest)` -/
def routePeers (request : Request) (rest : List String) (s : TrustState) : Handled :=
  match rest with
  | [] =>
      match request.method with
      | Method.get => sendJson (listing s) s
      | Method.post => attempt s request.body (fun body => engine.postPeer env body s)
      | method => notAllowed method s
  | [nid] => engine.routePeer env request.method nid s
  | nid :: sub :: _ =>
      if sub = "perms" then
        if request.method ≠ Method.put then sendError 405 "use PUT" s
        else attempt s request.body (fun body => engine.putPerms env nid body s)
      else if sub = "tags" then engine.routeTags env nid request s
      else if sub = "maint" then engine.routeMaintenance env nid request s
      else if sub = "sync" then
        if request.method ≠ Method.post then sendError 405 "use POST" s
        else attempt s request.body (fun body => postSync env body s)
      else if sub = "dashboard" then
        if request.method ≠ Method.get then sendError 405 "use GET" s
        else dashboardResult env s
      else sendError 404 ("unknown peer endpoint /" ++ sub) s

def route (request : Request) (s : TrustState) : Handled :=
  let path := trimPath request.path
  let parts := pathParts path
  if path = "/v1/identity" ∧ request.method = Method.get then
    attempt s env.fetched (fun view => sendJson view s)
  else if path = "/v1/status" ∧ request.method = Method.get then
    attempt s env.fetched (fun snapshot => sendJson snapshot s)
  else if path = "/v1/reload" ∧ request.method = Method.post then
    sendJson okPayload (engine.checkReload env.toSurroundings env.mtime env.mtimeAfter s)
  else if parts.take 2 = ["v1", "peers"] then engine.routePeers env request (parts.drop 2) s
  else sendError 404 ("unknown endpoint " ++ path) s

/-- `do_GET` and its siblings: the uid is checked first, and what is raised is answered. -/
def serve (request : Request) (s : TrustState) : Handled :=
  match request.euid with
  | none => sendError 403 "peer credentials unavailable" s
  | some uid =>
      if uid ≠ env.euid then
        sendError 403
          ("peer euid " ++ toString uid ++ " != daemon euid " ++ toString env.euid) s
      else
        match engine.route env request s with
        | (s', Answer.raised e) => (s', Answer.returned (Response.failed "" e))
        | handled => handled

end Engine

end Control
end PanicMonitr
