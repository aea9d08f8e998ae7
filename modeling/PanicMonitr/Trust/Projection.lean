import PanicMonitr.Trust.Log
import PanicMonitr.Trust.Peer

/-!
# Projecting the log to peers

`materialize_peers` replays the log into one view a peer, whatever JSON the entries
hold; `_rebuild_from_log` turns the views into the records of the trust store, which is
where a value of the wrong type is met for the first time.
-/

namespace PanicMonitr
namespace Trust

open Foundation

/-!
## Python values
-/

def typeName : Json -> String
  | Json.null => "NoneType"
  | Json.bool _ => "bool"
  | Json.int _ => "int"
  | Json.float _ => "float"
  | Json.str _ => "str"
  | Json.arr _ => "list"
  | Json.obj _ => "dict"

/-- `bool(value)`; a float is zero when its mantissa has no other digit. -/
def truthy : Json -> Bool
  | Json.null => false
  | Json.bool b => b
  | Json.int n => n ≠ 0
  | Json.float text =>
      (text.takeWhile (fun c => c ≠ 'e' && c ≠ 'E')).any (fun c => c.isDigit && c ≠ '0')
  | Json.str s => s ≠ ""
  | Json.arr items => !items.isEmpty
  | Json.obj fields => !fields.isEmpty

/-- `list(value)` -/
def pyList : Json -> Except PyError (List Json)
  | Json.arr items => Except.ok items
  | Json.str s => Except.ok (s.toList.map (fun c => Json.str (String.singleton c)))
  | Json.obj fields => Except.ok ((Assoc.keys fields).map Json.str)
  | v => Except.error (PyError.typeError ("'" ++ typeName v ++ "' object is not iterable"))

/--
A key of the replayed dict: a text, or one of the other hashable values.  No record can
be made of the latter, so that they share one key.
-/
abbrev NodeKey := Option String

def hashKey : Json -> Except PyError NodeKey
  | Json.str s => Except.ok (some s)
  | Json.arr _ => Except.error (PyError.typeError "unhashable type: 'list'")
  | Json.obj _ => Except.error (PyError.typeError "unhashable type: 'dict'")
  | _ => Except.ok none

/-- `entry.data[k]` -/
def LogEntry.item (k : String) (entry : LogEntry) : Except PyError Json :=
  match Assoc.get? k entry.data with
  | none => Except.error (PyError.keyError k)
  | some v => Except.ok v

/-- `entry.data.get(k, default)` -/
def LogEntry.getD (k : String) (default : Json) (entry : LogEntry) : Json :=
  (Assoc.get? k entry.data).getD default

/-!
## Replaying
-/

/-- What `materialize_peers` keeps of a peer, under its node id. -/
structure PeerView where
  alias_ : Json
  permissions : List Json
  tags : List Json
  maintenanceStart : Json
  maintenanceEnd : Json
  addedAt : String
  revokedAt : Option String

abbrev Views := List (NodeKey × PeerView)

def addView (entry : LogEntry) (peers : Views) : Except PyError Views := do
  let nid <- entry.item "node_id"
  let permissions <- pyList (entry.getD "permissions" (Json.arr [Json.str "monitor"]))
  let tags <- pyList (entry.getD "tags" (Json.arr []))
  let key <- hashKey nid
  return Assoc.set key
    { alias_ := entry.getD "alias" Json.null
      permissions := permissions
      tags := tags
      maintenanceStart := Json.null
      maintenanceEnd := Json.null
      addedAt := entry.timestamp
      revokedAt := none } peers

def revokeView (entry : LogEntry) (v : PeerView) : Except PyError PeerView :=
  if v.revokedAt = none then Except.ok { v with revokedAt := some entry.timestamp }
  else Except.ok v

def updatePermissionsView (entry : LogEntry) (v : PeerView) : Except PyError PeerView := do
  let permissions <- pyList (entry.getD "permissions" (Json.arr []))
  return { v with permissions := permissions }

def addAliasView (entry : LogEntry) (v : PeerView) : Except PyError PeerView :=
  Except.ok { v with alias_ := entry.getD "alias" Json.null }

def setTagsView (entry : LogEntry) (v : PeerView) : Except PyError PeerView := do
  let tags <- pyList (entry.getD "tags" (Json.arr []))
  return { v with tags := tags }

def setMaintenanceView (entry : LogEntry) (v : PeerView) : Except PyError PeerView :=
  Except.ok
    { v with
      maintenanceStart := entry.getD "start" Json.null
      maintenanceEnd := entry.getD "end" Json.null }

def clearMaintenanceView (v : PeerView) : Except PyError PeerView :=
  Except.ok { v with maintenanceStart := Json.null, maintenanceEnd := Json.null }

def viewChange (entry : LogEntry) : Option (PeerView -> Except PyError PeerView) :=
  if entry.type = OP_REVOKE_PEER then some (revokeView entry)
  else if entry.type = OP_UPDATE_PERMISSIONS then some (updatePermissionsView entry)
  else if entry.type = OP_ADD_PEER_ALIAS then some (addAliasView entry)
  else if entry.type = OP_SET_TAGS then some (setTagsView entry)
  else if entry.type = OP_SET_MAINTENANCE then some (setMaintenanceView entry)
  else if entry.type = OP_CLEAR_MAINTENANCE then some clearMaintenanceView
  else none

def changeView (change : PeerView -> Except PyError PeerView) (entry : LogEntry)
    (peers : Views) : Except PyError Views := do
  let nid <- entry.item "node_id"
  let key <- hashKey nid
  match Assoc.get? key peers with
  | none => return peers
  | some v => do
      let v' <- change v
      return Assoc.set key v' peers

/-- One turn of the loop of `materialize_peers`. -/
def applyEntry (entry : LogEntry) (peers : Views) : Except PyError Views :=
  if entry.type = OP_GENESIS then Except.ok peers
  else if entry.type = OP_ADD_PEER then addView entry peers
  else
    match viewChange entry with
    | some change => changeView change entry peers
    | none => Except.ok peers

def replay : Views -> List LogEntry -> Except PyError Views
  | peers, [] => Except.ok peers
  | peers, entry :: entries => do
      let peers' <- applyEntry entry peers
      replay peers' entries

/-- `materialize_peers()` of a log with these entries -/
def materializePeers (entries : List LogEntry) : Except PyError Views :=
  replay [] entries

/-!
## Records
-/

/-- `datetime.fromisoformat(text)` -/
def readIso (text : String) : Except PyError Datetime :=
  match fromisoformat text with
  | some d => Except.ok d
  | none => Except.error (PyError.valueError ("Invalid isoformat string: '" ++ text ++ "'"))

/-- `fromisoformat(value) if value else None` -/
def readWhenSet (v : Json) : Except PyError (Option Datetime) :=
  if truthy v then
    match v with
    | Json.str text => do
        let d <- readIso text
        return some d
    | _ => Except.error (PyError.typeError "fromisoformat: argument must be str")
  else Except.ok none

def invalidField {α : Type} (field : String) : Except PyError α :=
  Except.error (PyError.validationError "TrustedPeer" field)

/-- A `str` field of `TrustedPeer`. -/
def strField (field : String) : Json -> Except PyError String
  | Json.str s => Except.ok s
  | _ => invalidField field

/-- The `node_id` field, from a key of the replayed dict. -/
def nodeIdField : NodeKey -> Except PyError String
  | some s => Except.ok s
  | none => invalidField "node_id"

/-- An `Optional[str]` field. -/
def optionalStrField (field : String) : Json -> Except PyError (Option String)
  | Json.null => Except.ok none
  | Json.str s => Except.ok (some s)
  | _ => invalidField field

/-- A `list[str]` field. -/
def strListField (field : String) : List Json -> Except PyError (List String)
  | [] => Except.ok []
  | v :: rest => do
      let s <- strField field v
      let more <- strListField field rest
      return s :: more

def revokedJson (view : PeerView) : Json :=
  match view.revokedAt with
  | none => Json.null
  | some text => Json.str text

def projectPeer (key : NodeKey) (view : PeerView) : Except PyError TrustedPeer := do
  let addedAt <- readIso view.addedAt
  let revokedAt <- readWhenSet (revokedJson view)
  let maintenanceStart <- readWhenSet view.maintenanceStart
  let maintenanceEnd <- readWhenSet view.maintenanceEnd
  let nodeId <- nodeIdField key
  let alias_ <- optionalStrField "alias" view.alias_
  let permissions <- strListField "permissions" view.permissions
  let tags <- strListField "tags" view.tags
  return {
    nodeId := nodeId
    alias_ := alias_
    permissions := permissions
    tags := tags
    maintenanceStart := maintenanceStart
    maintenanceEnd := maintenanceEnd
    addedAt := addedAt
    revokedAt := revokedAt }

def projectPeers : Views -> Except PyError (List TrustedPeer)
  | [] => Except.ok []
  | (key, view) :: rest => do
      let peer <- projectPeer key view
      let peers <- projectPeers rest
      return peer :: peers

/-- `_store.peers` and `_peers_by_nid` of the trust manager. -/
structure PeerTrustStore where
  peers : List TrustedPeer
  peersByNid : List (String × TrustedPeer)
  deriving DecidableEq

namespace PeerTrustStore

def empty : PeerTrustStore :=
  { peers := []
    peersByNid := [] }

def ofPeers (peers : List TrustedPeer) : PeerTrustStore :=
  { peers := peers
    peersByNid := peers.foldl (fun d p => Assoc.set p.nodeId p d) [] }

end PeerTrustStore

/-- `_rebuild_from_log()` -/
def rebuildFromLog (entries : List LogEntry) : Except PyError PeerTrustStore := do
  let views <- materializePeers entries
  let peers <- projectPeers views
  return PeerTrustStore.ofPeers peers

/-!
## Authorization
-/

namespace PeerTrustStore

def getPeer (nodeId : String) (store : PeerTrustStore) : Option TrustedPeer :=
  Assoc.get? nodeId store.peersByNid

def grants (permission : String) (peer : TrustedPeer) : Bool :=
  permission ∈ peer.permissions || "*" ∈ peer.permissions

/-- `verify_and_authorize(node_id, protocol)` -/
def verifyAndAuthorize (ownNodeId nodeId protocol : String) (store : PeerTrustStore) :
    Bool × String :=
  if nodeId = ownNodeId then (true, "ok (self)")
  else
    match store.getPeer nodeId with
    | none => (false, "unknown peer")
    | some peer =>
        if peer.revokedAt ≠ none then (false, "peer revoked")
        else if grants protocol peer then (true, "ok")
        else (false, "not authorized for " ++ protocol)

def peersWithPermission (permission : String) (store : PeerTrustStore) :
    List TrustedPeer :=
  store.peers.filter (fun p => decide (p.revokedAt = none) && grants permission p)

end PeerTrustStore

end Trust
end PanicMonitr
