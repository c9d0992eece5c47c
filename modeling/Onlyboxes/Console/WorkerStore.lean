import Onlyboxes.Console.RouteStore

/-!
# The persisted workers

The tables of SQLite about workers and the statements of `queries/workers.sql` that
`registry.Store` runs on them (`store_worker_lifecycle.go`, `store_credentials.go`,
`store_query.go`, `store_helpers.go`). Labels and the credential of a worker are rows of
their own, but a foreign key with `ON DELETE CASCADE` ties them to the row of
`worker_nodes`, so they are kept inside it.

Each function is one statement or one transaction. As for the route table, a `StoreFault`
decides whether it takes effect and succeeds or fails without effect. The columns that
only listings of workers read (capabilities, executor kind, version and the time of
registration) are left out.
-/

namespace Onlyboxes.Console

open Text

def labelOwnerIDKey : String := "obx.owner_id"
def labelWorkerTypeKey : String := "obx.worker_type"

def workerTypeNormal : String := "normal"
def workerTypeSys : String := "worker-sys"

/-- The labels of a worker. -/
abbrev Labels := GoMap String String

/-- A row of `worker_nodes`, with its labels and the hash of its credential. -/
structure WorkerNode where
  sessionID : String := ""
  provisioned : Bool
  nodeName : String
  lastSeenAtUnixMs : Int
  labels : Labels := ∅
  secretHash : Option String := none
  deriving DecidableEq

/-- `worker_nodes`, by `node_id`. -/
abbrev WorkerNodes := GoMap String WorkerNode

/-! ## Labels -/

def mergeLabels (base override : Labels) : Labels :=
  override.entries.foldl (fun merged e => merged.insert e.1 e.2) base

def mergeLabelsPreserveKeys (base override : Labels) (protectedKeys : List String) : Labels :=
  protectedKeys.foldl (fun merged key =>
    let trimmedKey := trimSpace key
    if trimmedKey = "" then merged
    else match base.lookup trimmedKey with
      | none => merged
      | some baseValue => merged.insert trimmedKey baseValue) (mergeLabels base override)

def normalizeWorkerType (m : CaseMap) (workerType : String) : String :=
  trimSpace (m.toLower workerType)

def resolveWorkerType (m : CaseMap) (labels : Labels) : String :=
  normalizeWorkerType m ((labels.lookup labelWorkerTypeKey).getD "")

/-- `shortNodeID`. The ids it is used on are ASCII. -/
def shortNodeID (nodeID : String) : String := String.ofList (nodeID.toList.take 8)

namespace WorkerNodes

variable (nodes : WorkerNodes)

/-! ## Statements on nodes -/

/-- `GetWorkerNodeByID`; `sql.ErrNoRows` is `none`. -/
def getWorkerNodeByID (nodeID : String) (fault : StoreFault) :
    Except String (Option WorkerNode) :=
  match fault with
  | some err => .error err
  | none => .ok (nodes.lookup nodeID)

def listWorkerLabelsByNode (nodeID : String) (fault : StoreFault) : Except String Labels :=
  match fault with
  | some err => .error err
  | none =>
    match nodes.lookup nodeID with
    | none => .ok ∅
    | some node => .ok node.labels

/-- `LabelsByNodeID`: a failing read is answered with no labels. -/
def labelsByNodeID (nodeID : String) (fault : StoreFault) : Labels :=
  let trimmedNodeID := trimSpace nodeID
  if trimmedNodeID = "" then ∅
  else match nodes.listWorkerLabelsByNode trimmedNodeID fault with
    | .error _ => ∅
    | .ok labels => labels

/-- What `Upsert` writes, once it has read the existing row. -/
structure Registration where
  nodeID : String
  sessionID : String
  provisioned : Bool
  nodeName : String
  labels : Labels
  nowUnixMs : Int
  deriving DecidableEq

/-- The row `Upsert` writes over `existing`: a credential of the worker stays. -/
def Registration.row (registration : Registration) (existing : Option WorkerNode) : WorkerNode where
  sessionID := registration.sessionID
  provisioned := registration.provisioned
  nodeName := registration.nodeName
  lastSeenAtUnixMs := registration.nowUnixMs
  labels := registration.labels
  secretHash := existing.bind WorkerNode.secretHash

/-- The transaction of `Upsert`. -/
def upsertWorkerNode (registration : Registration) (fault : StoreFault) :
    Except String WorkerNodes :=
  match fault with
  | some err => .error err
  | none => .ok (nodes.insert registration.nodeID
      (registration.row (nodes.lookup registration.nodeID)))

/-- The transaction of `SeedProvisionedWorkers` for one worker: whether it was added. -/
def seedProvisionedWorker (nodeID : String) (labels : Labels) (nowUnixMs offlineTTLMs : Int)
    (fault : StoreFault) : WorkerNodes × Bool :=
  let nodeID := trimSpace nodeID
  if nodeID = "" then (nodes, false)
  else match fault with
    | some _ => (nodes, false)
    | none =>
      match nodes.lookup nodeID with
      | some _ => (nodes, false)
      | none =>
        (nodes.insert nodeID
          { provisioned := true
            nodeName := "worker-" ++ shortNodeID nodeID
            lastSeenAtUnixMs :=
              if 0 < offlineTTLMs then nowUnixMs - (offlineTTLMs + 1000) else nowUnixMs - 1000
            labels := labels }, true)

/-- `Delete`: whether a row was deleted. -/
def delete (nodeID : String) (fault : StoreFault) : WorkerNodes × Bool :=
  let trimmedNodeID := trimSpace nodeID
  if trimmedNodeID = "" then (nodes, false)
  else match fault with
    | some _ => (nodes, false)
    | none => (nodes.erase trimmedNodeID, (nodes.lookup trimmedNodeID).isSome)

/-- Changes the row of a node, if it has one. -/
def alter (nodeID : String) (f : WorkerNode → WorkerNode) : WorkerNodes :=
  match nodes.lookup nodeID with
  | none => nodes
  | some node => nodes.insert nodeID (f node)

/-- `UpdateWorkerHeartbeatBySession`: whether a row was updated. -/
def updateWorkerHeartbeatBySession (nodeID sessionID : String) (nowUnixMs : Int)
    (fault : StoreFault) : WorkerNodes × Except String Bool :=
  match fault with
  | some err => (nodes, .error err)
  | none =>
    match nodes.lookup nodeID with
    | none => (nodes, .ok false)
    | some node =>
      if node.sessionID = sessionID then
        (nodes.insert nodeID { node with lastSeenAtUnixMs := nowUnixMs }, .ok true)
      else (nodes, .ok false)

def clearSession (nodeID sessionID : String) (fault : StoreFault) :
    WorkerNodes × Except String Unit :=
  match fault with
  | some err => (nodes, .error err)
  | none =>
    (nodes.alter (trimSpace nodeID) fun node =>
      if node.sessionID = trimSpace sessionID then { node with sessionID := "" } else node, .ok ())

def clearSessionByNode (nodeID : String) (fault : StoreFault) : WorkerNodes × Except String Unit :=
  match fault with
  | some err => (nodes, .error err)
  | none => (nodes.alter (trimSpace nodeID) fun node => { node with sessionID := "" }, .ok ())

/-- `PruneOffline`: workers that were never provisioned are deleted once they are offline. -/
def pruneOffline (cutoffUnixMs : Int) (fault : StoreFault) : WorkerNodes :=
  match fault with
  | some _ => nodes
  | none => nodes.filter fun _ node => node.provisioned || decide (cutoffUnixMs ≤ node.lastSeenAtUnixMs)

/-! ## Statements on credentials -/

/-- `GetCredentialHash`: a failing read is answered with no credential. -/
def getCredentialHash (nodeID : String) (fault : StoreFault) : Option String :=
  let trimmedNodeID := trimSpace nodeID
  if trimmedNodeID = "" then none
  else match fault with
    | some _ => none
    | none =>
      match (nodes.lookup trimmedNodeID).bind WorkerNode.secretHash with
      | none => none
      | some hash => if trimSpace hash = "" then none else some (trimSpace hash)

/-- `PutCredentialHashIfAbsent`: the foreign key refuses a credential without a node. -/
def putCredentialHashIfAbsent (nodeID secretHash : String) (fault : StoreFault) :
    WorkerNodes × Bool :=
  let trimmedNodeID := trimSpace nodeID
  let trimmedHash := trimSpace secretHash
  if trimmedNodeID = "" ∨ trimmedHash = "" then (nodes, false)
  else match fault with
    | some _ => (nodes, false)
    | none =>
      match nodes.lookup trimmedNodeID with
      | none => (nodes, false)
      | some node =>
        if node.secretHash = none then
          (nodes.insert trimmedNodeID { node with secretHash := some trimmedHash }, true)
        else (nodes, false)

/-- `DeleteCredential`: whether a credential was deleted. -/
def deleteCredential (nodeID : String) (fault : StoreFault) : WorkerNodes × Bool :=
  let trimmedNodeID := trimSpace nodeID
  if trimmedNodeID = "" then (nodes, false)
  else match fault with
    | some _ => (nodes, false)
    | none =>
      (nodes.alter trimmedNodeID fun node => { node with secretHash := none },
        ((nodes.lookup trimmedNodeID).bind WorkerNode.secretHash).isSome)

end WorkerNodes

end Onlyboxes.Console
