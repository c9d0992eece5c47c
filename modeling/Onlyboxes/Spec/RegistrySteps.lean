import Onlyboxes.Spec.ConnectProtocol
import Onlyboxes.Spec.ConsoleRuns

/-!
# What one registry operation does

An operation works either on the stored workers, their cached credentials and the ids
given out (`RegistryOp.onRows`), or on the connections and routes that dispatches see.
Each half is described once: `RowChange` says what becomes of one worker row, and
`LinkStep` which events of the service an operation consists of.

## Key results

- `exec_row`, `exec_credentials`, `exec_issued`, `exec_provisionedAs`: the first half
- `exec_link`: the second half
- `occurs_rows`, `occurs_links`: the environment
-/

namespace Onlyboxes.Console

open Text RegistryState RegistryPhase AList

/-- The operations on stored workers, cached credentials and random ids. -/
def RegistryOp.onRows : RegistryOp → Bool
  | .newID | .cacheCredential .. | .putCredentialIfAbsent .. | .deleteCredential _
  | .putCredentialHashIfAbsent .. | .storeDeleteCredential _ | .upsertWorkerNode _
  | .seedProvisionedWorker .. | .storeDelete _ | .updateHeartbeat .. | .clearSession ..
  | .clearSessionByNode _ => true
  | _ => false

/-- Nothing changed about workers and ids. -/
structure SameRows (s s' : RegistryState) : Prop where
  nodes : s'.nodes = s.nodes
  credentials : s'.credentials = s.credentials
  issued : s'.issued = s.issued
  provisionedAs : s'.provisionedAs = s.provisionedAs

/-- Nothing changed about connections and routes. -/
structure SameLinks (s s' : RegistryState) : Prop where
  service : s'.service = s.service
  details : s'.details = s.details

theorem SameRows.refl (s : RegistryState) : SameRows s s := ⟨rfl, rfl, rfl, rfl⟩

theorem SameRows.trans {s s' s'' : RegistryState} (h : SameRows s s') (h' : SameRows s' s'') :
    SameRows s s'' where
  nodes := h'.nodes.trans h.nodes
  credentials := h'.credentials.trans h.credentials
  issued := h'.issued.trans h.issued
  provisionedAs := h'.provisionedAs.trans h.provisionedAs

namespace RegistryState

variable {m : CaseMap} {cfg : RegistryConfig} {s s' : RegistryState} {e : ServiceEvent}

/-- An event of the service, seen from the registry. -/
theorem onService_eq_some (h : s.onService m e = some s') :
    ∃ service, s.service.occurs m e = some service ∧ s' = { s with service := service } := by
  obtain ⟨service, hservice, rfl⟩ := Option.map_eq_some_iff.mp h
  exact ⟨service, hservice, rfl⟩

theorem onService_sameRows (h : s.onService m e = some s') : SameRows s s' := by
  obtain ⟨service, -, rfl⟩ := onService_eq_some h
  exact ⟨rfl, rfl, rfl, rfl⟩

theorem onService_details (h : s.onService m e = some s') :
    s'.details = s.details := by
  obtain ⟨service, -, rfl⟩ := onService_eq_some h
  rfl

/-- A change of the details of one connection. -/
theorem onDetail_eq_some {ρ : Type} {session : SessionRef}
    {f : ConnectionDetail → ConnectionDetail × ρ} {r : ρ} (h : s.onDetail session f = some (s', r)) :
    ∃ detail, s.details.lookup session.id = some detail ∧
      s' = { s with details := s.details.insert session.id (f detail).1 } ∧ r = (f detail).2 := by
  unfold onDetail at h
  split at h
  · nomatch h
  · rename_i detail hdetail
    cases h
    exact ⟨detail, hdetail, rfl, rfl⟩

/-! ## Connections and routes -/

end RegistryState

/-- The operation on the route table that a registry operation consists of. -/
def RegistryOp.Routes : RegistryOp → RouteOp → Prop
  | .beginRecovery nodeID now, op => ∃ fault, op = .beginRecovery nodeID now fault
  | .markUnavailable nodeID, op => op = .markUnavailable nodeID
  | .deleteRoutesByNode nodeID, op => ∃ fault, op = .deleteByNode nodeID fault
  | .applyReport session report now, op =>
    ∃ candidates fault, op = .applyReport session.nodeID candidates report now fault
  | _, _ => False

/-- The same connection with other details. -/
def ConnectionDetail.Same (detail detail' : ConnectionDetail) : Prop :=
  detail'.sessionID = detail.sessionID

/-- What an operation does to connections and routes. -/
inductive LinkStep (m : CaseMap) (s : RegistryState) : RegistryOp → RegistryState → Prop
  | same (o : RegistryOp) : LinkStep m s o s
  | opened {s₁ : RegistryState} (hello : ConnectHello) (sessionID : String) (now : Int)
      (detail : ConnectionDetail)
      (h : s.onService m (.connect hello.nodeID hello.capabilities) = some s₁)
      (hid : detail.sessionID = sessionID) :
      LinkStep m s (.newActiveSession hello sessionID now)
        { s₁ with details := s₁.details.insert s.service.nextConnection detail }
  | published {s' : RegistryState} {o : RegistryOp} (session : SessionRef)
      (ho : o = .swapSession session ∨ o = .claimSessionIfAvailable session)
      (h : s.onService m (.publish session) = some s') : LinkStep m s o s'
  /-- The connection in place is closed first. -/
  | expired {s₁ s' : RegistryState} (session current : SessionRef) (err : Option String)
      (hcurrent : s.service.sessions.lookup session.nodeID = some current)
      (hclose : s.onService m (.close current err) = some s₁)
      (h : s₁.onService m (.publish session) = some s') :
      LinkStep m s (.claimSessionIfAvailable session) s'
  | removed {s' : RegistryState} {o : RegistryOp} (nodeID : String) (current : SessionRef)
      (ho : o = .takeSession nodeID ∨ ∃ session, o = .removeSession session ∧
        session.nodeID = nodeID ∧ ∃ d d', s.details.lookup current.id = some d ∧
          s.details.lookup session.id = some d' ∧ d.sessionID = d'.sessionID)
      (hcurrent : s.service.sessions.lookup nodeID = some current)
      (h : s.onService m (.removeSession current) = some s') : LinkStep m s o s'
  | connection {s' : RegistryState} {o : RegistryOp} (e : ServiceEvent) (he : e.onConnection = true)
      (h : s.onService m e = some s') : LinkStep m s o s'
  | routed {s' : RegistryState} {o : RegistryOp} (op : RouteOp) (hop : o.Routes op)
      (h : s.onService m (.routes op) = some s') : LinkStep m s o s'
  | detailed {o : RegistryOp} (id : Nat) (detail detail' : ConnectionDetail)
      (hold : s.details.lookup id = some detail) (hsame : detail.Same detail') :
      LinkStep m s o { s with details := s.details.insert id detail' }
  | applied {s₁ : RegistryState} {o : RegistryOp} (op : RouteOp) (hop : o.Routes op) (id : Nat)
      (detail detail' : ConnectionDetail) (h : s.onService m (.routes op) = some s₁)
      (hold : s₁.details.lookup id = some detail) (hsame : detail.Same detail') :
      LinkStep m s o { s₁ with details := s₁.details.insert id detail' }

variable {now : Int} {sessionID : String}

namespace RegistryState

variable {m : CaseMap} {cfg : RegistryConfig} {s s' : RegistryState} {session : SessionRef}

theorem claimSession_link {offlineTTLSec unixNano : Int} {r : Bool}
    (h : s.claimSessionIfAvailable m offlineTTLSec session unixNano = some (s', r)) :
    LinkStep m s (.claimSessionIfAvailable session) s' := by
  have hpublish : ∀ {s₁ : RegistryState},
      ((s₁.onService m (.publish session)).map fun s => (s, true)) = some (s', r) →
      s₁.onService m (.publish session) = some s' := by
    intro s₁ h
    obtain ⟨s₂, hs₂, heq⟩ := Option.map_eq_some_iff.mp h
    rw [hs₂, (Prod.mk.inj heq).1]
  unfold RegistryState.claimSessionIfAvailable at h
  dsimp only at h
  split at h
  · exact .published session (.inr rfl) (hpublish h)
  · rename_i current hcurrent
    split at h
    · split at h
      · exact .published session (.inr rfl) (hpublish h)
      · split at h
        · cases h
          exact .same _
        · obtain ⟨s₁, hs₁, h⟩ := Option.bind_eq_some_iff.mp h
          exact .expired session current _ hcurrent hs₁ (hpublish h)
    · nomatch h

theorem removeSession_link {r : Bool} (h : s.removeSession m session = some (s', r)) :
    LinkStep m s (.removeSession session) s' := by
  unfold RegistryState.removeSession at h
  split at h
  · cases h
    exact .same _
  · rename_i current hcurrent
    split at h
    · rename_i d d' hd hd'
      split at h
      · cases h
        exact .same _
      · rename_i hid
        obtain ⟨s₁, hs₁, heq⟩ := Option.map_eq_some_iff.mp h
        obtain rfl := (Prod.mk.inj heq).1
        exact .removed session.nodeID current
          (.inr ⟨session, rfl, rfl, d, d', hd, hd', not_not.mp hid⟩) hcurrent hs₁
    · nomatch h

theorem takeSession_link {nodeID : String} {r : Option SessionRef}
    (h : s.takeSession m nodeID = some (s', r)) : LinkStep m s (.takeSession nodeID) s' := by
  unfold RegistryState.takeSession at h
  split at h
  · cases h
    exact .same _
  · rename_i current hcurrent
    obtain ⟨s₁, hs₁, heq⟩ := Option.map_eq_some_iff.mp h
    obtain rfl := (Prod.mk.inj heq).1
    exact .removed nodeID current (.inl rfl) hcurrent hs₁

theorem newActiveSession_link {hello : ConnectHello} {r : SessionRef}
    (h : s.newActiveSession m hello sessionID now = some (s', r)) :
    LinkStep m s (.newActiveSession hello sessionID now) s' ∧
      r = ⟨s.service.nextConnection, hello.nodeID⟩ := by
  unfold RegistryState.newActiveSession at h
  obtain ⟨s₁, hs₁, heq⟩ := Option.map_eq_some_iff.mp h
  cases heq
  exact ⟨.opened hello sessionID now _ hs₁ rfl, rfl⟩

theorem applyReport_link {report : List (Option RecoveryResult)} {fault : StoreFault}
    {r : Except String Unit} (h : s.applyReport m session report now fault = some (s', r)) :
    LinkStep m s (.applyReport session report now) s' := by
  unfold RegistryState.applyReport at h
  split at h
  · nomatch h
  · rename_i detail hdetail
    split at h
    · nomatch h
    · rename_i s₁ hs₁
      split at h
      · cases h
        exact .routed (o := .applyReport session report now) _ ⟨_, _, rfl⟩ hs₁
      · cases h
        refine .applied (o := .applyReport session report now) _ ⟨_, _, rfl⟩ session.id detail _ hs₁ ?_ rfl
        rw [onService_details hs₁]
        exact hdetail

/-- What the operations outside the stored workers do. -/
theorem exec_link {o : RegistryOp} {ans : RegistryAnswer} {r : o.Res}
    (h : s.exec m cfg o ans = some (s', r)) (ho : o.onRows = false) : LinkStep m s o s' := by
  have hsame : ∀ {r' : o.Res}, some (s, r') = some (s', r) → LinkStep m s o s' := by
    intro r' h
    cases h
    exact .same o
  have hevent : ∀ {ρ : Type} {e : ServiceEvent} {f : RegistryState → ρ} {r : ρ},
      (∀ s', s.onService m e = some s' → LinkStep m s o s') →
      ((s.onService m e).map fun s' => (s', f s')) = some (s', r) → LinkStep m s o s' := by
    intro ρ e f r hlink h
    obtain ⟨s₁, hs₁, heq⟩ := Option.map_eq_some_iff.mp h
    obtain rfl := (Prod.mk.inj heq).1
    exact hlink s₁ hs₁
  have hdetail : ∀ {ρ : Type} {session : SessionRef}
      {f : ConnectionDetail → ConnectionDetail × ρ} {r : ρ}, s.onDetail session f = some (s', r) →
      (∀ d : ConnectionDetail, d.Same (f d).1) → LinkStep m s o s' := by
    intro ρ session f r h hf
    obtain ⟨d, hd, rfl, -⟩ := onDetail_eq_some h
    exact .detailed session.id d _ hd (hf d)
  unfold exec at h
  split at h
  all_goals try exact absurd ho.symm Bool.false_ne_true
  all_goals try exact hsame h
  · exact (newActiveSession_link h).1
  · exact claimSession_link h
  · exact hevent (fun _ h => .published _ (.inl rfl) h) h
  · exact removeSession_link h
  · exact takeSession_link h
  · exact hevent (fun _ h => .connection _ rfl h) h
  · exact hevent (fun _ h => .routed _ ⟨_, rfl⟩ h) h
  · exact hdetail h fun _ => rfl
  · exact applyReport_link h
  · split at h
    · nomatch h
    · exact hsame h
  · exact hdetail h fun _ => rfl
  · exact hevent (fun _ h => .connection _ rfl h) h
  · exact hevent (fun _ h => .routed _ rfl h) h
  · exact hevent (fun _ h => .routed _ ⟨_, rfl⟩ h) h
  · exact hdetail h fun _ => rfl
  · split at h
    · nomatch h
    · rename_i detail hd
      split at h
      · cases h
        exact .detailed _ detail _ hd rfl
      · nomatch h
  · split at h
    · nomatch h
    · split at h
      · nomatch h
      · exact hsame h
  · exact hevent (fun _ h => .connection _ rfl h) h
  · exact hdetail h fun _ => rfl
  · nomatch h

end RegistryState

variable {m : CaseMap} {s s' : RegistryState} {o : RegistryOp}

/-- What happens to connections and routes leaves the stored workers alone. -/
theorem LinkStep.sameRows (h : LinkStep m s o s') : SameRows s s' := by
  cases h with
  | same => exact .refl s
  | opened hello sessionID now detail h | applied op hop id detail detail' h =>
    exact (onService_sameRows h).trans ⟨rfl, rfl, rfl, rfl⟩
  | published session ho h | removed nodeID current ho hcurrent h | connection e he h
  | routed op hop h => exact onService_sameRows h
  | expired session current err hcurrent hclose h =>
    exact (onService_sameRows hclose).trans (onService_sameRows h)
  | detailed => exact ⟨rfl, rfl, rfl, rfl⟩

namespace RegistryState

variable {m : CaseMap} {cfg : RegistryConfig} {s s' : RegistryState}

/-! ## Stored workers -/

/-- Drawing an id: it was not given out before. -/
theorem exec_newID {ans : RegistryAnswer} {r : Except String String}
    (h : s.exec m cfg .newID ans = some (s', r)) :
    (s' = s ∧ ∃ err, r = .error err) ∨ ∃ raw, r = .ok (generateUUIDv4 raw) ∧
      generateUUIDv4 raw ∉ s.issued ∧ s' = { s with issued := generateUUIDv4 raw :: s.issued } := by
  cases ans with
  | random result =>
    cases result with
    | error err =>
      cases h
      exact .inl ⟨rfl, err, rfl⟩
    | ok raw =>
      change (if generateUUIDv4 raw ∈ s.issued then none else some _) = _ at h
      split at h
      · nomatch h
      · rename_i hfresh
        cases h
        exact .inr ⟨raw, rfl, hfresh, rfl⟩
  | _ => nomatch h

end RegistryState

/-- What an operation changes in the row of worker `n`, if it does not replace it. -/
def RegistryOp.Alters : RegistryOp → String → WorkerNode → WorkerNode → Prop
  | .updateHeartbeat nodeID sessionID now, n, node, node' =>
    n = nodeID ∧ node.sessionID = sessionID ∧ node' = { node with lastSeenAtUnixMs := now }
  | .clearSession nodeID sessionID, n, node, node' =>
    n = trimSpace nodeID ∧
      node' = if node.sessionID = trimSpace sessionID then { node with sessionID := "" } else node
  | .clearSessionByNode nodeID, n, node, node' =>
    n = trimSpace nodeID ∧ node' = { node with sessionID := "" }
  | .putCredentialHashIfAbsent nodeID secretHash, n, node, node' =>
    n = trimSpace nodeID ∧ node' = { node with secretHash := some (trimSpace secretHash) }
  | .storeDeleteCredential nodeID, n, node, node' =>
    n = trimSpace nodeID ∧ node' = { node with secretHash := none }
  | _, _, _, _ => False

/-- What an operation does to stored workers, cached credentials and ids. -/
inductive RowStep (s : RegistryState) : RegistryOp → RegistryState → Prop
  | same (o : RegistryOp) : RowStep s o s
  | drawn (raw : Fin 16 → Fin 256) (hfresh : generateUUIDv4 raw ∉ s.issued) :
      RowStep s .newID { s with issued := generateUUIDv4 raw :: s.issued }
  | cached (nodeID secret : String) :
      RowStep s (.cacheCredential nodeID secret)
        { s with credentials := s.credentials.insert nodeID secret }
  | credentialPut (nodeID secret : String) :
      RowStep s (.putCredentialIfAbsent nodeID secret)
        { s with credentials := s.credentials.insert (trimSpace nodeID) (trimSpace secret) }
  | uncached (nodeID : String) :
      RowStep s (.deleteCredential nodeID)
        { s with credentials := s.credentials.erase (trimSpace nodeID) }
  | upserted (registration : WorkerNodes.Registration) :
      RowStep s (.upsertWorkerNode registration)
        { s with
          nodes := s.nodes.insert registration.nodeID
            (registration.row (s.nodes.lookup registration.nodeID)) }
  | seeded (nodeID : String) (labels : Labels) (now offlineTTLMs : Int) (node : WorkerNode)
      (provisionedAs : GoMap String (String × String))
      (habsent : s.nodes.lookup (trimSpace nodeID) = none)
      (hnode : node.provisioned = true ∧ node.labels = labels ∧ node.sessionID = "")
      (hprovisioned : ∀ n v, provisionedAs.lookup n = some v → s.provisionedAs.lookup n = some v ∨
        n = trimSpace nodeID ∧ labels.lookup labelOwnerIDKey = some v.1 ∧
          labels.lookup labelWorkerTypeKey = some v.2) :
      RowStep s (.seedProvisionedWorker nodeID labels now offlineTTLMs)
        { s with nodes := s.nodes.insert (trimSpace nodeID) node, provisionedAs := provisionedAs }
  | deleted (nodeID : String) :
      RowStep s (.storeDelete nodeID)
        { s with
          nodes := s.nodes.erase (trimSpace nodeID)
          provisionedAs := s.provisionedAs.erase (trimSpace nodeID) }
  | altered {o : RegistryOp} (n : String) (node node' : WorkerNode)
      (hold : s.nodes.lookup n = some node) (halter : o.Alters n node node') :
      RowStep s o { s with nodes := s.nodes.insert n node' }

variable {n : String}

namespace RegistryState

variable {m : CaseMap} {cfg : RegistryConfig} {s s' : RegistryState}

theorem alter_row {o : RegistryOp} {f : WorkerNode → WorkerNode}
    (hf : ∀ node, s.nodes.lookup n = some node → o.Alters n node (f node)) :
    RowStep s o { s with nodes := s.nodes.alter n f } := by
  unfold WorkerNodes.alter
  split
  · exact .same o
  · rename_i node hnode
    exact .altered n node _ hnode (hf node hnode)

variable {nodeID : String} {fault : StoreFault}

theorem seed_row {labels : Labels} {offlineTTLMs : Int} :
    RowStep s (.seedProvisionedWorker nodeID labels now offlineTTLMs)
      (s.seedProvisionedWorker nodeID labels now offlineTTLMs fault).1 := by
  unfold RegistryState.seedProvisionedWorker WorkerNodes.seedProvisionedWorker
  dsimp only
  split
  · exact .same _
  · split
    · exact .same _
    · split
      · exact .same _
      · rename_i habsent
        refine .seeded nodeID labels now offlineTTLMs _ _ habsent ⟨rfl, rfl, rfl⟩ fun n v hv => ?_
        dsimp only at hv
        split at hv
        · rename_i hadded howner htype
          rcases lookup_insert_cases hv with ⟨hn, rfl⟩ | ⟨-, hv⟩
          · exact .inr ⟨hn, howner, htype⟩
          · exact .inl hv
        · exact .inl hv

theorem storeDelete_row : RowStep s (.storeDelete nodeID) (s.storeDelete nodeID fault).1 := by
  unfold RegistryState.storeDelete WorkerNodes.delete
  dsimp only
  split
  · rename_i hblank
    rw [if_neg fun h => h.1 hblank]
    exact .same _
  · rename_i hne
    split
    · rw [if_neg fun h => nomatch h.2]
      exact .same _
    · rw [if_pos ⟨hne, rfl⟩]
      exact .deleted nodeID

theorem heartbeat_row :
    RowStep s (.updateHeartbeat nodeID sessionID now)
      { s with nodes := (s.nodes.updateWorkerHeartbeatBySession nodeID sessionID now fault).1 } := by
  unfold WorkerNodes.updateWorkerHeartbeatBySession
  split
  · exact .same _
  · split
    · exact .same _
    · rename_i node hnode
      split
      · rename_i hid
        exact .altered nodeID node _ hnode ⟨rfl, hid, rfl⟩
      · exact .same _

theorem clearSession_row :
    RowStep s (.clearSession nodeID sessionID)
      { s with nodes := (s.nodes.clearSession nodeID sessionID fault).1 } := by
  unfold WorkerNodes.clearSession
  split
  · exact .same _
  · exact alter_row fun node _ => ⟨rfl, rfl⟩

theorem clearSessionByNode_row :
    RowStep s (.clearSessionByNode nodeID)
      { s with nodes := (s.nodes.clearSessionByNode nodeID fault).1 } := by
  unfold WorkerNodes.clearSessionByNode
  split
  · exact .same _
  · exact alter_row fun node _ => ⟨rfl, rfl⟩

theorem putCredentialHash_row {secretHash : String} :
    RowStep s (.putCredentialHashIfAbsent nodeID secretHash)
      { s with nodes := (s.nodes.putCredentialHashIfAbsent nodeID secretHash fault).1 } := by
  unfold WorkerNodes.putCredentialHashIfAbsent
  dsimp only
  split
  · exact .same _
  · split
    · exact .same _
    · split
      · exact .same _
      · rename_i node hnode
        split
        · exact .altered _ node _ hnode ⟨rfl, rfl⟩
        · exact .same _

theorem deleteCredential_row :
    RowStep s (.storeDeleteCredential nodeID)
      { s with nodes := (s.nodes.deleteCredential nodeID fault).1 } := by
  unfold WorkerNodes.deleteCredential
  dsimp only
  split
  · exact .same _
  · split
    · exact .same _
    · exact alter_row fun node _ => ⟨rfl, rfl⟩

theorem upsert_row {registration : WorkerNodes.Registration} {nodes : WorkerNodes}
    (h : s.nodes.upsertWorkerNode registration fault = .ok nodes) :
    RowStep s (.upsertWorkerNode registration) { s with nodes := nodes } := by
  unfold WorkerNodes.upsertWorkerNode at h
  split at h
  · nomatch h
  · cases h
    exact .upserted registration

/-- What the operations on the stored workers do. -/
theorem exec_row {o : RegistryOp} {ans : RegistryAnswer} {r : o.Res}
    (h : s.exec m cfg o ans = some (s', r)) (ho : o.onRows = true) : RowStep s o s' := by
  have hsame : ∀ {r' : o.Res}, some (s, r') = some (s', r) → RowStep s o s' := by
    intro r' h
    cases h
    exact .same o
  unfold exec at h
  split at h
  all_goals try exact absurd ho Bool.false_ne_true
  · exact hsame h
  · dsimp only at h
    split at h
    · nomatch h
    · rename_i raw hfresh
      cases h
      exact .drawn raw hfresh
  · cases h
    exact .cached _ _
  · split at h
    · exact hsame h
    · split at h
      · exact hsame h
      · cases h
        exact .credentialPut _ _
  · split at h
    · exact hsame h
    · cases h
      exact .uncached _
  · cases h
    exact putCredentialHash_row
  · cases h
    exact deleteCredential_row
  · split at h
    · exact hsame h
    · rename_i nodes hnodes
      cases h
      exact upsert_row hnodes
  · cases h
    exact seed_row
  · cases h
    exact storeDelete_row
  · cases h
    exact heartbeat_row
  · cases h
    exact clearSession_row
  · cases h
    exact clearSessionByNode_row
  · nomatch h

end RegistryState

/-- What happens to the stored workers leaves connections and routes alone. -/
theorem RowStep.sameLinks (h : RowStep s o s') :
    SameLinks s s' := by
  cases h with
  | _ => exact ⟨rfl, rfl⟩

namespace RegistryState

variable {m : CaseMap} {cfg : RegistryConfig} {s s' : RegistryState}

variable {o : RegistryOp} {ans : RegistryAnswer}

section

variable {r : o.Res} (h : s.exec m cfg o ans = some (s', r))

include h

/-- Every operation, seen from the stored workers. -/
theorem exec_rows :
    ∃ s₁, RowStep s o s₁ ∧ SameRows s₁ s' := by
  cases ho : o.onRows with
  | true => exact ⟨s', exec_row h ho, .refl s'⟩
  | false => exact ⟨s, .same o, (exec_link h ho).sameRows⟩

theorem exec_issued_mono {id : String} (hid : id ∈ s.issued) : id ∈ s'.issued := by
  obtain ⟨s₁, hrow, hsame⟩ := exec_rows h
  rw [hsame.issued]
  cases hrow with
  | drawn raw hfresh => exact List.mem_cons_of_mem _ hid
  | _ => exact hid

/-- Where a cached credential comes from. -/
theorem exec_credentials {v : String} (hv : s'.credentials.lookup n = some v) :
    s.credentials.lookup n = some v ∨ (∃ secret, o = .cacheCredential n secret) ∨
      ∃ nodeID secret, o = .putCredentialIfAbsent nodeID secret ∧ n = trimSpace nodeID := by
  obtain ⟨s₁, hrow, hsame⟩ := exec_rows h
  rw [hsame.credentials] at hv
  cases hrow with
  | cached nodeID secret =>
    rcases lookup_insert_cases hv with ⟨hn, -⟩ | ⟨-, hv⟩
    · exact .inr (.inl ⟨secret, by rw [hn]⟩)
    · exact .inl hv
  | credentialPut nodeID secret =>
    rcases lookup_insert_cases hv with ⟨hn, -⟩ | ⟨-, hv⟩
    · exact .inr (.inr ⟨nodeID, secret, rfl, hn⟩)
    · exact .inl hv
  | uncached nodeID => exact .inl (lookup_of_erase hv).2
  | _ => exact .inl hv

/-- Where a worker row comes from. -/
theorem exec_nodes {node' : WorkerNode} (hnode : s'.nodes.lookup n = some node') :
    (∃ node, s.nodes.lookup n = some node) ∨
      (∃ registration, o = .upsertWorkerNode registration ∧ n = registration.nodeID) ∨
      ∃ nodeID labels now ttl, o = .seedProvisionedWorker nodeID labels now ttl ∧
        n = trimSpace nodeID := by
  obtain ⟨s₁, hrow, hsame⟩ := exec_rows h
  rw [hsame.nodes] at hnode
  cases hrow with
  | upserted registration =>
    rcases lookup_insert_cases hnode with ⟨hn, -⟩ | ⟨-, hnode⟩
    · exact .inr (.inl ⟨registration, rfl, hn⟩)
    · exact .inl ⟨node', hnode⟩
  | seeded nodeID labels now ttl node provisionedAs =>
    rcases lookup_insert_cases hnode with ⟨hn, -⟩ | ⟨-, hnode⟩
    · exact .inr (.inr ⟨nodeID, labels, now, ttl, rfl, hn⟩)
    · exact .inl ⟨node', hnode⟩
  | deleted nodeID => exact .inl ⟨node', (lookup_of_erase hnode).2⟩
  | altered n' node altered hold halter =>
    rcases lookup_insert_cases hnode with ⟨hn, -⟩ | ⟨-, hnode⟩
    · exact .inl ⟨node, by rw [hn]; exact hold⟩
    · exact .inl ⟨node', hnode⟩
  | _ => exact .inl ⟨node', hnode⟩

/-- Where the history of a worker comes from. -/
theorem exec_provisionedAs {v : String × String} (hv : s'.provisionedAs.lookup n = some v) :
    s.provisionedAs.lookup n = some v ∨ ∃ nodeID labels now ttl,
      o = .seedProvisionedWorker nodeID labels now ttl ∧ n = trimSpace nodeID := by
  obtain ⟨s₁, hrow, hsame⟩ := exec_rows h
  rw [hsame.provisionedAs] at hv
  cases hrow with
  | seeded nodeID labels now ttl node provisionedAs habsent hnode hprovisioned =>
    rcases hprovisioned n v hv with hold | ⟨hn, -⟩
    · exact .inl hold
    · exact .inr ⟨nodeID, labels, now, ttl, rfl, hn⟩
  | deleted nodeID => exact .inl (lookup_of_erase hv).2
  | _ => exact .inl hv

end

end RegistryState

/-! ## Connections -/

/-- Connections stay, with their details; new ones may be added. -/
structure LinksKept (s s' : RegistryState) : Prop where
  connections : s.service.ConnectionsKept s'.service
  nextConnection : s.service.nextConnection ≤ s'.service.nextConnection
  details : ∀ id d, s.details.lookup id = some d → ∃ d', s'.details.lookup id = some d' ∧ d.Same d'
  known : ∀ id d', s'.details.lookup id = some d' →
    (∃ d, s.details.lookup id = some d) ∨ id < s'.service.nextConnection

theorem LinksKept.refl (s : RegistryState) : LinksKept s s :=
  ⟨.of_eq rfl, Nat.le_refl _, fun _ d hd => ⟨d, hd, rfl⟩, fun _ d hd => .inl ⟨d, hd⟩⟩

theorem LinksKept.trans {s s' s'' : RegistryState} (h : LinksKept s s') (h' : LinksKept s' s'') :
    LinksKept s s'' where
  connections id c hc := by
    obtain ⟨c', hc', hcont⟩ := h.connections id c hc
    obtain ⟨c'', hc'', hcont'⟩ := h'.connections id c' hc'
    exact ⟨c'', hc'', hcont.trans hcont'⟩
  nextConnection := Nat.le_trans h.nextConnection h'.nextConnection
  details id d hd := by
    obtain ⟨d', hd', hsame⟩ := h.details id d hd
    obtain ⟨d'', hd'', hsame'⟩ := h'.details id d' hd'
    exact ⟨d'', hd'', Eq.trans hsame' hsame⟩
  known id d hd := by
    rcases h'.known id d hd with ⟨d', hd'⟩ | hlt
    · rcases h.known id d' hd' with hold | hlt
      · exact .inl hold
      · exact .inr (Nat.lt_of_lt_of_le hlt h'.nextConnection)
    · exact .inr hlt

variable {detail detail' : ConnectionDetail}

/-- A change of the details of a connection. -/
theorem LinksKept.detailed {s : RegistryState} {id : Nat} (hold : s.details.lookup id = some detail)
    (hsame : detail.Same detail') :
    LinksKept s { s with details := s.details.insert id detail' } := by
  refine ⟨.of_eq rfl, Nat.le_refl _, fun id' d hd => ?_, fun id' d hd => .inl ?_⟩
  · dsimp only
    rw [lookup_insert_ite]
    split
    · rename_i hid
      rw [hid, hold] at hd
      cases hd
      exact ⟨detail', rfl, hsame⟩
    · exact ⟨d, hd, rfl⟩
  · rcases lookup_insert_cases hd with ⟨hid, -⟩ | ⟨-, hd⟩
    · exact ⟨detail, by rw [hid]; exact hold⟩
    · exact ⟨d, hd⟩

namespace ServiceState

variable {m : CaseMap} {s s' : ServiceState}

/-- An event keeps the connections there are. -/
theorem occurs_kept {e : ServiceEvent} (hinv : s.Inv) (h : s.occurs m e = some s') :
    ConnectionsKept s s' ∧ s.nextConnection ≤ s'.nextConnection := by
  cases occurs_step h with
  | connect =>
    refine ⟨fun id c hc => ⟨c, ?_, .refl c⟩, Nat.le_succ _⟩
    have hlt := (hinv.connections id c hc).2
    dsimp only
    rw [lookup_insert_ite, if_neg (Nat.ne_of_lt hlt)]
    exact hc
  | connection _ _ _ haside => exact ⟨haside.connections, Nat.le_of_eq haside.nextConnection.symm⟩
  | _ => exact ⟨.of_eq rfl, Nat.le_refl _⟩

/-- Removing takes the connection out of the session map. -/
theorem occurs_removeSession {session : SessionRef}
    (h : s.occurs m (.removeSession session) = some s')
    (hcurrent : s.sessions.lookup session.nodeID = some session) :
    s' = { s with sessions := s.sessions.erase session.nodeID } := by
  cases occurs_step h with
  | removed => rfl
  | notRemoved _ hother => exact absurd hcurrent hother
  | connection _ he => nomatch he

/-- Events on one connection and on the routes leave the session map alone. -/
theorem occurs_sessions {e : ServiceEvent} (h : s.occurs m e = some s')
    (he : ∀ session, e ≠ .publish session ∧ e ≠ .removeSession session) :
    s'.sessions = s.sessions := by
  cases occurs_step h with
  | publish session => exact absurd rfl (he session).1
  | removed session => exact absurd rfl (he session).2
  | connection _ _ _ haside => exact haside.sessions
  | _ => rfl

end ServiceState

namespace RegistryState

variable {m : CaseMap} {cfg : RegistryConfig} {s s' : RegistryState} {e : ServiceEvent}

theorem onService_kept (hinv : s.service.Inv) (h : s.onService m e = some s') :
    LinksKept s s' := by
  obtain ⟨service, hservice, rfl⟩ := onService_eq_some h
  obtain ⟨hkept, hnext⟩ := ServiceState.occurs_kept hinv hservice
  exact ⟨hkept, hnext, fun _ d hd => ⟨d, hd, rfl⟩, fun _ d hd => .inl ⟨d, hd⟩⟩

theorem onService_inv (hinv : s.service.Inv) (h : s.onService m e = some s') :
    s'.service.Inv := by
  obtain ⟨service, hservice, rfl⟩ := onService_eq_some h
  exact hinv.occurs hservice

theorem onService_sessions (h : s.onService m e = some s')
    (he : ∀ session, e ≠ .publish session ∧ e ≠ .removeSession session) :
    s'.service.sessions = s.service.sessions := by
  obtain ⟨service, hservice, rfl⟩ := onService_eq_some h
  exact ServiceState.occurs_sessions hservice he

/-- A new connection gets the next number. -/
theorem onService_connect {nodeID : String} {declared : List (Option DeclaredCapability)}
    (h : s.onService m (.connect nodeID declared) = some s') :
    s'.service.nextConnection = s.service.nextConnection + 1 ∧
      s'.service.connections.lookup s.service.nextConnection =
        some (ActiveSession.new m nodeID declared) := by
  obtain ⟨service, hservice, rfl⟩ := onService_eq_some h
  unfold ServiceState.occurs at hservice
  dsimp only at hservice
  split at hservice
  · nomatch hservice
  · cases hservice
    exact ⟨rfl, lookup_insert _⟩

/-- Publishing puts the connection into the session map. -/
theorem onService_publish {session : SessionRef} (h : s.onService m (.publish session) = some s') :
    s' = { s with service :=
      { s.service with sessions := s.service.sessions.insert session.nodeID session } } := by
  obtain ⟨service, hservice, rfl⟩ := onService_eq_some h
  cases ServiceState.occurs_step hservice with
  | publish => rfl
  | connection _ he => nomatch he

end RegistryState

/-- The shared state dispatches see stays consistent. -/
theorem LinkStep.inv (h : LinkStep m s o s') (hinv : s.service.Inv) : s'.service.Inv := by
  cases h with
  | same | detailed => exact hinv
  | opened hello sessionID now detail h | applied op hop id detail detail' h =>
    have hinv' := onService_inv hinv h
    exact hinv'
  | published session ho h | removed nodeID current ho hcurrent h | connection e he h
  | routed op hop h => exact onService_inv hinv h
  | expired session current err hcurrent hclose h =>
    exact onService_inv (onService_inv hinv hclose) h

/-- Connections stay, as long as new ones get new numbers. -/
theorem LinkStep.kept (h : LinkStep m s o s') (hinv : s.service.Inv)
    (hdetails : ∀ id d, s.details.lookup id = some d → id < s.service.nextConnection) :
    LinksKept s s' := by
  cases h with
  | same => exact .refl s
  | opened hello sessionID now detail h =>
    have hkept := onService_kept hinv h
    refine ⟨hkept.connections, hkept.nextConnection, fun id d hd => ⟨d, ?_, rfl⟩, fun id d hd => ?_⟩
    · dsimp only
      rw [lookup_insert_ite, if_neg (Nat.ne_of_lt (hdetails id d hd)),
        onService_details h]
      exact hd
    · dsimp only
      rcases lookup_insert_cases hd with ⟨hid, -⟩ | ⟨-, hd⟩
      · rw [hid, (onService_connect h).1]
        exact .inr (Nat.lt_succ_self _)
      · exact hkept.known id d hd
  | published session ho h | removed nodeID current ho hcurrent h | connection e he h
  | routed op hop h => exact onService_kept hinv h
  | expired session current err hcurrent hclose h =>
    exact (onService_kept hinv hclose).trans
      (onService_kept (onService_inv hinv hclose) h)
  | detailed id detail detail' hold hsame => exact .detailed hold hsame
  | applied op hop id detail detail' h hold hsame =>
    exact (onService_kept hinv h).trans (.detailed hold hsame)

/-- What becomes of the entry of a worker in the session map. -/
inductive EntryStep (s : RegistryState) (o : RegistryOp) (n : String) : Option SessionRef → Prop
  | same : EntryStep s o n (s.service.sessions.lookup n)
  | published (session : SessionRef) (hn : session.nodeID = n)
      (ho : o = .swapSession session ∨ o = .claimSessionIfAvailable session) :
      EntryStep s o n (some session)
  | removed (current : SessionRef) (hcurrent : s.service.sessions.lookup n = some current)
      (ho : o = .takeSession n ∨ ∃ session, o = .removeSession session ∧ session.nodeID = n ∧
        ∃ d d', s.details.lookup current.id = some d ∧ s.details.lookup session.id = some d' ∧
          d.sessionID = d'.sessionID) :
      EntryStep s o n none

theorem LinkStep.entry (h : LinkStep m s o s') (hinv : s.service.Inv) (n : String) :
    EntryStep s o n (s'.service.sessions.lookup n) := by
  have hpublish : ∀ {s₁ : RegistryState} {session : SessionRef},
      s₁.service.sessions = s.service.sessions → s₁.onService m (.publish session) = some s' →
      (o = .swapSession session ∨ o = .claimSessionIfAvailable session) →
      EntryStep s o n (s'.service.sessions.lookup n) := by
    intro s₁ session hs₁ h ho
    rw [onService_publish h]
    dsimp only
    rw [lookup_insert_ite]
    split
    · rename_i hn
      exact .published session hn.symm ho
    · rw [hs₁]
      exact .same
  have hsame : s'.service.sessions = s.service.sessions →
      EntryStep s o n (s'.service.sessions.lookup n) := by
    intro heq
    rw [heq]
    exact .same
  cases h with
  | same | detailed => exact .same
  | opened hello sessionID now detail h | applied op hop id detail detail' h =>
    have heq := onService_sessions h fun _ => ⟨nofun, nofun⟩
    exact hsame heq
  | published session ho h => exact hpublish rfl h ho
  | expired session current err hcurrent hclose h =>
    exact hpublish (onService_sessions hclose fun _ => ⟨nofun, nofun⟩) h (.inr rfl)
  | removed nodeID current ho hcurrent h =>
    have hnode := (hinv.sessions nodeID current hcurrent).1
    obtain ⟨service, hservice, rfl⟩ := onService_eq_some h
    rw [ServiceState.occurs_removeSession hservice (by rw [hnode]; exact hcurrent)]
    dsimp only
    rw [lookup_erase_ite]
    split
    · rename_i hn
      have hn : n = nodeID := hn.trans hnode
      subst hn
      exact .removed current hcurrent ho
    · exact .same
  | connection e he h =>
    apply hsame (onService_sessions h fun session => ⟨?_, ?_⟩)
    · rintro rfl
      nomatch he
    · rintro rfl
      nomatch he
  | routed op hop h =>
    exact hsame (onService_sessions h fun _ => ⟨nofun, nofun⟩)

namespace ConnectionDetail

theorem same_send (detail : ConnectionDetail) (response : ConnectResponse) (sends : Bool)
    (next : Writer) : detail.Same (detail.send response sends next) := by
  unfold send
  split
  · rfl
  · rfl

theorem same_writerStep {done sends : Bool} {choice : WriterChoice}
    (h : detail.writerStep done choice sends = some detail') :
    detail.Same detail' := by
  unfold writerStep at h
  split at h
  · split at h
    · cases h
      rfl
    · nomatch h
  · split at h
    · cases h
      rfl
    · nomatch h
  · split at h
    · nomatch h
    · cases h
      exact same_send _ _ _ _
  · split at h
    · cases h
      rfl
    · nomatch h
  · split at h
    · nomatch h
    · cases h
      exact same_send _ _ _ _
  · split at h
    · nomatch h
    · cases h
      exact same_send _ _ _ _
  · nomatch h

end ConnectionDetail

namespace RegistryState

variable {m : CaseMap} {s s' : RegistryState}

/-- What one step of the environment does: an operation of a dispatch, which may note
    something in the details of its connection, maintenance of the routes, a step of a
    writer, or the pruning of workers that were not provisioned. -/
inductive EnvStep (m : CaseMap) (s : RegistryState) : RegistryEvent → RegistryState → Prop
  | called (o : ServiceOp) (ans : Answer) (service : ServiceState) (r : o.Res)
      (details : GoMap Nat ConnectionDetail) (hexec : s.service.exec m o ans = some (service, r))
      (hkept : LinksKept s { s with details := details }) :
      EnvStep m s (.call o ans) { s with service := service, details := details }
  | routes (op : RouteOp) (s' : RegistryState) (h : s.onService m (.routes op) = some s') :
      EnvStep m s (.routes op) s'
  | written (session : SessionRef) (choice : WriterChoice) (sends : Bool)
      (details : GoMap Nat ConnectionDetail) (hkept : LinksKept s { s with details := details }) :
      EnvStep m s (.writer session choice sends) { s with details := details }
  | pruned (cutoffUnixMs : Int) (fault : StoreFault) :
      EnvStep m s (.pruneOffline cutoffUnixMs fault)
        { s with nodes := s.nodes.pruneOffline cutoffUnixMs fault }

theorem occurs_step {e : RegistryEvent} (h : s.occurs m e = some s') : EnvStep m s e s' := by
  unfold occurs at h
  cases e with
  | call o ans =>
    unfold dispatches at h
    dsimp only at h
    split at h
    · nomatch h
    · rename_i service r hexec
      split at h
      · obtain ⟨⟨s₁, u⟩, hs₁, rfl⟩ := Option.map_eq_some_iff.mp h
        obtain ⟨d, hd, rfl, -⟩ := onDetail_eq_some hs₁
        exact .called _ ans service _ _ hexec (.detailed hd rfl)
      · split at h
        · nomatch h
        · rename_i detail hd
          split at h
          · cases h
            exact .called _ ans service _ _ hexec (.detailed hd rfl)
          · nomatch h
      · cases h
        exact .called o ans service r s.details hexec (.refl s)
  | routes op =>
    dsimp only at h
    split at h
    · exact .routes op s' h
    · nomatch h
  | writer session choice sends =>
    dsimp only at h
    split at h
    · rename_i connection detail hc hd
      obtain ⟨d, hstep, rfl⟩ := Option.map_eq_some_iff.mp h
      exact .written session choice sends _ (.detailed hd (ConnectionDetail.same_writerStep hstep))
    · nomatch h
  | pruneOffline cutoffUnixMs fault =>
    cases h
    exact .pruned cutoffUnixMs fault

/-- The environment changes stored workers only by pruning. -/
theorem occurs_sameRows {e : RegistryEvent} (h : s.occurs m e = some s') :
    SameRows s s' ∨ ∃ cutoffUnixMs fault, e = .pruneOffline cutoffUnixMs fault ∧
      s' = { s with nodes := s.nodes.pruneOffline cutoffUnixMs fault } := by
  cases occurs_step h with
  | called | written => exact .inl ⟨rfl, rfl, rfl, rfl⟩
  | routes op s' h => exact .inl (onService_sameRows h)
  | pruned cutoffUnixMs fault => exact .inr ⟨cutoffUnixMs, fault, rfl, rfl⟩

/-- Pruning deletes rows of workers that were not provisioned. -/
theorem occurs_rows {e : RegistryEvent} (h : s.occurs m e = some s') :
    s'.credentials = s.credentials ∧ s'.issued = s.issued ∧ s'.provisionedAs = s.provisionedAs ∧
      ∀ n, s'.nodes.lookup n = s.nodes.lookup n ∨
        s'.nodes.lookup n = none ∧ ∃ node, s.nodes.lookup n = some node ∧ node.provisioned = false := by
  rcases occurs_sameRows h with hsame | ⟨cutoffUnixMs, fault, rfl, rfl⟩
  · exact ⟨hsame.credentials, hsame.issued, hsame.provisionedAs, fun n => .inl (by rw [hsame.nodes])⟩
  · refine ⟨rfl, rfl, rfl, fun n => ?_⟩
    dsimp only
    unfold WorkerNodes.pruneOffline
    split
    · exact .inl rfl
    · rw [lookup_filter]
      cases hn : s.nodes.lookup n with
      | none => exact .inl rfl
      | some node =>
        rw [Option.filter_some]
        split
        · exact .inl rfl
        · rename_i hpruned
          simp only [Bool.or_eq_true, not_or, Bool.not_eq_true] at hpruned
          exact .inr ⟨rfl, node, rfl, hpruned.1⟩

/-- The environment keeps connections, their session map and the consistency of the
    state. -/
theorem occurs_links {e : RegistryEvent} (hinv : s.service.Inv) (h : s.occurs m e = some s') :
    s'.service.Inv ∧ LinksKept s s' ∧ s'.service.sessions = s.service.sessions ∧
      s'.service.nextConnection = s.service.nextConnection := by
  cases occurs_step h with
  | called o ans service r details hexec hkept =>
    have haside := (ServiceState.exec_aside hexec).1
    exact ⟨hinv.exec hexec, ⟨haside.connections, Nat.le_of_eq haside.nextConnection.symm,
      hkept.details, fun id d hd => (hkept.known id d hd).imp_right fun hlt =>
        Nat.lt_of_lt_of_eq hlt haside.nextConnection.symm⟩, haside.sessions, haside.nextConnection⟩
  | routes op s' h =>
    obtain ⟨service, hservice, rfl⟩ := onService_eq_some h
    unfold ServiceState.occurs at hservice
    dsimp only at hservice
    split at hservice
    · cases hservice
      exact ⟨onService_inv hinv h, onService_kept hinv h, rfl, rfl⟩
    · nomatch hservice
  | written session choice sends details hkept => exact ⟨hinv, hkept, rfl, rfl⟩
  | pruned cutoffUnixMs fault =>
    exact ⟨hinv, ⟨.of_eq rfl, Nat.le_refl _, fun _ d hd => ⟨d, hd, rfl⟩, fun _ d hd => .inl ⟨d, hd⟩⟩,
      rfl, rfl⟩

end RegistryState

end Onlyboxes.Console
