import Onlyboxes.Spec.WorkerIdentity

/-!
# Worker types are enforced

A worker keeps the owner and the type it was provisioned with, whatever its hellos say,
and a worker-sys only gets connections with the capabilities of a worker-sys. The second
part rests on the label lookup of `Connect`: a failing read is answered with no labels,
and then the hello goes through as it is.

## Key results

- `lookup_mergeLabelsPreserveKeys`: the protected labels survive a registration
- `restrictHello_capabilities`: what the hello of a worker-sys is cut down to
- `worker_type_enforced`: the result about runs
-/

namespace Onlyboxes.Console

open Text RegistryState RegistryPhase

/-! ## Labels -/

variable {base override : Labels}

/-- A protected label keeps its value. -/
theorem lookup_mergeLabelsPreserveKeys {keys : List String} {key value : String}
    (htrim : ∀ k ∈ keys, trimSpace k = k) (hkey : key ∈ keys) (hne : key ≠ "")
    (hbase : base.lookup key = some value) :
    (mergeLabelsPreserveKeys base override keys).lookup key = some value := by
  unfold mergeLabelsPreserveKeys
  have hself := htrim key hkey
  obtain ⟨before, after, rfl⟩ := List.append_of_mem hkey
  rw [List.foldl_append, List.foldl_cons]
  -- Once the key was visited its label has the value, and later keys do not change that.
  refine List.foldl_invariant (P := fun acc : Labels => acc.lookup key = some value) after ?_ ?_
  · dsimp only
    rw [hself, if_neg hne]
    simp only [hbase]
    exact AList.lookup_insert _
  · intro acc k hk hacc
    dsimp only
    split
    · exact hacc
    · split
      · exact hacc
      · rename_i baseValue hvalue
        rw [AList.lookup_insert_ite]
        split
        · rename_i heq
          rw [← heq] at hvalue
          exact hvalue.symm.trans hbase
        · exact hacc

/-! ## Capabilities -/

/-- A recorded capability was declared. -/
theorem declared_of_capabilitiesFromHello {m : CaseMap}
    {declared : List (Option DeclaredCapability)} {name : String}
    (h : ((capabilitiesFromHello m declared).lookup name).isSome) :
    ∃ capability, some capability ∈ declared ∧ name = normalizeCapability m capability.name := by
  have hall : ∀ name, ((capabilitiesFromHello m declared).lookup name).isSome →
      ∃ capability, some capability ∈ declared ∧ name = normalizeCapability m capability.name := by
    unfold capabilitiesFromHello
    refine List.foldl_invariant (P := fun acc : GoMap String SessionCapability =>
      ∀ name, (acc.lookup name).isSome →
        ∃ capability, some capability ∈ declared ∧ name = normalizeCapability m capability.name)
      declared (fun name h => by simp at h) ?_
    intro acc k hk hacc name hname
    cases k with
    | none => exact hacc name hname
    | some capability =>
      dsimp only at hname
      split at hname
      · exact hacc name hname
      · rw [AList.lookup_insert_ite] at hname
        split at hname
        · rename_i heq
          exact ⟨capability, hk, heq⟩
        · exact hacc name hname
  exact hall name h

/-- The capabilities of a worker-sys, as they are recorded. -/
def IsSysCapability (m : CaseMap) (name : String) : Prop :=
  name = normalizeCapability m computerUseCapabilityDeclared ∨
    name = normalizeCapability m readImageCapabilityDeclared

/-- The hello only declares capabilities of a worker-sys. -/
def ConnectHello.Restricted (m : CaseMap) (hello : ConnectHello) : Prop :=
  ∀ name, ((capabilitiesFromHello m hello.capabilities).lookup name).isSome → IsSysCapability m name

variable {hello hello' : ConnectHello}

theorem restrictHello_capabilities {m : CaseMap} (h : restrictHello m hello = .ok hello') :
    hello'.Restricted m := by
  unfold restrictHello at h
  split at h
  · nomatch h
  · split at h
    · nomatch h
    · cases h
      intro name hname
      obtain ⟨capability, hmem, rfl⟩ := declared_of_capabilitiesFromHello hname
      obtain ⟨sysName, hsys, hcap⟩ := List.mem_filterMap.mp hmem
      obtain ⟨maxInflight, -, heq⟩ := Option.map_eq_some_iff.mp hcap
      cases heq
      simp only [List.mem_cons, List.not_mem_nil, or_false] at hsys
      rcases hsys with rfl | rfl
      · exact .inl rfl
      · exact .inr rfl

/-- The type "worker-sys" is normal. -/
theorem normalizeWorkerType_sys (lib : RegistryLib) :
    normalizeWorkerType lib.caseMap workerTypeSys = workerTypeSys := by
  have hlower : lib.caseMap.toLower workerTypeSys = workerTypeSys := by
    have hchar : ∀ ch ∈ workerTypeSys.toList, lib.caseMap.lower ch = ch := by
      intro ch hch
      have hall : workerTypeSys.toList.all (fun ch => ch.isLower || ch = '-') = true := by decide
      have hcases : ch.isLower = true ∨ ch = '-' := by simpa using List.all_eq_true.mp hall ch hch
      rcases hcases with hlower | rfl
      · exact lib.caseMap.lower_isLower ch hlower
      · exact lib.lower_hyphen
    rw [CaseMap.toLower, List.map_congr_left hchar, List.map_id', String.ofList_toList]
  rw [normalizeWorkerType, hlower]
  decide

/-- The hello of a worker that is labelled as a worker-sys is restricted. -/
theorem resolvedHello_restricted {lib : RegistryLib} {labels : Labels}
    (htype : labels.lookup labelWorkerTypeKey = some workerTypeSys)
    (h : resolvedHello lib.caseMap hello labels = .ok hello') : hello'.Restricted lib.caseMap := by
  have hsys : resolveWorkerType lib.caseMap labels = workerTypeSys := by
    rw [resolveWorkerType, htype]
    exact normalizeWorkerType_sys lib
  unfold resolvedHello at h
  rw [if_neg (fun hne => hne hsys)] at h
  exact restrictHello_capabilities h

/-! ## The stored labels -/

/-- The labels name the owner and the type a worker was provisioned with. -/
def Labels.Name (labels : Labels) (provisioned : String × String) : Prop :=
  labels.lookup labelOwnerIDKey = some provisioned.1 ∧
    labels.lookup labelWorkerTypeKey = some provisioned.2

/-- The rows of provisioned workers keep their labels, and `Upsert` has read them. -/
structure StoredLabels (s : RegistryState) (gs : List RegistryPhase) : Prop where
  rows : ∀ n v, s.provisionedAs.lookup n = some v →
    ∃ node, s.nodes.lookup n = some node ∧ node.provisioned = true ∧ node.labels.Name v
  row : ∀ c existing, .published c (.row existing) ∈ gs → ∀ v,
    s.provisionedAs.lookup (trimSpace c.hello.nodeID) = some v →
      existing.any WorkerNode.provisioned = true
  labelled : ∀ c base, .published c (.labelled base) ∈ gs → ∀ v,
    s.provisionedAs.lookup (trimSpace c.hello.nodeID) = some v → base.Name v

/-- Altering a row leaves its labels alone. -/
theorem RegistryOp.Alters.labels {o : RegistryOp} {n : String} {node node' : WorkerNode}
    (h : o.Alters n node node') :
    node'.provisioned = node.provisioned ∧ node'.labels = node.labels := by
  cases o with
  | clearSession nodeID sessionID =>
    rw [h.2]
    split <;> exact ⟨rfl, rfl⟩
  | updateHeartbeat nodeID sessionID now =>
    rw [h.2.2]
    exact ⟨rfl, rfl⟩
  | clearSessionByNode nodeID | putCredentialHashIfAbsent nodeID secretHash
  | storeDeleteCredential nodeID =>
    rw [h.2]
    exact ⟨rfl, rfl⟩
  | _ => nomatch h

variable {g' : RegistryPhase} {ok : RegistryPool → RegistryAction → Prop}

namespace StoredLabels

variable {lib : RegistryLib} {cfg : RegistryConfig} {s s' : RegistryState}
  {gs : List RegistryPhase}

theorem started (h : s.Started) : StoredLabels s [] where
  rows n v hv := by
    obtain ⟨node, hnode, hprov, howner, htype⟩ := (h.provisioned n v.1 v.2).mp hv
    exact ⟨node, hnode, hprov, howner, htype⟩
  row _ _ hg := nomatch hg
  labelled _ _ hg := nomatch hg

theorem spawn (h : StoredLabels s gs) (call : RegistryCall) :
    StoredLabels s (gs ++ [call.start]) := by
  have hstart : ∀ c registering, .published c registering ∈ gs ++ [call.start] →
      RegistryPhase.published c registering ∈ gs := by
    intro c registering hg
    rcases List.mem_append.mp hg with hg | hg
    · exact hg
    · have heq := List.mem_singleton.mp hg
      rcases call with ⟨err | _ | hello, frames⟩ | nodeID | ⟨owner, type, now, ttl⟩ <;>
        nomatch heq
  exact ⟨h.rows, fun c existing hg => h.row c existing (hstart c _ hg),
    fun c base hg => h.labelled c base (hstart c _ hg)⟩

theorem environment (h : StoredLabels s gs) {e : RegistryEvent}
    (hs : s.occurs lib.caseMap e = some s') : StoredLabels s' gs := by
  obtain ⟨-, -, hprov, hnodes⟩ := occurs_rows hs
  constructor
  · intro n v hv
    rw [hprov] at hv
    obtain ⟨node, hnode, hprovisioned, hname⟩ := h.rows n v hv
    rcases hnodes n with heq | ⟨-, node', hnode', hfalse⟩
    · exact ⟨node, heq.trans hnode, hprovisioned, hname⟩
    · obtain rfl := Option.mem_unique hnode hnode'
      nomatch hprovisioned.symm.trans hfalse
  · rw [hprov]
    exact h.row
  · rw [hprov]
    exact h.labelled

section

variable {g : RegistryPhase} {o : RegistryOp} {ans : RegistryAnswer} {r : o.Res} {i : Nat}

variable {c : Connection} {v : String × String}

/-- What `Upsert` writes for a provisioned worker names its owner and its type. -/
theorem registers (h : StoredLabels s gs) {registering : Registering}
    {registration : WorkerNodes.Registration} (hg : .published c registering ∈ gs)
    (hreg : RegistryPhase.Registers c registration registering)
    (hv : s.provisionedAs.lookup (trimSpace c.hello.nodeID) = some v) :
    registration.provisioned = true ∧ registration.labels.Name v := by
  cases registering with
  | pending => nomatch hreg
  | row existing =>
    have hany := h.row c existing hg v hv
    nomatch hreg.1.symm.trans hany
  | labelled base =>
    obtain ⟨howner, htype⟩ := h.labelled c base hg v hv
    refine ⟨hreg.1, ?_⟩
    rw [hreg.2]
    -- The two labels are kept.
    have htrim : ∀ k ∈ [labelOwnerIDKey, labelWorkerTypeKey], trimSpace k = k := by decide
    exact ⟨lookup_mergeLabelsPreserveKeys htrim (by decide) (by decide) howner,
      lookup_mergeLabelsPreserveKeys htrim (by decide) (by decide) htype⟩

variable (hallowed : g.Allowed cfg o) (hexec : s.exec lib.caseMap cfg o ans = some (s', r))

include hallowed hexec

/-- The rows after an operation. -/
theorem rows_run (h : StoredLabels s gs) (hg : g ∈ gs) {n : String}
    (hv : s'.provisionedAs.lookup n = some v) :
    ∃ node, s'.nodes.lookup n = some node ∧ node.provisioned = true ∧ node.labels.Name v := by
  cases ho : o.onRows with
  | false =>
    have hsame := (exec_link hexec ho).sameRows
    rw [hsame.provisionedAs] at hv
    rw [hsame.nodes]
    exact h.rows n v hv
  | true =>
    have hwriter := rowWriter_of_allowed hallowed ho
    cases exec_row hexec ho with
    | upserted registration =>
      cases hwriter with
      | registers c registering _ hnode _ hreg =>
        dsimp only
        rw [AList.lookup_insert_ite]
        split
        · rename_i heq
          rw [heq, hnode] at hv
          obtain ⟨hprov, hname⟩ := h.registers hg hreg hv
          exact ⟨_, rfl, hprov, hname⟩
        · exact h.rows n v hv
    | seeded nodeID labels now ttl node provisionedAs habsent hnode hprovisioned =>
      dsimp only
      rw [AList.lookup_insert_ite]
      rcases hprovisioned n v hv with hold | ⟨rfl, howner, htype⟩
      · obtain ⟨old, hold, hprov, hname⟩ := h.rows n v hold
        rw [if_neg (by rintro rfl; nomatch habsent.symm.trans hold)]
        exact ⟨old, hold, hprov, hname⟩
      · rw [if_pos rfl]
        refine ⟨node, rfl, hnode.1, ?_⟩
        rw [hnode.2.1]
        exact ⟨howner, htype⟩
    | deleted nodeID =>
      obtain ⟨hne, hv⟩ := AList.lookup_of_erase hv
      dsimp only
      rw [AList.lookup_erase_ite, if_neg hne]
      exact h.rows n v hv
    | altered n' node node' hold halter =>
      obtain ⟨old, hn, hprov, hname⟩ := h.rows n v hv
      dsimp only
      rw [AList.lookup_insert_ite]
      split
      · rename_i heq
        rw [heq] at hn
        obtain rfl := Option.mem_unique hn hold
        obtain ⟨hprov', hlabels⟩ := halter.labels
        refine ⟨node', rfl, hprov'.trans hprov, ?_⟩
        rw [hlabels]
        exact hname
      · exact ⟨old, hn, hprov, hname⟩
    | _ => exact h.rows n v hv

/-- The history of a worker that a call has authenticated as does not start anew. -/
theorem history_kept (hids : WorkerIds s gs) (hg : g ∈ gs) (hg' : g' ∈ gs) {n : String}
    (hn : g'.identity = some n) (hv : s'.provisionedAs.lookup n = some v) :
    s.provisionedAs.lookup n = some v := by
  rcases hids.newHistory hallowed hexec hg hv with hold | ⟨rfl, -⟩
  · exact hold
  · exact absurd hn ((hids.unused n hg).2.2.2 g' hg')

/-- What `Upsert` reads of a row. -/
theorem row_run (h : StoredLabels s gs) (hids : WorkerIds s gs) (hg : g ∈ gs)
    {existing : Option WorkerNode}
    (hnext : g.next lib.caseMap ⟨o, r, ()⟩ = .published c (.row existing))
    (hv : s'.provisionedAs.lookup (trimSpace c.hello.nodeID) = some v) :
    existing.any WorkerNode.provisioned = true := by
  have hmove := moves_next (m := lib.caseMap) (r := r) hallowed
  rw [hnext] at hmove
  cases hmove with
  | stays => exact h.row c existing hg v (history_kept hallowed hexec hids hg hg rfl hv)
  | beginsPublished c₀ =>
    exact h.row c₀ existing hg v (history_kept hallowed hexec hids hg hg rfl hv)
  | readsRow c registering existing =>
    cases ans with
    | store fault =>
      obtain ⟨rfl, hread⟩ := Prod.mk.inj (Option.some.inj hexec)
      obtain ⟨node, hnode, hprov, -⟩ := h.rows _ v hv
      unfold WorkerNodes.getWorkerNodeByID at hread
      split at hread
      · nomatch hread
      · cases hread
        rw [hnode]
        exact hprov
    | _ => nomatch hexec

/-- What `Upsert` reads of the labels. -/
theorem labelled_run (h : StoredLabels s gs) (hids : WorkerIds s gs) (hg : g ∈ gs)
    (hnext : g.next lib.caseMap ⟨o, r, ()⟩ = .published c (.labelled base))
    (hv : s'.provisionedAs.lookup (trimSpace c.hello.nodeID) = some v) : base.Name v := by
  have hmove := moves_next (m := lib.caseMap) (r := r) hallowed
  rw [hnext] at hmove
  cases hmove with
  | stays => exact h.labelled c base hg v (history_kept hallowed hexec hids hg hg rfl hv)
  | beginsPublished c₀ =>
    exact h.labelled c₀ base hg v (history_kept hallowed hexec hids hg hg rfl hv)
  | readsLabels c registering base =>
    cases ans with
    | store fault =>
      obtain ⟨rfl, hread⟩ := Prod.mk.inj (Option.some.inj hexec)
      obtain ⟨node, hnode, -, hname⟩ := h.rows _ v hv
      unfold WorkerNodes.listWorkerLabelsByNode at hread
      rw [hnode] at hread
      split at hread
      · nomatch hread
      · cases hread
        exact hname
    | _ => nomatch hexec

/-- An operation of a call. -/
theorem run (h : StoredLabels s gs) (hids : WorkerIds s gs) (hg : gs[i]? = some g) :
    StoredLabels s' (gs.set i (g.next lib.caseMap ⟨o, r, ()⟩)) := by
  have hmem := List.mem_of_getElem? hg
  constructor
  · exact fun n v hv => h.rows_run hallowed hexec hmem hv
  · intro c existing hg' v hv
    rcases List.mem_or_eq_of_mem_set hg' with hg' | hnext
    · exact h.row c existing hg' v (history_kept hallowed hexec hids hmem hg' rfl hv)
    · exact h.row_run hallowed hexec hids hmem hnext.symm hv
  · intro c base hg' v hv
    rcases List.mem_or_eq_of_mem_set hg' with hg' | hnext
    · exact h.labelled c base hg' v (history_kept hallowed hexec hids hmem hg' rfl hv)
    · exact h.labelled_run hallowed hexec hids hmem hnext.symm hv

end

/-- Provisioned workers keep their labels in every run. -/
theorem of_reachable {p : RegistryPool} (h : (registrySystem lib cfg).machine.ReachableWhere ok p) :
    StoredLabels p.shared (phases lib.caseMap cfg p) := by
  apply ThreadSystem.ghost_invariant (I := StoredLabels) (fun _ h => keepsProtocol h) _ _ _ _ h
  · exact fun s hs => .started hs
  · exact fun p c _ _ hinv => hinv.spawn c
  · exact fun p i ans g o s' r hreach _ hinv hg _ hallowed hexec =>
      hinv.run hallowed hexec (WorkerIds.of_reachable hreach) hg
  · exact fun p e s' _ _ hinv henv => hinv.environment henv

end StoredLabels

/-! ## Restricted hellos -/

namespace RegistryPhase

/-- The hello of a call as the type of its worker allows it. -/
def accepted : RegistryPhase → Option ConnectHello
  | .resolved hello | .named hello _ => some hello
  | g => g.connection.map Connection.hello

variable {m : CaseMap} {g : RegistryPhase}

theorem accepted_of_connection {c : Connection} (h : g.connection = some c) :
    g.accepted = some c.hello := by
  cases g <;> first | (obtain rfl := Option.some.inj h; rfl) | nomatch h

theorem identity_of_accepted {hello : ConnectHello} (h : g.accepted = some hello) :
    g.identity = some (trimSpace hello.nodeID) := by
  cases g <;> first | (obtain rfl := Option.some.inj h; rfl) | nomatch h

/-- A hello is accepted by the label lookup. -/
theorem Moves.accepted {e : RegistryCallEvent} (h : Moves m g e g') {hello : ConnectHello}
    (hhello : g'.accepted = some hello) :
    g.accepted = some hello ∨ ∃ hello₀ labels, g = .authenticated hello₀ ∧
      e = ⟨.labelsByNodeID hello₀.nodeID, labels, ()⟩ ∧ resolvedHello m hello₀ labels = .ok hello := by
  cases h with
  | resolves hello₀ hello' labels hres =>
    cases hhello
    exact .inr ⟨hello₀, labels, rfl, rfl, hres⟩
  | withdraws _ c hg | leaves _ c hg =>
    rcases hg with rfl | hg
    · exact .inl hhello
    · exact .inl ((accepted_of_connection (connection_of_live hg)).trans hhello)
  | _ => first | exact .inl hhello | nomatch hhello

end RegistryPhase

/-- A label lookup of `Connect` fails. -/
def labelReadFails (p : RegistryPool) : RegistryAction → Bool
  | .run i (.store (some _)) =>
    match p.nextOp i with
    | some (.labelsByNodeID _) => true
    | _ => false
  | _ => false

variable {lib : RegistryLib} {cfg : RegistryConfig} {p : RegistryPool}

/-- No call authenticates as nobody. -/
theorem identity_ne_empty (h : (registrySystem lib cfg).machine.ReachableWhere ok p) :
    ∀ g ∈ phases lib.caseMap cfg p, g.identity ≠ some "" := by
  apply ThreadSystem.ghost_invariant (I := fun _ gs => ∀ g ∈ gs, g.identity ≠ some "")
    (fun _ h => keepsProtocol h) _ _ _ _ h
  · exact fun s _ g hg => nomatch hg
  · refine fun p c _ _ hinv => List.forall_mem_concat hinv ?_
    rcases c with ⟨err | _ | hello, frames⟩ | nodeID | ⟨owner, type, now, ttl⟩ <;> exact nofun
  · intro p i ans g o s' r _ _ hinv hg _ hallowed _
    refine List.forall_mem_set hinv fun hn => ?_
    rcases (moves_next hallowed).identity hn with hold | ⟨hne, -⟩
    · exact hinv g (List.mem_of_getElem? hg) hold
    · exact hne rfl
  · exact fun p e s' _ _ hinv _ => hinv

/-- The hello that a label lookup accepts from a worker-sys is restricted. -/
theorem restricted_of_lookup {s s' : RegistryState} {gs : List RegistryPhase}
    (hstored : StoredLabels s gs) {labels : Labels} {ans : RegistryAnswer} {ownerID : String}
    (hne : trimSpace hello.nodeID ≠ "") (hfault : ∀ err, ans ≠ .store (some err))
    (hexec : s.exec lib.caseMap cfg (.labelsByNodeID hello.nodeID) ans = some (s', labels))
    (hv : s'.provisionedAs.lookup (trimSpace hello.nodeID) = some (ownerID, workerTypeSys))
    (hres : resolvedHello lib.caseMap hello labels = .ok hello') :
    hello'.Restricted lib.caseMap := by
  cases ans with
  | store fault =>
    cases fault with
    | some err => exact absurd rfl (hfault err)
    | none =>
      cases hexec
      obtain ⟨node, hnode, -, -, htype⟩ := hstored.rows _ _ hv
      apply resolvedHello_restricted _ hres
      unfold WorkerNodes.labelsByNodeID WorkerNodes.listWorkerLabelsByNode
      dsimp only
      rw [if_neg hne, hnode]
      exact htype
  | _ => nomatch hexec

/-- As long as label lookups succeed, the accepted hellos of a worker-sys are restricted. -/
theorem accepted_restricted
    (h : (registrySystem lib cfg).machine.ReachableWhere
      (fun p a => labelReadFails p a = false) p) :
    ∀ g ∈ phases lib.caseMap cfg p, ∀ hello, g.accepted = some hello → ∀ ownerID,
      p.shared.provisionedAs.lookup (trimSpace hello.nodeID) = some (ownerID, workerTypeSys) →
      hello.Restricted lib.caseMap := by
  apply ThreadSystem.ghost_invariant
    (I := fun s gs => ∀ g ∈ gs, ∀ hello, g.accepted = some hello → ∀ ownerID,
      s.provisionedAs.lookup (trimSpace hello.nodeID) = some (ownerID, workerTypeSys) →
      hello.Restricted lib.caseMap) (fun _ h => keepsProtocol h) _ _ _ _ h
  · exact fun s _ g hg => nomatch hg
  · refine fun p c _ _ hinv => List.forall_mem_concat hinv fun hello hhello => ?_
    rcases c with ⟨err | _ | hello', frames⟩ | nodeID | ⟨owner, type, now, ttl⟩ <;> nomatch hhello
  · intro p i ans g o s' r hreach hok hinv hg hnext hallowed hexec g' hg' hello hhello ownerID hv
    have hmem := List.mem_of_getElem? hg
    have hids := WorkerIds.of_reachable hreach
    -- The history of the worker is the one its call was accepted under.
    have hkept : ∀ g' ∈ phases lib.caseMap cfg p, g'.accepted = some hello →
        hello.Restricted lib.caseMap := by
      intro g' hg' hhello
      have hident := identity_of_accepted hhello
      exact hinv g' hg' hello hhello ownerID
        (StoredLabels.history_kept hallowed hexec hids hmem hg' hident hv)
    rcases List.mem_or_eq_of_mem_set hg' with hg' | rfl
    · exact hkept g' hg' hhello
    · rcases (moves_next hallowed).accepted hhello with hold |
        ⟨hello₀, labels, rfl, heq, hres⟩
      · exact hkept g hmem hold
      · cases heq
        rw [nodeID_of_resolvedHello hres] at hv
        refine restricted_of_lookup (StoredLabels.of_reachable hreach) ?_ ?_ hexec hv hres
        · exact fun hempty => identity_ne_empty hreach _ hmem (congrArg some hempty)
        · rintro err rfl
          unfold labelReadFails at hok
          dsimp only at hok
          rw [hnext] at hok
          nomatch hok
  · intro p e s' _ _ hinv henv g hg hello hhello ownerID hv
    rw [(occurs_rows henv).2.2.1] at hv
    exact hinv g hg hello hhello ownerID hv

/-! ## The result -/

/-- A worker keeps the owner and the type it was provisioned with in every run. In the
    runs whose label lookups succeed, a worker-sys is connected with capabilities of a
    worker-sys only. -/
theorem worker_type_enforced (lib : RegistryLib) (cfg : RegistryConfig) (p : RegistryPool) :
    ((registrySystem lib cfg).machine.Reachable p → ∀ n ownerID workerType,
      p.shared.provisionedAs.lookup n = some (ownerID, workerType) →
      ∃ node, p.shared.nodes.lookup n = some node ∧
        node.labels.lookup labelOwnerIDKey = some ownerID ∧
        node.labels.lookup labelWorkerTypeKey = some workerType) ∧
    ((registrySystem lib cfg).machine.ReachableWhere (fun p a => labelReadFails p a = false) p →
      ∀ k session ownerID, p.shared.service.sessions.lookup k = some session →
      p.shared.provisionedAs.lookup (trimSpace k) = some (ownerID, workerTypeSys) →
      ∃ c, p.shared.service.connections.lookup session.id = some c ∧
        ∀ name, (c.capabilities.lookup name).isSome → IsSysCapability lib.caseMap name) := by
  constructor
  · intro h n ownerID workerType hv
    obtain ⟨node, hnode, -, hname⟩ := (StoredLabels.of_reachable h).rows n _ hv
    exact ⟨node, hnode, hname⟩
  · intro h k session ownerID hk hv
    have hconn := Connections.of_reachable h
    obtain ⟨g, hg, c, hlive, rfl⟩ := hconn.sessions k session hk
    have hc := connection_of_live hlive
    have hopened := hconn.opened g hg c hc
    rw [← (hconn.service.sessions k _ hk).1, hopened.nodeID] at hv
    have hrestricted := accepted_restricted h g hg c.hello
      (accepted_of_connection hc) ownerID hv
    obtain ⟨connection, hconnection, hcont⟩ := hopened.session
    refine ⟨connection, hconnection, fun name hname => hrestricted name ?_⟩
    rw [hcont.declares name] at hname
    exact hname

/-- A worker-sys connects with the capabilities it may have. -/
theorem worker_type_enforced_connected :
    ∃ p, (registrySystem .sample ⟨.reject, 60, 5⟩).machine.ReachableWhere
        (fun p a => labelReadFails p a = false) p ∧
      p.shared.service.sessions.lookup "a" = some ⟨0, "a"⟩ ∧
      ∃ c, p.shared.service.connections.lookup 0 = some c ∧
        ∀ name, (c.capabilities.lookup name).isSome → IsSysCapability CaseMap.ascii name := by
  have hrun := Machine.reachableWhere_runWhere (fun p a => !labelReadFails p a)
    (fun _ _ h => Bool.eq_false_of_not_eq_true' h)
    ([.spawn (.connect (.ok (some
        { nodeID := "a", workerSecret := "key", capabilities := [some ⟨"readImage", 2⟩] })) 9)] ++
      connectToOpened 0 (fun _ => 0) ++ [.run 0 (.instant 0)])
    (RegistryPool.oneWorker_reachable .sample ⟨.reject, 60, 5⟩ "worker-sys") rfl
  exact ⟨_, hrun, rfl, (worker_type_enforced .sample ⟨.reject, 60, 5⟩ _).2 hrun "a" _ "alice" rfl rfl⟩

/-- A worker-sys whose labels cannot be read connects with whatever it declares. -/
theorem unread_labels_unrestricted :
    ∃ p, (registrySystem .sample ⟨.reject, 60, 5⟩).machine.Reachable p ∧
      ∃ session c, p.shared.service.sessions.lookup "a" = some session ∧
        p.shared.provisionedAs.lookup "a" = some ("alice", workerTypeSys) ∧
        p.shared.service.connections.lookup session.id = some c ∧
        (c.capabilities.lookup "terminalexec").isSome ∧
        ¬ IsSysCapability CaseMap.ascii "terminalexec" := by
  have hrun := Machine.reachable_run
    [.spawn (.connect (.ok (some (sampleHello "a"))) 9), .run 0 .none,
      .run 0 (.store (some "database is locked")), .run 0 (.now 0),
      .run 0 (.random (.ok fun _ => 0)), .run 0 .none, .run 0 (.proxy none), .run 0 (.instant 0)]
    (RegistryPool.oneWorker_reachable .sample ⟨.reject, 60, 5⟩ "worker-sys") rfl
  exact ⟨_, hrun, _, _, rfl, rfl, rfl, rfl, by unfold IsSysCapability; decide⟩

end Onlyboxes.Console
