import Onlyboxes.Spec.ReservationCounting

/-!
# A command is only repeated after a refusal

A dispatch that a worker refuses for capacity is repeated on another worker. Read off the
log of the call: no worker gets the command twice, there are no more attempts than
workers were listed, and between two attempts the worker refused the first one and the
release of its reservation removed the route, which no other call was using.

## Key results

- `refused_since`: what the log between two attempts contains
- `removed_unshared`: a release that removes a route was by its only user
- `capacity_retry_enqueues_once`: the result about runs
-/

namespace Onlyboxes.Console

open Text RouteState CallState

/-- The worker the event enqueued the command to. -/
def enqueuedTo : ServiceCallEvent → Option String
  | ⟨.enqueueCommand session _, .ok _, _⟩ => some session.nodeID
  | _ => none

/-- The workers the command was enqueued to, the last one first. -/
def enqueues (log : List ServiceCallEvent) : List String := log.filterMap enqueuedTo

/-- How many workers the event listed. -/
def listing : ServiceCallEvent → Option Nat
  | ⟨.listOnlineNodeIDs _ _, nodeIDs, _⟩ => some nodeIDs.length
  | _ => none

/-- How many workers the call listed first. -/
def firstListing (log : List ServiceCallEvent) : Option Nat := (log.filterMap listing).getLast?

/-- The worker answered `session_capacity_exceeded`. -/
def Refuses (lib : GoLib) : ServiceCallEvent → Prop
  | ⟨.await _ _, .outcome outcome, _⟩ =>
    outcome.err.any lib.isSessionCapacityCommandError = true
  | _ => False

/-- The worker refused the command, and then the release of reservation `id` removed the
    route. Newest events come first. -/
def RefusedAndRemoved (lib : GoLib) (id : Nat) (log : List ServiceCallEvent) : Prop :=
  ∃ later sessionID nodeID st earlier answer,
    log = later ++ ⟨.clearReservation sessionID nodeID id, .removed, st⟩ :: earlier ∧
      answer ∈ earlier ∧ Refuses lib answer

variable {lib : GoLib} {log : List ServiceCallEvent}

theorem RefusedAndRemoved.cons {id : Nat} (h : RefusedAndRemoved lib id log) (e : ServiceCallEvent) :
    RefusedAndRemoved lib id (e :: log) := by
  obtain ⟨later, sessionID, nodeID, st, earlier, answer, rfl, hanswer⟩ := h
  exact ⟨e :: later, sessionID, nodeID, st, earlier, answer, rfl, hanswer⟩

/-! ## The log and the state of a call -/

/-- The operations that sending a command and its answer consist of. -/
def ServiceOp.onSends : ServiceOp → Bool
  | .listOnlineNodeIDs _ _ | .enqueueCommand _ _ | .await _ _ | .clearReservation _ _ _ => true
  | _ => false

namespace CallState

/-- The same attempts with the same answers. -/
structure SameSends (g g' : CallState) : Prop where
  enqueued : g'.enqueued = g.enqueued
  listed : g'.listed = g.listed
  attempt : g'.attempt = g.attempt
  capacity : g'.capacity = g.capacity
  removed : g'.removed = g.removed

theorem SameSends.refl (g : CallState) : SameSends g g := ⟨rfl, rfl, rfl, rfl, rfl⟩

/-- And the same command is waited for. -/
structure SameAttempts (g g' : CallState) : Prop extends SameSends g g' where
  inflight : g'.inflight = g.inflight

theorem SameAttempts.refl (g : CallState) : SameAttempts g g := ⟨.refl g, rfl⟩

theorem SameAttempts.miss (g : CallState) : SameAttempts g g.miss := by
  unfold CallState.miss
  split
  · exact ⟨⟨rfl, rfl, rfl, rfl, rfl⟩, rfl⟩
  · exact .refl g

/-- Other operations leave the attempts, and what waits for an answer, alone. -/
theorem sameAttempts_next (lib : GoLib) (g : CallState) {o : ServiceOp} (ho : o.onSends = false)
    (r : o.Res) (st : List (String × Nat)) : SameAttempts g (g.next lib ⟨o, r, st⟩) := by
  cases o with
  | getSession nodeID =>
    cases r with
    | none => exact .miss g
    | some ref => exact .refl g
  | isReady session | hasCapability session capability =>
    cases r with
    | false => exact .miss g
    | true => exact .refl g
  | snapshot sessionID now =>
    cases r with
    | none => exact .refl g
    | some route =>
      show SameAttempts g (if g.kind = .dispatch then g else g.obtain route.nodeID 0 st)
      split
      · exact .refl g
      · exact ⟨⟨rfl, rfl, rfl, rfl, rfl⟩, rfl⟩
  | claim sessionID now =>
    cases r with
    | none => exact .refl g
    | some resolved => exact ⟨⟨rfl, rfl, rfl, rfl, rfl⟩, rfl⟩
  | commit sessionID nodeID id lease now =>
    cases r with
    | error err | ok done => exact ⟨⟨rfl, rfl, rfl, rfl, rfl⟩, rfl⟩
  | listOnlineNodeIDs | enqueueCommand | await | clearReservation => nomatch ho
  | _ => exact ⟨⟨rfl, rfl, rfl, rfl, rfl⟩, rfl⟩

end CallState

section

variable {lib : GoLib} {W : String → Prop}

theorem enqueues_cons (e : ServiceCallEvent) (log : List ServiceCallEvent) :
    enqueues (e :: log) = (enqueuedTo e).toList ++ enqueues log := by
  unfold enqueues
  rw [List.filterMap_cons]
  cases enqueuedTo e <;> rfl

theorem firstListing_cons (e : ServiceCallEvent) (log : List ServiceCallEvent) :
    firstListing (e :: log) = (firstListing log).or (listing e) := by
  unfold firstListing
  rw [List.filterMap_cons]
  cases listing e with
  | none => exact Option.or_none.symm
  | some n =>
    rw [List.getLast?_cons]
    cases (log.filterMap listing).getLast? <;> rfl

/-- The state remembers the workers of the log. -/
theorem next_enqueued (lib : GoLib) (g : CallState) (e : ServiceCallEvent) :
    (g.next lib e).enqueued = (enqueuedTo e).toList ++ g.enqueued := by
  obtain ⟨o, r, st⟩ := e
  by_cases ho : o.onSends = false
  · rw [(sameAttempts_next lib g ho r st).enqueued]
    cases o <;> first | rfl | nomatch ho
  · cases o with
    | enqueueCommand session commandID =>
      cases r with
      | error err | ok u => rfl
    | await session commandID => cases r <;> rfl
    | listOnlineNodeIDs | clearReservation => rfl
    | _ => exact absurd rfl ho

theorem after_enqueued (lib : GoLib) (W : String → Prop) (c : ServiceCall) (log : List ServiceCallEvent) :
    ((callProtocol lib W).after (c.start lib) log).enqueued = enqueues log := by
  induction log with
  | nil => cases c <;> rfl
  | cons e log ih =>
    have hnext := next_enqueued lib ((callProtocol lib W).after (c.start lib) log) e
    rw [ih] at hnext
    show (CallState.next lib _ e).enqueued = _
    rw [hnext, enqueues_cons]

theorem next_listed (lib : GoLib) (g : CallState) (e : ServiceCallEvent) :
    (g.next lib e).listed = g.listed.or (listing e) := by
  obtain ⟨o, r, st⟩ := e
  by_cases ho : o.onSends = false
  · rw [(sameAttempts_next lib g ho r st).listed]
    cases o <;> first | exact (Option.or_none).symm | nomatch ho
  · cases o with
    | listOnlineNodeIDs capability ownerID =>
      show some (g.listed.getD r.length) = g.listed.or (some r.length)
      cases g.listed <;> rfl
    | enqueueCommand session commandID | await session commandID =>
      cases r <;> exact (Option.or_none).symm
    | clearReservation => exact (Option.or_none).symm
    | _ => exact absurd rfl ho

/-- The state remembers the first listing of the log. -/
theorem after_listed (lib : GoLib) (W : String → Prop) (c : ServiceCall) (log : List ServiceCallEvent) :
    ((callProtocol lib W).after (c.start lib) log).listed = firstListing log := by
  induction log with
  | nil => cases c <;> rfl
  | cons e log ih =>
    have hnext := next_listed lib ((callProtocol lib W).after (c.start lib) log) e
    rw [ih] at hnext
    show (CallState.next lib _ e).listed = _
    rw [hnext, firstListing_cons]

/-- What the events since the last attempt say about its reservation and its answer. -/
structure Since (lib : GoLib) (id : Option Nat) (log : List ServiceCallEvent) (g : CallState) :
    Prop where
  attempt : g.attempt = id
  capacity : g.capacity = true → ∃ answer ∈ log, Refuses lib answer
  removed : g.removed = true → ∃ id', id = some id' ∧ RefusedAndRemoved lib id' log

theorem Since.other {id : Option Nat} {log : List ServiceCallEvent} {g g' : CallState}
    (h : Since lib id log g) (hsame : SameSends g g') (e : ServiceCallEvent) :
    Since lib id (e :: log) g' where
  attempt := hsame.attempt.trans h.attempt
  capacity := by
    intro hcapacity
    obtain ⟨answer, hmem, hrefuses⟩ := h.capacity (hsame.capacity ▸ hcapacity)
    exact ⟨answer, List.mem_cons_of_mem _ hmem, hrefuses⟩
  removed := by
    intro hremoved
    obtain ⟨id', hid, hlog⟩ := h.removed (hsame.removed ▸ hremoved)
    exact ⟨id', hid, hlog.cons e⟩

/-- The release of the attempt's reservation, after a refusal, is what `removed` records. -/
theorem Since.next {id : Option Nat} {log : List ServiceCallEvent} {g : CallState}
    (h : Since lib id log g) {e : ServiceCallEvent} (he : enqueuedTo e = none) :
    Since lib id (e :: log) (g.next lib e) := by
  obtain ⟨o, r, st⟩ := e
  by_cases ho : o.onSends = false
  · exact h.other (sameAttempts_next lib g ho r st).toSameSends _
  · cases o with
    | listOnlineNodeIDs capability ownerID =>
      exact ⟨h.attempt, (h.other (.refl g) _).capacity, (h.other (.refl g) _).removed⟩
    | enqueueCommand session commandID =>
      cases r with
      | error err => exact h.other (.refl g) _
      | ok u => nomatch he
    | await session commandID =>
      cases r with
      | outcome outcome =>
        refine ⟨h.attempt, fun hcapacity => ?_, (h.other (.refl g) _).removed⟩
        exact ⟨_, List.mem_cons_self, hcapacity⟩
      | contextDone err => exact h.other (.refl g) _
      | closed => exact ⟨h.attempt, (h.other (.refl g) _).capacity, (h.other (.refl g) _).removed⟩
    | clearReservation sessionID nodeID reservationID =>
      refine ⟨h.attempt, (h.other (.refl g) _).capacity, fun hremoved => ?_⟩
      have hflag : (g.removed || (g.capacity && r == .removed &&
          g.attempt == some reservationID)) = true := hremoved
      rcases Bool.or_eq_true_iff.mp hflag with hbefore | hnow
      · exact (h.other (.refl g) _).removed hbefore
      · rw [Bool.and_eq_true, Bool.and_eq_true, beq_iff_eq, beq_iff_eq] at hnow
        obtain ⟨⟨hcapacity, rfl⟩, hattempt⟩ := hnow
        obtain ⟨answer, hmem, hrefuses⟩ := h.capacity hcapacity
        exact ⟨reservationID, h.attempt.symm.trans hattempt, [], sessionID, nodeID, st, log, answer,
          rfl, hmem, hrefuses⟩
    | _ => exact absurd rfl ho

/-- Between two attempts, by induction over the events since the first one. -/
theorem refused_since (g : CallState) {once : ServiceCallEvent} (honce : (enqueuedTo once).isSome)
    {earlier : List ServiceCallEvent} {between : List ServiceCallEvent}
    (hbetween : enqueues between = []) :
    Since lib ((callProtocol lib W).after g earlier).heldID between
      ((callProtocol lib W).after g (between ++ once :: earlier)) := by
  induction between with
  | nil =>
    obtain ⟨o, r, st⟩ := once
    cases o with
    | enqueueCommand session commandID =>
      cases r with
      | error err => nomatch honce
      | ok u => exact ⟨rfl, nofun, nofun⟩
    | _ => nomatch honce
  | cons e between ih =>
    rw [enqueues, List.filterMap_cons] at hbetween
    cases he : enqueuedTo e with
    | none =>
      rw [he] at hbetween
      exact (ih hbetween).next he
    | some n =>
      rw [he] at hbetween
      nomatch hbetween

end

/-! ## Runs -/

/-- Workers connect under ids without surrounding white space. -/
def trimmedWorkers : ConsoleAction → Bool
  | .env (.connect nodeID _) => trimSpace nodeID = nodeID
  | _ => true

/-- Then every current connection has such an id. -/
theorem trimmed_of_reachable {p : ConsolePool}
    (h : (consoleSystem lib).machine.ReachableWhere (fun _ a => trimmedWorkers a = true) p) :
    ∀ n ref, p.shared.sessions.lookup n = some ref → trimSpace n = n := by
  have hconnections : ∀ id c, p.shared.connections.lookup id = some c →
      trimSpace c.nodeID = c.nodeID := by
    apply h.invariant (P := fun p => ∀ id c, p.shared.connections.lookup id = some c →
      trimSpace c.nodeID = c.nodeID)
    · intro p hinit id c hc
      obtain ⟨⟨routes, -, hshared⟩, -⟩ := hinit
      rw [hshared] at hc
      nomatch hc
    · intro p a p' _ ih hok hs id c' hc'
      rcases ThreadSystem.step_cases hs with ⟨_, rfl, rfl⟩ |
        ⟨i, ans, t, o, k, s', r, rfl, -, -, hexec, rfl⟩ | ⟨e, s', rfl, henv, rfl⟩
      · exact ih id c' hc'
      · obtain ⟨c, hc, hcont⟩ := (ServiceState.exec_aside hexec).1.known id c' hc'
        rw [hcont.nodeID]
        exact ih id c hc
      · rcases ServiceState.occurs_known henv hc' with ⟨c, hc, hcont⟩ | ⟨declared, rfl⟩
        · rw [hcont.nodeID]
          exact ih id c hc
        · exact of_decide_eq_true hok
  intro n ref href
  obtain ⟨-, c, hc, rfl⟩ := (ServiceState.Inv.of_reachable h).sessions n ref href
  exact hconnections ref.id c hc

/-- A release that removes the route was by its only user. -/
theorem removed_unshared {ok : ConsolePool → ConsoleAction → Prop} {p : ConsolePool}
    (h : (consoleSystem lib).machine.ReachableWhere ok p) {i : Nat} {t : ConsoleThread}
    {sessionID nodeID : String} {id : Nat} {k : ReleaseResult → Service Unit}
    (ht : p.threads[i]? = some t) (hprog : t.prog = .op (.clearReservation sessionID nodeID id) k)
    {ans : Answer} {s' : ServiceState}
    (hexec : p.shared.exec lib.caseMap (.clearReservation sessionID nodeID id) ans = some (s', .removed)) :
    ∃ r, p.shared.routes.state.route sessionID = some r ∧ r.reservationID = id ∧
      r.provisionalUses = 1 ∧ (p.shared.routes.opened.length < 2 ^ 64 → ∀ j t',
        p.threads[j]? = some t' → (callState lib t').heldID = some id → j = i) := by
  have hkeeps := calls_keep h t (List.mem_of_getElem? ht)
  have hmeets := hkeeps.2
  rw [hprog, Prog.meets_op] at hmeets
  have howns : (callState lib t).Owns sessionID nodeID id := hmeets.1.1
  obtain ⟨hsession, o, ho, -, hid, hheld⟩ := howns
  have hinv := (ServiceState.Inv.of_reachable h).routes
  cases ans with
  | none =>
    obtain ⟨-, hresult⟩ := ServiceState.exec_onRoutes hexec
    have htrim : trimSpace sessionID = sessionID := by
      rw [hsession]
      exact trimSpace_callState lib t
    obtain ⟨-, heq⟩ | ⟨r, hr, hne, -, hres, ⟨-, heq⟩ | ⟨huses, heq⟩⟩ :=
      clearReservation_cases p.shared.routes.state sessionID nodeID id
    · rw [heq] at hresult
      nomatch hresult
    · rw [heq] at hresult
      nomatch hresult
    · rw [htrim] at hr
      have hpos := ((hinv.wf.routes _ r hr).provisional (hres ▸ hne)).2.1
      refine ⟨r, hr, hres, by omega, fun hlen j t' ht' hheld' => ?_⟩
      -- Two holders would count twice.
      have hcounted := Counted.of_reachable h hlen
      have hcount := hcounted.uses _ r hr (hres ▸ hne)
      rw [hres] at hcount
      have hgi : (p.threads.map (callState lib))[i]? = some (callState lib t) := by
        rw [List.getElem?_map, ht]
        rfl
      have hgj : (p.threads.map (callState lib))[j]? = some (callState lib t') := by
        rw [List.getElem?_map, ht']
        rfl
      have hholdsi : (callState lib t).Holds sessionID id := by
        refine ⟨hsession.symm, ?_⟩
        unfold CallState.heldID
        rw [ho, hheld hne, hid]
        rfl
      have hholdsj : (callState lib t').Holds sessionID id :=
        ⟨hcounted.sessionID_eq hinv.ids hlen (List.mem_of_getElem? hgj) hr (hres ▸ hne)
          (by rw [hres]; exact hheld'), hheld'⟩
      by_contra hij
      have hset := Counted.countP_set (p := Holds sessionID id)
        { kind := .dispatch, sessionID := "" } hgi
      have hgone : ¬ ({ kind := .dispatch, sessionID := "" } : CallState).Holds sessionID id :=
        fun hholds => nomatch hholds.2
      rw [if_pos hholdsi, if_neg hgone] at hset
      have hzero : ((p.threads.map (callState lib)).set i
          { kind := .dispatch, sessionID := "" }).countP (fun g => g.Holds sessionID id) = 0 := by
        omega
      have hmem : callState lib t' ∈ (p.threads.map (callState lib)).set i
          { kind := .dispatch, sessionID := "" } := List.mem_set_of_ne hgj (Ne.symm hij)
      exact List.countP_eq_zero.mp hzero _ hmem (decide_eq_true hholdsj)
  | _ => nomatch hexec

/-- How a call may send its command: to distinct workers, to no more of them than were
    listed, and again only after a refusal. -/
structure SentOnce (lib : GoLib) (c : ServiceCall) (log : List ServiceCallEvent) : Prop where
  nodup : (enqueues log).Nodup
  bound : (enqueues log).length ≤ max 1 ((firstListing log).getD 0)
  refused : ∀ later again between once earlier,
    log = later ++ again :: (between ++ once :: earlier) → (enqueuedTo again).isSome →
    (enqueuedTo once).isSome → enqueues between = [] →
      ∃ id, ((callProtocol lib fun _ => True).after (c.start lib) earlier).heldID = some id ∧
        RefusedAndRemoved lib id between

theorem SentOnce.nil (lib : GoLib) (c : ServiceCall) : SentOnce lib c [] where
  nodup := List.nodup_nil
  bound := Nat.zero_le _
  refused := by
    intro later again between once earlier hlog
    have hlen := congrArg List.length hlog
    simp at hlen

/-- A later listing does not lower the bound. -/
theorem firstListing_le (e : ServiceCallEvent) (log : List ServiceCallEvent) :
    (firstListing log).getD 0 ≤ (firstListing (e :: log)).getD 0 := by
  rw [firstListing_cons]
  cases firstListing log with
  | none => exact Nat.zero_le _
  | some n => exact Nat.le_refl n

/-- One more event of a call that keeps to the protocol. -/
theorem SentOnce.cons {c : ServiceCall} (h : SentOnce lib c log) {e : ServiceCallEvent}
    (hallowed : ((callProtocol lib fun _ => True).after (c.start lib) log).Allowed (fun n => trimSpace n = n) e.op) :
    SentOnce lib c (e :: log) := by
  have hmono := firstListing_le e log
  cases he : enqueuedTo e with
  | none =>
    refine ⟨?_, ?_, fun later again between once earlier hlog hagain => ?_⟩
    · rw [enqueues_cons, he]
      exact h.nodup
    · rw [enqueues_cons, he]
      have hbound := h.bound
      show (enqueues log).length ≤ _
      omega
    · cases later with
      | nil =>
        rw [List.nil_append] at hlog
        rw [← (List.cons.inj hlog).1, he] at hagain
        nomatch hagain
      | cons _ later => exact h.refused later again between once earlier (List.cons.inj hlog).2 hagain
  | some n =>
    obtain ⟨o, r, st⟩ := e
    cases o with
    | enqueueCommand session commandID =>
      cases r with
      | error err => nomatch he
      | ok u =>
        obtain rfl : session.nodeID = n := Option.some.inj he
        obtain ⟨htrim, hfresh, hretried, hbudget, -⟩ := hallowed
        have henqueued := after_enqueued lib (fun _ => True) c log
        have hlisted := after_listed lib (fun _ => True) c log
        rw [henqueued] at hfresh hretried hbudget
        rw [hlisted] at hbudget
        refine ⟨?_, ?_, fun later again between once earlier hlog hagain honce hbetween => ?_⟩
        · rw [enqueues_cons, he]
          exact List.nodup_cons.mpr ⟨hfresh htrim, h.nodup⟩
        · rw [enqueues_cons, he]
          show (enqueues log).length + 1 ≤ _
          omega
        · cases later with
          | nil =>
            obtain ⟨-, hrest⟩ := List.cons.inj hlog
            -- The log has an attempt, so the state records its refusal and release.
            have hne : enqueues log ≠ [] := by
              rw [hrest]
              unfold enqueues
              rw [List.filterMap_append, List.filterMap_cons]
              obtain ⟨n, hn⟩ := Option.isSome_iff_exists.mp honce
              rw [hn]
              exact List.append_ne_nil_of_right_ne_nil _ (List.cons_ne_nil _ _)
            have hremoved := (hretried hne).2
            rw [hrest] at hremoved
            exact (refused_since _ honce hbetween).removed hremoved
          | cons _ later =>
            exact h.refused later again between once earlier (List.cons.inj hlog).2 hagain honce
              hbetween
    | _ => nomatch he

theorem SentOnce.of_kept (c : ServiceCall)
    (h : (callProtocol lib fun n => trimSpace n = n).Kept (c.start lib) log) :
    SentOnce lib c log := by
  induction log with
  | nil => exact .nil lib c
  | cons e log ih =>
    have hallowed := h.2.1
    rw [after_among lib _ fun _ => True] at hallowed
    exact (ih h.1).cons hallowed

/-- In every run with workers whose ids have no surrounding white space, every call
    enqueues its command to a worker at most once, to at most as many workers as it
    listed first, and again only after the last worker refused it for capacity and the
    release of the reservation it was sent under removed the route; and such a release
    is by the only user of the route. -/
theorem capacity_retry_enqueues_once (lib : GoLib) (p : ConsolePool)
    (h : (consoleSystem lib).machine.ReachableWhere (fun _ a => trimmedWorkers a = true) p) :
    (∀ t ∈ p.threads,
      (enqueues t.log).Nodup ∧ (enqueues t.log).length ≤ max 1 ((firstListing t.log).getD 0) ∧
      ∀ later again between once earlier,
        t.log = later ++ again :: (between ++ once :: earlier) → (enqueuedTo again).isSome →
        (enqueuedTo once).isSome → enqueues between = [] →
          ∃ id, (callState lib { t with log := earlier }).heldID = some id ∧
            RefusedAndRemoved lib id between) ∧
    ∀ (i : Nat) (t : ConsoleThread) sessionID nodeID id k ans s', p.threads[i]? = some t →
      t.prog = .op (.clearReservation sessionID nodeID id) k →
      p.shared.exec lib.caseMap (.clearReservation sessionID nodeID id) ans = some (s', .removed) →
        ∃ r, p.shared.routes.state.route sessionID = some r ∧ r.reservationID = id ∧
          r.provisionalUses = 1 ∧ (p.shared.routes.opened.length < 2 ^ 64 → ∀ (j : Nat) t',
            p.threads[j]? = some t' → (callState lib t').heldID = some id → j = i) := by
  refine ⟨fun t ht => ?_, fun i t sessionID nodeID id k ans s' ht hprog hexec =>
    removed_unshared h ht hprog hexec⟩
  have hkeeps := calls_keep_among (fun _ => trimmed_of_reachable) h t ht
  have hsent := SentOnce.of_kept t.call hkeeps.1
  exact ⟨hsent.nodup, hsent.bound, hsent.refused⟩

/-- Two workers, the first of which refuses the command, up to the second attempt. -/
def refusedThenRetried : List ConsoleAction :=
  [.env (.connect "n" [some ⟨"terminalexec", 4⟩]), .env (.recoveryComplete ⟨0, "n"⟩),
    .env (.publish ⟨0, "n"⟩), .env (.connect "m" [some ⟨"terminalexec", 4⟩]),
    .env (.recoveryComplete ⟨1, "m"⟩), .env (.publish ⟨1, "m"⟩),
    .spawn (.task "terminalexec" "-s" "o" .unknown)] ++
  PoolAction.runs 0 [.nodes ["n", "m"], .context none, .now 1, .none, .store none, .store none, .none,
    .nodes ["n", "m"], .none, .none, .none, .none, .none, .capacity {}, .none, .none, .none, .none,
    .capacity {}, .none, .none, .commandID (.ok "c"), .none, .enqueued (.ok ()), .dispatched (.ok ()),
    .awaited (.outcome { err := some (.execution ⟨"session_capacity_exceeded", ""⟩) }),
    .none, .none, .none, .context none, .now 2, .none, .store none, .none, .nodes ["n", "m"], .none,
    .none, .none, .none, .none, .capacity {}, .none, .none, .commandID (.ok "d"), .none,
    .enqueued (.ok ())]

/-- The second worker gets the command after the first one refused it. -/
theorem capacity_retry_enqueues_once_twice :
    ∃ p, (consoleSystem .sample).machine.ReachableWhere (fun _ a => trimmedWorkers a = true) p ∧
      ∃ t ∈ p.threads, enqueues t.log = ["m", "n"] ∧ firstListing t.log = some 2 ∧
        (enqueues t.log).Nodup := by
  have hrun := Machine.reachableWhere_runWhere (fun _ a => trimmedWorkers a)
    (fun _ _ h => h) refusedThenRetried (ConsolePool.fresh_reachable .sample) rfl
  refine ⟨_, hrun, _, List.mem_singleton_self _, rfl, rfl, ?_⟩
  exact ((capacity_retry_enqueues_once .sample _ hrun).1 _ (List.mem_singleton_self _)).1

end Onlyboxes.Console
