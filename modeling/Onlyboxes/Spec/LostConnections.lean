import Onlyboxes.Console.ResultDelivery
import Onlyboxes.Spec.CapacityRetry
import Onlyboxes.Spec.ReservationCounting

/-!
# Calls whose connection is closed

When a connection is closed, every call that waits for a result on it gets the error it
was closed with. The call treats it as an error of the worker that does not prove that
the session was not created, and confirms its reservation. That comes to nothing if the
route with the reservation is gone by then, which is what `removeSession` sees to before
it closes. A connection that is replaced, or expires, is closed without it.

## Key results

- `Gone.step`: a reservation that no route carries is never carried again
- `Failed.step`: a call that got the error of a closed connection does not succeed
- `closed_connection_confirms_nothing`: the result about runs
-/

namespace Onlyboxes.Console

open Text RouteState

/-! ## Reservations that no route carries -/

/-- The route is reserved under the id, or was confirmed from it. -/
def TerminalSessionRoute.Carries (r : TerminalSessionRoute) (id : Nat) : Prop :=
  r.reservationID = id ∨ r.confirmedReservationID = id

instance (r : TerminalSessionRoute) (id : Nat) : Decidable (r.Carries id) := by
  unfold TerminalSessionRoute.Carries
  infer_instance

/-- The id was issued, and no route carries it. -/
structure Gone (log : RouteLog) (id : Nat) : Prop where
  issued : ∃ k, (k, id) ∈ log.opened
  free : ∀ k r, log.state.route k = some r → ¬ r.Carries id

namespace Gone

variable {log log' : RouteLog} {id : Nat} {g g' : CallState}

theorem ne_zero (h : Gone log id) (hids : log.IdsOK) (hlen : log.opened.length < 2 ^ 64) :
    id ≠ 0 := by
  obtain ⟨k, hk⟩ := h.issued
  have hpos := ((hids.fresh hlen).2.2 _ hk).1
  dsimp only at hpos
  omega

/-- Routes whose later states are the only ones that are there. -/
theorem later {s' : RouteState} (h : Gone log id) (hzero : id ≠ 0)
    (hsame : ∀ k r', s'.route k = some r' → ∃ r, log.state.route k = some r ∧ SameIncarnation r r') :
    Gone { log with state := s' } id := by
  refine ⟨h.issued, fun k r' hr' hcarries => ?_⟩
  obtain ⟨r, hr, -, hres, hconf⟩ := hsame k r' hr'
  refine h.free k r hr ?_
  unfold TerminalSessionRoute.Carries at hcarries ⊢
  omega

/-- A route that changes in place. -/
theorem put {s : RouteState} (h : Gone log id) (hzero : id ≠ 0) (hs : s.route = log.state.route)
    {k : String} {r r' : TerminalSessionRoute} (hr : log.state.route k = some r)
    (hsame : SameIncarnation r r') : Gone { log with state := s.putRoute k r' } id := by
  refine h.later hzero fun k' r₁ hr₁ => ?_
  rw [route_putRoute, hs] at hr₁
  split at hr₁
  · rename_i hk
    cases hr₁
    exact ⟨r, hk ▸ hr, hsame⟩
  · exact ⟨r₁, hr₁, .rfl r₁⟩

/-- A route that is deleted. -/
theorem delete {s : RouteState} (h : Gone log id) (hzero : id ≠ 0) (hs : s.route = log.state.route)
    (k : String) (r : TerminalSessionRoute) :
    Gone { log with state := s.deleteTerminalSessionRouteLocked k r } id := by
  refine h.later hzero fun k' r₁ hr₁ => ?_
  rw [route_delete, hs] at hr₁
  split at hr₁
  · nomatch hr₁
  · exact ⟨r₁, hr₁, .rfl r₁⟩

/-- No move of a call brings a reservation back. -/
theorem moves (h : Gone log id) (hids : log.IdsOK) (hlen : log'.opened.length < 2 ^ 64)
    (hmove : Moves log g log' g') : Gone log' id := by
  have hlen' : log.opened.length < 2 ^ 64 := by
    cases hmove with
    | opened =>
      simp only [List.length_cons] at hlen
      omega
    | _ => exact hlen
  have hzero := h.ne_zero hids hlen'
  cases hmove with
  | quiet hq => exact h.later hzero fun k r' hr' => hq.updates.sameIncarnation hr'
  | view | vain => exact h
  | @join r now hkind hfree hr | release ho hr =>
    exact h.put hzero rfl hr ⟨rfl, .inr rfl, .inr (.inr rfl)⟩
  | @opened n newID now hkind hfree hn hnone hid =>
    -- The new id is greater than all issued before.
    obtain ⟨hseq, -, hrange⟩ := hids.fresh hlen'
    simp only [List.length_cons] at hlen
    have hnext : newID = log.opened.length + 1 := by
      rw [hid, nextReservationSeq, hseq, Nat.mod_eq_of_lt hlen]
      rfl
    obtain ⟨k, hk⟩ := h.issued
    have hle := (hrange _ hk).2
    refine ⟨⟨k, List.mem_cons_of_mem _ hk⟩, fun k' r hr hcarries => ?_⟩
    dsimp only at hr hle
    rw [route_openRoute] at hr
    split at hr
    · cases hr
      rcases hcarries with hres | hconf
      · have hres : newID = id := hid.trans hres
        omega
      · exact hzero hconf.symm
    · exact h.free k' r hr hcarries
  | @confirm o r now ho hr hnode hown =>
    refine h.put hzero rfl hr ?_
    unfold confirmed
    split
    · refine ⟨rfl, .inl rfl, ?_⟩
      dsimp only
      omega
    · exact ⟨rfl, .inr rfl, .inr (.inr rfl)⟩
  | @commit o r rows lease now ho hr hnode hown =>
    refine h.put (s := { log.state with rows := rows }) hzero rfl hr ⟨rfl, .inl rfl, ?_⟩
    unfold committed
    dsimp only
    split <;> omega
  | remove ho hr => exact h.delete hzero rfl _ _
  | clear rows ho hwhy hr =>
    exact h.delete (s := { log.state with rows := rows }) hzero rfl _ _

end Gone

variable {lib : GoLib} {p p' : ConsolePool} {a : ConsoleAction}

/-- What a step of the console does to the routes. -/
theorem ConsolePool.moves_of_step {ok : ConsolePool → ConsoleAction → Prop}
    (h : (consoleSystem lib).machine.ReachableWhere ok p)
    (hs : (consoleSystem lib).machine.step p a = some p') :
    ∃ g g', Moves p.shared.routes g p'.shared.routes g' := by
  have hinv := ServiceState.Inv.of_reachable h
  have hidle : Moves p.shared.routes { kind := .dispatch, sessionID := "" } p.shared.routes
      { kind := .dispatch, sessionID := "" } := .quiet .refl
  rcases ThreadSystem.step_cases hs with ⟨c, rfl, rfl⟩ |
    ⟨i, ans, t, o, k, s', r, rfl, ht, hprog, hexec, rfl⟩ | ⟨e, s', rfl, henv, rfl⟩
  · exact ⟨_, _, hidle⟩
  · obtain ⟨g', hmoves, -⟩ := ServiceState.moves_of_exec hinv (trimSpace_callState lib t)
      (allowed_of_prog h ht hprog) hexec
    exact ⟨_, g', hmoves⟩
  · obtain ⟨t, hq, heq⟩ := ServiceState.quiets_of_occurs henv
    refine ⟨{ kind := .dispatch, sessionID := "" }, { kind := .dispatch, sessionID := "" }, ?_⟩
    dsimp only
    rw [heq]
    exact .quiet hq

/-- A reservation that no route carries is never carried again. -/
theorem Gone.step {ok : ConsolePool → ConsoleAction → Prop} {id : Nat}
    (hgone : Gone p.shared.routes id) (h : (consoleSystem lib).machine.ReachableWhere ok p)
    (hs : (consoleSystem lib).machine.step p a = some p')
    (hlen : p'.shared.routes.opened.length < 2 ^ 64) : Gone p'.shared.routes id := by
  obtain ⟨g, g', hmove⟩ := ConsolePool.moves_of_step h hs
  exact hgone.moves (ServiceState.Inv.of_reachable h).routes.ids hlen hmove

/-! ## Calls that have failed -/

/-- The event is a result without an error. -/
def Succeeds : ServiceCallEvent → Prop
  | ⟨.await _ _, .outcome outcome, _⟩ => outcome.err = none
  | _ => False

/-- The operations that send a command or take its answer. -/
def ServiceOp.onWait : ServiceOp → Bool
  | .enqueueCommand _ _ | .await _ _ => true
  | _ => false

variable {commandID : String} {o : ServiceOp} {session : SessionRef} {r : o.Res}
  {st : List (String × Nat)}

namespace CallState

variable {lib : GoLib} {W : String → Prop} {g : CallState}

/-- The call has sent a command, and the last answer it got does not let it send another. -/
structure Sent (g : CallState) : Prop where
  enqueued : g.enqueued ≠ []
  capacity : g.capacity = false

/-- The call is not waiting for an answer any more. -/
structure Over (g : CallState) : Prop extends Sent g where
  idle : g.inflight = none

/-- What was sent, what is in flight and the last answer are the same. -/
structure SameWait (g g' : CallState) : Prop where
  enqueued : g'.enqueued = g.enqueued
  capacity : g'.capacity = g.capacity
  inflight : g'.inflight = g.inflight

theorem SameWait.sent {g' : CallState} (h : SameWait g g') (hsent : Sent g) : Sent g' :=
  ⟨by rw [h.enqueued]; exact hsent.enqueued, by rw [h.capacity]; exact hsent.capacity⟩

/-- Other operations change nothing about it. -/
theorem sameWait_next (lib : GoLib) (g : CallState) (ho : o.onWait = false) (r : o.Res)
    (st : List (String × Nat)) : SameWait g (g.next lib ⟨o, r, st⟩) := by
  by_cases hsends : o.onSends = false
  · have hsame := sameAttempts_next lib g hsends r st
    exact ⟨hsame.enqueued, hsame.capacity, hsame.inflight⟩
  · cases o with
    | listOnlineNodeIDs | clearReservation => exact ⟨rfl, rfl, rfl⟩
    | enqueueCommand | await => nomatch ho
    | _ => exact absurd rfl hsends

/-- A call that has sent its command does not send it again before it is refused. -/
theorem Sent.not_allowed (h : Sent g) :
    ¬ g.Allowed W (.enqueueCommand session commandID) := by
  intro hallowed
  have hretried := (hallowed.2.2.1 h.enqueued).1
  rw [h.capacity] at hretried
  nomatch hretried

/-- A call that waits for an answer has sent its command; one that has succeeded is done
    with sending. -/
structure Waits (log : List ServiceCallEvent) (g : CallState) : Prop where
  waiting : g.inflight ≠ none → Sent g
  succeeded : (∃ e ∈ log, Succeeds e) → Over g

theorem Waits.next {log : List ServiceCallEvent} (h : Waits log g) (hallowed : g.Allowed W o) :
    Waits (⟨o, r, st⟩ :: log) (g.next lib ⟨o, r, st⟩) := by
  -- An event that is no success leaves the history as it was.
  have hold : ¬ Succeeds ⟨o, r, st⟩ →
      (∃ e ∈ (⟨o, r, st⟩ :: log : List ServiceCallEvent), Succeeds e) → Over g := by
    rintro hnot ⟨e, he, hsucceeds⟩
    rcases List.mem_cons.mp he with rfl | he
    · exact absurd hsucceeds hnot
    · exact h.succeeded ⟨e, he, hsucceeds⟩
  cases ho : o.onWait with
  | false =>
    have hsame := sameWait_next lib g ho r st
    have hnot : ¬ Succeeds ⟨o, r, st⟩ := by
      intro hsucceeds
      cases o with
      | await => nomatch ho
      | _ => exact hsucceeds
    refine ⟨fun hinflight => hsame.sent (h.waiting ?_), fun hs => ?_⟩
    · rw [← hsame.inflight]
      exact hinflight
    · exact ⟨hsame.sent (hold hnot hs).toSent, hsame.inflight.trans (hold hnot hs).idle⟩
  | true =>
    cases o with
    | enqueueCommand session commandID =>
      cases r with
      | error err => exact ⟨h.waiting, hold id⟩
      | ok u =>
        exact ⟨fun _ => ⟨List.cons_ne_nil _ _, rfl⟩, fun hs =>
          absurd hallowed (hold id hs).not_allowed⟩
    | await session commandID =>
      have hinflight : g.inflight ≠ none := by
        have hsome : g.inflight = some session.nodeID := hallowed
        rw [hsome]
        exact nofun
      have hsent := h.waiting hinflight
      have hnone : ¬ Over g := fun hover => hinflight hover.idle
      cases r with
      | contextDone err => exact ⟨h.waiting, fun hs => absurd (hold id hs) hnone⟩
      | closed => exact ⟨fun hnew => absurd rfl hnew, fun hs => absurd (hold id hs) hnone⟩
      | outcome outcome =>
        refine ⟨fun hnew => absurd rfl hnew, fun hs => ⟨⟨hsent.enqueued, ?_⟩, rfl⟩⟩
        by_cases herr : outcome.err = none
        · show outcome.err.any _ = false
          rw [herr]
          rfl
        · exact absurd (hold herr hs) hnone
    | _ => nomatch ho

theorem Waits.of_kept (c : ServiceCall) {log : List ServiceCallEvent}
    (h : (callProtocol lib W).Kept (c.start lib) log) :
    Waits log ((callProtocol lib W).after (c.start lib) log) := by
  induction log with
  | nil =>
    refine ⟨fun hinflight => absurd ?_ hinflight, fun ⟨e, he, _⟩ => nomatch he⟩
    cases c <;> rfl
  | cons e log ih => exact (ih h.1).next h.2.1

end CallState

/-! ## Steps of the delivery -/

/-- The error of a closed connection was sent on the channel. -/
structure ResultChannel.Errs (ch : ResultChannel) : Prop where
  closed : ch.closeOnce = true
  sent : ∃ outcome message, ch.sent = [outcome] ∧ outcome.err = some (.closed message)

namespace DeliveryState

variable {lib : GoLib} {s s' : DeliveryState} {i : Nat}

theorem channel_insert {j : Nat} {ch : ResultChannel} (h : s'.channels = s.channels.insert j ch)
    (i : Nat) : s'.channel i = if i = j then ch else s.channel i := by
  unfold channel
  rw [h, AList.lookup_insert_ite]
  split <;> rfl

/-- Nothing is sent on a closed channel. -/
theorem errs_deliver (h : (s.channel i).Errs) (connection : Nat) (commandID : String)
    (outcome : Option CommandOutcome) : ((s.deliver connection commandID outcome).channel i).Errs := by
  unfold deliver
  split
  · exact h
  · rw [channel_insert rfl]
    split
    · rename_i hij
      subst hij
      unfold ResultChannel.closeResult
      rw [if_pos h.closed]
      exact h
    · exact h

variable {connection : Nat}

/-- The error of a closed connection goes to the call that registered the command. -/
theorem errs_deliver_owner {message : String}
    (howner : s.owners.lookup (connection, commandID) = some i) (hopen : s.channel i = {}) :
    ((s.deliver connection commandID (some { err := some (.closed message) })).channel i).Errs := by
  unfold deliver
  rw [howner]
  dsimp only
  rw [channel_insert rfl, if_pos rfl, hopen]
  exact ⟨rfl, _, message, rfl, rfl⟩

/-- Other calls are not concerned. -/
theorem channel_deliver_of_ne (howner : s.owners.lookup (connection, commandID) ≠ some i)
    (outcome : Option CommandOutcome) :
    (s.deliver connection commandID outcome).channel i = s.channel i := by
  unfold deliver
  split
  · rfl
  · rename_i j hj
    rw [channel_insert rfl, if_neg]
    rintro rfl
    exact howner hj

/-- A loop that sends the error for every pending command. -/
theorem errs_deliverAll {message : String}
    (howner : s.owners.lookup (connection, commandID) = some i) {commandIDs : List String}
    (h : s.channel i = {} ∧ commandID ∈ commandIDs ∨ (s.channel i).Errs) :
    ((commandIDs.foldl (fun s commandID => s.deliver connection commandID
      (some { err := some (.closed message) })) s).channel i).Errs := by
  induction commandIDs generalizing s with
  | nil =>
    rcases h with ⟨-, hmem⟩ | herrs
    · nomatch hmem
    · exact herrs
  | cons k commandIDs ih =>
    rw [List.foldl_cons]
    refine ih (by unfold deliver; split <;> exact howner) ?_
    rcases h with ⟨hopen, hmem⟩ | herrs
    · -- The channel is open until the loop comes to the first command of the call.
      by_cases hk : s.owners.lookup (connection, k) = some i
      · exact .inr (errs_deliver_owner hk hopen)
      · left
        refine ⟨(channel_deliver_of_ne hk _).trans hopen, ?_⟩
        rcases List.mem_cons.mp hmem with rfl | hmem
        · exact absurd howner hk
        · exact hmem
    · exact .inr (errs_deliver herrs _ _ _)

/-- Only the call itself gets a new channel. -/
theorem errs_observes (h : (s.channel i).Errs) (j : Nat)
    (hj : ∀ session commandID capability,
      s.pool.nextOp j = some (.registerPending session commandID capability) → i ≠ j) :
    ((s.observes lib j).channel i).Errs := by
  unfold observes
  split
  · rename_i session commandID capability hnext
    split
    · exact h
    · split
      · exact h
      · rw [channel_insert rfl, if_neg (hj session commandID capability hnext)]
        exact h
  · split
    · exact errs_deliver h _ _ _
    · exact h
  · exact h

/-- Resolving commands leaves the calls alone. -/
theorem threads_of_run {p p' : ConsolePool} {as : List ConsoleAction}
    (has : ∀ a ∈ as, ∃ e, a = .env e) (h : (consoleSystem lib).machine.run p as = some p') :
    p'.threads = p.threads := by
  induction as generalizing p with
  | nil =>
    cases h
    rfl
  | cons a as ih =>
    unfold Machine.run at h
    split at h
    · nomatch h
    · rename_i p₁ hs
      rw [ih (fun a ha => has a (List.mem_cons_of_mem _ ha)) h]
      obtain ⟨e, rfl⟩ := has a List.mem_cons_self
      rcases ThreadSystem.step_cases hs with ⟨_, heq, -⟩ | ⟨_, _, _, _, _, _, _, heq, -⟩ |
        ⟨_, _, -, -, rfl⟩
      · nomatch heq
      · nomatch heq
      · rfl

/-- What a step does: a call performs an operation and finds its channel as it is, or the
    calls stay where they are and channels are closed. -/
inductive Steps (lib : GoLib) (s : DeliveryState) : DeliveryState → Prop
  | run (j : Nat) (ans : Answer) (p : ConsolePool) (hanswers : s.answers j ans = true)
      (hs : (consoleSystem lib).machine.step s.pool (.run j ans) = some p) :
      Steps lib s { s.observes lib j with pool := p }
  | spawn (call : ServiceCall) (p : ConsolePool)
      (hs : (consoleSystem lib).machine.step s.pool (.spawn call) = some p) :
      Steps lib s { s with pool := p }
  | events (as : List ConsoleAction) (has : ∀ a ∈ as, ∃ e, a = .env e) (p : ConsolePool)
      (hrun : (consoleSystem lib).machine.run s.pool as = some p)
      (deliveries : List (Nat × String × CommandOutcome)) :
      Steps lib s { deliveries.foldl (fun s d => s.deliver d.1 d.2.1 (some d.2.2)) s with pool := p }

/-- The console goes on as it may. -/
theorem Steps.leadsTo (h : Steps lib s s') :
    (consoleSystem lib).machine.LeadsTo (fun _ _ => True) s.pool s'.pool := by
  cases h with
  | run j ans p hanswers hs | spawn call p hs => exact Machine.LeadsTo.single _ trivial hs
  | events as has p hrun deliveries => exact Machine.leadsTo_run (fun _ _ => trivial) as hrun

end DeliveryState

/-- Steps of the console only open routes. -/
theorem ConsolePool.opened_le (h : (consoleSystem lib).machine.Reachable p)
    (hs : (consoleSystem lib).machine.step p a = some p') :
    p.shared.routes.opened.length ≤ p'.shared.routes.opened.length := by
  obtain ⟨g, g', hmove⟩ := ConsolePool.moves_of_step h hs
  generalize p'.shared.routes = log' at hmove
  cases hmove <;> simp

/-- A reservation that no route carries is never carried again. -/
theorem Gone.leadsTo {id : Nat}
    (hgone : p.shared.routes.opened.length < 2 ^ 64 → Gone p.shared.routes id)
    (h : (consoleSystem lib).machine.Reachable p)
    (hrun : (consoleSystem lib).machine.LeadsTo (fun _ _ => True) p p') :
    p'.shared.routes.opened.length < 2 ^ 64 → Gone p'.shared.routes id := by
  refine Machine.LeadsTo.invariant
    (P := fun p' => p'.shared.routes.opened.length < 2 ^ 64 → Gone p'.shared.routes id) h hgone ?_ hrun
  intro p₁ a p₂ hreach ih _ hs hlen
  have hle := ConsolePool.opened_le hreach hs
  exact (ih (by omega)).step hreach hs hlen

/-! ## Calls that got the error of a closed connection -/

/-- The call has sent its command and not succeeded, and what it waits for is the error of
    a closed connection. -/
structure Failed (lib : GoLib) (s : DeliveryState) (i : Nat) (t : ConsoleThread) : Prop where
  thread : s.pool.threads[i]? = some t
  unsuccessful : ¬ ∃ e ∈ t.log, Succeeds e
  sent : (callState lib t).Sent
  waiting : (callState lib t).inflight ≠ none → (s.channel i).Errs

namespace Failed

variable {lib : GoLib} {s s' : DeliveryState} {i : Nat} {t : ConsoleThread}

/-- The operation of the call itself. -/
theorem run (h : Failed lib s i t) (hreach : (consoleSystem lib).machine.Reachable s.pool)
    {ans : Answer} {k : o.Res → Service Unit} {shared : ServiceState} (hprog : t.prog = .op o k)
    (hanswers : s.answers i ans = true)
    (hexec : s.pool.shared.exec lib.caseMap o ans = some (shared, r)) :
    (¬ ∃ e ∈ (⟨o, r, st⟩ :: t.log : List ServiceCallEvent), Succeeds e) ∧
      ((callState lib t).next lib ⟨o, r, st⟩).Sent ∧
      (((callState lib t).next lib ⟨o, r, st⟩).inflight ≠ none →
        ((s.observes lib i).channel i).Errs) := by
  have hallowed := allowed_of_prog hreach h.thread hprog
  have hnext : s.pool.nextOp i = some o := by
    unfold Pool.nextOp
    simp only [h.thread, hprog]
  have hcons : ¬ Succeeds ⟨o, r, st⟩ →
      ¬ ∃ e ∈ (⟨o, r, st⟩ :: t.log : List ServiceCallEvent), Succeeds e := by
    rintro hnot ⟨e, he, hsucceeds⟩
    rcases List.mem_cons.mp he with rfl | he
    · exact hnot hsucceeds
    · exact h.unsuccessful ⟨e, he, hsucceeds⟩
  cases ho : o.onWait with
  | false =>
    have hsame := CallState.sameWait_next lib (callState lib t) ho r st
    refine ⟨hcons ?_, hsame.sent h.sent, fun hinflight => ?_⟩
    · intro hsucceeds
      cases o with
      | await => nomatch ho
      | _ => exact hsucceeds
    · rw [hsame.inflight] at hinflight
      refine DeliveryState.errs_observes (h.waiting hinflight) i ?_
      -- A call that waits for an answer does not register another command.
      intro session commandID capability hregister
      rw [hnext] at hregister
      cases hregister
      exact absurd hallowed hinflight
  | true =>
    cases o with
    | enqueueCommand session commandID => exact absurd hallowed h.sent.not_allowed
    | await session commandID =>
      have hinflight : (callState lib t).inflight ≠ none := by
        have hsome : (callState lib t).inflight = some session.nodeID := hallowed
        rw [hsome]
        exact nofun
      obtain ⟨hclosed, outcome, message, hsent, herr⟩ := h.waiting hinflight
      cases ans with
      | awaited result =>
        obtain rfl : result = r := (Prod.mk.inj (Option.some.inj hexec)).2
        unfold DeliveryState.answers at hanswers
        rw [hnext] at hanswers
        cases result with
        | contextDone err =>
          refine ⟨hcons id, h.sent, fun _ => ?_⟩
          refine DeliveryState.errs_observes (h.waiting hinflight) i ?_
          intro session commandID capability hregister
          nomatch hnext.symm.trans hregister
        | closed =>
          rw [hsent] at hanswers
          nomatch hanswers
        | outcome received =>
          have heq := of_decide_eq_true hanswers
          rw [hsent] at heq
          obtain rfl : outcome = received := (List.cons.inj heq).1
          refine ⟨hcons ?_, ⟨h.sent.enqueued, ?_⟩, fun hnew => absurd rfl hnew⟩
          · intro hsucceeds
            nomatch herr.symm.trans hsucceeds
          · show outcome.err.any _ = false
            rw [herr]
            rfl
      | _ => nomatch hexec
    | _ => nomatch ho

/-- A call that got the error of a closed connection does not succeed. -/
theorem step (h : Failed lib s i t) (hreach : (consoleSystem lib).machine.Reachable s.pool)
    (hs : DeliveryState.Steps lib s s') : ∃ t', Failed lib s' i t' := by
  cases hs with
  | run j ans p hanswers hs =>
    rcases ThreadSystem.step_cases hs with ⟨_, heq, -⟩ |
      ⟨j', ans', t₀, o, k, shared, r, heq, ht₀, hprog, hexec, rfl⟩ | ⟨_, _, heq, -⟩
    · nomatch heq
    · obtain ⟨rfl, rfl⟩ := PoolAction.run.inj heq
      rcases List.getElem?_set_or ⟨t₀.call, ⟨o, r, _⟩ :: t₀.log, k r⟩ ht₀ h.thread with
        ⟨rfl, rfl, ht⟩ | ⟨hij, ht⟩
      · obtain ⟨hlog, hsent, hwaiting⟩ := h.run hreach hprog hanswers hexec
        exact ⟨_, ht, hlog, hsent, hwaiting⟩
      · refine ⟨t, ht, h.unsuccessful, h.sent, fun hinflight => ?_⟩
        exact DeliveryState.errs_observes (h.waiting hinflight) j fun _ _ _ _ heq => hij heq.symm
    · nomatch heq
  | spawn call p hs =>
    cases hs
    exact ⟨t, List.getElem?_concat_of_some h.thread, h.unsuccessful, h.sent, h.waiting⟩
  | events as has p hrun deliveries =>
    refine ⟨t, ?_, h.unsuccessful, h.sent, fun hinflight => ?_⟩
    · dsimp only
      rw [DeliveryState.threads_of_run has hrun]
      exact h.thread
    · exact List.foldl_invariant (P := fun s : DeliveryState => (s.channel i).Errs) deliveries
        (h.waiting hinflight) fun s d _ hs => DeliveryState.errs_deliver hs _ _ _

end Failed

/-! ## The result -/

/-- The call holds reservation `id` and waits for the result of a command it sent on the
    connection: it was not cancelled, and nothing was sent on its channel. -/
structure WaitsOn (lib : GoLib) (s : DeliveryState) (session : SessionRef) (i id : Nat) : Prop where
  pending : ∃ c commandID, s.pool.shared.connections.lookup session.id = some c ∧
    commandID ∈ c.pending.keys ∧ s.owners.lookup (session.id, commandID) = some i
  channel : s.channel i = {}
  next : ∃ o, s.pool.nextOp i = some o ∧
    ((∃ commandID, o = .await session commandID) ∨ ∃ commandID, o = .onDispatched commandID)
  call : ∃ t, s.pool.threads[i]? = some t ∧ (callState lib t).inflight ≠ none ∧
    (callState lib t).heldID = some id

/-- `close` sends its error to every call that waits on the connection. -/
theorem WaitsOn.errs {s s' : DeliveryState} {i id : Nat} (h : WaitsOn lib s session i id)
    (hs : s.step lib (.closeSwap session) = some s') :
    (s'.channel i).Errs := by
  obtain ⟨c, commandID, hc, hkey, howner⟩ := h.pending
  unfold DeliveryState.step at hs
  dsimp only at hs
  rw [hc] at hs
  dsimp only at hs
  split at hs
  · obtain ⟨p, -, rfl⟩ := Option.map_eq_some_iff.mp hs
    exact DeliveryState.errs_deliverAll howner (.inl ⟨h.channel, hkey⟩)
  · nomatch hs

/-- A call that waits on a connection that is closed fails. -/
theorem WaitsOn.failed {s s' : DeliveryState} {i id : Nat} (h : WaitsOn lib s session i id)
    (hreach : (consoleSystem lib).machine.Reachable s.pool)
    (hs : s.step lib (.closeSwap session) = some s') : ∃ t, Failed lib s' i t := by
  obtain ⟨t, ht, hinflight, -⟩ := h.call
  have hwaits : CallState.Waits t.log (callState lib t) :=
    .of_kept t.call (calls_keep hreach t (List.mem_of_getElem? ht)).1
  have hthreads : s'.pool.threads = s.pool.threads := by
    unfold DeliveryState.step at hs
    dsimp only at hs
    split at hs
    · nomatch hs
    · split at hs
      · obtain ⟨p, hp, rfl⟩ := Option.map_eq_some_iff.mp hs
        refine DeliveryState.threads_of_run (fun a ha => ?_) hp
        obtain ⟨commandID, -, rfl⟩ := List.mem_map.mp ha
        exact ⟨_, rfl⟩
      · nomatch hs
  refine ⟨t, hthreads ▸ ht, fun hsucceeded => ?_, hwaits.waiting hinflight, fun _ => h.errs hs⟩
  exact hinflight (hwaits.succeeded hsucceeded).idle

end Onlyboxes.Console
