import Onlyboxes.Spec.PickDiscipline

/-!
# The calls keep to their protocol

Every call meets `callProtocol`: an attempt settles the reservation it was picked with
by what comes back, and the retry loop only repeats an attempt that was refused for
capacity and whose release removed the route.

## Key results

- `meets_dispatchCommandAttempt`: an attempt settles its reservation, unless the commit
  fails
- `meets_dispatchCommand`: so does a dispatch
- `ServiceCall.meets_body`: all calls keep to the protocol
-/

namespace Onlyboxes.Console

open Text CallState

section

variable {lib : GoLib} {W : String → Prop} {g : CallState}

/-! ## One attempt -/

/-- Nothing is held, or a commit failed. -/
def Settled (g : CallState) : Prop := g.held = false ∨ g.commitFailed = true

section Attempt

variable {session : SessionRef} {reservationID : Nat}

section

variable (h : Pinned g session reservationID)

include h

/-- A reservation is held if its id is not 0. -/
theorem CallState.Pinned.held_eq_false (hnone : reservationID = 0 ∨ g.sessionID = "") :
    g.held = false := by
  have hzero : reservationID = 0 := hnone.elim id h.unobtained
  rw [h.held]
  exact decide_eq_false (not_not.mpr hzero)

/-- A rollback gives the reservation back. -/
theorem meets_rollback (hidle : g.inflight = none) :
    Meets lib W g (rollbackTerminalRouteReservation g.sessionID session reservationID)
      fun result g' => Frame g g' ∧ g'.held = false ∧
        (result = .removed → Free g' ∧
          (g.capacity = true → g.attempt = some reservationID → g'.removed = true)) := by
  unfold rollbackTerminalRouteReservation
  split
  · rename_i hnone
    exact .pure ⟨Frame.refl g, h.held_eq_false hnone, nofun⟩
  · rename_i hsome
    have hallowed : Allowed W g (.clearReservation g.sessionID session.nodeID reservationID) :=
      ⟨h.owns fun hempty => hsome (.inr hempty), hidle⟩
    apply Prog.Meets.last hallowed
    intro result st _
    refine ⟨Frame.release g _, rfl, fun hremoved => ⟨⟨rfl, rfl⟩, fun hcapacity hattempt => ?_⟩⟩
    show (g.removed || (g.capacity && result == .removed && g.attempt == some reservationID)) = true
    rw [hcapacity, hremoved, hattempt]
    simp

/-- A confirmation in memory settles the reservation. -/
theorem meets_confirmInMemory :
    Meets lib W g (confirmTerminalRouteInMemory g.sessionID session reservationID)
      fun _ g' => g'.held = false := by
  unfold confirmTerminalRouteInMemory
  split
  · rename_i hne
    apply Prog.Meets.call trivial
    intro now st _
    have hallowed : Allowed W g (.confirm g.sessionID session.nodeID reservationID now) := h.owns hne
    apply Prog.Meets.call hallowed
    intro confirmed st _
    exact .pure rfl
  · rename_i hempty
    exact .pure (h.held_eq_false (.inr (not_not.mp hempty)))

/-- A commit settles the reservation unless it fails. -/
theorem meets_commitTerminalRoute (payload : String) :
    Meets lib W g (commitTerminalRoute lib g.sessionID session reservationID payload)
      fun _ g' => Settled g' := by
  unfold commitTerminalRoute
  split
  · rename_i hempty
    exact .pure (.inl (h.held_eq_false (.inr hempty)))
  · rename_i hne
    apply Prog.Meets.call trivial
    intro now st _
    have hallowed : Allowed W g (.commit g.sessionID session.nodeID reservationID
        (lib.terminalSessionLeaseExpiresUnixMs payload) now) := h.owns hne
    apply Prog.Meets.call hallowed
    intro committed st _
    cases committed with
    | error err => exact .pure (.inr rfl)
    | ok confirmed =>
      cases confirmed with
      | false | true => exact .pure (.inl rfl)

/-- How an attempt ends: settled; and one that may be repeated was refused for capacity
    and removed its route. -/
def Concluded (g : CallState) (reservationID : Nat) (g' : CallState) :
    Except DispatchError DispatchAttemptResult → Prop
  | .error _ => Settled g'
  | .ok result => Settled g' ∧ (result.capacityRetryable = true →
      Frame g g' ∧ Free g' ∧ g'.capacity = true ∧ g'.removed = true ∧ reservationID ≠ 0)

omit h in
/-- An outcome that is not to be repeated. -/
theorem concluded_ok {g g' : CallState} (h : Settled g') (outcome : CommandOutcome) :
    Concluded g reservationID g' (.ok { outcome := outcome }) :=
  ⟨h, nofun⟩

theorem meets_settleWorkerError (hidle : g.inflight = none) (hne : g.sessionID ≠ "")
    (capability : String) (outcome : CommandOutcome) {err : OutcomeError}
    (hnotFound : g.notFound = lib.isSessionNotFoundCommandError err)
    (hcapacity : g.capacity = lib.isSessionCapacityCommandError err)
    (hattempt : reservationID ≠ 0 → g.attempt = some reservationID) :
    Meets lib W g (settleWorkerError lib capability g.sessionID session reservationID outcome err)
      fun result g' => Concluded g reservationID g' result := by
  unfold settleWorkerError
  split
  · rename_i hfound
    split
    · refine .seq (meets_rollback h hidle) fun released g' hg' => ?_
      exact .pure (concluded_ok (.inl hg'.2.1) outcome)
    · -- A confirmed route whose session the worker does not know.
      rename_i hzero
      have hallowed : Allowed W g (.clearRoute g.sessionID session.nodeID) :=
        ⟨reservationID, h.owns hne, .inr (.inr ⟨hnotFound.trans hfound, not_not.mp hzero⟩)⟩
      apply Prog.Meets.call hallowed
      intro cleared st _
      cases cleared with
      | error err => exact .pure (.inl rfl)
      | ok _ => exact .pure (concluded_ok (.inl rfl) outcome)
  · split
    · rename_i hfull
      refine .seq (meets_rollback h hidle) fun released g' hg' => ?_
      obtain ⟨hframe, hheld, hremoved⟩ := hg'
      apply Prog.Meets.pure
      refine ⟨.inl hheld, fun hretry => ?_⟩
      obtain ⟨-, hid, hreleased⟩ := of_decide_eq_true hretry
      obtain ⟨hfree, hflag⟩ := hremoved hreleased
      have hcap : g.capacity = true := hcapacity.trans hfull
      exact ⟨hframe, hfree, hframe.capacity.trans hcap, hflag hcap (hattempt hid), hid⟩
    · split
      · refine .seq (meets_confirmInMemory h) fun _ g' hg' => ?_
        exact .pure (concluded_ok (.inl hg') outcome)
      · rename_i hzero
        exact .pure
          (concluded_ok (.inl (h.held_eq_false (.inl (not_not.mp hzero)))) outcome)

theorem meets_settleOutcome (capability : String) (outcome : CommandOutcome)
    (hattempt : reservationID ≠ 0 → g.attempt = some reservationID) :
    Meets lib W (g.answered lib outcome)
      (settleOutcome lib capability g.sessionID session reservationID outcome)
      fun result g' => Concluded (g.answered lib outcome) reservationID g' result := by
  have hpinned : Pinned (g.answered lib outcome) session reservationID :=
    ⟨h.held, h.obtained, h.unobtained⟩
  unfold settleOutcome
  split
  · rename_i hempty
    exact .pure (concluded_ok (.inl (hpinned.held_eq_false (.inr hempty))) outcome)
  · rename_i hne
    split
    · rename_i err herr
      apply meets_settleWorkerError hpinned rfl hne capability outcome
      · show outcome.err.any _ = _
        rw [herr]
        rfl
      · show outcome.err.any _ = _
        rw [herr]
        rfl
      · exact hattempt
    · split
      · refine .seq (meets_commitTerminalRoute hpinned outcome.payloadJSON) fun failed g' hg' => ?_
        cases failed with
        | some err => exact .pure hg'
        | none => exact .pure (concluded_ok hg' outcome)
      · refine .seq (meets_confirmInMemory hpinned) fun _ g' hg' => ?_
        exact .pure (concluded_ok (.inl hg') outcome)

/-- When a command may be sent. -/
structure CanSend (W : String → Prop) (g : CallState) (session : SessionRef)
    (reservationID : Nat) : Prop where
  known : W session.nodeID
  pinned : Pinned g session reservationID
  idle : g.inflight = none
  fresh : trimSpace session.nodeID = session.nodeID → session.nodeID ∉ g.enqueued
  retried : g.enqueued ≠ [] → g.capacity ∧ g.removed
  budget : g.enqueued.length < max 1 (g.listed.getD 0)

/-- The command was enqueued. -/
def CallState.sent (g : CallState) (session : SessionRef) : CallState :=
  { g with
    enqueued := session.nodeID :: g.enqueued
    inflight := some session.nodeID
    attempt := g.heldID
    capacity := false
    removed := false }

theorem CallState.Pinned.heldID (hne : reservationID ≠ 0) :
    g.heldID = some reservationID := by
  have hsession : g.sessionID ≠ "" := fun hempty => hne (h.unobtained hempty)
  obtain ⟨o, ho, -, -, hid⟩ := h.obtained hsession
  unfold CallState.heldID
  rw [ho, h.held, decide_eq_true hne, hid]
  rfl

end

theorem meets_callOnDispatched (g : CallState) (commandID : String) (onDispatched : Bool) :
    Meets lib W g (callOnDispatched commandID onDispatched) fun _ g' => g' = g := by
  unfold callOnDispatched
  split
  · apply Prog.Meets.call trivial
    intro result st _
    cases result with
    | error err | ok _ => exact .pure rfl
  · exact .pure rfl

/-- An attempt that was answered, from the state it was sent in. -/
def Answers (g : CallState) (session : SessionRef) (reservationID : Nat) (g' : CallState) :
    Except DispatchError DispatchAttemptResult → Prop
  | .error _ => Settled g'
  | .ok result => Settled g' ∧ (result.capacityRetryable = true → reservationID ≠ 0 ∧ Free g' ∧
      g'.kind = g.kind ∧ g'.sessionID = g.sessionID ∧ (g.listed.isSome → g'.listed = g.listed) ∧
      g'.enqueued = session.nodeID :: g.enqueued ∧ g'.capacity = true ∧ g'.removed = true ∧
      g'.inflight = none)

theorem meets_sendAndAwait (h : CanSend W g session reservationID) (capability commandID : String)
    (onDispatched : Bool) :
    Meets lib W g (sendAndAwait lib capability g.sessionID session reservationID commandID
      onDispatched) fun result g' => Answers g session reservationID g' result := by
  have hallowed : Allowed W g (.enqueueCommand session commandID) :=
    ⟨h.known, h.fresh, h.retried, h.budget, fun hne => by
      obtain ⟨o, ho, hnode, -⟩ := h.pinned.obtained hne
      exact ⟨o, ho, hnode⟩⟩
  have hpinned : Pinned (g.sent session) session reservationID :=
    ⟨h.pinned.held, h.pinned.obtained, h.pinned.unobtained⟩
  apply Prog.Meets.call hallowed
  intro enqueued st _
  cases enqueued with
  | error err =>
    refine .seq (meets_rollback h.pinned h.idle) fun released g' hg' => ?_
    exact .pure (.inl hg'.2.1)
  | ok _ =>
    show Meets lib W (g.sent session) _ _
    refine .seq (meets_callOnDispatched (g.sent session) commandID onDispatched) fun failed g₁ hg₁ => ?_
    subst hg₁
    cases failed with
    | some err =>
      dsimp only
      split
      · refine .seq (meets_confirmInMemory hpinned) fun _ g' hg' => ?_
        exact .pure (.inl hg')
      · rename_i hzero
        exact .pure (.inl (hpinned.held_eq_false (.inl (not_not.mp hzero))))
    | none =>
      apply Prog.Meets.call rfl
      intro awaited st _
      cases awaited with
      | contextDone err =>
        show Meets lib W (g.sent session) _ _
        dsimp only
        split
        · refine .seq (meets_confirmInMemory hpinned) fun _ g' hg' => ?_
          exact .pure (.inl hg')
        · rename_i hnone
          refine .pure (.inl (hpinned.held_eq_false ?_))
          show reservationID = 0 ∨ g.sessionID = ""
          by_cases hzero : reservationID = 0
          · exact .inl hzero
          · exact .inr (not_not.mp fun hne => hnone ⟨hzero, hne⟩)
      | closed =>
        apply Prog.Meets.bind
        have hclosed : Pinned { g.sent session with inflight := none } session reservationID :=
          ⟨h.pinned.held, h.pinned.obtained, h.pinned.unobtained⟩
        apply (meets_rollback hclosed rfl).mono
        intro released g' hg'
        exact .pure (.inl hg'.2.1)
      | outcome outcome =>
        apply (meets_settleOutcome hpinned capability outcome h.pinned.heldID).mono
        intro result g' hg'
        cases result with
        | error err => exact hg'
        | ok result =>
          refine ⟨hg'.1, fun hretry => ?_⟩
          obtain ⟨hframe, hfree, hcapacity, hremoved, hid⟩ := hg'.2 hretry
          exact ⟨hid, hfree, hframe.kind, hframe.sessionID, hframe.listed, hframe.enqueued,
            hcapacity, hremoved, hframe.inflight⟩

theorem meets_unregisterPending (g : CallState) (session : SessionRef) (commandID : String) :
    Meets lib W g (unregisterPending session commandID) fun _ g' => g' = g := by
  apply Prog.Meets.call trivial
  intro pending st _
  cases pending with
  | none => exact .pure rfl
  | some pending => exact .last trivial fun _ _ _ => rfl

/-- `dispatchCommandAttempt` settles the reservation on every path, except when the
    commit fails. -/
theorem meets_dispatchCommandAttempt (h : CanSend W g session reservationID) (capability : String)
    (onDispatched : Bool) :
    Meets lib W g (dispatchCommandAttempt lib capability g.sessionID session reservationID
      onDispatched) fun result g' => Answers g session reservationID g' result := by
  apply Prog.Meets.call trivial
  intro created st _
  cases created with
  | error err =>
    apply Prog.Meets.call trivial
    intro _ st _
    refine .seq (meets_rollback h.pinned h.idle) fun released g' hg' => ?_
    exact .pure (.inl hg'.2.1)
  | ok commandID =>
    apply Prog.Meets.call h.idle
    intro registered st _
    cases registered with
    | error err =>
      apply Prog.Meets.call trivial
      intro _ st _
      refine .seq (meets_rollback h.pinned h.idle) fun released g' hg' => ?_
      exact .pure (.inl hg'.2.1)
    | ok _ =>
      refine .seq (meets_sendAndAwait h capability commandID onDispatched) fun result g' hg' => ?_
      refine .seq (meets_unregisterPending g' session commandID) fun _ g'' hg'' => ?_
      subst hg''
      exact .pure hg'

end Attempt

/-! ## The calls -/

/-- `k` attempts in all are within what was listed. -/
def Budget (g : CallState) (k : Nat) : Prop := k ≤ 1 ∨ ∃ n, g.listed = some n ∧ k ≤ n

theorem Budget.of_listed {g g' : CallState} {k : Nat} (h : Budget g k)
    (hlisted : g.listed.isSome → g'.listed = g.listed) : Budget g' k := by
  rcases h with hk | ⟨n, hn, hk⟩
  · exact .inl hk
  · refine .inr ⟨n, ?_, hk⟩
    rw [hlisted (by rw [hn]; rfl), hn]

/-- What holds before each attempt of a dispatch. -/
structure CanAttempt (g : CallState) (options : DispatchOptions) (attempts : Nat)
    (attempted : GoSet String) : Prop where
  pick : CanPick g options attempted
  enqueued : ∀ n ∈ g.enqueued, (attempted.lookup n).isSome
  retried : g.enqueued ≠ [] → g.capacity ∧ g.removed
  budget : Budget g (attempts + g.enqueued.length)

variable {options : DispatchOptions} {attempted : GoSet String}

/-- A picked connection may be sent the command. -/
theorem CanAttempt.canSend {g g' : CallState} {attempts : Nat}
    (h : CanAttempt g options (attempts + 1) attempted) {session : SessionRef} {reservationID : Nat}
    (hpicked : Picked W g attempted g' (.ok (session, reservationID))) :
    CanSend W g' session reservationID := by
  obtain ⟨hframe, hpinned, hexcluded, hW⟩ := hpicked
  refine ⟨hW, hpinned, hframe.inflight.trans h.pick.idle, fun htrim hmem => ?_, fun hne => ?_, ?_⟩
  · -- Workers attempted before are excluded.
    rw [hframe.enqueued] at hmem
    unfold isNodeExcluded at hexcluded
    rw [htrim, h.enqueued _ hmem] at hexcluded
    nomatch hexcluded
  · rw [hframe.enqueued] at hne
    obtain ⟨hcapacity, hremoved⟩ := h.retried hne
    exact ⟨hframe.capacity.trans hcapacity, hframe.removed hremoved⟩
  · have hbudget := h.budget.of_listed hframe.listed
    rw [hframe.enqueued]
    rcases hbudget with hk | ⟨n, hn, hk⟩
    · omega
    · rw [hn, Option.getD_some]
      omega

/-- After an attempt that may be repeated, the next one may be made. -/
theorem CanAttempt.retry {g g₁ g' : CallState} {attempts : Nat}
    (h : CanAttempt g options (attempts + 1) attempted) (hframe : Frame g g₁) {session : SessionRef}
    {reservationID : Nat} (htarget : trimSpace options.targetNodeID ≠ "" → reservationID = 0)
    {result : DispatchAttemptResult} (hretry : result.capacityRetryable = true)
    (hanswers : Answers g₁ session reservationID g' (.ok result)) :
    CanAttempt g' options attempts (attempted.insert session.nodeID ()) ∧
      g'.sessionID = g.sessionID := by
  obtain ⟨hid, hfree, hkind, hsession, hlisted, henqueued, hcapacity, hremoved, hidle⟩ :=
    hanswers.2 hretry
  have huntargeted : trimSpace options.targetNodeID = "" :=
    not_not.mp fun hne => hid (htarget hne)
  have hsession' : g'.sessionID = g.sessionID := hsession.trans hframe.sessionID
  refine ⟨⟨⟨hfree.held, hidle, ?_, fun _ => ⟨hfree, ?_⟩, fun hne => absurd huntargeted hne⟩, ?_,
    fun _ => ⟨hcapacity, hremoved⟩, ?_⟩, hsession'⟩
  · rw [hsession']
    exact h.pick.trimmed
  · exact hkind.trans (hframe.kind.trans (h.pick.free huntargeted).2)
  · intro n hn
    rw [henqueued, hframe.enqueued] at hn
    rw [AList.lookup_insert_ite]
    split
    · rfl
    · rename_i hne
      exact h.enqueued n ((List.mem_cons.mp hn).resolve_left hne)
  · have hbudget := (h.budget.of_listed hframe.listed).of_listed hlisted
    rw [henqueued, hframe.enqueued, List.length_cons]
    have harith : attempts + (g.enqueued.length + 1) = attempts + 1 + g.enqueued.length := by omega
    rw [harith]
    exact hbudget

theorem meets_dispatchAttempts (attempts : Nat) (h : CanAttempt g options attempts attempted)
    (capability : String) (last : Option CommandOutcome) :
    Meets lib W g (dispatchAttempts lib capability g.sessionID options attempts attempted last)
      fun _ g' => Settled g' := by
  induction attempts generalizing g attempted last with
  | zero =>
    unfold dispatchAttempts
    cases last with
    | some outcome | none => exact .pure (.inl h.pick.held)
  | succ attempts ih =>
    unfold dispatchAttempts
    apply Prog.Meets.call trivial
    intro ctxErr st _
    cases ctxErr with
    | some err => exact .pure (.inl h.pick.held)
    | none =>
      refine .seq (meets_pickSessionForDispatch h.pick capability) fun picked g₁ hpicked => ?_
      obtain ⟨hpicked, htarget⟩ := hpicked
      cases picked with
      | error err =>
        apply Prog.Meets.call trivial
        intro ctxErr st _
        cases ctxErr with
        | some err => exact .pure (.inl hpicked.2)
        | none =>
          cases last with
          | some outcome | none => exact .pure (.inl hpicked.2)
      | ok picked =>
        obtain ⟨session, reservationID⟩ := picked
        have hframe : Frame g g₁ := hpicked.1
        apply Prog.Meets.bind
        rw [← hframe.sessionID]
        apply (meets_dispatchCommandAttempt (h.canSend hpicked) capability
          options.onDispatched).mono
        intro result g₂ hanswers
        cases result with
        | error err => exact .pure hanswers
        | ok result =>
          dsimp only
          split
          · exact .pure hanswers.1
          · rename_i hretry
            split
            · exact .pure hanswers.1
            · obtain ⟨hnext, hsession⟩ := h.retry hframe (fun hne => htarget hne _ rfl)
                (Bool.not_eq_false _ ▸ hretry) hanswers
              rw [hframe.sessionID, ← hsession]
              exact ih hnext _

/-- The session of a dispatch has a trimmed id. -/
theorem trimSpace_dispatchSessionID (lib : GoLib) (capability payloadJSON : String) :
    trimSpace (dispatchSessionID lib capability payloadJSON) =
      dispatchSessionID lib capability payloadJSON := by
  unfold dispatchSessionID GoLib.terminalSessionIDFromPayload
  generalize normalizeCapability lib.caseMap capability = capability
  split
  · split
    · rfl
    · exact trimSpace_trimSpace _
  · rfl

/-- The attempts allowed are at most the workers listed, and at least one. -/
theorem meets_maxDispatchAttempts (hlisted : g.listed = none)
    (capability sessionID ownerID : String) :
    Meets lib W g (maxDispatchAttempts lib capability sessionID ownerID) fun attempts g' =>
      (∃ l, g' = { g with listed := l }) ∧ Budget g' attempts := by
  unfold maxDispatchAttempts
  split
  · refine .seq (meets_listOnlineNodeIDsForCapability g capability ownerID) fun nodeIDs g' hg' => ?_
    apply Prog.Meets.pure
    rcases hg' with ⟨rfl, rfl⟩ | rfl
    · exact ⟨⟨g'.listed, rfl⟩, .inl (Nat.le_refl 1)⟩
    · refine ⟨⟨_, rfl⟩, ?_⟩
      rw [hlisted, Option.getD_none]
      split
      · exact .inl (Nat.le_refl 1)
      · exact .inr ⟨_, rfl, Nat.le_refl _⟩
  · exact .pure ⟨⟨g.listed, rfl⟩, .inl (Nat.le_refl 1)⟩

/-- `dispatchCommand` returns with nothing held, unless a commit failed. -/
theorem meets_dispatchCommand (capability payloadJSON : String) (h : CanPick g options ∅)
    (hlisted : g.listed = none) (henqueued : g.enqueued = [])
    (hsession : g.sessionID = dispatchSessionID lib capability payloadJSON) :
    Meets lib W g (dispatchCommand lib capability payloadJSON options) fun _ g' => Settled g' := by
  unfold dispatchCommand
  dsimp only
  split
  · exact .pure (.inl h.held)
  · refine .seq (meets_maxDispatchAttempts hlisted _ _ options.ownerID) fun attempts g₁ hg₁ => ?_
    obtain ⟨⟨l, rfl⟩, hbudget⟩ := hg₁
    have hid : lib.terminalSessionIDFromPayload (normalizeCapability lib.caseMap capability)
        (if payloadJSON = "" then "\x7b\x7d" else payloadJSON) =
          ({ g with listed := l } : CallState).sessionID := hsession.symm
    rw [hid]
    apply meets_dispatchAttempts
    refine ⟨⟨h.held, h.idle, h.trimmed, fun ht => ⟨⟨(h.free ht).1.obtained, h.held⟩, (h.free ht).2⟩,
      h.target⟩, fun n hn => ?_, fun hne => absurd henqueued hne, ?_⟩
    · exact absurd hn (by rw [henqueued]; exact List.not_mem_nil)
    · rw [henqueued]
      exact hbudget

/-- No event changes what a call is about. -/
theorem CallState.next_call (lib : GoLib) (g : CallState) (e : ServiceCallEvent) :
    (g.next lib e).kind = g.kind ∧ (g.next lib e).sessionID = g.sessionID := by
  have hmiss : g.miss.kind = g.kind ∧ g.miss.sessionID = g.sessionID := by
    unfold CallState.miss
    split <;> exact ⟨rfl, rfl⟩
  unfold CallState.next
  split <;> first | exact hmiss | exact ⟨rfl, rfl⟩ | skip
  split <;> exact ⟨rfl, rfl⟩

/-- What `GetTerminalSession` leaves behind in a renewal: the worker of the session. -/
def Viewed (g g' : CallState) (view : Option TerminalSessionView) : Prop :=
  ∀ v, view = some v → g'.held = false ∧ g'.listed = g.listed ∧ g'.enqueued = g.enqueued ∧
    g'.inflight = g.inflight ∧ ∃ o, g'.obtained = some o ∧ trimSpace v.workerID = o.nodeID ∧ o.nodeID ≠ "" ∧
      o.reservationID = 0

theorem scopeTerminalSessionID_normalize (ownerID sessionID : String) :
    scopeTerminalSessionID (normalizeTaskOwnerID ownerID) (trimSpace sessionID) =
      scopeTerminalSessionID ownerID sessionID := by
  unfold scopeTerminalSessionID normalizeTaskOwnerID
  rw [trimSpace_trimSpace, trimSpace_trimSpace]

/-- A scoped id is trimmed. -/
theorem trimSpace_scopeTerminalSessionID (ownerID sessionID : String) :
    trimSpace (scopeTerminalSessionID ownerID sessionID) =
      scopeTerminalSessionID ownerID sessionID := by
  unfold scopeTerminalSessionID
  dsimp only
  split
  · exact trimSpace_trimSpace _
  · rename_i h
    have hlist : (ownerScope (normalizeTaskOwnerID ownerID)).toList =
        'o' :: ("bx:" ++ normalizeTaskOwnerID ownerID ++ ":").toList := by
      unfold ownerScope taskOwnerScopePrefix taskOwnerScopeSeparator
      simp [String.toList_append]
    exact trimSpace_append hlist rfl (trimSpace_trimSpace _) fun hempty => h (.inr hempty)

theorem meets_getTerminalSession (hkind : g.kind = .renew) {ownerID sessionID : String}
    (hsession : g.sessionID = scopeTerminalSessionID ownerID sessionID) (now : Int) :
    Meets lib W g (getTerminalSession ownerID sessionID now) fun view g' => Viewed g g' view := by
  unfold getTerminalSession
  dsimp only
  split
  · exact .pure nofun
  · have hallowed : Allowed W g (.snapshot (scopeTerminalSessionID (normalizeTaskOwnerID ownerID)
        (trimSpace sessionID)) now) := by
      show scopeTerminalSessionID _ _ = g.sessionID
      rw [hsession, scopeTerminalSessionID_normalize]
    apply Prog.Meets.call hallowed
    intro route st hans
    cases route with
    | none => exact .pure nofun
    | some route =>
      obtain ⟨htrim, hnonempty⟩ := hans
      have hnext : (callProtocol lib W).next g ⟨.snapshot (scopeTerminalSessionID
          (normalizeTaskOwnerID ownerID) (trimSpace sessionID)) now, some route, st⟩ =
            g.obtain route.nodeID 0 st := if_neg (by rw [hkind]; decide)
      rw [hnext]
      dsimp only
      split
      · apply Prog.Meets.pure
        intro v hv
        cases hv
        exact ⟨rfl, rfl, rfl, rfl, _, rfl, htrim, hnonempty, rfl⟩
      · exact .pure nofun

theorem normalizeCapability_of_isLower (m : CaseMap) {s : String}
    (h : ∀ c ∈ s.toList, c.isLower = true) (htrim : trimSpace s = s) :
    normalizeCapability m s = s := by
  unfold normalizeCapability
  rw [m.toLower_of_isLower h, htrim]

/-- The session of a renewal's dispatch. -/
theorem dispatchSessionID_renew (lib : GoLib) (sessionID : String) (leaseTTLSec : Int) :
    dispatchSessionID lib taskCapabilityTerminalLeaseRenew
      (lib.renewPayload sessionID leaseTTLSec) = trimSpace sessionID := by
  have hcap : normalizeCapability lib.caseMap taskCapabilityTerminalLeaseRenew =
      taskCapabilityTerminalLeaseRenew :=
    normalizeCapability_of_isLower _ (List.all_eq_true.mp (by decide)) (by decide)
  have hread : lib.payloadSessionID taskCapabilityTerminalLeaseRenew
      (lib.renewPayload sessionID leaseTTLSec) = some sessionID :=
    lib.payloadSessionID_renewPayload sessionID leaseTTLSec
  unfold dispatchSessionID
  rw [hcap, if_neg (lib.renewPayload_ne _ _)]
  unfold GoLib.terminalSessionIDFromPayload
  rw [if_pos (.inr (.inl rfl)), hread]

/-- Capabilities without sessions. -/
theorem dispatchSessionID_eq_empty (lib : GoLib) {capability : String} (payloadJSON : String)
    (hlower : ∀ c ∈ capability.toList, c.isLower = true) (htrim : trimSpace capability = capability)
    (hexec : capability ≠ taskCapabilityTerminalExec)
    (hrenew : capability ≠ taskCapabilityTerminalLeaseRenew)
    (hresource : capability ≠ taskCapabilityTerminalResource) :
    dispatchSessionID lib capability payloadJSON = "" := by
  unfold dispatchSessionID GoLib.terminalSessionIDFromPayload
  rw [normalizeCapability_of_isLower _ hlower htrim]
  rw [if_neg fun h => h.elim hexec fun h => h.elim hrenew hresource]

/-- The dispatch of a renewal starts with the worker it looked up. -/
theorem Viewed.canPick {g' : CallState} {view : TerminalSessionView}
    (h : Viewed g g' (some view)) (hidle : g.inflight = none) (ownerID : String)
    (htrim : trimSpace g'.sessionID = g'.sessionID) :
    CanPick g' { ownerID := ownerID, targetNodeID := view.workerID } ∅ := by
  obtain ⟨hheld, -, -, hsame, o, ho, hworker, hnonempty, hzero⟩ := h view rfl
  refine ⟨hheld, hsame.trans hidle, htrim, fun hempty => ?_, fun _ => ⟨rfl, fun _ => ⟨o, ho, hworker, hzero⟩⟩⟩
  exact absurd (hworker.symm.trans hempty) hnonempty

theorem meets_renewTerminalSessionLease (lib : GoLib) (ownerID sessionID : String)
    (hkind : g.kind = .renew) (hidle : g.inflight = none) (hlisted : g.listed = none)
    (henqueued : g.enqueued = [])
    (hsession : g.sessionID = scopeTerminalSessionID ownerID sessionID) (leaseTTLSec : Int) :
    Meets lib W g (renewTerminalSessionLease lib ownerID sessionID leaseTTLSec) fun _ _ => True := by
  -- What the call is about never changes.
  have hcall : ∀ (g' : CallState) e,
      (g'.kind = .renew ∧ g'.sessionID = g.sessionID) →
        ((callProtocol lib W).next g' e).kind = .renew ∧
          ((callProtocol lib W).next g' e).sessionID = g.sessionID := by
    intro g' e h
    obtain ⟨hk, hs⟩ := next_call lib g' e
    exact ⟨hk.trans h.1, hs.trans h.2⟩
  have hview : ∀ (g' : CallState) now, g'.kind = .renew ∧ g'.sessionID = g.sessionID →
      Meets lib W g' (getTerminalSession (normalizeTaskOwnerID ownerID) (trimSpace sessionID) now)
        fun view g'' => Viewed g' g'' view ∧ (g''.kind = .renew ∧ g''.sessionID = g.sessionID) := by
    intro g' now h
    have hscope : g'.sessionID =
        scopeTerminalSessionID (normalizeTaskOwnerID ownerID) (trimSpace sessionID) := by
      rw [h.2, hsession, scopeTerminalSessionID_normalize]
    exact (meets_getTerminalSession h.1 hscope now).invariant hcall h
  unfold renewTerminalSessionLease
  dsimp only
  split
  · exact .pure trivial
  · split
    · exact .pure trivial
    · apply Prog.Meets.call trivial
      intro now st _
      refine .seq (hview g now ⟨hkind, rfl⟩) fun view g₁ hg₁ => ?_
      obtain ⟨hviewed, hcall₁⟩ := hg₁
      cases view with
      | none => exact .pure trivial
      | some view =>
        dsimp only
        split
        · exact .pure trivial
        · have hscoped : g₁.sessionID =
              scopeTerminalSessionID (normalizeTaskOwnerID ownerID) (trimSpace sessionID) := by
            rw [hcall₁.2, hsession, scopeTerminalSessionID_normalize]
          have htrim : trimSpace g₁.sessionID = g₁.sessionID := by
            rw [hscoped]
            exact trimSpace_scopeTerminalSessionID _ _
          obtain ⟨-, hlisted₁, henqueued₁, -⟩ := hviewed view rfl
          apply Prog.Meets.bind
          have hpayload : g₁.sessionID = dispatchSessionID lib taskCapabilityTerminalLeaseRenew
              (lib.renewPayload (scopeTerminalSessionID (normalizeTaskOwnerID ownerID)
                (trimSpace sessionID)) leaseTTLSec) := by
            rw [dispatchSessionID_renew, ← hscoped, htrim]
          have hdispatch := meets_dispatchCommand (W := W) _ _
            (hviewed.canPick hidle (normalizeTaskOwnerID ownerID) htrim)
            (hlisted₁.trans hlisted) (henqueued₁.trans henqueued) hpayload
          apply (hdispatch.invariant hcall hcall₁).mono
          intro result g₂ hg₂
          cases result with
          | error err => exact .pure trivial
          | ok outcome =>
            dsimp only
            split
            · exact .pure trivial
            · split
              · exact .pure trivial
              · split
                · exact .pure trivial
                · apply Prog.Meets.call trivial
                  intro now st _
                  refine .seq (hview g₂ now hg₂.2) fun view g₃ _ => ?_
                  cases view with
                  | none | some view => exact .pure trivial

theorem meets_deleteTerminalSession (lib : GoLib) (ownerID sessionID : String)
    (hkind : g.kind = .delete)
    (hsession : g.sessionID = scopeTerminalSessionID ownerID sessionID) (now : Int) :
    Meets lib W g (deleteTerminalSession ownerID sessionID now) fun _ _ => True := by
  have hscope : g.sessionID =
      scopeTerminalSessionID (normalizeTaskOwnerID ownerID) (trimSpace sessionID) := by
    rw [hsession, scopeTerminalSessionID_normalize]
  unfold deleteTerminalSession
  dsimp only
  split
  · exact .pure trivial
  · rw [← hscope]
    have hallowed : Allowed W g (.snapshot g.sessionID now) := rfl
    apply Prog.Meets.call hallowed
    intro route st hans
    cases route with
    | none => exact .pure trivial
    | some route =>
      have hnext : (callProtocol lib W).next g ⟨.snapshot g.sessionID now, some route, st⟩ =
          g.obtain route.nodeID 0 st := if_neg (by rw [hkind]; decide)
      rw [hnext]
      dsimp only
      split
      · have hclear : Allowed W (g.obtain route.nodeID 0 st) (.clearRoute g.sessionID route.nodeID) :=
          ⟨0, owns_obtain g hans.1 0 st, .inl hkind⟩
        apply Prog.Meets.call hclear
        intro cleared st _
        cases cleared with
        | error err | ok _ => exact .pure trivial
      · exact .pure trivial

/-- What holds when a call returns: a dispatch has settled, unless a commit failed. -/
def ReturnsSettled (g : CallState) : Prop := g.kind = .dispatch → Settled g

/-- A dispatch whose result is not looked at. A target is only given without a session. -/
theorem meets_dispatchBody (lib : GoLib) (options : DispatchOptions)
    (capability payloadJSON : String) {sessionID : String}
    (hsession : sessionID = dispatchSessionID lib capability payloadJSON)
    (htarget : trimSpace options.targetNodeID ≠ "" → sessionID = "") :
    Meets lib W { kind := .dispatch, sessionID := sessionID } (do
      let _ ← dispatchCommand lib capability payloadJSON options)
      fun _ g' => ReturnsSettled g' := by
  have htrim : trimSpace sessionID = sessionID := by
    rw [hsession]
    exact trimSpace_dispatchSessionID lib capability payloadJSON
  have hpick : CanPick { kind := .dispatch, sessionID := sessionID } options ∅ :=
    ⟨rfl, rfl, htrim, fun _ => ⟨⟨rfl, rfl⟩, rfl⟩, fun hne => ⟨rfl, fun hsome =>
      absurd (htarget hne) hsome⟩⟩
  refine .seq (meets_dispatchCommand capability payloadJSON hpick rfl rfl hsession) fun _ g' hg' => ?_
  exact .pure fun _ => hg'

/-- Every call keeps to the protocol. -/
theorem ServiceCall.meets_body (lib : GoLib) (c : ServiceCall) :
    Meets lib W (c.start lib) (c.body lib) fun _ g => ReturnsSettled g := by
  cases c with
  | task capability payloadJSON ownerID intent =>
    exact meets_dispatchBody lib _ capability payloadJSON rfl fun hne => absurd rfl hne
  | echo payloadJSON =>
    have hsession : dispatchSessionID lib echoCapabilityName payloadJSON = "" :=
      dispatchSessionID_eq_empty lib payloadJSON (List.all_eq_true.mp (by decide)) (by decide)
        (by decide) (by decide) (by decide)
    exact meets_dispatchBody lib _ _ payloadJSON hsession.symm fun _ => rfl
  | sysTask capability payloadJSON ownerID targetNodeID =>
    have hsession : dispatchSessionID lib capability.name payloadJSON = "" := by
      cases capability with
      | computerUse | readImage =>
        exact dispatchSessionID_eq_empty lib payloadJSON (List.all_eq_true.mp (by decide))
          (by decide) (by decide) (by decide) (by decide)
    exact meets_dispatchBody lib _ _ payloadJSON hsession.symm fun _ => rfl
  | renew ownerID sessionID leaseTTLSec =>
    apply Prog.Meets.bind
    have hcall := next_call lib
    have hrenew := meets_renewTerminalSessionLease (W := W)
      (g := (ServiceCall.renew ownerID sessionID leaseTTLSec).start lib) lib ownerID sessionID
      rfl rfl rfl rfl rfl leaseTTLSec
    apply (hrenew.invariant (I := fun g => g.kind = .renew)
      (fun g e hg => (hcall g e).1.trans hg) rfl).mono
    intro _ g' hg'
    refine .pure fun hdispatch => ?_
    rw [hg'.2] at hdispatch
    nomatch hdispatch
  | delete ownerID sessionID now =>
    apply Prog.Meets.bind
    have hcall := next_call lib
    have hdelete := meets_deleteTerminalSession (W := W)
      (g := (ServiceCall.delete ownerID sessionID now).start lib) lib ownerID sessionID rfl rfl now
    apply (hdelete.invariant (I := fun g => g.kind = .delete)
      (fun g e hg => (hcall g e).1.trans hg) rfl).mono
    intro _ g' hg'
    refine .pure fun hdispatch => ?_
    rw [hg'.2] at hdispatch
    nomatch hdispatch

end

end Onlyboxes.Console
