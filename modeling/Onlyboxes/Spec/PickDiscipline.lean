import Onlyboxes.Spec.CallProtocol

/-!
# Picking a connection keeps to the protocol

The programs that pick a connection meet `callProtocol`, function by function and bottom
up: what each one leaves in the state of its call when it returns.

## Key results

- `meets_tryReserveAndPickTerminalSession`: reserving, following and clearing routes
- `meets_pickSessionForDispatch`: a connection is only returned with the reservation
  its worker was obtained under
-/

namespace Onlyboxes.Console

open Text

namespace CallState

variable {g g' g'' : CallState}

/-- Nothing is obtained. -/
structure Free (g : CallState) : Prop where
  obtained : g.obtained = none
  held : g.held = false

/-- What picking a connection leaves alone. -/
structure Frame (g g' : CallState) : Prop where
  kind : g'.kind = g.kind
  sessionID : g'.sessionID = g.sessionID
  enqueued : g'.enqueued = g.enqueued
  inflight : g'.inflight = g.inflight
  capacity : g'.capacity = g.capacity
  commitFailed : g'.commitFailed = g.commitFailed
  removed : g.removed → g'.removed
  listed : g.listed.isSome → g'.listed = g.listed

theorem Frame.refl (g : CallState) : Frame g g :=
  ⟨rfl, rfl, rfl, rfl, rfl, rfl, id, fun _ => rfl⟩

theorem Frame.trans (h : Frame g g') (h' : Frame g' g'') : Frame g g'' where
  kind := h'.kind.trans h.kind
  sessionID := h'.sessionID.trans h.sessionID
  enqueued := h'.enqueued.trans h.enqueued
  inflight := h'.inflight.trans h.inflight
  capacity := h'.capacity.trans h.capacity
  commitFailed := h'.commitFailed.trans h.commitFailed
  removed := fun hr => h'.removed (h.removed hr)
  listed := fun hl => (h'.listed (by rw [h.listed hl]; exact hl)).trans (h.listed hl)

theorem Frame.obtain (g : CallState) (nodeID : String) (reservationID : Nat)
    (opened : List (String × Nat)) : Frame g (g.obtain nodeID reservationID opened) :=
  ⟨rfl, rfl, rfl, rfl, rfl, rfl, id, fun _ => rfl⟩

theorem Frame.release (g : CallState) (removed : Bool) :
    Frame g { g.settle with removed := g.removed || removed } :=
  ⟨rfl, rfl, rfl, rfl, rfl, rfl, fun h => by simp [h], fun _ => rfl⟩

theorem Frame.listing (g : CallState) (n : Nat) :
    Frame g { g with listed := some (g.listed.getD n) } := by
  refine ⟨rfl, rfl, rfl, rfl, rfl, rfl, id, fun h => ?_⟩
  obtain ⟨l, hl⟩ := Option.isSome_iff_exists.mp h
  simp [hl]

theorem Free.settle (g : CallState) : Free g.settle := ⟨rfl, rfl⟩

theorem Free.miss (h : Free g) : g.miss = g := by
  unfold CallState.miss
  rw [h.obtained]
  rfl

theorem miss_of_obtained {o : Obtained} (h : g.obtained = some o) :
    g.miss = { g with lost := true } := by
  unfold CallState.miss
  rw [h]
  rfl

/-- The worker `session` is pinned to the session of the call under `reservationID`. -/
structure Pinned (g : CallState) (session : SessionRef) (reservationID : Nat) : Prop where
  held : g.held = decide (reservationID ≠ 0)
  obtained : g.sessionID ≠ "" → ∃ o, g.obtained = some o ∧ session.nodeID = o.nodeID ∧
    trimSpace o.nodeID = o.nodeID ∧ reservationID = o.reservationID
  unobtained : g.sessionID = "" → reservationID = 0

theorem Pinned.owns {session : SessionRef} {reservationID : Nat}
    (h : Pinned g session reservationID) (hne : g.sessionID ≠ "") :
    g.Owns g.sessionID session.nodeID reservationID := by
  obtain ⟨o, ho, hnode, htrim, hid⟩ := h.obtained hne
  refine ⟨rfl, o, ho, by rw [hnode, htrim], hid, fun hr => ?_⟩
  rw [h.held]
  exact decide_eq_true hr

end CallState

open CallState

section

variable {lib : GoLib} {W : String → Prop} {g : CallState}

/-- `Meets` for the calls. -/
abbrev Meets {α : Type} (lib : GoLib) (W : String → Prop) (g : CallState) (p : Service α) (Q : α → CallState → Prop) :
    Prop := Prog.Meets (callProtocol lib W) g p Q

/-! ## Picking a connection -/

theorem meets_readyFor (g : CallState) (session : SessionRef) (capability : String) :
    Meets lib W g (readyFor session capability) fun ready g' =>
      g' = if ready then g else g.miss := by
  apply Prog.Meets.call trivial
  intro ready st _
  cases ready with
  | false => exact .pure rfl
  | true =>
    apply Prog.Meets.last trivial
    intro has st _
    cases has with
    | false | true => rfl

/-- What picking the connection of a given worker leaves behind. -/
def NodePicked (W : String → Prop) (g : CallState) (nodeID : String) (g' : CallState) :
    Except DispatchError SessionRef → Prop
  | .ok session => g' = g ∧ session.nodeID = trimSpace nodeID ∧ W session.nodeID
  | .error .noCapabilityWorker => g' = g.miss
  | .error _ => g' = g

variable {nodeID : String}

theorem meets_pickSessionForNodeAndCapability (g : CallState) (capability : String)
    (hne : trimSpace nodeID ≠ "") :
    Meets lib W g (pickSessionForNodeAndCapability nodeID capability) fun result g' =>
      NodePicked W g nodeID g' result := by
  unfold pickSessionForNodeAndCapability
  dsimp only
  rw [if_neg hne]
  apply Prog.Meets.call trivial
  intro session st hans
  cases session with
  | none => exact .pure rfl
  | some session =>
    refine .seq (meets_readyFor g session capability) fun ready g' hg' => ?_
    cases ready with
    | false => exact .pure hg'
    | true =>
      obtain rfl : g' = g := hg'
      apply Prog.Meets.call trivial
      intro acquired st _
      cases acquired with
      | false => exact .pure rfl
      | true => exact .pure ⟨rfl, hans.1, hans.1 ▸ hans.2.2⟩

/-- Without an obtained worker, looking at a connection leaves no trace. -/
theorem meets_readyFor_free (hfree : Free g) (session : SessionRef) (capability : String) :
    Meets lib W g (readyFor session capability) fun _ g' => g' = g := by
  apply (meets_readyFor g session capability).mono
  intro ready g' hg'
  rw [hg', hfree.miss]
  exact ite_self g

/-- A connection of a worker that is not excluded. -/
def Usable (W : String → Prop) (excluded : GoSet String) (session : SessionRef) : Prop :=
  trimSpace session.nodeID ≠ "" ∧ isNodeExcluded session.nodeID excluded = false ∧
    W session.nodeID

theorem meets_collectCandidates (hfree : Free g) (capability : String) (excluded : GoSet String)
    (capacityAware : Bool) (nodeIDs : List String) (candidates : List Candidate)
    (hasSession : Bool)
    (hcandidates : ∀ c ∈ candidates, Usable W excluded c.session) :
    Meets lib W g (collectCandidates capability excluded capacityAware nodeIDs candidates hasSession)
      fun result g' => g' = g ∧ ∀ c ∈ result.1, Usable W excluded c.session := by
  induction nodeIDs generalizing candidates hasSession with
  | nil => exact .pure ⟨rfl, hcandidates⟩
  | cons nodeID nodeIDs ih =>
    unfold collectCandidates
    split
    · exact ih candidates hasSession hcandidates
    · rename_i hexcluded
      apply Prog.Meets.call trivial
      intro session st hans
      cases session with
      | none =>
        show Meets lib W g.miss _ _
        rw [hfree.miss]
        exact ih candidates hasSession hcandidates
      | some session =>
        refine .seq (meets_readyFor_free hfree session capability) fun ready g' hg' => ?_
        subst hg'
        cases ready with
        | false => exact ih candidates hasSession hcandidates
        | true =>
          apply Prog.Meets.call trivial
          intro snapshot st _
          cases snapshot with
          | none => exact ih candidates true hcandidates
          | some snapshot =>
            dsimp only
            split
            · exact ih candidates true hcandidates
            · apply Prog.Meets.call trivial
              intro capacity st _
              refine ih _ _ (List.forall_mem_concat hcandidates ?_)
              obtain ⟨hnode, hne, hW⟩ := hans
              unfold Usable
              rw [hnode]
              exact ⟨hne, Bool.eq_false_iff.mpr hexcluded, hW⟩

theorem mem_inTryOrder {candidates : List Candidate} {c : Candidate}
    (h : c ∈ inTryOrder candidates) : c ∈ candidates := by
  unfold inTryOrder at h
  obtain ⟨group, -, hc⟩ := List.mem_flatMap.mp h
  rw [List.mem_insertionSort] at hc
  exact (List.mem_filter.mp hc).1

theorem meets_acquireFirst (g : CallState) (capability : String) (candidates : List Candidate) :
    Meets lib W g (acquireFirst capability candidates) fun result g' =>
      g' = g ∧ ∀ session, result = some session → ∃ c ∈ candidates, c.session = session := by
  induction candidates with
  | nil => exact .pure ⟨rfl, fun session h => nomatch h⟩
  | cons candidate candidates ih =>
    apply Prog.Meets.call trivial
    intro acquired st _
    cases acquired with
    | true =>
      apply Prog.Meets.pure
      exact ⟨rfl, fun session h => ⟨candidate, List.mem_cons_self, Option.some.inj h⟩⟩
    | false =>
      apply ih.mono
      intro result g' h
      refine ⟨h.1, fun session hsession => ?_⟩
      obtain ⟨c, hc, hcs⟩ := h.2 session hsession
      exact ⟨c, List.mem_cons_of_mem _ hc, hcs⟩

theorem meets_listOnlineNodeIDsForCapability (g : CallState) (capability ownerID : String) :
    Meets lib W g (listOnlineNodeIDsForCapability lib capability ownerID) fun nodeIDs g' =>
      nodeIDs = [] ∧ g' = g ∨ g' = { g with listed := some (g.listed.getD nodeIDs.length) } := by
  unfold listOnlineNodeIDsForCapability
  dsimp only
  split
  · split
    · exact .pure (.inl ⟨rfl, rfl⟩)
    · exact .last trivial fun nodeIDs st _ => .inr rfl
  · exact .last trivial fun nodeIDs st _ => .inr rfl

/-- A connection picked by capability has a worker that is not excluded. -/
theorem meets_pickSessionForCapability (hfree : Free g) (capability ownerID : String)
    (intent : TerminalSessionIntent) (excluded : GoSet String) :
    Meets lib W g (pickSessionForCapability lib capability ownerID intent excluded) fun result g' =>
      Frame g g' ∧ Free g' ∧ ∀ session, result = .ok session → Usable W excluded session := by
  unfold pickSessionForCapability
  refine .seq (meets_listOnlineNodeIDsForCapability g capability ownerID) fun nodeIDs g₁ hg₁ => ?_
  have hframe : Frame g g₁ := by
    rcases hg₁ with ⟨-, rfl⟩ | rfl
    · exact Frame.refl g₁
    · exact Frame.listing g _
  have hfree₁ : Free g₁ := by
    rcases hg₁ with ⟨-, rfl⟩ | rfl
    · exact hfree
    · exact ⟨hfree.obtained, hfree.held⟩
  split
  · exact .pure ⟨hframe, hfree₁, fun session h => nomatch h⟩
  · apply Prog.Meets.call trivial
    intro start st _
    refine .seq (meets_collectCandidates (g := g₁) hfree₁ capability excluded _ _ [] false
      (fun c hc => nomatch hc)) fun collected g₂ hcollected => ?_
    obtain ⟨rfl, hcandidates⟩ := hcollected
    refine .seq (meets_acquireFirst g₂ capability (inTryOrder collected.1))
      fun acquired g₃ hacquired => ?_
    obtain ⟨rfl, hsession⟩ := hacquired
    cases acquired with
    | some session =>
      apply Prog.Meets.pure
      refine ⟨hframe, hfree₁, fun session' h => ?_⟩
      cases h
      obtain ⟨c, hc, rfl⟩ := hsession session rfl
      exact hcandidates c (mem_inTryOrder hc)
    | none =>
      dsimp only
      split
      · exact .pure ⟨hframe, hfree₁, fun session h => nomatch h⟩
      · exact .pure ⟨hframe, hfree₁, fun session h => nomatch h⟩

/-! ## Reserving -/

/-- What picking a connection for a dispatch leaves behind: the worker is pinned to the
    session and was not attempted before, or nothing is held. -/
def Picked (W : String → Prop) (g : CallState) (excluded : GoSet String) (g' : CallState) :
    Except DispatchError (SessionRef × Nat) → Prop
  | .ok (session, reservationID) => Frame g g' ∧ Pinned g' session reservationID ∧
      isNodeExcluded session.nodeID excluded = false ∧ W session.nodeID
  | .error _ => Frame g g' ∧ g'.held = false

variable {excluded : GoSet String}

theorem Picked.trans {g g₁ g' : CallState} {result : Except DispatchError (SessionRef × Nat)}
    (hframe : Frame g g₁) (h : Picked W g₁ excluded g' result) : Picked W g excluded g' result := by
  cases result with
  | error err | ok picked => exact ⟨hframe.trans h.1, h.2⟩

/-- What was just obtained may be used. -/
theorem owns_obtain (g : CallState) (hnode : trimSpace nodeID = nodeID) (reservationID : Nat)
    (opened : List (String × Nat)) :
    (g.obtain nodeID reservationID opened).Owns g.sessionID nodeID reservationID :=
  ⟨rfl, _, rfl, hnode, rfl, fun hr => decide_eq_true hr⟩

/-- A connection of the worker just obtained is pinned. -/
theorem pinned_obtain (hsession : g.sessionID ≠ "") {session : SessionRef}
    (hsame : session.nodeID = nodeID) (hnode : trimSpace nodeID = nodeID) (reservationID : Nat)
    (opened : List (String × Nat)) :
    Pinned (g.obtain nodeID reservationID opened) session reservationID where
  held := rfl
  obtained := fun _ => ⟨_, rfl, hsame, hnode, rfl⟩
  unobtained := fun h => absurd h hsession

/-- The route of a worker that is excluded is left again. -/
theorem meets_leaveExcluded (hidle : g.inflight = none) (hnode : trimSpace nodeID = nodeID)
    (reservationID : Nat) (opened : List (String × Nat)) (excluded : GoSet String) :
    Meets lib W (g.obtain nodeID reservationID opened)
      (if reservationID ≠ 0 then do
        let _ ← atomic (.clearReservation g.sessionID nodeID reservationID)
        return .error .terminalSessionRetryRouteConflict
      else return .error .terminalSessionRetryRouteConflict)
      fun result g' => Picked W g excluded g' result := by
  split
  · have hallowed : Allowed W (g.obtain nodeID reservationID opened)
        (.clearReservation g.sessionID nodeID reservationID) :=
      ⟨owns_obtain g hnode reservationID opened, hidle⟩
    apply Prog.Meets.call hallowed
    intro released st _
    exact .pure ⟨(Frame.obtain g _ _ _).trans (Frame.release _ _), rfl⟩
  · rename_i hzero
    apply Prog.Meets.pure
    exact ⟨Frame.obtain g _ _ _, decide_eq_false hzero⟩

/-- The connection of the worker cannot be used: a missing one costs the route, and any
    other error the reservation. -/
theorem meets_giveUpWorker (hidle : g.inflight = none) {g₂ : CallState} {reservationID : Nat}
    {opened : List (String × Nat)} (hnode : trimSpace nodeID = nodeID) {err : DispatchError}
    (hfollowed : NodePicked W (g.obtain nodeID reservationID opened) nodeID g₂ (.error err))
    {retry : Service (Except DispatchError (SessionRef × Nat))}
    (hretry : ∀ g', Frame g g' → Free g' → Meets lib W g' retry fun result g'' => Picked W g' excluded g'' result) :
    Meets lib W g₂
      (match (err : DispatchError) with
      | .noCapabilityWorker => do
        let _ ← atomic (.clearRoute g.sessionID nodeID)
        retry
      | err => do
        let _ ← atomic (.clearReservation g.sessionID nodeID reservationID)
        return .error err)
      fun result g' => Picked W g excluded g' result := by
  have howns := owns_obtain g hnode reservationID opened
  have hframe := Frame.obtain g nodeID reservationID opened
  split
  · obtain rfl : g₂ = (g.obtain nodeID reservationID opened).miss := hfollowed
    rw [miss_of_obtained (g := g.obtain nodeID reservationID opened) rfl]
    have hallowed : Allowed W { g.obtain nodeID reservationID opened with lost := true }
        (.clearRoute g.sessionID nodeID) := ⟨reservationID, howns, .inr (.inl rfl)⟩
    apply Prog.Meets.call hallowed
    intro cleared st _
    have hframe' : Frame g (settle { g.obtain nodeID reservationID opened with lost := true }) :=
      ⟨rfl, rfl, rfl, rfl, rfl, rfl, id, fun _ => rfl⟩
    apply (hretry _ hframe' (Free.settle _)).mono
    intro result g' h
    exact h.trans hframe'
  · rename_i hother
    obtain rfl : g₂ = g.obtain nodeID reservationID opened := by
      cases err with
      | noCapabilityWorker => exact absurd rfl hother
      | _ => exact hfollowed
    have hallowed : Allowed W (g.obtain nodeID reservationID opened)
        (.clearReservation g.sessionID nodeID reservationID) := ⟨howns, hidle⟩
    apply Prog.Meets.call hallowed
    intro released st _
    exact .pure ⟨hframe.trans (Frame.release _ _), rfl⟩

theorem meets_tryReserveAndPickTerminalSession (hfree : Free g) (hidle : g.inflight = none)
    (hkind : g.kind = .dispatch) (hne : g.sessionID ≠ "") (htrim : trimSpace g.sessionID = g.sessionID)
    (capability ownerID : String) (now : Int) (intent : TerminalSessionIntent)
    (excluded : GoSet String) (attempts : Nat) :
    Meets lib W g (tryReserveAndPickTerminalSession lib capability ownerID g.sessionID now intent
      excluded attempts) fun result g' => Picked W g excluded g' result := by
  induction attempts generalizing g with
  | zero => exact .pure ⟨Frame.refl g, hfree.held⟩
  | succ attempts ih =>
    unfold tryReserveAndPickTerminalSession
    refine .seq (meets_pickSessionForCapability hfree capability ownerID intent excluded)
      fun picked g₁ hpicked => ?_
    obtain ⟨hframe, hfree₁, hsession⟩ := hpicked
    cases picked with
    | error err => exact .pure ⟨hframe, hfree₁.held⟩
    | ok session =>
      obtain ⟨hblank, hexcluded, hW⟩ := hsession session rfl
      have hid : g₁.sessionID = g.sessionID := hframe.sessionID
      have hne₁ : g₁.sessionID ≠ "" := by
        rw [hid]
        exact hne
      rw [← hid]
      have hsession₁ : trimSpace g₁.sessionID ≠ "" := by
        rw [hid, htrim]
        exact hne
      have hallowed : Allowed W g₁ (.reserve g₁.sessionID session.nodeID now) :=
        ⟨hframe.kind.trans hkind, rfl, hfree₁.obtained, hsession₁, hblank⟩
      apply Prog.Meets.call hallowed
      intro resolved st hans
      obtain ⟨nodeID, reservationID⟩ := resolved
      obtain ⟨hnode, hnonempty⟩ := hans
      replace hnonempty : nodeID ≠ "" := hnonempty hsession₁ hblank
      show Meets lib W (g₁.obtain nodeID reservationID st) _ _
      dsimp only
      split
      · -- The route is on the worker that was picked.
        rename_i hsame
        apply Prog.Meets.pure
        exact ⟨hframe.trans (Frame.obtain g₁ _ _ _), pinned_obtain hne₁ hsame.symm hnode _ _,
          hexcluded, hW⟩
      · apply Prog.Meets.call trivial
        intro _ st' _
        show Meets lib W (g₁.obtain nodeID reservationID st) _ _
        split
        · apply (meets_leaveExcluded (hframe.inflight.trans hidle) hnode reservationID st excluded).mono
          intro result g' h
          exact h.trans hframe
        · rename_i hnotExcluded
          refine .seq (meets_pickSessionForNodeAndCapability _ capability (by rw [hnode]; exact hnonempty))
            fun followed g₂ hfollowed => ?_
          cases followed with
          | ok session' =>
            obtain ⟨rfl, hnode', hW'⟩ := hfollowed
            apply Prog.Meets.pure
            rw [hnode] at hnode'
            refine ⟨hframe.trans (Frame.obtain g₁ _ _ _), pinned_obtain hne₁ hnode' hnode _ _, ?_,
              hW'⟩
            rw [hnode']
            exact Bool.eq_false_iff.mpr hnotExcluded
          | error err =>
            have htrim₁ : trimSpace g₁.sessionID = g₁.sessionID := by rw [hid, htrim]
            have hretry : ∀ g', Frame g₁ g' → Free g' → Meets lib W g'
                (tryReserveAndPickTerminalSession lib capability ownerID g₁.sessionID now intent
                  excluded attempts) fun result g'' => Picked W g' excluded g'' result := by
              intro g' hframe' hfree'
              rw [← hframe'.sessionID] at hne₁ htrim₁ ⊢
              exact ih hfree' (hframe'.inflight.trans (hframe.inflight.trans hidle))
                (hframe'.kind.trans (hframe.kind.trans hkind)) hne₁ htrim₁
            have hdrop := meets_giveUpWorker (hframe.inflight.trans hidle) hnode hfollowed hretry
            cases err with
            | _ => exact hdrop.mono fun result g' h => h.trans hframe

/-! ## Picking for a dispatch -/

theorem meets_maybePruneTerminalSessionRoutes (g : CallState) (now : Int) :
    Meets lib W g (maybePruneTerminalSessionRoutes now) fun _ g' => g' = g := by
  apply Prog.Meets.call trivial
  intro due st _
  cases due with
  | false => exact .pure rfl
  | true =>
    apply Prog.Meets.call trivial
    intro removed st _
    exact .pure rfl

theorem meets_confirmedRouteUnavailable (hfree : Free g) (hkind : g.kind = .dispatch) (now : Int) :
    Meets lib W g (confirmedRouteUnavailable g.sessionID now) fun _ g' => g' = g := by
  have hallowed : Allowed W g (.snapshot g.sessionID now) := rfl
  apply Prog.Meets.call hallowed
  intro route st _
  cases route with
  | none => exact .pure rfl
  | some route =>
    -- A dispatch only looks at the route here: it obtains it by the claim below.
    have hnext : (callProtocol lib W).next g ⟨.snapshot g.sessionID now, some route, st⟩ = g :=
      if_pos hkind
    rw [hnext]
    dsimp only
    split
    · exact .pure rfl
    · apply Prog.Meets.call trivial
      intro bound st _
      cases bound with
      | none => exact .pure hfree.miss
      | some bound =>
        dsimp only
        split
        · exact .pure rfl
        · apply Prog.Meets.call trivial
          intro ready st _
          cases ready with
          | false => exact .pure hfree.miss
          | true => exact .pure rfl

theorem Frame.miss (g : CallState) : Frame g g.miss := by
  unfold CallState.miss
  split
  · exact ⟨rfl, rfl, rfl, rfl, rfl, rfl, id, fun _ => rfl⟩
  · exact Frame.refl g

theorem held_miss (g : CallState) : g.miss.held = g.held := by
  unfold CallState.miss
  split <;> rfl

/-- Looking at connections changes nothing but what was seen. -/
def Looked (g g' : CallState) : Prop := g' = g ∨ g' = g.miss

theorem Looked.frame {g g' : CallState} (h : Looked g g') : Frame g g' ∧ g'.held = g.held := by
  rcases h with rfl | rfl
  · exact ⟨Frame.refl g', rfl⟩
  · exact ⟨Frame.miss g, held_miss g⟩

theorem meets_checkTargetCapabilityAvailability (g : CallState) (nodeID capability : String) :
    Meets lib W g (checkTargetCapabilityAvailability nodeID capability) fun _ g' => Looked g g' := by
  apply Prog.Meets.call trivial
  intro session st _
  cases session with
  | none => exact .pure (.inr rfl)
  | some session =>
    apply Prog.Meets.call trivial
    intro ready st _
    cases ready with
    | false => exact .pure (.inr rfl)
    | true =>
      apply Prog.Meets.call trivial
      intro has st _
      cases has with
      | false => exact .pure (.inr rfl)
      | true =>
        apply Prog.Meets.call trivial
        intro snapshot st _
        cases snapshot with
        | none => exact .pure (.inl rfl)
        | some snapshot =>
          dsimp only
          split
          · exact .pure (.inl rfl)
          · exact .pure (.inl rfl)

/-- Where a pick may start: with nothing obtained, or with the worker a lease renewal
    looked up for its session. -/
structure CanPick (g : CallState) (options : DispatchOptions) (excluded : GoSet String) : Prop where
  held : g.held = false
  idle : g.inflight = none
  trimmed : trimSpace g.sessionID = g.sessionID
  free : trimSpace options.targetNodeID = "" → Free g ∧ g.kind = .dispatch
  target : trimSpace options.targetNodeID ≠ "" → excluded = ∅ ∧ (g.sessionID ≠ "" →
    ∃ o, g.obtained = some o ∧ trimSpace options.targetNodeID = o.nodeID ∧ o.reservationID = 0)

variable {options : DispatchOptions}

/-- A given target is the worker the session is pinned to. -/
theorem meets_pickTarget (h : CanPick g options excluded)
    (htarget : trimSpace options.targetNodeID ≠ "") (capability : String) :
    Meets lib W g (do
      match ← pickSessionForNodeAndCapability (trimSpace options.targetNodeID) capability with
      | .ok session => return .ok (session, 0)
      | .error .noCapabilityWorker =>
        match ← checkTargetCapabilityAvailability (trimSpace options.targetNodeID) capability with
        | some err => return .error err
        | none => return .error .noCapabilityWorker
      | .error err => return .error err)
      fun result g' => Picked W g excluded g' result ∧ ∀ picked, result = .ok picked → picked.2 = 0 := by
  obtain ⟨hexcluded, hobtained⟩ := h.target htarget
  have htrim : trimSpace (trimSpace options.targetNodeID) = trimSpace options.targetNodeID :=
    trimSpace_trimSpace _
  refine .seq (meets_pickSessionForNodeAndCapability g capability (by rw [htrim]; exact htarget))
    fun picked g₁ hpicked => ?_
  cases picked with
  | ok session =>
    obtain ⟨rfl, hnode, hW⟩ := hpicked
    apply Prog.Meets.pure
    refine ⟨⟨Frame.refl g₁, ⟨h.held, fun hne => ?_, fun _ => rfl⟩, ?_, hW⟩,
      fun picked hpicked => ?_⟩
    · obtain ⟨o, ho, hto, hzero⟩ := hobtained hne
      refine ⟨o, ho, ?_, ?_, hzero.symm⟩
      · rw [hnode, htrim, hto]
      · rw [← hto, htrim]
    · rw [hexcluded]
      rfl
    · rw [← Except.ok.inj hpicked]
  | error err =>
    have hlooked : Looked g g₁ := by
      cases err with
      | noCapabilityWorker => exact .inr hpicked
      | _ => exact .inl hpicked
    obtain ⟨hframe, hheld⟩ := hlooked.frame
    have hfail : ∀ err', Picked W g excluded g₁ (.error err') ∧
        ∀ picked, (.error err' : Except DispatchError (SessionRef × Nat)) = .ok picked →
          picked.2 = 0 := fun _ => ⟨⟨hframe, hheld.trans h.held⟩, nofun⟩
    cases err with
    | noCapabilityWorker =>
      refine .seq (meets_checkTargetCapabilityAvailability g₁ _ capability) fun unavailable g₂ hg₂ => ?_
      have hpickedError : ∀ err', Picked W g excluded g₂ (.error err') ∧
          ∀ picked, (.error err' : Except DispatchError (SessionRef × Nat)) = .ok picked →
            picked.2 = 0 := fun _ =>
        ⟨⟨hframe.trans hg₂.frame.1, hg₂.frame.2.trans (hheld.trans h.held)⟩, nofun⟩
      cases unavailable with
      | none | some err => exact .pure (hpickedError _)
    | _ => exact .pure (hfail _)

/-- Without a target, `pickSessionForDispatch` returns a connection of the worker that the
    session of the call is pinned to, or holds nothing. -/
theorem meets_pickUntargeted (h : CanPick g options excluded)
    (htarget : trimSpace options.targetNodeID = "") (capability : String) :
    Meets lib W g (pickSessionForDispatch lib capability g.sessionID options excluded)
      fun result g' => Picked W g excluded g' result := by
  unfold pickSessionForDispatch
  split
  · rename_i hne
    exact absurd htarget hne
  · obtain ⟨hfree, hkind⟩ := h.free htarget
    rw [h.trimmed]
    split
    · -- No terminal session is involved.
      rename_i hempty
      refine .seq (meets_pickSessionForCapability hfree capability options.ownerID
        options.terminalSessionIntent excluded) fun picked g₁ hpicked => ?_
      obtain ⟨hframe, hfree₁, hsession⟩ := hpicked
      cases picked with
      | error err => exact .pure ⟨hframe, hfree₁.held⟩
      | ok session =>
        apply Prog.Meets.pure
        have hne : g₁.sessionID = "" := hframe.sessionID.trans hempty
        exact ⟨hframe, ⟨hfree₁.held, fun h => absurd hne h, fun _ => rfl⟩,
          (hsession session rfl).2⟩
    · rename_i hne
      apply Prog.Meets.call trivial
      intro now st _
      refine .seq (meets_maybePruneTerminalSessionRoutes g now) fun _ g₁ hg₁ => ?_
      subst hg₁
      refine .seq (meets_confirmedRouteUnavailable hfree hkind now) fun unavailable g₂ hg₂ => ?_
      subst hg₂
      cases unavailable with
      | true => exact .pure ⟨Frame.refl _, hfree.held⟩
      | false =>
        have hallowed : Allowed W g₂ (.claim g₂.sessionID now) := ⟨hkind, rfl, hfree.obtained⟩
        apply Prog.Meets.call hallowed
        intro claimed st hans
        have hretry : ∀ g', Frame g₂ g' → Free g' → Meets lib W g'
            (tryReserveAndPickTerminalSession lib capability options.ownerID g₂.sessionID now
              options.terminalSessionIntent excluded 2) fun result g'' =>
                Picked W g' excluded g'' result := by
          intro g' hframe hfree'
          have htrim := h.trimmed
          rw [← hframe.sessionID] at hne htrim ⊢
          exact meets_tryReserveAndPickTerminalSession hfree' (hframe.inflight.trans h.idle)
            (hframe.kind.trans hkind) hne htrim
            capability options.ownerID now options.terminalSessionIntent excluded 2
        cases claimed with
        | none => exact hretry g₂ (Frame.refl g₂) hfree
        | some claimed =>
          obtain ⟨nodeID, reservationID⟩ := claimed
          obtain ⟨hnode, hnonempty⟩ := hans
          show Meets lib W (g₂.obtain nodeID reservationID st) _ _
          dsimp only
          split
          · exact meets_leaveExcluded h.idle hnode reservationID st excluded
          · rename_i hnotExcluded
            refine .seq (meets_pickSessionForNodeAndCapability _ capability
              (by rw [hnode]; exact hnonempty)) fun followed g₃ hfollowed => ?_
            cases followed with
            | ok session =>
              obtain ⟨rfl, hnode', hW⟩ := hfollowed
              apply Prog.Meets.pure
              rw [hnode] at hnode'
              refine ⟨Frame.obtain g₂ _ _ _, pinned_obtain hne hnode' hnode _ _, ?_, hW⟩
              rw [hnode']
              exact Bool.eq_false_iff.mpr hnotExcluded
            | error err =>
              have hdrop := meets_giveUpWorker h.idle hnode hfollowed hretry
              cases err with
              | noCapabilityWorker =>
                dsimp only
                split
                · -- A confirmed route stays, and its session is unavailable for now.
                  rename_i hzero
                  apply Prog.Meets.pure
                  obtain rfl : g₃ = (g₂.obtain nodeID reservationID st).miss := hfollowed
                  refine ⟨(Frame.obtain g₂ _ _ _).trans (Frame.miss _), ?_⟩
                  rw [held_miss]
                  exact decide_eq_false (not_not.mpr hzero)
                · exact hdrop
              | _ => exact hdrop

/-- `pickSessionForDispatch` returns a connection of the worker that the session of the
    call is pinned to, or holds nothing; a given target comes without a reservation. -/
theorem meets_pickSessionForDispatch (h : CanPick g options excluded) (capability : String) :
    Meets lib W g (pickSessionForDispatch lib capability g.sessionID options excluded)
      fun result g' => Picked W g excluded g' result ∧
        (trimSpace options.targetNodeID ≠ "" → ∀ picked, result = .ok picked → picked.2 = 0) := by
  by_cases htarget : trimSpace options.targetNodeID = ""
  · apply (meets_pickUntargeted h htarget capability).mono
    intro result g' hg'
    exact ⟨hg', fun hne => absurd htarget hne⟩
  · unfold pickSessionForDispatch
    rw [if_pos htarget]
    apply (meets_pickTarget h htarget capability).mono
    intro result g' hg'
    exact ⟨hg'.1, fun _ => hg'.2⟩

end

end Onlyboxes.Console
