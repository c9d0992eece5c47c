import Onlyboxes.BoxLite.Terminal

/-!
# What a call of the BoxLite manager has done so far

The phase of a call as far as its own operations tell: the session it claimed and whether it
still has its slot, whether its creation guard lives, the box it created and did not yet
publish, and the boxes, places and tracked cleanups it still has to give back.
`managerProtocol` says what the code of the calls does in which phase.

## Key results

- `meets_createBox`: a call that creates a box drops its guard once, whatever happens
- `meets_body`: all calls keep to the protocol, and give everything back
-/

namespace Onlyboxes.BoxLite

open Text Worker
open Docker (RecoveryCandidate TerminalResourceRunResult ResourceAction)

/-- The boxes of retired sessions that are removed. -/
def retiredBoxes (retired : List Retired) : List String :=
  (retired.filter fun r => trimSpace r.boxID ≠ "").map (·.boxID)

/-- The places of retired sessions. -/
def retiredPlaces (retired : List Retired) : Nat := retired.countP (·.capacityReserved)

/-- The retired sessions whose cleanup is tracked. -/
def retiredTracked (retired : List Retired) : Nat := retired.countP (·.cleanupTracked)

/-- The phase of a call. -/
structure Phase where
  /-- It is a call of `recover_sessions`. -/
  recovering : Bool := false
  /-- It is a call of `close_preserving`. -/
  preserving : Bool := false
  /-- It set `closed`. -/
  closing : Bool := false
  /-- The session it claimed. -/
  claim : Option Claim := none
  /-- It has a slot of that session. -/
  holds : Bool := false
  /-- Its `PendingCreationGuard` lives. -/
  creating : Bool := false
  /-- The box that it created and did not publish. -/
  hand : Option String := none
  /-- The boxes that it has to remove. -/
  removes : List String := []
  /-- The number of places that it has to give back. -/
  places : Nat := 0
  /-- The number of tracked sessions that it has to clean up. -/
  tracked : Nat := 0

abbrev CallEvent := Event ManagerOp ManagerOp.Res Unit

namespace Phase

/-- It has retired these sessions. -/
def retire (g : Phase) (retired : List Retired) : Phase :=
  { g with removes := retiredBoxes retired, places := retiredPlaces retired, tracked := retiredTracked retired }

/-- It drained these sessions: boxes that are preserved are not removed. -/
def drain (g : Phase) (retired : List Retired) : Phase :=
  { g.retire retired with removes := if g.preserving then [] else retiredBoxes retired }

/-- It got a slot of a session. -/
def take (g : Phase) (claim : Claim) : Phase :=
  { g with claim := some claim, holds := true, creating := claim.created }

/-- How an event changes the phase. -/
def next (g : Phase) : CallEvent → Phase
  | ⟨.claimSessionForExec .., .ok claim, _⟩ => g.take claim
  | ⟨.claimExistingSession _, .ok claim, _⟩ => g.take claim
  | ⟨.createSessionBoxForSession .., .ok boxID, _⟩ => { g with hand := some boxID }
  | ⟨.publishSessionReady .., true, _⟩ => { g with hand := none }
  | ⟨.publishSessionReady _ boxID, false, _⟩ => { g with hand := none, holds := false, removes := [boxID] }
  | ⟨.dropCreationGuard, _, _⟩ => { g with creating := false }
  | ⟨.releaseSession _, answer, _⟩ => { g with holds := false }.retire (answer.bind Prod.snd).toList
  | ⟨.releaseAndDestroySession _, retired, _⟩ => { g with holds := false }.retire retired.toList
  | ⟨.removeBox _, _, _⟩ => { g with removes := g.removes.tail }
  | ⟨.dropCleanupGuard capacityReserved cleanupTracked, _, _⟩ =>
    { g with
      places := if capacityReserved then g.places - 1 else g.places
      tracked := if cleanupTracked then g.tracked - 1 else g.tracked }
  | ⟨.takeExpired _, retired, _⟩ => g.retire retired
  | ⟨.swapClosed, false, _⟩ => { g with closing := true }
  | ⟨.drainSessions, retired, _⟩ => g.drain retired
  | ⟨.releaseReservation, _, _⟩ => { g with places := g.places - 1 }
  | _ => g

/-- It has a slot of the session it claimed. -/
def Holds (g : Phase) (claim : Claim) : Prop := g.claim = some claim ∧ g.holds = true

/-- It has nothing to clean up. -/
def Clean (g : Phase) : Prop := g.removes = [] ∧ g.places = 0 ∧ g.tracked = 0

/-- It has no session, no box and nothing to clean up. -/
structure Free (g : Phase) : Prop where
  claim : g.claim = none
  holds : g.holds = false
  creating : g.creating = false
  hand : g.hand = none
  clean : g.Clean

/-- It has a slot, and no box that is not published. -/
structure Ready (claim : Claim) (g : Phase) : Prop where
  holds : g.Holds claim
  hand : g.hand = none
  clean : g.Clean

/-- Which operations a call performs. -/
def Allowed (g : Phase) : ManagerOp → Prop
  | .claimSessionForExec .. => g.Free
  | .claimExistingSession _ => g.Free
  | .createSessionBoxForSession sessionID _ =>
    ∃ claim, g.Ready claim ∧ claim.sessionID = sessionID ∧ g.creating = true
  | .publishSessionReady sessionID boxID =>
    ∃ claim, g.Holds claim ∧ claim.sessionID = sessionID ∧ g.creating = true ∧
      g.hand = some boxID ∧ g.Clean
  | .dropCreationGuard => g.creating = true
  | .releaseSession sessionID => ∃ claim, g.Ready claim ∧ claim.sessionID = sessionID
  | .releaseAndDestroySession sessionID => ∃ claim, g.Ready claim ∧ claim.sessionID = sessionID
  | .removeBox boxID => ∃ rest, g.removes = boxID :: rest
  | .dropCleanupGuard capacityReserved cleanupTracked =>
    (capacityReserved = true → 0 < g.places) ∧ (cleanupTracked = true → 0 < g.tracked)
  | .takeExpired _ => g.Free
  | .recoverInsert .. => g.recovering = true
  | .drainSessions => g.Free ∧ g.closing = true
  | .releaseReservation => 0 < g.places
  | _ => True

/-- What the shared state answers. -/
def Answered : CallEvent → Prop
  | ⟨.claimExistingSession sessionID, .ok claim, _⟩ => claim.sessionID = sessionID ∧ claim.created = false
  | ⟨.drainSessions, retired, _⟩ => ∀ r ∈ retired, r.cleanupTracked = false
  | _ => True

/-- A call that is over has given everything back. -/
structure Finished (g : Phase) : Prop where
  holds : g.holds = false
  creating : g.creating = false
  hand : g.hand = none
  clean : g.Clean

end Phase

/-- The protocol of the calls. -/
def managerProtocol : Protocol ManagerOp ManagerOp.Res Unit Phase where
  allowed := Phase.Allowed
  answers _ e := Phase.Answered e
  next := Phase.next

/-- From `g`, the program keeps to the protocol and ends as `Q` says. -/
abbrev ManagerMeets {α : Type} (g : Phase) (p : Manager α) (Q : α → Phase → Prop) : Prop :=
  Prog.Meets managerProtocol g p Q

/-- How a call starts. -/
def ManagerCall.start : ManagerCall → Phase
  | .recover _ => { recovering := true }
  | .close preserve => { preserving := preserve }
  | _ => {}

variable {lib : BoxLiteLib} {cfg : ManagerSettings} {g : Phase}

/-! ## Cleaning up -/

section CleaningUp

variable {Q : Unit → Phase → Prop}

theorem Phase.retire_clean (h : g.Clean) : g.retire [] = g := by
  obtain ⟨recovering, preserving, closing, claim, holds, creating, hand, removes, places, tracked⟩ := g
  obtain ⟨rfl, rfl, rfl⟩ : removes = [] ∧ places = 0 ∧ tracked = 0 := h
  rfl

variable {r : Retired}

theorem retiredBoxes_cons_blank (h : trimSpace r.boxID = "") (rest : List Retired) :
    retiredBoxes (r :: rest) = retiredBoxes rest := by
  rw [retiredBoxes, List.filter_cons_of_neg (by simpa using h)]
  rfl

theorem retiredBoxes_cons (h : trimSpace r.boxID ≠ "") (rest : List Retired) :
    retiredBoxes (r :: rest) = r.boxID :: retiredBoxes rest := by
  rw [retiredBoxes, List.filter_cons_of_pos (by simpa using h)]
  rfl

/-- Dropping the guard of the first session that is left to clean up. -/
theorem meets_dropCleanupGuard {rest : List Retired}
    (hplaces : g.places = retiredPlaces (r :: rest))
    (htracked : g.tracked = retiredTracked (r :: rest))
    (hQ : Q () { g with places := retiredPlaces rest, tracked := retiredTracked rest }) :
    ManagerMeets g (perform (.dropCleanupGuard r.capacityReserved r.cleanupTracked)) Q := by
  have hcount : ∀ b : Bool, ∀ n : Nat, (if b = true then n + (if b = true then 1 else 0) - 1
      else n + (if b = true then 1 else 0)) = n := by
    rintro (_ | _) n <;> simp
  rw [retiredPlaces, List.countP_cons] at hplaces
  rw [retiredTracked, List.countP_cons] at htracked
  refine .last ⟨fun hr => ?_, fun ht => ?_⟩ fun _ _ _ => ?_
  · rw [hplaces, if_pos hr]
    exact Nat.succ_pos _
  · rw [htracked, if_pos ht]
    exact Nat.succ_pos _
  · change Q () { g with
      places := if r.capacityReserved then g.places - 1 else g.places
      tracked := if r.cleanupTracked then g.tracked - 1 else g.tracked }
    rw [hplaces, htracked, hcount, hcount]
    exact hQ

theorem meets_cleanupRetiredSession {rest : List Retired} (hQ : Q () (g.retire rest)) :
    ManagerMeets (g.retire (r :: rest)) (cleanupRetiredSession r) Q := by
  unfold cleanupRetiredSession
  split
  · rename_i hbox
    refine .call ⟨_, retiredBoxes_cons hbox rest⟩ fun _ _ _ => ?_
    refine meets_dropCleanupGuard rfl rfl ?_
    change Q () { g.retire rest with removes := (retiredBoxes (r :: rest)).tail }
    rw [retiredBoxes_cons hbox]
    exact hQ
  · rename_i hblank
    refine meets_dropCleanupGuard rfl rfl ?_
    change Q () { g.retire rest with removes := retiredBoxes (r :: rest) }
    rw [retiredBoxes_cons_blank (not_not.mp hblank)]
    exact hQ

theorem meets_cleanupRetired {retired : Option Retired} (hclean : g.Clean) (hQ : Q () g) :
    ManagerMeets (g.retire retired.toList) (cleanupRetired retired) Q := by
  rw [← Phase.retire_clean hclean] at hQ
  cases retired with
  | none => exact .pure hQ
  | some r => exact meets_cleanupRetiredSession hQ

theorem meets_cleanupRetiredSessions {retired : List Retired} (hclean : g.Clean) (hQ : Q () g) :
    ManagerMeets (g.retire retired) (cleanupRetiredSessions retired) Q := by
  rw [← Phase.retire_clean hclean] at hQ
  induction retired with
  | nil => exact .pure hQ
  | cons r rest ih => exact .bind (meets_cleanupRetiredSession ih)

end CleaningUp

/-- A call that gave back its slot, with its guard. -/
structure Phase.Released (creating : Bool) (g : Phase) : Prop where
  holds : g.holds = false
  creating : g.creating = creating
  hand : g.hand = none
  clean : g.Clean

theorem Phase.Released.finished (h : g.Released false) : g.Finished := ⟨h.holds, h.creating, h.hand, h.clean⟩

theorem Phase.Free.finished (h : g.Free) : g.Finished := ⟨h.holds, h.creating, h.hand, h.clean⟩

variable {claim : Claim}

theorem Phase.Ready.released (h : g.Ready claim) :
    Phase.Released g.creating { g with holds := false } := ⟨rfl, rfl, h.hand, h.clean⟩

variable {sessionID : String}

/-- Giving back the slot, and cleaning up if it was the last one. -/
theorem meets_releaseSession (h : g.Ready claim) (hid : claim.sessionID = sessionID) :
    ManagerMeets g (releaseSession sessionID) fun _ g' => g'.Released g.creating := by
  have hclean : Phase.Clean { g with holds := false } := h.clean
  refine .call ⟨claim, h, hid⟩ fun answer _ _ => ?_
  match answer with
  | none =>
    have hreleased := h.released
    rw [← Phase.retire_clean hclean] at hreleased
    exact .pure hreleased
  | some (lease, retired) =>
    exact .bind (meets_cleanupRetired hclean (.pure h.released))

/-- Giving back the slot of a session that is destroyed. -/
theorem meets_releaseAndDestroySession (h : g.Ready claim) (hid : claim.sessionID = sessionID) :
    ManagerMeets g (releaseAndDestroySession sessionID) fun _ g' => g'.Released g.creating := by
  have hclean : Phase.Clean { g with holds := false } := h.clean
  exact .call ⟨claim, h, hid⟩ fun retired _ _ => meets_cleanupRetired hclean h.released

/-! ## execute -/

/-- What is left behind by the part that gets the box. -/
def Phase.Boxed (claim : Claim) (result : Except OperationError String) (g : Phase) : Prop :=
  match result with
  | .ok _ => g.Ready claim ∧ g.creating = false
  | .error _ => g.Finished

variable {deadlineUnixMs : Int}

theorem meets_createBox (h : g.Ready claim) (hcreating : g.creating = true) :
    ManagerMeets g (createBox claim deadlineUnixMs) (Phase.Boxed claim) := by
  refine .call ⟨claim, h, rfl, hcreating⟩ fun created _ _ => ?_
  cases created with
  | ok boxID =>
    refine .call ⟨claim, h.holds, rfl, hcreating, rfl, h.clean⟩ fun published _ _ => ?_
    cases published with
    | true =>
      refine .call hcreating fun _ _ _ => .pure ?_
      exact ⟨⟨h.holds, rfl, h.clean⟩, rfl⟩
    | false =>
      refine .call ⟨[], rfl⟩ fun _ _ _ => .call hcreating fun _ _ _ => .pure ?_
      exact ⟨rfl, rfl, rfl, ⟨rfl, h.clean.2⟩⟩
  | error err =>
    refine .call trivial fun _ _ _ => .bind ?_
    refine (meets_releaseAndDestroySession h rfl).mono fun _ g' h' => ?_
    refine .call (h'.creating.trans hcreating) fun _ _ _ => .pure ?_
    exact ⟨h'.holds, rfl, h'.hand, h'.clean⟩

theorem meets_awaitSessionReady {Q : Except OperationError String → Phase → Prop}
    (hQ : ∀ result, Q result g) :
    ManagerMeets g (awaitSessionReady claim deadlineUnixMs) Q := by
  refine .call trivial fun now _ _ => ?_
  split
  · exact .pure (hQ _)
  · exact .last trivial fun result _ _ => hQ result

theorem meets_joinBox (h : g.Ready claim) (hcreating : g.creating = false) :
    ManagerMeets g (joinBox claim deadlineUnixMs) (Phase.Boxed claim) := by
  refine .bind (meets_awaitSessionReady fun result => ?_)
  cases result with
  | ok boxID => exact .pure ⟨h, hcreating⟩
  | error err =>
    refine .seq (meets_releaseSession h rfl) fun _ _ h' => .pure ?_
    rw [hcreating] at h'
    exact h'.finished

variable {boxID command : String}

theorem meets_runInBox (h : g.Ready claim) (hcreating : g.creating = false) :
    ManagerMeets g (runInBox cfg claim boxID command deadlineUnixMs) fun _ g' => g'.Finished := by
  have hrelease := meets_releaseSession h rfl
  have hdestroy := meets_releaseAndDestroySession h rfl
  rw [hcreating] at hrelease hdestroy
  refine .call trivial fun output _ _ => ?_
  match output with
  | .ok output =>
    refine .seq hrelease fun lease _ h' => ?_
    cases lease <;> exact .pure h'.finished
  | .error .deadlineExceeded | .error .missingBox =>
    exact .seq hdestroy fun _ _ h' => .pure h'.finished
  | .error (.executionFailed message) =>
    exact .seq hrelease fun _ _ h' => .pure h'.finished

theorem Phase.Free.ready (h : g.Free) (claim : Claim) : (g.take claim).Ready claim :=
  ⟨⟨rfl, rfl⟩, h.hand, h.clean⟩

theorem meets_execInSession (h : g.Free) :
    ManagerMeets (g.take claim) (execInSession cfg claim command deadlineUnixMs)
      fun _ g' => g'.Finished := by
  have hbox : ManagerMeets (g.take claim)
      (if claim.created then createBox claim deadlineUnixMs else joinBox claim deadlineUnixMs)
      (Phase.Boxed claim) := by
    split
    · rename_i hcreated
      exact meets_createBox (h.ready claim) hcreated
    · rename_i hjoined
      exact meets_joinBox (h.ready claim) (eq_false_of_ne_true hjoined)
  refine .seq hbox fun result g' h' => ?_
  cases result with
  | error err => exact .pure h'
  | ok boxID => exact meets_runInBox h'.1 h'.2

theorem meets_execute {req : TerminalExecRequest} (h : g.Free) :
    ManagerMeets g (execute lib cfg req) fun _ g' => g'.Finished := by
  unfold execute
  split
  · exact .pure h.finished
  · cases resolveLeaseDuration lib cfg req.leaseTTLSec with
    | error err => exact .pure h.finished
    | ok leaseDuration =>
      refine .call trivial fun now _ _ => .call h fun claimed _ _ => ?_
      cases claimed with
      | error err => exact .pure h.finished
      | ok claim => exact meets_execInSession h

/-! ## The other calls -/

theorem meets_renewLease {leaseTTLSec : Int32} (h : g.Free) :
    ManagerMeets g (renewLease lib cfg sessionID leaseTTLSec) fun _ g' => g'.Finished := by
  unfold renewLease
  split
  · exact .pure h.finished
  · cases resolveLeaseDuration lib cfg (some leaseTTLSec) with
    | error err => exact .pure h.finished
    | ok leaseDuration =>
      refine .call trivial fun now _ _ => .call trivial fun result _ _ => ?_
      cases result <;> exact .pure h.finished

variable {signedURL : String} {headers : List (String × String)}

/-- Probing, copying and uploading leave the phase alone. -/
theorem meets_exportFile {result : TerminalResourceRunResult}
    {Q : Except ResourceFailure TerminalResourceRunResult → Phase → Prop}
    (hQ : ∀ result, Q result g) :
    ManagerMeets g (exportFile boxID result signedURL headers deadlineUnixMs) Q := by
  refine .call trivial fun err _ _ => ?_
  cases err with
  | some err => exact .pure (hQ _)
  | none =>
    refine .call trivial fun err _ _ => ?_
    cases err <;> exact .pure (hQ _)

theorem meets_resolveResourceInSession {sessionID filePath : String} {action : ResourceAction}
    {Q : Except ResourceFailure TerminalResourceRunResult → Phase → Prop}
    (hQ : ∀ result, Q result g) :
    ManagerMeets g (resolveResourceInSession lib cfg boxID sessionID filePath action signedURL headers
      deadlineUnixMs) Q := by
  refine .call trivial fun output _ _ => ?_
  cases output with
  | error err => exact .pure (hQ _)
  | ok output =>
    dsimp only
    cases readProbe lib output with
    | error err => exact .pure (hQ _)
    | ok probe =>
      cases action with
      | validate | read => exact .pure (hQ _)
      | «export» =>
        change ManagerMeets g (if 0 < cfg.exportMaxBytes ∧ (cfg.exportMaxBytes : Int) < probe.size then
          pure _ else _) Q
        split
        · exact .pure (hQ _)
        · exact meets_exportFile hQ

theorem meets_settleResource {result : Except ResourceFailure TerminalResourceRunResult}
    (h : g.Ready claim) (hcreating : g.creating = false) (hid : claim.sessionID = sessionID) :
    ManagerMeets g (settleResource sessionID result) fun _ g' => g'.Finished := by
  have hrelease := meets_releaseSession h hid
  have hdestroy := meets_releaseAndDestroySession h hid
  rw [hcreating] at hrelease hdestroy
  cases result with
  | ok result => exact .seq hrelease fun _ _ h' => .pure h'.finished
  | error failure =>
    unfold settleResource
    dsimp only
    split
    · exact .seq hdestroy fun _ _ h' => .pure h'.finished
    · exact .seq hrelease fun _ _ h' => .pure h'.finished

theorem meets_resolveResource {req : TerminalResourceRequest} (h : g.Free) :
    ManagerMeets g (resolveResource lib cfg req) fun _ g' => g'.Finished := by
  unfold resolveResource
  split
  · exact .pure h.finished
  · cases normalizeTerminalResourceAction req.action with
    | none => exact .pure h.finished
    | some action =>
      dsimp only
      split
      · exact .pure h.finished
      · split
        · exact .pure h.finished
        · refine .call h fun claimed _ hanswer => ?_
          cases claimed with
          | error err => exact .pure h.finished
          | ok claim =>
            obtain ⟨hid, hcreated⟩ := hanswer
            refine .seq (meets_joinBox (h.ready claim) hcreated) fun result g' h' => ?_
            cases result with
            | error err => exact .pure h'
            | ok boxID =>
              refine .bind (meets_resolveResourceInSession fun result => ?_)
              exact meets_settleResource h'.1 h'.2 hid

theorem meets_recoverOneSession {leaseExpiresAt : Int} (hrec : g.recovering = true)
    {Q : Except OperationError Bool → Phase → Prop} (hQ : ∀ result, Q result g) :
    ManagerMeets g (recoverOneSession sessionID leaseExpiresAt) Q := by
  refine .call trivial fun found _ _ => ?_
  match found with
  | .error err | .ok true => exact .pure (hQ _)
  | .ok false =>
    refine .call trivial fun recovered _ _ => ?_
    match recovered with
    | .error err | .ok none => exact .pure (hQ _)
    | .ok (some boxID) => exact .last hrec fun result _ _ => hQ result

variable {candidates : List RecoveryCandidate} {now : Int}

theorem meets_recoverCandidate {candidate : RecoveryCandidate} (hrec : g.recovering = true)
    {Q : Docker.RecoveryStatus → Phase → Prop} (hQ : ∀ status, Q status g) :
    ManagerMeets g (recoverCandidate now candidate) Q := by
  unfold recoverCandidate
  split
  · exact .pure (hQ _)
  · exact .bind (meets_recoverOneSession hrec fun found => .pure (hQ _))

theorem meets_recoverCandidates (hrec : g.recovering = true)
    {Q : List Docker.RecoveryResult × List String → Phase → Prop} (hQ : ∀ result, Q result g) :
    ManagerMeets g (recoverCandidates lib now candidates) Q := by
  induction candidates generalizing Q with
  | nil => exact .pure (hQ _)
  | cons candidate candidates ih =>
    exact .bind (meets_recoverCandidate hrec fun status => .bind (ih fun result => .pure (hQ _)))

theorem meets_recoverSessions (h : g.Free) (hrec : g.recovering = true) :
    ManagerMeets g (recoverSessions lib candidates) fun _ g' => g'.Finished := by
  refine .call trivial fun now _ _ => .bind (meets_recoverCandidates hrec fun result => ?_)
  exact .call trivial fun count _ _ => .pure h.finished

theorem meets_releaseReservations {retired : List Retired} {Q : Unit → Phase → Prop}
    (hplaces : g.places = retiredPlaces retired) (hQ : Q () { g with places := 0 }) :
    ManagerMeets g (releaseReservations retired) Q := by
  induction retired generalizing g with
  | nil =>
    obtain ⟨recovering, preserving, closing, claim, holds, creating, hand, removes, places, tracked⟩ := g
    obtain rfl : places = 0 := hplaces
    exact .pure hQ
  | cons r rest ih =>
    rw [retiredPlaces, List.countP_cons] at hplaces
    unfold releaseReservations
    split
    · rename_i hreserved
      rw [if_pos hreserved] at hplaces
      have hpos : 0 < g.places := hplaces ▸ Nat.succ_pos _
      refine .call hpos fun _ _ _ => ih ?_ hQ
      change g.places - 1 = _
      rw [hplaces]
      rfl
    · rename_i hfree
      rw [if_neg hfree] at hplaces
      exact ih hplaces hQ

theorem meets_closeInner {preserve : Bool} (h : g.Free) (hpreserve : g.preserving = preserve) :
    ManagerMeets g (closeInner preserve) fun _ g' => g'.Finished := by
  refine .call trivial fun closed _ _ => ?_
  cases closed with
  | true => exact .pure h.finished
  | false =>
    refine .call trivial fun _ _ _ => .call trivial fun _ _ _ => ?_
    have hfree : Phase.Free { g with closing := true } := ⟨h.claim, h.holds, h.creating, h.hand, h.clean⟩
    refine .call ⟨hfree, rfl⟩ fun retired _ hanswer => .call trivial fun _ _ _ => ?_
    have huntracked : retiredTracked retired = 0 := by
      rw [retiredTracked, List.countP_eq_zero]
      exact fun r hr htracked => nomatch (hanswer r hr).symm.trans htracked
    cases preserve with
    | true =>
      refine meets_releaseReservations rfl ⟨hfree.holds, hfree.creating, hfree.hand, ?_, rfl, huntracked⟩
      exact if_pos hpreserve
    | false =>
      have hsame : Phase.drain { g with closing := true } retired =
          Phase.retire { g with closing := true } retired := by
        unfold Phase.drain
        rw [show Phase.preserving { g with closing := true } = false from hpreserve]
        rfl
      change ManagerMeets (Phase.drain { g with closing := true } retired) (cleanupRetiredSessions retired) _
      rw [hsame]
      exact meets_cleanupRetiredSessions hfree.clean hfree.finished

/-! ## All calls -/

theorem free_start (c : ManagerCall) : c.start.Free := by
  cases c <;> exact ⟨rfl, rfl, rfl, rfl, rfl, rfl, rfl⟩

theorem meets_cleanupExpiredSessions (h : g.Free) :
    ManagerMeets g cleanupExpiredSessions fun _ g' => g'.Finished := by
  refine .call trivial fun now _ _ => .call h fun expired _ _ => ?_
  exact meets_cleanupRetiredSessions h.clean h.finished

/-- All calls keep to the protocol, and give everything back. -/
theorem meets_body (c : ManagerCall) :
    ManagerMeets c.start (c.body lib cfg) fun _ g' => g'.Finished := by
  have hfree := free_start c
  cases c with
  | execute req =>
    exact .seq (meets_execute hfree) fun _ _ hdone =>
      .last trivial fun _ _ _ => hdone
  | resolveResource req =>
    exact .seq (meets_resolveResource hfree) fun _ _ hdone =>
      .last trivial fun _ _ _ => hdone
  | renewLease sessionID leaseTTLSec =>
    exact .seq (meets_renewLease hfree) fun _ _ hdone =>
      .last trivial fun _ _ _ => hdone
  | resolveProxyTarget sessionID guestPort now =>
    exact .call trivial fun _ _ _ => .last trivial fun _ _ _ => hfree.finished
  | recover candidates =>
    exact .seq (meets_recoverSessions hfree rfl) fun _ _ hdone =>
      .last trivial fun _ _ _ => hdone
  | janitor => exact meets_cleanupExpiredSessions hfree
  | close preserve => exact meets_closeInner hfree rfl

end Onlyboxes.BoxLite
