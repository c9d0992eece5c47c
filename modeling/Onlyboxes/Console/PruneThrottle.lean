import Mathlib.Data.List.Chain
import Onlyboxes.Console.TerminalRoutes
import Onlyboxes.ForStd.List
import Onlyboxes.ForStd.Machine

/-!
# Throttled pruning

`maybePruneTerminalSessionRoutes` and `maybePruneExpiredTasks` prune at most once in an
interval. They share one atomic counter each, and any number of callers load it and swap it
at any time, with clocks of their own.

## Key results

- `prune_throttled`: the swaps are an interval apart, and each is followed by its prune
-/

namespace Onlyboxes.Console

/-- Where a caller is: before the load, between the load and the swap, after its swap, or
    done with or without a prune. -/
inductive PrunePhase
  | loading
  | swapping (last : Int)
  | pruning
  | pruned
  | skipped
deriving DecidableEq, Repr

/-- What a caller `i` has done that others can see. -/
inductive PruneEvent
  | stored (i : Nat) (now : Int)
  | pruned (i : Nat)
deriving DecidableEq, Repr

def PruneEvent.caller : PruneEvent → Nat
  | .stored i _ | .pruned i => i

def PruneEvent.value : PruneEvent → Option Int
  | .stored _ now => some now
  | .pruned _ => none

/-- The counter, the callers with their `nowUnixMs`, and what they did, latest first. -/
structure PruneState where
  last : Int := 0
  calls : List (Int × PrunePhase) := []
  log : List PruneEvent := []
deriving DecidableEq, Repr

/-- A call begins, or the caller `i` takes its next atomic step. -/
inductive PruneAction
  | call (now : Int)
  | step (i : Nat)

/-- The next atomic step of caller `i`. -/
def PruneState.advance (minIntervalMs : Int) (s : PruneState) (i : Nat) (now : Int) :
    PrunePhase → Option PruneState
  | .loading =>
    let phase := if 0 < s.last ∧ now - s.last < minIntervalMs then .skipped else .swapping s.last
    some { s with calls := s.calls.set i (now, phase) }
  | .swapping last =>
    if s.last = last then
      some ⟨now, s.calls.set i (now, .pruning), .stored i now :: s.log⟩
    else some { s with calls := s.calls.set i (now, .loading) }
  | .pruning =>
    some { s with calls := s.calls.set i (now, .pruned), log := .pruned i :: s.log }
  | .pruned | .skipped => none

/-- `maybePruneTerminalSessionRoutes` and `maybePruneExpiredTasks`, which are the same loop
    with intervals of their own: any number of callers, one atomic step at a time. -/
def throttle (minIntervalMs : Int) : Machine PruneState PruneAction where
  init s := s = {}
  step s
    | .call now => if 0 < now then some { s with calls := s.calls ++ [(now, .loading)] } else none
    | .step i => (s.calls[i]?).bind fun call => s.advance minIntervalMs i call.1 call.2

/-- What a caller has done where it is, latest first. -/
def PrunePhase.events (i : Nat) (now : Int) : PrunePhase → List PruneEvent
  | .loading | .swapping _ | .skipped => []
  | .pruning => [.stored i now]
  | .pruned => [.pruned i, .stored i now]

/-- The values stored, latest first. -/
def storedValues (log : List PruneEvent) : List Int := log.filterMap PruneEvent.value

/-- Caller `i` has done what belongs to where it is, and went there for a reason. -/
structure Placed (minIntervalMs : Int) (log : List PruneEvent) (i : Nat) (now : Int)
    (phase : PrunePhase) : Prop where
  positive : 0 < now
  events : log.filter (·.caller == i) = phase.events i now
  swaps : ∀ last, phase = .swapping last → 0 < last → last + minIntervalMs ≤ now
  skips : phase = .skipped → ∃ v ∈ storedValues log, now - v < minIntervalMs

/-- The values are an interval apart, the counter is the latest of them, and every caller is
    where its events say. -/
structure Throttled (minIntervalMs : Int) (s : PruneState) : Prop where
  spaced : (storedValues s.log).IsChain fun new old => old + minIntervalMs ≤ new
  last : s.last = (storedValues s.log).headD 0
  positive : ∀ v ∈ storedValues s.log, 0 < v
  callers : ∀ e ∈ s.log, e.caller < s.calls.length
  placed : ∀ i now phase, s.calls[i]? = some (now, phase) → Placed minIntervalMs s.log i now phase

variable {minIntervalMs now : Int} {s s' : PruneState} {i : Nat} {phase phase' : PrunePhase}

/-- What another caller does. -/
theorem Placed.append {es log : List PruneEvent} (h : Placed minIntervalMs log i now phase)
    (hes : ∀ e ∈ es, e.caller ≠ i) : Placed minIntervalMs (es ++ log) i now phase := by
  refine ⟨h.positive, ?_, h.swaps, fun hskip => ?_⟩
  · rw [List.filter_append, List.filter_eq_nil_iff.mpr (by simpa using hes), h.events]
    rfl
  · obtain ⟨v, hv, hnear⟩ := h.skips hskip
    exact ⟨v, ((List.sublist_append_right es log).filterMap _).subset hv, hnear⟩

section

variable (h : Throttled minIntervalMs s) (hi : s.calls[i]? = some (now, phase))

include h hi

/-- Caller `i` moves on, leaving the events `es`. -/
theorem Throttled.move (es : List PruneEvent) {last : Int} (hes : ∀ e ∈ es, e.caller = i)
    (hspaced : (storedValues (es ++ s.log)).IsChain fun new old => old + minIntervalMs ≤ new)
    (hlast : last = (storedValues (es ++ s.log)).headD 0)
    (hpositive : ∀ v ∈ storedValues (es ++ s.log), 0 < v)
    (hplaced : Placed minIntervalMs (es ++ s.log) i now phase') :
    Throttled minIntervalMs ⟨last, s.calls.set i (now, phase'), es ++ s.log⟩ := by
  refine ⟨hspaced, hlast, hpositive, ?_, fun j now' phase'' hj => ?_⟩
  · rw [List.length_set]
    refine List.forall_mem_append.mpr ⟨fun e he => ?_, h.callers⟩
    exact hes e he ▸ (List.getElem?_eq_some_iff.mp hi).1
  · rcases List.getElem?_set_cases hj with ⟨rfl, heq⟩ | ⟨hne, hj⟩
    · cases heq
      exact hplaced
    · exact (h.placed j now' phase'' hj).append fun e he => (hes e he).trans_ne hne

/-- An atomic step keeps everything in place. -/
theorem Throttled.advance (hs : s.advance minIntervalMs i now phase = some s') :
    Throttled minIntervalMs s' := by
  have hplaced := h.placed i now phase hi
  have hown (e : PruneEvent) (he : e.caller = i) :
      (e :: s.log).filter (·.caller == i) = e :: phase.events i now := by
    rw [List.filter_cons_of_pos (by simp [he]), hplaced.events]
  cases phase with
  | loading =>
    cases hs
    refine h.move hi [] nofun h.spaced h.last h.positive ⟨hplaced.positive, ?_, ?_, ?_⟩
    · split <;> exact hplaced.events
    · intro last hlast hpos
      split at hlast
      · nomatch hlast
      · cases hlast
        omega
    · intro hskip
      split at hskip
      · rename_i hnear
        rw [h.last] at hnear
        cases hstored : storedValues s.log with
        | nil =>
          rw [hstored] at hnear
          exact absurd hnear.1 (by decide)
        | cons v vs =>
          rw [hstored] at hnear
          exact ⟨v, hstored ▸ List.mem_cons_self, hnear.2⟩
      · nomatch hskip
  | swapping last =>
    simp only [PruneState.advance] at hs
    split at hs
    · rename_i hsame
      cases hs
      refine h.move hi [.stored i now] (by simp [PruneEvent.caller]) ?_ rfl
        (List.forall_mem_cons.mpr ⟨hplaced.positive, h.positive⟩)
        ⟨hplaced.positive, hown _ rfl, nofun, nofun⟩
      -- The counter is still what was loaded, so the loaded value is the latest one stored.
      have hlast := h.last
      have hpositive := h.positive
      have hspaced := h.spaced
      change (now :: storedValues s.log).IsChain _
      cases hstored : storedValues s.log with
      | nil => exact .singleton _
      | cons v vs =>
        rw [hstored] at hlast hpositive hspaced
        have hv : v = last := hlast.symm.trans hsame
        exact hspaced.cons_cons (hplaced.swaps v (hv ▸ rfl) (hpositive v List.mem_cons_self))
    · cases hs
      exact h.move hi [] nofun h.spaced h.last h.positive
        ⟨hplaced.positive, hplaced.events, nofun, nofun⟩
  | pruning =>
    cases hs
    exact h.move hi [.pruned i] (by simp [PruneEvent.caller]) h.spaced h.last h.positive
      ⟨hplaced.positive, hown _ rfl, nofun, nofun⟩
  | pruned => nomatch hs
  | skipped => nomatch hs

end

theorem Throttled.of_reachable (h : (throttle minIntervalMs).Reachable s) :
    Throttled minIntervalMs s := by
  refine h.invariant ?_ ?_
  · rintro s rfl
    exact ⟨.nil, rfl, nofun, nofun, nofun⟩
  · intro s a s' _ hinv _ hs
    cases a with
    | call now =>
      simp only [throttle] at hs
      split at hs
      · rename_i hnow
        cases hs
        refine { hinv with callers := ?_, placed := ?_ }
        · intro e he
          rw [List.length_append]
          exact Nat.lt_add_right _ (hinv.callers e he)
        · intro i now' phase hi
          rcases List.getElem?_concat_cases hi with ⟨-, hi⟩ | ⟨rfl, heq⟩
          · exact hinv.placed i now' phase hi
          · cases heq
            refine ⟨hnow, List.filter_eq_nil_iff.mpr fun e he => ?_, nofun, nofun⟩
            simpa using (hinv.callers e he).ne
      · nomatch hs
    | step i =>
      obtain ⟨⟨now, phase⟩, hi, hs⟩ := Option.bind_eq_some_iff.mp hs
      exact hinv.advance hi hs

/-- For any number of callers with any clocks and in every interleaving of their loads and
    swaps: the stored values are an interval apart; a caller that has stored one prunes next,
    once; nobody else prunes; and a caller that gives up saw a value that is later than its
    time or less than an interval before. -/
theorem prune_throttled (minIntervalMs : Int) (s : PruneState)
    (h : (throttle minIntervalMs).Reachable s) :
    (storedValues s.log).IsChain (fun new old => old + minIntervalMs ≤ new) ∧
    (∀ e ∈ s.log, e.caller < s.calls.length) ∧
    ∀ i now phase, s.calls[i]? = some (now, phase) →
      s.log.filter (·.caller == i) = phase.events i now ∧
      (phase = .pruning → ∃ s', (throttle minIntervalMs).step s (.step i) = some s' ∧
        s'.log = .pruned i :: s.log) ∧
      (phase = .skipped → ∃ v ∈ storedValues s.log, now - v < minIntervalMs) := by
  have hinv := Throttled.of_reachable h
  refine ⟨hinv.spaced, hinv.callers, fun i now phase hi => ?_⟩
  have hplaced := hinv.placed i now phase hi
  refine ⟨hplaced.events, ?_, hplaced.skips⟩
  rintro rfl
  exact ⟨_, by simp only [throttle, hi]; rfl, rfl⟩

/-- Two callers that loaded the same value: one stores its time and prunes, the other gives up. -/
def pruneRaced : PruneState where
  last := 100000
  calls := [(100000, .pruned), (100001, .skipped)]
  log := [.pruned 0, .stored 0 100000]

theorem prune_throttled_raced :
    (throttle terminalRoutePruneMinIntervalMs).Reachable pruneRaced ∧
    ∃ v ∈ storedValues pruneRaced.log, 100001 - v < terminalRoutePruneMinIntervalMs := by
  have h : (throttle terminalRoutePruneMinIntervalMs).Reachable pruneRaced :=
    Machine.reachable_run [.call 100000, .call 100001, .step 0, .step 1, .step 0, .step 1, .step 1,
      .step 0] (.init rfl) rfl
  exact ⟨h, ((prune_throttled _ _ h).2.2 1 100001 .skipped rfl).2.2 rfl⟩

end Onlyboxes.Console
