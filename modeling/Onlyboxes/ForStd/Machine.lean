import Mathlib.Logic.Relation

/-!
# Transition systems

A system is a set of initial states and a partial step function on labelled
actions. Runs are described by the states they reach, under a condition on the
steps they take; with the trivial condition these are all reachable states.

## Key results

- `Machine.ReachableWhere.invariant`: what initial states satisfy and admitted
  steps preserve holds in every state reached
- `Machine.LeadsTo.invariant`: the same from a point of a run on
- `Machine.reachable_run`: executing a list of actions gives a reached state
-/

/-- A labelled transition system with a partial step function. -/
structure Machine (σ α : Type) where
  init : σ → Prop
  step : σ → α → Option σ

namespace Machine

variable {σ α : Type} {M : Machine σ α} {ok ok' : σ → α → Prop} {s s' : σ}

/-- The states reached by runs all of whose steps meet the condition `ok`. -/
inductive ReachableWhere (M : Machine σ α) (ok : σ → α → Prop) : σ → Prop
  | init {s : σ} (h : M.init s) : ReachableWhere M ok s
  | step {s s' : σ} (a : α) (h : ReachableWhere M ok s) (hok : ok s a)
      (hs : M.step s a = some s') : ReachableWhere M ok s'

/-- The states reached by any run. -/
abbrev Reachable (M : Machine σ α) : σ → Prop := M.ReachableWhere fun _ _ => True

variable {P : σ → Prop}

/-- Induction over runs: a property of the initial states that admitted steps
    preserve holds in every state reached. -/
theorem ReachableWhere.invariant (hinit : ∀ s, M.init s → P s)
    (hstep : ∀ s a s', M.ReachableWhere ok s → P s → ok s a → M.step s a = some s' → P s')
    (h : M.ReachableWhere ok s) : P s := by
  induction h with
  | init h => exact hinit _ h
  | step a h hok hs ih => exact hstep _ a _ h ih hok hs

/-- A run that meets a condition meets every weaker one. -/
theorem ReachableWhere.mono (himp : ∀ s a, ok s a → ok' s a) (h : M.ReachableWhere ok s) :
    M.ReachableWhere ok' s := by
  induction h with
  | init h => exact .init h
  | step a _ hok hs ih => exact .step a ih (himp _ _ hok) hs

/-- The states that runs lead to from `s`, all of whose steps meet the condition `ok`. -/
abbrev LeadsTo (M : Machine σ α) (ok : σ → α → Prop) (s : σ) : σ → Prop :=
  ReachableWhere { init := (· = s), step := M.step } ok

/-- A run goes on where it is. -/
theorem ReachableWhere.leadsTo (h : M.ReachableWhere ok s) (hrun : M.LeadsTo ok s s') :
    M.ReachableWhere ok s' := by
  induction hrun with
  | init hs => exact hs ▸ h
  | step a _ hok hs ih => exact .step a ih hok hs

/-- What holds at a point of a run, and admitted steps preserve, holds from there on. The
    run up to that point may meet a weaker condition. -/
theorem LeadsTo.invariant_of_imp (himp : ∀ s a, ok s a → ok' s a) (hreach : M.ReachableWhere ok' s)
    (hs : P s)
    (hstep : ∀ s a s', M.ReachableWhere ok' s → P s → ok s a → M.step s a = some s' → P s')
    (h : M.LeadsTo ok s s') : P s' := by
  induction h with
  | init heq => exact heq ▸ hs
  | step a h hok hstep' ih => exact hstep _ a _ (hreach.leadsTo (h.mono himp)) ih hok hstep'

theorem LeadsTo.invariant (hreach : M.ReachableWhere ok s) (hs : P s)
    (hstep : ∀ s a s', M.ReachableWhere ok s → P s → ok s a → M.step s a = some s' → P s')
    (h : M.LeadsTo ok s s') : P s' :=
  h.invariant_of_imp (fun _ _ h => h) hreach hs hstep

/-- Executes a list of actions. -/
def run (M : Machine σ α) : σ → List α → Option σ
  | s, [] => some s
  | s, a :: as =>
    match M.step s a with
    | none => none
    | some s' => M.run s' as

/-- An executed list of actions leads from reached states to reached states. -/
theorem reachable_run (as : List α) (h : M.Reachable s) (hrun : M.run s as = some s') :
    M.Reachable s' := by
  induction as generalizing s with
  | nil =>
    cases hrun
    exact h
  | cons a as ih =>
    unfold run at hrun
    split at hrun
    · nomatch hrun
    · rename_i s₁ hs
      exact ih (.step a h trivial hs) hrun

theorem LeadsTo.single (a : α) (hok : ok s a) (hs : M.step s a = some s') : M.LeadsTo ok s s' :=
  .step a (.init rfl) hok hs

theorem LeadsTo.trans {s'' : σ} (h : M.LeadsTo ok s s') (h' : M.LeadsTo ok s' s'') :
    M.LeadsTo ok s s'' := by
  induction h' with
  | init heq => exact heq ▸ h
  | step a _ hok hs ih => exact .step a ih hok hs

/-- An executed list of actions is a run. -/
theorem leadsTo_run (hok : ∀ s a, ok s a) (as : List α) (hrun : M.run s as = some s') :
    M.LeadsTo ok s s' := by
  induction as generalizing s with
  | nil =>
    cases hrun
    exact .init rfl
  | cons a as ih =>
    unfold run at hrun
    split at hrun
    · nomatch hrun
    · rename_i s₁ hs
      exact (LeadsTo.single a (hok s a) hs).trans (ih hrun)

/-- Executes a list of actions as long as they meet a condition. -/
def runWhere (M : Machine σ α) (ok : σ → α → Bool) : σ → List α → Option σ
  | s, [] => some s
  | s, a :: as =>
    if ok s a then
      match M.step s a with
      | none => none
      | some s' => M.runWhere ok s' as
    else none

theorem reachableWhere_runWhere (okb : σ → α → Bool) (hok : ∀ s a, okb s a = true → ok s a)
    (as : List α) (h : M.ReachableWhere ok s) (hrun : M.runWhere okb s as = some s') :
    M.ReachableWhere ok s' := by
  induction as generalizing s with
  | nil =>
    cases hrun
    exact h
  | cons a as ih =>
    unfold runWhere at hrun
    split at hrun
    · rename_i ha
      split at hrun
      · nomatch hrun
      · rename_i s₁ hs
        exact ih (.step a h (hok s a ha) hs) hrun
    · nomatch hrun

end Machine
