import Onlyboxes.ForStd.Threads

/-!
# Threads of a process that crashes and restarts

A thread system over any number of process lifetimes. A restart ends all threads at
once, wherever they are; what it leaves of the shared state is given by the system.

## Key results

- `ThreadSystem.processes_keeps`: threads keep to their protocol in every lifetime
- `ThreadSystem.processes_cases`: what one step is, as far as the states of the
  threads' histories tell
- `ThreadSystem.Locally`: invariants made of a condition on the shared state, one for
  each thread, and one between every two threads
-/

/-- A step of the running process, or its end and the start of the next one. -/
inductive ProcessAction (κ Ans ε ρ : Type) where
  | step (a : PoolAction κ Ans ε)
  | restart (r : ρ)

namespace ThreadSystem

variable {σ κ Op : Type} {Res : Op → Type} {τ Ans ε ρ G : Type}
  {S : ThreadSystem σ κ Op Res τ Ans ε} {restart : σ → ρ → Option σ}
  {P : Protocol Op Res τ G} {start : κ → G} {Q : κ → G → Prop}

/-- The threads of one process after the other. -/
def processes (S : ThreadSystem σ κ Op Res τ Ans ε) (restart : σ → ρ → Option σ) :
    Machine (Pool σ κ Op Res τ) (ProcessAction κ Ans ε ρ) where
  init := S.machine.init
  step p
    | .step a => S.machine.step p a
    | .restart r =>
      match restart p.shared r with
      | none => none
      | some s' => some { shared := s' }

/-- What a restart does. -/
theorem restart_cases {p p' : Pool σ κ Op Res τ} {r : ρ}
    (h : (S.processes restart).step p (.restart r) = some p') :
    ∃ s', restart p.shared r = some s' ∧ p' = { shared := s' } := by
  simp only [processes] at h
  split at h
  · nomatch h
  · rename_i s' hs'
    exact ⟨s', hs', (Option.some.inj h).symm⟩

/-- Threads that keep to a protocol one by one keep to it in every lifetime. -/
theorem processes_keeps
    {ok : Pool σ κ Op Res τ → ProcessAction κ Ans ε ρ → Prop}
    (hbody : ∀ c, Prog.Meets P (start c) (S.body c) fun _ g => Q c g)
    (hans : ∀ s o ans s' r g, S.exec s o ans = some (s', r) → P.answers g ⟨o, r, S.stamp s'⟩)
    {p : Pool σ κ Op Res τ} (h : (S.processes restart).ReachableWhere ok p) : ∀ t ∈ p.threads, Thread.Keeps P start Q t := by
  apply h.invariant (P := fun p => ∀ t ∈ p.threads, Thread.Keeps P start Q t)
  · intro p hinit t ht
    rw [hinit.2] at ht
    nomatch ht
  · intro p a p' _ ih _ hs
    cases a with
    | step a =>
      exact keeps_step hbody ih (fun _ _ _ _ _ _ _ _ _ _ hexec => hans _ _ _ _ _ _ hexec) hs
    | restart r =>
      obtain ⟨s', -, rfl⟩ := restart_cases hs
      intro t ht
      nomatch ht

/-- What one step is, as far as the shared state and the states of the histories tell. -/
theorem processes_cases {p p' : Pool σ κ Op Res τ} {a : ProcessAction κ Ans ε ρ}
    (hkeeps : ∀ t ∈ p.threads, Thread.Keeps P start Q t)
    (hs : (S.processes restart).step p a = some p') :
    (∃ c, a = .step (.spawn c) ∧ p'.shared = p.shared ∧
      ghosts P start p' = ghosts P start p ++ [start c]) ∨
    (∃ i ans g o r, a = .step (.run i ans) ∧ (ghosts P start p)[i]? = some g ∧
      p.nextOp i = some o ∧ P.allowed g o ∧ S.exec p.shared o ans = some (p'.shared, r) ∧
      ghosts P start p' = (ghosts P start p).set i (P.next g ⟨o, r, S.stamp p'.shared⟩)) ∨
    (∃ e, a = .step (.env e) ∧ S.env p.shared e = some p'.shared ∧
      ghosts P start p' = ghosts P start p) ∨
    (∃ r, a = .restart r ∧ restart p.shared r = some p'.shared ∧ ghosts P start p' = []) := by
  cases a with
  | step a =>
    rcases ghost_cases hkeeps hs with ⟨c, rfl, hrest⟩ | ⟨i, ans, g, o, r, rfl, hrest⟩ |
      ⟨e, rfl, hrest⟩
    · exact .inl ⟨c, rfl, hrest⟩
    · exact .inr (.inl ⟨i, ans, g, o, r, rfl, hrest⟩)
    · exact .inr (.inr (.inl ⟨e, rfl, hrest⟩))
  | restart r =>
    obtain ⟨s', hs', rfl⟩ := restart_cases hs
    exact .inr (.inr (.inr ⟨r, rfl, hs', rfl⟩))

/-- A condition on the shared state, one for each thread, and one between every two
    threads. -/
structure Locally (Base : σ → Prop) (Local : σ → G → Prop) (D : G → G → Prop) (s : σ)
    (gs : List G) : Prop where
  base : Base s
  each : ∀ g ∈ gs, Local s g
  separate : Separate D gs

section Local

variable {Base : σ → Prop} {Local : σ → G → Prop} {D : G → G → Prop} {s s' : σ} {gs : List G}

variable {i : Nat}

section

variable (h : Locally Base Local D s gs)

include h

theorem Locally.at {g : G} (hg : gs[i]? = some g) :
    Local s g := h.each g (List.mem_of_getElem? hg)

variable {g g' : G}

/-- A thread moves; the others keep their condition. -/
theorem Locally.setAt (hg : gs[i]? = some g) (hbase : Base s') (hself : Local s' g')
    (hothers : ∀ j g₂, i ≠ j → gs[j]? = some g₂ → Local s g₂ → D g g₂ → D g₂ g → Local s' g₂ ∧ D g' g₂ ∧ D g₂ g') :
    Locally Base Local D s' (gs.set i g') := by
  have hother : ∀ (j : Nat) (b : G), j ≠ i → gs[j]? = some b →
      Local s' b ∧ D g' b ∧ D b g' := fun j b hj hb =>
    hothers j b (Ne.symm hj) hb (h.at hb) (h.separate i j g b (Ne.symm hj) hg hb)
      (h.separate j i b g hj hb hg)
  refine ⟨hbase, fun b hb => ?_, h.separate.set fun j b hj hb => (hother j b hj hb).2⟩
  rcases List.mem_set_cases hb with rfl | ⟨j, hij, hj⟩
  · exact hself
  · exact (hother j b (Ne.symm hij) hj).1

/-- The same where it does not matter which threads the others are. -/
theorem Locally.set (hg : gs[i]? = some g) (hbase : Base s') (hself : Local s' g')
    (hothers : ∀ g₂, Local s g₂ → D g g₂ → D g₂ g → Local s' g₂ ∧ D g' g₂ ∧ D g₂ g') :
    Locally Base Local D s' (gs.set i g') :=
  h.setAt hg hbase hself fun _ g₂ _ _ h₂ hd hd' => hothers g₂ h₂ hd hd'

/-- A thread moves in a way that its condition and the conditions between threads do not
    notice. -/
theorem Locally.step (hg : gs[i]? = some g) (hbase : Base s') (hlocal : ∀ g, Local s g → Local s' g)
    (hself : Local s' g → Local s' g') (hapart : ∀ g₂, D g g₂ → D g₂ g → D g' g₂ ∧ D g₂ g') :
    Locally Base Local D s' (gs.set i g') :=
  h.set hg hbase (hself (hlocal g (h.at hg)))
    fun g₂ h₂ hd hd' => ⟨hlocal g₂ h₂, hapart g₂ hd hd'⟩

/-- The shared state moves in a way that the conditions do not notice. -/
theorem Locally.mono (hbase : Base s') (hlocal : ∀ g, Local s g → Local s' g) :
    Locally Base Local D s' gs :=
  ⟨hbase, fun g hg => hlocal g (h.each g hg), h.separate⟩

omit h in
theorem Locally.nil (hbase : Base s) : Locally Base Local D s [] :=
  ⟨hbase, nofun, .nil⟩

/-- A thread starts. -/
theorem Locally.spawn (hlocal : Local s g) (hnew : ∀ g₂, D g₂ g ∧ D g g₂) :
    Locally Base Local D s (gs ++ [g]) :=
  ⟨h.base, List.forall_mem_concat h.each hlocal, h.separate.append_singleton fun g₂ _ => hnew g₂⟩

end

end Local

end ThreadSystem
