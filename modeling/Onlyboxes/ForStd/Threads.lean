import Onlyboxes.ForStd.Machine
import Onlyboxes.ForStd.List

/-!
# Threads over atomic operations

Sequential code whose shared accesses are single atomic operations, and the system
in which any number of such threads run interleaved with an environment. A `Prog`
is written with `do` as the code is; what an operation does to the shared state and
what it answers is given once, by `ThreadSystem.exec`.

Threads are verified one by one: a `Protocol` says which operations a thread may
perform in which state of its own history, and `Prog.Meets` that a program keeps to
it whatever the operations answer.

## Key results

- `Prog.Meets.bind`, `Prog.Meets.call`, `Prog.Meets.mono`: rules for programs
- `ThreadSystem.keeps`: in every reachable state every thread has kept to the
  protocol and will
- `ThreadSystem.ghost_invariant`: invariants that relate the shared state to the
  states of the threads' histories
-/

/-- A program that performs atomic operations and returns a value. -/
inductive Prog (Op : Type) (Res : Op → Type) (α : Type) : Type where
  | ret (a : α)
  | op (o : Op) (k : Res o → Prog Op Res α)

/-- An operation a thread performed, its answer, and a stamp of the shared state it
    left behind. -/
structure Event (Op : Type) (Res : Op → Type) (τ : Type) where
  op : Op
  res : Res op
  stamp : τ

namespace Prog

variable {Op : Type} {Res : Op → Type} {α β : Type}

/-- Sequential composition. -/
def bind : Prog Op Res α → (α → Prog Op Res β) → Prog Op Res β
  | .ret a, f => f a
  | .op o k, f => .op o fun r => (k r).bind f

instance : Monad (Prog Op Res) where
  pure := ret
  bind := bind

/-- One operation. -/
def call (o : Op) : Prog Op Res (Res o) := .op o .ret

/-- A program over other operations: each operation becomes a program, and a state is
    passed along. -/
def translate {Op' : Type} {Res' : Op' → Type} {S : Type}
    (h : (o : Op) → S → Prog Op' Res' (Res o × S)) : Prog Op Res α → S → Prog Op' Res' (α × S)
  | .ret a, s => .ret (a, s)
  | .op o k, s => (h o s).bind fun x => (k x.1).translate h x.2

/-- The program performs these operations with these answers and returns the value. -/
inductive Runs : Prog Op Res α → List ((o : Op) × Res o) → α → Prop
  | ret (a : α) : Runs (.ret a) [] a
  | op {o : Op} {k : Res o → Prog Op Res α} {es : List ((o : Op) × Res o)} {a : α} (r : Res o)
      (h : Runs (k r) es a) : Runs (.op o k) (⟨o, r⟩ :: es) a

/-- A sequence runs as its first part, then as its second. -/
theorem Runs.bind_cases {p : Prog Op Res α} {f : α → Prog Op Res β} {es : List ((o : Op) × Res o)}
    {b : β} (h : Runs (p >>= f) es b) :
    ∃ es₁ es₂ a, es = es₁ ++ es₂ ∧ Runs p es₁ a ∧ Runs (f a) es₂ b := by
  induction p generalizing es with
  | ret a => exact ⟨[], es, a, rfl, .ret a, h⟩
  | op o k ih =>
    cases h with
    | op r h =>
      obtain ⟨es₁, es₂, a, rfl, hp, hf⟩ := ih r h
      exact ⟨⟨o, r⟩ :: es₁, es₂, a, rfl, .op r hp, hf⟩

end Prog

/-- What a thread may do, by the state `G` of its own history: which operations are
    allowed, which answers they can get, and how they move the state. -/
structure Protocol (Op : Type) (Res : Op → Type) (τ G : Type) where
  allowed : G → Op → Prop
  answers : G → Event Op Res τ → Prop
  next : G → Event Op Res τ → G

namespace Protocol

variable {Op : Type} {Res : Op → Type} {τ G : Type}

/-- The state a log (newest event first) leads to. -/
def after (P : Protocol Op Res τ G) (g : G) : List (Event Op Res τ) → G
  | [] => g
  | e :: log => P.next (P.after g log) e

/-- Every event of the log was allowed, and answered as expected. -/
def Kept (P : Protocol Op Res τ G) (g : G) : List (Event Op Res τ) → Prop
  | [] => True
  | e :: log => P.Kept g log ∧ P.allowed (P.after g log) e.op ∧ P.answers (P.after g log) e

end Protocol

namespace Prog

variable {Op : Type} {Res : Op → Type} {τ G α β : Type} {P : Protocol Op Res τ G} {g : G}

/-- From `g`, the program keeps to the protocol and returns in a state that meets
    the postcondition. -/
def Meets (P : Protocol Op Res τ G) : G → Prog Op Res α → (α → G → Prop) → Prop
  | g, .ret a, Q => Q a g
  | g, .op o k, Q => P.allowed g o ∧
      ∀ r st, P.answers g ⟨o, r, st⟩ → Meets P (P.next g ⟨o, r, st⟩) (k r) Q

theorem meets_op {o : Op} {k : Res o → Prog Op Res α} {Q : α → G → Prop} :
    Meets P g (.op o k) Q ↔ P.allowed g o ∧
      ∀ r st, P.answers g ⟨o, r, st⟩ → Meets P (P.next g ⟨o, r, st⟩) (k r) Q := Iff.rfl

theorem meets_ret {a : α} {Q : α → G → Prop} : Meets P g (.ret a) Q ↔ Q a g := Iff.rfl

namespace Meets

/-- Returning. -/
theorem pure {a : α} {Q : α → G → Prop} (h : Q a g) : Meets P g (Pure.pure a) Q := h

variable {p : Prog Op Res α}

/-- A weaker postcondition. -/
theorem mono {Q Q' : α → G → Prop} (h : Meets P g p Q) (hQ : ∀ a g', Q a g' → Q' a g') :
    Meets P g p Q' := by
  induction p generalizing g with
  | ret a => exact hQ a g h
  | op o k ih => exact ⟨h.1, fun r st hans => ih r (h.2 r st hans)⟩

/-- Sequential composition: the second part starts where the first one ends. -/
theorem bind {f : α → Prog Op Res β} {Q : β → G → Prop}
    (h : Meets P g p fun a g' => Meets P g' (f a) Q) : Meets P g (p >>= f) Q := by
  induction p generalizing g with
  | ret a => exact h
  | op o k ih => exact ⟨h.1, fun r st hans => ih r (h.2 r st hans)⟩

/-- The second part starts as the postcondition of the first one says. -/
theorem seq {Q : α → G → Prop} {f : α → Prog Op Res β} {Q' : β → G → Prop} (h : Meets P g p Q)
    (hf : ∀ a g', Q a g' → Meets P g' (f a) Q') : Meets P g (p >>= f) Q' :=
  bind (h.mono hf)

/-- What every event preserves, programs preserve. -/
theorem invariant {Q : α → G → Prop} {I : G → Prop} (hI : ∀ g e, I g → I (P.next g e))
    (h : Meets P g p Q) (hg : I g) :
    Meets P g p fun a g' => Q a g' ∧ I g' := by
  induction p generalizing g with
  | ret a => exact ⟨h, hg⟩
  | op o k ih => exact ⟨h.1, fun r st hans => ih r (h.2 r st hans) (hI _ _ hg)⟩

/-- One operation. -/
theorem call {o : Op} {f : Res o → Prog Op Res β} {Q : β → G → Prop} (hallowed : P.allowed g o)
    (h : ∀ r st, P.answers g ⟨o, r, st⟩ → Meets P (P.next g ⟨o, r, st⟩) (f r) Q) :
    Meets P g (Prog.call o >>= f) Q := ⟨hallowed, h⟩

/-- One operation whose answer is returned. -/
theorem last {o : Op} {Q : Res o → G → Prop} (hallowed : P.allowed g o)
    (h : ∀ r st, P.answers g ⟨o, r, st⟩ → Q r (P.next g ⟨o, r, st⟩)) :
    Meets P g (Prog.call o) Q := ⟨hallowed, h⟩

/-- A translated program keeps what the translation of every operation keeps. -/
theorem translate {Op₀ : Type} {Res₀ : Op₀ → Type} {S : Type}
    {h : (o : Op₀) → S → Prog Op Res (Res₀ o × S)} {I : S → G → Prop}
    (hop : ∀ o s g, I s g → Meets P g (h o s) fun x g' => I x.2 g') (p : Prog Op₀ Res₀ α) {s : S}
    (hs : I s g) : Meets P g (p.translate h s) fun x g' => I x.2 g' := by
  induction p generalizing g s with
  | ret a => exact hs
  | op o k ih => exact bind ((hop o s g hs).mono fun x g' hx => ih x.1 hx)

end Meets

-- Programs are stepped through by the rules above, not by evaluation.
attribute [irreducible] Meets

end Prog

/-- A running or finished call: what was called, what it did, what remains. -/
structure Thread (κ Op : Type) (Res : Op → Type) (τ : Type) where
  call : κ
  log : List (Event Op Res τ) := []
  prog : Prog Op Res Unit

/-- The shared state and all calls made so far. -/
structure Pool (σ κ Op : Type) (Res : Op → Type) (τ : Type) where
  shared : σ
  threads : List (Thread κ Op Res τ) := []

/-- The operation that thread `i` performs next. -/
def Pool.nextOp {σ κ Op : Type} {Res : Op → Type} {τ : Type} (p : Pool σ κ Op Res τ) (i : Nat) :
    Option Op :=
  match p.threads[i]? with
  | none => none
  | some t =>
    match t.prog with
    | .ret _ => none
    | .op o _ => some o

/-- All calls have returned. -/
def Pool.idle {σ κ Op : Type} {Res : Op → Type} {τ : Type} (p : Pool σ κ Op Res τ) : Bool :=
  p.threads.all fun t =>
    match t.prog with
    | .ret _ => true
    | .op .. => false

/-- A scheduling step: a new call, one operation of a thread with what the outside
    world contributes to its answer, or a step of the environment. -/
inductive PoolAction (κ Ans ε : Type) where
  | spawn (c : κ)
  | run (i : Nat) (ans : Ans)
  | env (e : ε)

/-- Steps of one call. -/
def PoolAction.runs {κ Ans ε : Type} (i : Nat) (answers : List Ans) : List (PoolAction κ Ans ε) :=
  answers.map (.run i)

/-- A service: its calls, the meaning of their operations, and its environment. -/
structure ThreadSystem (σ κ Op : Type) (Res : Op → Type) (τ Ans ε : Type) where
  init : σ → Prop
  body : κ → Prog Op Res Unit
  exec : σ → (o : Op) → Ans → Option (σ × Res o)
  env : σ → ε → Option σ
  stamp : σ → τ

namespace ThreadSystem

variable {σ κ Op : Type} {Res : Op → Type} {τ Ans ε G : Type}

/-- One step of thread `t`. -/
def runThread (S : ThreadSystem σ κ Op Res τ Ans ε) (s : σ) (t : Thread κ Op Res τ) (ans : Ans) :
    Option (σ × Thread κ Op Res τ) :=
  match t.prog with
  | .ret _ => none
  | .op o k =>
    match S.exec s o ans with
    | none => none
    | some (s', r) => some (s', ⟨t.call, ⟨o, r, S.stamp s'⟩ :: t.log, k r⟩)

/-- The interleavings of the calls with each other and with the environment. -/
def machine (S : ThreadSystem σ κ Op Res τ Ans ε) :
    Machine (Pool σ κ Op Res τ) (PoolAction κ Ans ε) where
  init p := S.init p.shared ∧ p.threads = []
  step p
    | .spawn c => some { p with threads := p.threads ++ [{ call := c, prog := S.body c }] }
    | .run i ans =>
      match p.threads[i]? with
      | none => none
      | some t =>
        match S.runThread p.shared t ans with
        | none => none
        | some (s', t') => some ⟨s', p.threads.set i t'⟩
    | .env e =>
      match S.env p.shared e with
      | none => none
      | some s' => some { p with shared := s' }

variable {S : ThreadSystem σ κ Op Res τ Ans ε} {p p' : Pool σ κ Op Res τ} {a : PoolAction κ Ans ε}

/-- What one step can be. -/
theorem step_cases (h : S.machine.step p a = some p') :
    (∃ c, a = .spawn c ∧ p' = { p with threads := p.threads ++ [{ call := c, prog := S.body c }] }) ∨
    (∃ i ans t o k s' r, a = .run i ans ∧ p.threads[i]? = some t ∧ t.prog = .op o k ∧
      S.exec p.shared o ans = some (s', r) ∧
      p' = ⟨s', p.threads.set i ⟨t.call, ⟨o, r, S.stamp s'⟩ :: t.log, k r⟩⟩) ∨
    (∃ e s', a = .env e ∧ S.env p.shared e = some s' ∧ p' = { p with shared := s' }) := by
  cases a with
  | spawn c => exact .inl ⟨c, rfl, (Option.some.inj h).symm⟩
  | run i ans =>
    simp only [machine] at h
    split at h
    · exact nomatch h
    · rename_i t ht
      split at h
      · exact nomatch h
      · rename_i s' t' hrun
        obtain rfl := Option.some.inj h
        unfold runThread at hrun
        split at hrun
        · exact nomatch hrun
        · rename_i o k hprog
          split at hrun
          · exact nomatch hrun
          · rename_i s₁ r hexec
            obtain ⟨rfl, rfl⟩ := Prod.mk.inj (Option.some.inj hrun)
            exact .inr (.inl ⟨i, ans, t, o, k, s₁, r, rfl, ht, hprog, hexec, rfl⟩)
  | env e =>
    simp only [machine] at h
    split at h
    · exact nomatch h
    · rename_i s' hs'
      exact .inr (.inr ⟨e, s', rfl, hs', (Option.some.inj h).symm⟩)

variable {i : Nat} {o : Op}

theorem exists_of_nextOp {p : Pool σ κ Op Res τ} (h : p.nextOp i = some o) :
    ∃ t k, p.threads[i]? = some t ∧ t.prog = .op o k := by
  unfold Pool.nextOp at h
  split at h
  · nomatch h
  · rename_i t ht
    split at h
    · nomatch h
    · rename_i o' k hprog
      cases h
      exact ⟨t, k, ht, hprog⟩

/-- Performing an operation. -/
theorem step_run {p : Pool σ κ Op Res τ} {ans : Ans} {t : Thread κ Op Res τ}
    {k : Res o → Prog Op Res Unit} {s' : σ} {r : Res o} (ht : p.threads[i]? = some t)
    (hprog : t.prog = .op o k) (hexec : S.exec p.shared o ans = some (s', r)) :
    S.machine.step p (.run i ans) =
      some ⟨s', p.threads.set i ⟨t.call, ⟨o, r, S.stamp s'⟩ :: t.log, k r⟩⟩ := by
  simp only [machine, ht, runThread, hprog, hexec]

/-- A step of a thread whose next operation is known. -/
theorem run_cases {ans : Ans} (hnext : p.nextOp i = some o)
    (h : S.machine.step p (.run i ans) = some p') :
    ∃ t k s' r, p.threads[i]? = some t ∧ t.prog = .op o k ∧ S.exec p.shared o ans = some (s', r) ∧
      p' = ⟨s', p.threads.set i ⟨t.call, ⟨o, r, S.stamp s'⟩ :: t.log, k r⟩⟩ := by
  obtain ⟨t, k, ht, hprog⟩ := exists_of_nextOp hnext
  cases hexec : S.exec p.shared o ans with
  | none =>
    simp only [machine, ht, runThread, hprog, hexec] at h
    nomatch h
  | some result =>
    rw [step_run ht hprog hexec] at h
    exact ⟨t, k, result.1, result.2, ht, hprog, rfl, (Option.some.inj h).symm⟩

/-- A thread that kept to the protocol so far and will from here on. -/
def Thread.Keeps (P : Protocol Op Res τ G) (start : κ → G) (Q : κ → G → Prop)
    (t : Thread κ Op Res τ) : Prop :=
  P.Kept (start t.call) t.log ∧
    Prog.Meets P (P.after (start t.call) t.log) t.prog fun _ g => Q t.call g

variable {P : Protocol Op Res τ G} {start : κ → G} {Q : κ → G → Prop}

/-- A step of one thread keeps it on its protocol. -/
theorem Thread.Keeps.step {t : Thread κ Op Res τ} {k : Res o → Prog Op Res Unit}
    (h : Thread.Keeps P start Q t) (hprog : t.prog = .op o k) (r : Res o) (st : τ)
    (hans : P.answers (P.after (start t.call) t.log) ⟨o, r, st⟩) :
    Thread.Keeps P start Q ⟨t.call, ⟨o, r, st⟩ :: t.log, k r⟩ := by
  have hmeets := h.2
  rw [hprog, Prog.meets_op] at hmeets
  exact ⟨⟨h.1, hmeets.1, hans⟩, hmeets.2 r st hans⟩

/-- One step keeps every thread on its protocol. -/
theorem keeps_step (hbody : ∀ c, Prog.Meets P (start c) (S.body c) fun _ g => Q c g)
    (ih : ∀ t ∈ p.threads, Thread.Keeps P start Q t)
    (hans : ∀ i ans t o k s' r, a = .run i ans → p.threads[i]? = some t → t.prog = .op o k → S.exec p.shared o ans = some (s', r) → P.answers (P.after (start t.call) t.log) ⟨o, r, S.stamp s'⟩)
    (hs : S.machine.step p a = some p') : ∀ t ∈ p'.threads, Thread.Keeps P start Q t := by
  rcases step_cases hs with ⟨c, rfl, rfl⟩ | ⟨i, ans, t, o, k, s', r, rfl, ht, hprog, hexec, rfl⟩ |
    ⟨e, s', rfl, -, rfl⟩
  · exact List.forall_mem_concat ih ⟨trivial, hbody c⟩
  · exact List.forall_mem_set ih ((ih t (List.mem_of_getElem? ht)).step hprog r _
      (hans i ans t o k s' r rfl ht hprog hexec))
  · exact ih

variable {ok : Pool σ κ Op Res τ → PoolAction κ Ans ε → Prop}

/-- Threads that keep to a protocol one by one keep to it in every interleaving, as
    long as the shared state only gives the expected answers. -/
theorem keeps (P : Protocol Op Res τ G) (start : κ → G) (Q : κ → G → Prop)
    (hbody : ∀ c, Prog.Meets P (start c) (S.body c) fun _ g => Q c g)
    (hans : ∀ p i ans t o k s' r, S.machine.ReachableWhere ok p → (∀ t' ∈ p.threads, Thread.Keeps P start Q t') → ok p (.run i ans) → p.threads[i]? = some t → t.prog = .op o k → S.exec p.shared o ans = some (s', r) → P.answers (P.after (start t.call) t.log) ⟨o, r, S.stamp s'⟩)
    {p : Pool σ κ Op Res τ} (h : S.machine.ReachableWhere ok p) :
    ∀ t ∈ p.threads, Thread.Keeps P start Q t := by
  apply h.invariant (P := fun p => ∀ t ∈ p.threads, Thread.Keeps P start Q t)
  · intro p hinit t ht
    rw [hinit.2] at ht
    nomatch ht
  · intro p a p' hreach ih hok hs
    refine keeps_step hbody ih ?_ hs
    rintro i ans t o k s' r rfl ht hprog hexec
    exact hans p i ans t o k s' r hreach ih hok ht hprog hexec

/-- The states that the histories of the threads lead to. -/
def ghosts (P : Protocol Op Res τ G) (start : κ → G) (p : Pool σ κ Op Res τ) : List G :=
  p.threads.map fun t => P.after (start t.call) t.log

variable {i : Nat} {t : Thread κ Op Res τ}

theorem ghost_of_thread (ht : p.threads[i]? = some t) :
    (ghosts P start p)[i]? = some (P.after (start t.call) t.log) := by
  rw [ghosts, List.getElem?_map, ht]
  rfl

section

variable (hkeeps : ∀ t ∈ p.threads, Thread.Keeps P start Q t)

include hkeeps

/-- A thread that has not returned is about to perform an operation its protocol allows. -/
theorem nextOp_of_thread (ht : p.threads[i]? = some t) :
    p.nextOp i = none ∧ Q t.call (P.after (start t.call) t.log) ∨
      ∃ o, p.nextOp i = some o ∧ P.allowed (P.after (start t.call) t.log) o := by
  have hmeets := (hkeeps t (List.mem_of_getElem? ht)).2
  simp only [Pool.nextOp, ht]
  cases hprog : t.prog with
  | ret u =>
    rw [hprog, Prog.meets_ret] at hmeets
    exact .inl ⟨rfl, hmeets⟩
  | op o k =>
    rw [hprog, Prog.meets_op] at hmeets
    exact .inr ⟨o, rfl, hmeets.1⟩

/-- The next operation of a thread is one its protocol allows. -/
theorem allowed_of_nextOp (hnext : p.nextOp i = some o) :
    ∃ t, p.threads[i]? = some t ∧ P.allowed (P.after (start t.call) t.log) o := by
  obtain ⟨t, k, ht, -⟩ := exists_of_nextOp hnext
  rcases nextOp_of_thread hkeeps ht with ⟨hnone, -⟩ | ⟨o', ho', hallowed⟩
  · nomatch hnone.symm.trans hnext
  · obtain rfl := Option.mem_unique ho' hnext
    exact ⟨t, ht, hallowed⟩

/-- What one step is, as far as the shared state and the states of the histories tell: a
    thread performs an operation that its protocol allows. -/
theorem ghost_cases (hs : S.machine.step p a = some p') :
    (∃ c, a = .spawn c ∧ p'.shared = p.shared ∧
      ghosts P start p' = ghosts P start p ++ [start c]) ∨
    (∃ i ans g o r, a = .run i ans ∧ (ghosts P start p)[i]? = some g ∧ p.nextOp i = some o ∧
      P.allowed g o ∧ S.exec p.shared o ans = some (p'.shared, r) ∧
      ghosts P start p' = (ghosts P start p).set i (P.next g ⟨o, r, S.stamp p'.shared⟩)) ∨
    (∃ e, a = .env e ∧ S.env p.shared e = some p'.shared ∧
      ghosts P start p' = ghosts P start p) := by
  rcases step_cases hs with ⟨c, rfl, rfl⟩ | ⟨i, ans, t, o, k, s', r, rfl, ht, hprog, hexec, rfl⟩ |
    ⟨e, s', rfl, he, rfl⟩
  · refine .inl ⟨c, rfl, rfl, ?_⟩
    simp [ghosts, Protocol.after]
  · have hmeets := (hkeeps t (List.mem_of_getElem? ht)).2
    rw [hprog, Prog.meets_op] at hmeets
    refine .inr (.inl ⟨i, ans, P.after (start t.call) t.log, o, r, rfl, ?_, ?_, hmeets.1, hexec, ?_⟩)
    · exact ghost_of_thread ht
    · unfold Pool.nextOp
      simp only [ht, hprog]
    · rw [ghosts, ghosts, List.map_set]
      rfl
  · exact .inr (.inr ⟨e, rfl, he, rfl⟩)

end

/-- Invariants of the shared state and the states of all threads, one step at a time. -/
theorem ghost_invariant {I : σ → List G → Prop}
    (hkeeps : ∀ p, S.machine.ReachableWhere ok p → ∀ t ∈ p.threads, Thread.Keeps P start Q t)
    (hinit : ∀ s, S.init s → I s [])
    (hspawn : ∀ p c, S.machine.ReachableWhere ok p → ok p (.spawn c) → I p.shared (ghosts P start p) → I p.shared (ghosts P start p ++ [start c]))
    (hrun : ∀ p i ans g o s' r, S.machine.ReachableWhere ok p → ok p (.run i ans) → I p.shared (ghosts P start p) → (ghosts P start p)[i]? = some g → p.nextOp i = some o → P.allowed g o → S.exec p.shared o ans = some (s', r) → I s' ((ghosts P start p).set i (P.next g ⟨o, r, S.stamp s'⟩)))
    (henv : ∀ p e s', S.machine.ReachableWhere ok p → ok p (.env e) → I p.shared (ghosts P start p) → S.env p.shared e = some s' → I s' (ghosts P start p))
    {p : Pool σ κ Op Res τ} (h : S.machine.ReachableWhere ok p) :
    I p.shared (ghosts P start p) := by
  apply h.invariant (P := fun p => I p.shared (ghosts P start p))
  · intro p hp
    rw [ghosts, hp.2]
    exact hinit _ hp.1
  · intro p a p' hreach ih hok hs
    rcases ghost_cases (hkeeps p hreach) hs with ⟨c, rfl, hshared, hghosts⟩ |
      ⟨i, ans, g, o, r, rfl, hg, hnext, hallowed, hexec, hghosts⟩ | ⟨e, rfl, he, hghosts⟩
    · rw [hghosts, hshared]
      exact hspawn p c hreach hok ih
    · rw [hghosts]
      exact hrun p i ans g o _ r hreach hok ih hg hnext hallowed hexec
    · rw [hghosts]
      exact henv p e _ hreach hok ih he

end ThreadSystem

/-- Every two members of a list at different places are related. -/
def Separate {G : Type} (D : G → G → Prop) (gs : List G) : Prop :=
  ∀ (i j : Nat) (g g' : G), i ≠ j → gs[i]? = some g → gs[j]? = some g' → D g g'

namespace Separate

variable {G : Type} {D : G → G → Prop} {gs : List G} {g g' : G} {i : Nat}

theorem nil : Separate D [] := nofun

theorem append_singleton (h : Separate D gs) (hnew : ∀ g ∈ gs, D g g' ∧ D g' g) :
    Separate D (gs ++ [g']) := by
  intro i j a b hij ha hb
  rcases List.getElem?_concat_cases ha with ⟨-, hai⟩ | ⟨hi, rfl⟩
  · rcases List.getElem?_concat_cases hb with ⟨-, hbj⟩ | ⟨-, rfl⟩
    · exact h i j a b hij hai hbj
    · exact (hnew a (List.mem_of_getElem? hai)).1
  · rcases List.getElem?_concat_cases hb with ⟨-, hbj⟩ | ⟨hj, -⟩
    · exact (hnew b (List.mem_of_getElem? hbj)).2
    · exact absurd (hi.trans hj.symm) hij

/-- Replacing one member. -/
theorem set (h : Separate D gs) (hnew : ∀ (j : Nat) (b : G), j ≠ i → gs[j]? = some b → D g' b ∧ D b g') :
    Separate D (gs.set i g') := by
  intro j k a b hjk ha hb
  rcases List.getElem?_set_cases ha with ⟨rfl, rfl⟩ | ⟨hij, haj⟩
  · rcases List.getElem?_set_cases hb with ⟨hik, -⟩ | ⟨hik, hbk⟩
    · exact absurd hik hjk
    · exact (hnew k b (Ne.symm hik) hbk).1
  · rcases List.getElem?_set_cases hb with ⟨rfl, rfl⟩ | ⟨-, hbk⟩
    · exact (hnew j a (Ne.symm hij) haj).2
    · exact h j k a b hjk haj hbk

end Separate
