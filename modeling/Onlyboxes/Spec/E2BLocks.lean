import Onlyboxes.Spec.E2BSlots

/-!
# Who extends the timeout of a sandbox, and who uses it

The lock `leaseSyncMu` of a session serialises those who extend the timeout of its sandbox:
a call that does has the lock, and its session keeps the sandbox. A sandbox is in use from
the call that created it or connected to it to the session that has it; unless recovery
connects to a sandbox that is in use, it has one user.

## Key results

- `extensions_locked`: a call that extends a timeout has the lock, and its session the sandbox
- `Exclusive.slot`, `Exclusive.lease`: a sandbox keeps having one user
-/

namespace Onlyboxes.E2B

open Text Worker

variable {lib : E2BLib} {cfg : ManagerSettings} {g g' : Phase} {s s' : ManagerState} {o : ManagerOp}
  {gs : List Phase} {i : Nat}

/-! ## Locks -/

/-- Two calls do not have the same lock. -/
def Phase.LocksApart (g g₂ : Phase) : Prop := ∀ session, g.locked = some session → g₂.locked ≠ some session

/-- What the call extends: it has the lock and a slot of the session, and the session has the
    sandbox. -/
structure Phase.Extends (s : ManagerState) (g : Phase) (e : Extension) : Prop where
  locked : g.locked = some e.session
  holds : g.HoldsSession e.session
  target : e.leaseExpires ≤ e.targetExpires
  sandbox : ∃ obj, s.objects[e.session]? = some obj ∧ obj.sandbox = some e.sandbox

/-- One call at a time extends the timeout of a session. -/
structure Extending (s : ManagerState) (gs : List Phase) : Prop where
  locks : ∀ g ∈ gs, ∀ session, g.locked = some session →
    ∃ obj, s.objects[session]? = some obj ∧ obj.leaseSyncLocked = true
  apart : Separate Phase.LocksApart gs
  own : ∀ g ∈ gs, ∀ e, g.extension = some e → g.Extends s e

/-- Sessions stay as locked as they are, and those with a sandbox keep it. -/
def Grows (s s' : ManagerState) : Prop :=
  ∀ (session : Nat) (obj : TerminalSession), s.objects[session]? = some obj →
    ∃ obj', s'.objects[session]? = some obj' ∧ obj'.leaseSyncLocked = obj.leaseSyncLocked ∧
      ∀ sandbox, obj.sandbox = some sandbox → obj'.sandbox = some sandbox

/-- The call keeps its lock, and extends what it extended before. -/
def Phase.SameSync (g g' : Phase) : Prop :=
  g'.locked = g.locked ∧ ∀ e', g'.extension = some e' → ∃ e, g.extension = some e ∧
    e'.session = e.session ∧ e'.leaseExpires = e.leaseExpires ∧ e'.targetExpires = e.targetExpires ∧
    e'.sandbox = e.sandbox ∧ g'.claim = g.claim ∧ g'.holds = g.holds

variable {obj : TerminalSession}

section Extending

theorem grows_of_eq (h : s'.objects = s.objects) : Grows s s' :=
  fun _ obj hobj => ⟨obj, h ▸ hobj, rfl, fun _ hsandbox => hsandbox⟩

variable {session : Nat} {f : TerminalSession → TerminalSession}

theorem grows_modify
    (hf : ∀ obj, s.objects[session]? = some obj → (f obj).leaseSyncLocked = obj.leaseSyncLocked ∧ ∀ sandbox, obj.sandbox = some sandbox → (f obj).sandbox = some sandbox) :
    Grows s (s.modify session f) := by
  intro n obj hobj
  rw [getElem?_modify, hobj, Option.map_some]
  refine ⟨_, rfl, ?_⟩
  split
  · rename_i heq
    exact hf obj (heq ▸ hobj)
  · exact ⟨rfl, fun _ hsandbox => hsandbox⟩

theorem grows_touch
    (hf : ∀ obj, (f obj).leaseSyncLocked = obj.leaseSyncLocked ∧ (f obj).sandbox = obj.sandbox) :
    Grows s (s.modify session f) :=
  grows_modify fun obj _ => ⟨(hf obj).1, fun _ hsandbox => (hf obj).2.trans hsandbox⟩

theorem grows_insert (obj : TerminalSession) : Grows s (s.insertSession obj) :=
  fun _ obj' hobj' => ⟨obj', List.getElem?_concat_of_some hobj',
    rfl, fun _ hsandbox => hsandbox⟩

theorem Grows.trans {s₁ s₂ s₃ : ManagerState} (h : Grows s₁ s₂) (h' : Grows s₂ s₃) : Grows s₁ s₃ := by
  intro n obj hobj
  obtain ⟨obj₂, hobj₂, hlock₂, hsandbox₂⟩ := h n obj hobj
  obtain ⟨obj₃, hobj₃, hlock₃, hsandbox₃⟩ := h' n obj₂ hobj₂
  exact ⟨obj₃, hobj₃, hlock₃.trans hlock₂, fun sandbox hs => hsandbox₃ sandbox (hsandbox₂ sandbox hs)⟩

theorem Phase.Extends.grows {e : Extension} (h : g.Extends s e) (hgrows : Grows s s') : g.Extends s' e := by
  obtain ⟨obj, hobj, hsandbox⟩ := h.sandbox
  obtain ⟨obj', hobj', -, hkept⟩ := hgrows _ obj hobj
  exact ⟨h.locked, h.holds, h.target, obj', hobj', hkept _ hsandbox⟩

/-- A call that has no lock keeps it that way. -/
theorem Phase.Idle.sameSync (h : g.Idle) (hlocked : g'.locked = g.locked)
    (hextension : g'.extension = g.extension) : g.SameSync g' :=
  ⟨hlocked, fun _ he => nomatch (hextension.trans h.extension).symm.trans he⟩

theorem Phase.sameSync_of_eq (hlocked : g'.locked = g.locked) (hextension : g'.extension = g.extension)
    (hclaim : g'.claim = g.claim) (hholds : g'.holds = g.holds) : g.SameSync g' :=
  ⟨hlocked, fun e he => ⟨e, hextension ▸ he, rfl, rfl, rfl, rfl, hclaim, hholds⟩⟩

/-- An operation that takes and gives back no lock. -/
theorem Extending.grows (h : Extending s gs) (hg : gs[i]? = some g) (hgrows : Grows s s')
    (hself : g.SameSync g') : Extending s' (gs.set i g') := by
  have hmem := List.mem_of_getElem? hg
  have hlocks : ∀ g₂ ∈ gs.set i g', ∀ session, g₂.locked = some session →
      ∃ obj, s.objects[session]? = some obj ∧ obj.leaseSyncLocked = true :=
    List.forall_mem_set h.locks fun session hlocked => h.locks g hmem session (hself.1 ▸ hlocked)
  refine ⟨fun g₂ hg₂ session hlocked => ?_, h.apart.set fun j g₂ hji hj => ?_,
    List.forall_mem_set (fun g₂ hg₂ e he => (h.own g₂ hg₂ e he).grows hgrows) fun e he => ?_⟩
  · obtain ⟨obj, hobj, hlock⟩ := hlocks g₂ hg₂ session hlocked
    obtain ⟨obj', hobj', hsame, -⟩ := hgrows session obj hobj
    exact ⟨obj', hobj', hsame.trans hlock⟩
  · have hij := Ne.symm hji
    exact ⟨fun session hlocked => h.apart i j g g₂ hij hg hj session (hself.1 ▸ hlocked),
      fun session hlocked hsame => h.apart j i g₂ g hji hj hg session hlocked (hself.1 ▸ hsame)⟩
  · obtain ⟨e₀, he₀, hsession, hlease, htarget, hsandbox, hclaim, hholds⟩ := hself.2 e he
    obtain ⟨hlocked, ⟨claim, hc, hs⟩, hle, hobj⟩ := (h.own g hmem e₀ he₀).grows hgrows
    refine ⟨?_, ⟨claim, ⟨hclaim.trans hc.1, hholds.trans hc.2⟩, hs.trans hsession.symm⟩, ?_, ?_⟩
    · rw [hself.1, hlocked, hsession]
    · rw [hlease, htarget]
      exact hle
    · rw [hsession, hsandbox]
      exact hobj

/-- The call takes the lock of a session. -/
theorem Extending.lock (h : Extending s gs) (hobj : s.objects[session]? = some obj)
    (hfree : obj.leaseSyncLocked = false) (hidle : g.Idle) :
    Extending (s.modify session ({ · with leaseSyncLocked := true }))
      (gs.set i { g with locked := some session }) := by
  -- Nobody else has it.
  have hothers : ∀ g₂ ∈ gs, g₂.locked ≠ some session := fun g₂ hg₂ hlocked => by
    obtain ⟨obj₂, hobj₂, hlock⟩ := h.locks g₂ hg₂ session hlocked
    obtain rfl := Option.mem_unique hobj hobj₂
    nomatch hfree.symm.trans hlock
  have hget : ∀ n : Nat, (s.modify session ({ · with leaseSyncLocked := true })).objects[n]? = _ :=
    fun n => getElem?_modify session n _
  refine ⟨List.forall_mem_set (fun g₂ hg₂ n hlocked => ?_) fun n hlocked => ?_,
    h.apart.set fun j g₂ hji hj => ?_, List.forall_mem_set (fun g₂ hg₂ e he => ?_) fun e he => ?_⟩
  · obtain ⟨obj₂, hobj₂, hlock⟩ := h.locks g₂ hg₂ n hlocked
    rw [hget, hobj₂, Option.map_some, if_neg fun heq : session = n => hothers g₂ hg₂ (heq ▸ hlocked)]
    exact ⟨obj₂, rfl, hlock⟩
  · cases hlocked
    rw [hget, hobj, Option.map_some, if_pos rfl]
    exact ⟨_, rfl, rfl⟩
  · have hnot := hothers g₂ (List.mem_of_getElem? hj)
    refine ⟨fun n hlocked => ?_, fun n hlocked hsame => ?_⟩
    · exact Option.some.inj hlocked ▸ hnot
    · exact hnot (hlocked.trans hsame.symm)
  · have hown := h.own g₂ hg₂ e he
    obtain ⟨obj₂, hobj₂, hsandbox⟩ := hown.sandbox
    refine ⟨hown.locked, hown.holds, hown.target, obj₂, ?_, hsandbox⟩
    have hne : session ≠ e.session := fun heq => hothers g₂ hg₂ (heq ▸ hown.locked)
    rw [hget, hobj₂, Option.map_some, if_neg hne]
  · nomatch hidle.extension.symm.trans he

/-- The call gives back its lock. -/
theorem Extending.unlock (h : Extending s gs) (hg : gs[i]? = some g)
    (hlocked : g.locked = some session) :
    Extending (s.modify session ({ · with leaseSyncLocked := false }))
      (gs.set i { g with locked := none, extension := none }) := by
  have hget : ∀ n : Nat, (s.modify session ({ · with leaseSyncLocked := false })).objects[n]? = _ :=
    fun n => getElem?_modify session n _
  have hothers : ∀ g₂ ∈ gs.set i { g with locked := none, extension := none }, ∀ n,
      g₂.locked = some n → g₂ ∈ gs ∧ session ≠ n := by
    intro g₂ hg₂ n hlocked₂
    rcases List.mem_set_cases hg₂ with rfl | ⟨j, hij, hj⟩
    · nomatch hlocked₂
    · refine ⟨List.mem_of_getElem? hj, ?_⟩
      rintro rfl
      exact h.apart i j g g₂ hij hg hj session hlocked hlocked₂
  refine ⟨fun g₂ hg₂ n hlocked₂ => ?_, h.apart.set fun j g₂ hji hj => ⟨nofun, ?_⟩,
    fun g₂ hg₂ e he => ?_⟩
  · obtain ⟨hmem, hne⟩ := hothers g₂ hg₂ n hlocked₂
    obtain ⟨obj₂, hobj₂, hlock⟩ := h.locks g₂ hmem n hlocked₂
    exact ⟨obj₂, by rw [hget, hobj₂, Option.map_some, if_neg hne], hlock⟩
  · exact nofun
  · have hown : g₂.Extends s e := by
      refine List.forall_mem_set h.own (fun _ he => ?_) g₂ hg₂ e he
      nomatch he
    obtain ⟨-, hne⟩ := hothers g₂ hg₂ _ hown.locked
    obtain ⟨obj₂, hobj₂, hsandbox⟩ := hown.sandbox
    exact ⟨hown.locked, hown.holds, hown.target, obj₂,
      by rw [hget, hobj₂, Option.map_some, if_neg hne], hsandbox⟩

theorem le_targetExpires (deadline : Option Int) (leaseExpires : Int) :
    leaseExpires ≤ ManagerState.targetExpires deadline leaseExpires := by
  unfold ManagerState.targetExpires
  split
  · exact Int.le_refl _
  · split <;> omega

/-- The call plans to extend the timeout of its session. -/
theorem Extending.plan (h : Extending s gs) (hg : gs[i]? = some g) {deadline : Option Int}
    {sandbox : String} (hallowed : g.Allowed (.planSync session deadline))
    (hobj : s.objects[session]? = some obj) (hsandbox : obj.sandbox = some sandbox) :
    Extending s (gs.set i { g with
      extension := some
        { session := session
          leaseExpires := obj.desiredLeaseExpiresAt
          targetExpires := ManagerState.targetExpires deadline obj.desiredLeaseExpiresAt
          sandbox := sandbox } }) := by
  obtain ⟨hholds, hlocked, -⟩ := hallowed
  refine ⟨List.forall_mem_set h.locks (h.locks g (List.mem_of_getElem? hg)),
    h.apart.set fun j g₂ hji hj => ?_, List.forall_mem_set h.own fun e he => ?_⟩
  · exact ⟨h.apart i j g g₂ (Ne.symm hji) hg hj, h.apart j i g₂ g hji hj hg⟩
  · cases he
    exact ⟨hlocked, hholds, le_targetExpires _ _, obj, hobj, hsandbox⟩

/-- What creates a session has no sandbox yet, so publishing one keeps the others. -/
theorem grows_publish (hcreating : Creating s gs) (hg : gs[i]? = some g)
    {created : Except BackendError String} {leaseExpiresAt : Int}
    (hallowed : g.Allowed (.publishSandbox session created leaseExpiresAt)) :
    Grows s (s.modify session (ManagerState.publish created leaseExpiresAt)) := by
  obtain ⟨hholds, hcreates, -⟩ := hallowed
  refine grows_modify fun obj hobj => ⟨by cases created <;> rfl, fun sandbox hsandbox => ?_⟩
  have hempty := hcreating.sandbox_eq_none hg hcreates hholds hobj
  nomatch hempty.symm.trans hsandbox

theorem Extending.lease (h : Extending s gs) (hg : gs[i]? = some g)
    (heffect : LeaseEffect g s o g' s') : Extending s' (gs.set i g') := by
  have hremote : ∀ (sandbox : String) (f : RemoteSandbox → RemoteSandbox), Grows s (s.modifyRemote sandbox f) :=
    fun sandbox f => grows_of_eq (modifyRemote_rest sandbox f).2.1
  have hsame : ∀ {g₂ : Phase}, g₂.locked = g.locked → g₂.extension = g.extension →
      g₂.claim = g.claim → g₂.holds = g.holds → g.SameSync g₂ := Phase.sameSync_of_eq
  cases heffect with
  | idle | read | abandoned => exact h.grows hg (grows_of_eq rfl) (hsame rfl rfl rfl rfl)
  | readied | confirmed | adopted | readopted =>
    exact h.grows hg (grows_touch fun _ => ⟨rfl, rfl⟩) (hsame rfl rfl rfl rfl)
  | recorded => exact h.grows hg (grows_touch fun _ => ⟨rfl, rfl⟩) ⟨rfl, nofun⟩
  | extendFailed | connected | connectFailed =>
    exact h.grows hg (hremote _ _) (hsame rfl rfl rfl rfl)
  | extended =>
    refine h.grows hg (hremote _ _) ⟨rfl, fun e' he' => ?_⟩
    obtain ⟨e, he, rfl⟩ := Option.map_eq_some_iff.mp he'
    exact ⟨e, he, rfl, rfl, rfl, rfl, rfl, rfl⟩
  | locked hallowed hobj hfree => exact h.lock hobj hfree hallowed.2
  | unlocked hlocked => exact h.unlock hg hlocked
  | planned hallowed hobj _ hsandbox => exact h.plan hg hallowed hobj hsandbox

theorem Extending.slot (h : Extending s gs) (hcreating : Creating s gs) (hg : gs[i]? = some g)
    (heffect : SlotEffect cfg g s o g' s') : Extending s' (gs.set i g') := by
  have hremote : ∀ (sandbox : String) (f : RemoteSandbox → RemoteSandbox), Grows s (s.modifyRemote sandbox f) :=
    fun sandbox f => grows_of_eq (modifyRemote_rest sandbox f).2.1
  have hback : ∀ destroys (obj : TerminalSession),
      (ManagerState.giveBack destroys obj).leaseSyncLocked = obj.leaseSyncLocked ∧
        (ManagerState.giveBack destroys obj).sandbox = obj.sandbox :=
    fun destroys obj => by cases destroys <;> exact ⟨rfl, rfl⟩
  have hsame : ∀ {g₂ : Phase}, g₂.locked = g.locked → g₂.extension = g.extension →
      g₂.claim = g.claim → g₂.holds = g.holds → g.SameSync g₂ := Phase.sameSync_of_eq
  cases heffect with
  | made hfree => exact h.grows hg ((grows_insert _).trans (grows_of_eq rfl)) (hfree.idle.sameSync rfl rfl)
  | @replaced sessionID _ _ _ _ hfree =>
    have hremoved : Grows s (s.removeSession sessionID) := grows_of_eq rfl
    exact h.grows hg (hremoved.trans (grows_insert _)) (hfree.idle.sameSync rfl rfl)
  | dropped hfree | expired hfree =>
    exact h.grows hg (grows_of_eq rfl) (hfree.idle.sameSync rfl rfl)
  | joined hfree => exact h.grows hg (grows_touch fun _ => ⟨rfl, rfl⟩) (hfree.idle.sameSync rfl rfl)
  | sandboxMade | freed => exact h.grows hg (grows_of_eq rfl) (hsame rfl rfl rfl rfl)
  | published hallowed => exact h.grows hg (grows_publish hcreating hg hallowed) (hsame rfl rfl rfl rfl)
  | released destroys _ hready =>
    exact h.grows hg (grows_touch (hback destroys)) (hready.idle.sameSync rfl rfl)
  | retired destroys _ hready =>
    exact h.grows hg ((grows_touch (hback destroys)).trans (grows_of_eq rfl)) (hready.idle.sameSync rfl rfl)
  | killed | killedListed => exact h.grows hg (hremote _ _) (hsame rfl rfl rfl rfl)
  | recovered => exact h.grows hg ((grows_insert _).trans (grows_of_eq rfl)) (hsame rfl rfl rfl rfl)

/-- A call that extends a timeout has the lock, and its session the sandbox. -/
theorem extensions_locked {ok : ManagerPool → ManagerAction → Prop} {p : ManagerPool}
    (h : (managerMachine lib cfg).ReachableWhere ok p) : Extending p.shared (phases p) := by
  refine manager_invariant (I := Extending) ?_ ?_ ?_ ?_ h
  · exact fun _ _ => ⟨(fun _ hg => nomatch hg), .nil, fun _ hg => nomatch hg⟩
  · intro p c _ ih
    have hidle := (free_start c).idle
    refine ⟨List.forall_mem_concat ih.locks fun session hlocked => ?_,
      ih.apart.append_singleton fun g _ => ?_, List.forall_mem_concat ih.own fun e he => ?_⟩
    · nomatch hidle.locked.symm.trans hlocked
    · exact ⟨fun _ _ hlocked => (nomatch hidle.locked.symm.trans hlocked),
        fun _ hlocked => nomatch hidle.locked.symm.trans hlocked⟩
    · nomatch hidle.extension.symm.trans he
  · intro p i ans g o g' p' hreach _ ih hg _ heffect
    cases heffect with
    | slot heffect => exact ih.slot (creations_apart hreach) hg heffect
    | lease heffect => exact ih.lease hg heffect
  · exact fun _ _ _ _ ih => ⟨ih.locks, ih.apart, fun g hg e he => (ih.own g hg e he).grows (grows_of_eq rfl)⟩

end Extending

/-! ## Sandboxes in use -/

/-- How often a call has a sandbox that it is going to put into a session. -/
def Phase.uses (sandbox : String) (g : Phase) : Nat :=
  (if g.hand.any (·.1 = sandbox) = true then 1 else 0) +
    (if g.adopting.any (·.1 = sandbox) = true then 1 else 0)

/-- The number of users of a sandbox: sessions in the map, and calls that created it or
    connected to it for one. -/
def sandboxUsers (sandbox : String) (s : ManagerState) (gs : List Phase) : Nat :=
  mapped (owns sandbox) s + (gs.map (·.uses sandbox)).sum

/-- A sandbox has one user, and exists. -/
structure Exclusive (s : ManagerState) (gs : List Phase) : Prop where
  one : ∀ sandbox, sandboxUsers sandbox s gs ≤ 1
  known : ∀ sandbox, s.remote.lookup sandbox = none → sandboxUsers sandbox s gs = 0

section Exclusive

variable {sandbox : String}

theorem uses_of_none (hhand : g.hand = none) (hadopting : g.adopting = none) :
    g.uses sandbox = 0 := by
  rw [Phase.uses, hhand, hadopting]
  rfl

theorem uses_hand {promised : Int} (h : g.hand = some (sandbox, promised)) :
    0 < g.uses sandbox := by
  rw [Phase.uses, h, Option.any_some, if_pos (decide_eq_true rfl)]
  omega

theorem uses_adopting {promised : Int} (h : g.adopting = some (sandbox, promised)) :
    0 < g.uses sandbox := by
  unfold Phase.uses
  rw [h, Option.any_some (x := (sandbox, promised)), if_pos (decide_eq_true rfl)]
  omega

theorem uses_le_users (hg : g ∈ gs) :
    mapped (owns sandbox) s + g.uses sandbox ≤ sandboxUsers sandbox s gs :=
  Nat.add_le_add_left (List.le_sum_of_mem (List.mem_map_of_mem hg)) _

theorem mapped_pos {sandbox id : String} {session : Nat}
    (hlookup : s.sessions.lookup id = some session) (hobj : s.objects[session]? = some obj)
    (hsandbox : obj.sandbox = some sandbox) : 0 < mapped (owns sandbox) s := by
  refine AList.countValues_pos hlookup ?_
  rw [hobj, Option.any_some]
  exact decide_eq_true hsandbox

/-- Users come from the map or from the call itself. -/
theorem Exclusive.moves (h : Exclusive s gs) (hg : gs[i]? = some g)
    (hmoves : ∀ sandbox, mapped (owns sandbox) s' + g'.uses sandbox ≤
      mapped (owns sandbox) s + g.uses sandbox)
    (hremote : ∀ sandbox, s'.remote.lookup sandbox = none → s.remote.lookup sandbox = none) :
    Exclusive s' (gs.set i g') := by
  have hle : ∀ sandbox, sandboxUsers sandbox s' (gs.set i g') ≤ sandboxUsers sandbox s gs := fun sandbox => by
    have hsum := List.sum_map_set_add (fun g : Phase => g.uses sandbox) hg (b := g')
    have := hmoves sandbox
    unfold sandboxUsers
    omega
  exact ⟨fun sandbox => Nat.le_trans (hle sandbox) (h.one sandbox), fun sandbox hnone =>
    Nat.le_zero.mp ((h.known sandbox (hremote sandbox hnone)) ▸ hle sandbox)⟩

/-- The call gets a sandbox that nobody uses. -/
theorem Exclusive.take (h : Exclusive s gs) (hg : gs[i]? = some g)
    (hfree : sandboxUsers sandbox s gs = 0)
    (hmapped : ∀ sandbox', mapped (owns sandbox') s' = mapped (owns sandbox') s)
    (huses : ∀ sandbox', g'.uses sandbox' ≤ g.uses sandbox' + (if sandbox = sandbox' then 1 else 0))
    (hthere : s'.remote.lookup sandbox ≠ none)
    (hremote : ∀ sandbox', s'.remote.lookup sandbox' = none → s.remote.lookup sandbox' = none) :
    Exclusive s' (gs.set i g') := by
  have hle : ∀ sandbox', sandboxUsers sandbox' s' (gs.set i g') ≤
      sandboxUsers sandbox' s gs + (if sandbox = sandbox' then 1 else 0) := fun sandbox' => by
    have hsum := List.sum_map_set_add (fun g : Phase => g.uses sandbox') hg (b := g')
    have hmap := hmapped sandbox'
    have huse := huses sandbox'
    unfold sandboxUsers
    omega
  refine ⟨fun sandbox' => ?_, fun sandbox' hnone => ?_⟩
  · have hbound := hle sandbox'
    have hone := h.one sandbox'
    split at hbound
    · rename_i heq
      subst heq
      omega
    · omega
  · have hne : sandbox ≠ sandbox' := fun heq => hthere (heq ▸ hnone)
    have := hle sandbox'
    rw [if_neg hne, h.known sandbox' (hremote sandbox' hnone)] at this
    exact Nat.le_zero.mp this

theorem uses_congr (hhand : g'.hand = g.hand) (hadopting : g'.adopting = g.adopting) :
    g'.uses sandbox = g.uses sandbox := by
  unfold Phase.uses
  rw [hhand, hadopting]

theorem lookup_expireIn (sandbox sandbox' : String) (timeoutSec : Int) :
    (s.expireIn sandbox timeoutSec).remote.lookup sandbox' = (s.remote.lookup sandbox').map fun r =>
      if sandbox' = sandbox then { r with expiresAt := s.clock + timeoutSec * 1000 } else r :=
  lookup_modifyRemote _ _ _

theorem lookup_expireIn_none {sandbox sandbox' : String} {timeoutSec : Int} :
    (s.expireIn sandbox timeoutSec).remote.lookup sandbox' = none ↔ s.remote.lookup sandbox' = none := by
  rw [lookup_expireIn, Option.map_eq_none_iff]

theorem Exclusive.lease (h : Exclusive s gs) (hg : gs[i]? = some g)
    (hconnects : ∀ sandbox timeoutSec, o = .connectSandbox sandbox timeoutSec →
      sandboxUsers sandbox s gs = 0)
    (heffect : LeaseEffect g s o g' s') : Exclusive s' (gs.set i g') := by
  have hmapped := heffect.frame.2.2.1
  have hsame : ∀ {g₂ : Phase}, g₂.hand = g.hand → (g₂.adopting = g.adopting ∨ g₂.adopting = none) →
      ∀ sandbox, mapped (owns sandbox) s' + g₂.uses sandbox ≤ mapped (owns sandbox) s + g.uses sandbox := by
    intro g₂ hhand hadopting sandbox
    rw [hmapped]
    refine Nat.add_le_add_left ?_ _
    rcases hadopting with hadopting | hadopting
    · exact Nat.le_of_eq (uses_congr hhand hadopting)
    · rw [Phase.uses, hadopting, hhand]
      exact Nat.le_add_right _ _
  cases heffect with
  | idle | read | readied | locked | unlocked | confirmed | planned | recorded | adopted =>
    exact h.moves hg (hsame rfl (.inl rfl)) fun _ hnone => hnone
  | readopted | abandoned => exact h.moves hg (hsame rfl (.inr rfl)) fun _ hnone => hnone
  | extended | extendFailed | connectFailed =>
    exact h.moves hg (hsame rfl (.inl rfl)) fun _ => lookup_expireIn_none.mp
  | @connected sandbox timeoutSec adopting hallowed hadopting hthere =>
    rcases hadopting with rfl | rfl
    · exact h.moves hg (hsame rfl (.inr rfl)) fun _ => lookup_expireIn_none.mp
    · refine h.take hg (hconnects sandbox timeoutSec rfl) (fun sandbox' => hmapped _) (fun sandbox' => ?_) ?_
        fun _ => lookup_expireIn_none.mp
      · have hnone : g.adopting = none := hallowed.1.adopting
        unfold Phase.uses
        rw [hnone]
        simp only [Option.any_some, Option.any_none, decide_eq_true_eq]
        split <;> split <;> simp_all
      · rw [Ne, lookup_expireIn_none]
        exact Option.ne_none_iff_isSome.mpr hthere

theorem Exclusive.slot (h : Exclusive s gs) (hholding : Holding s gs) (hcreating : Creating s gs)
    (hg : gs[i]? = some g) (heffect : SlotEffect cfg g s o g' s') : Exclusive s' (gs.set i g') := by
  rcases heffect.moves hholding hcreating hg with ⟨came, gone, hmove⟩ |
    ⟨sandbox, promised, r, hhand, hfresh, -, -, rfl, rfl⟩ | ⟨sandbox, rest, -, rfl, rfl⟩ |
    ⟨sessionID, sandbox, leaseExpiresAt, hallowed, hnone, rfl, rfl⟩
  · refine h.moves hg (fun sandbox => ?_) hmove.remote
    have hmapped := hmove.mapped (owns sandbox)
    have hkeeps := hmove.keeps sandbox
    have hkills := hmove.kills sandbox
    unfold Phase.keeps at hkeeps
    unfold Phase.uses
    rw [hmove.adopting]
    omega
  · refine h.take hg (h.known sandbox hfresh) (fun _ => rfl) (fun sandbox' => ?_) ?_ fun sandbox' hnone => ?_
    · unfold Phase.uses
      rw [hhand]
      simp only [Option.any_some, Option.any_none, decide_eq_true_eq]
      split <;> split <;> simp_all
    · rw [AList.lookup_insert]
      exact nofun
    · rw [AList.lookup_insert_ite] at hnone
      split at hnone
      · nomatch hnone
      · exact hnone
  · refine h.moves hg (fun sandbox' => ?_) fun sandbox' hnone => ?_
    · exact Nat.le_of_eq (congrArg₂ _ (mapped_modifyRemote _ _ _) (uses_congr rfl rfl))
    · unfold ManagerState.killSandbox at hnone
      rwa [lookup_modifyRemote, Option.map_eq_none_iff] at hnone
  · obtain ⟨now, hadopting⟩ := hallowed.2.2.2.2.2
    refine h.moves hg (fun sandbox' => ?_) fun _ hnone => hnone
    have hinsert : mapped (owns sandbox')
        (s.insertSession (ManagerState.recoveredSession sessionID sandbox leaseExpiresAt)) =
        mapped (owns sandbox') s + (if owns sandbox' ⟨some sandbox, true⟩ = true then 1 else 0) :=
      mapped_insert hholding.sound hnone
    have hself : Phase.uses sandbox' { g with adopting := none } + (if sandbox = sandbox' then 1 else 0) =
        g.uses sandbox' := by
      unfold Phase.uses
      rw [hadopting]
      simp only [Option.any_some, Option.any_none, decide_eq_true_eq, Bool.false_eq_true, if_false]
      omega
    simp only [owns, decide_eq_true_eq, Option.some.injEq] at hinsert
    change mapped (owns sandbox') (s.insertSession _) + _ ≤ _
    omega

end Exclusive

end Onlyboxes.E2B
