import Onlyboxes.Spec.E2BLocks

/-!
# The leases of the E2B worker and the timeouts of its sandboxes

A session has the lease that was confirmed and the expiry that its sandbox is believed to
have, and the sandbox has the expiry that the last call of the backend gave it. The lock
`leaseSyncMu` serialises those who extend the timeout of one session. `recoverOne` does not
take it: it writes a new lease into a session without a call of the backend, and connects
to sandboxes that others use.

## Key results

- `leases_backed`: confirmed lease ≤ believed expiry ≤ expiry, unless recovery overwrites a
  lease or connects to a sandbox that is in use
- `lease_overwritten`: recovery overwrites the lease of a session, whose sandbox ends before
-/

namespace Onlyboxes.E2B

open Text Worker

variable {lib : E2BLib} {cfg : ManagerSettings} {g g' : Phase} {s s' : ManagerState} {o : ManagerOp}
  {gs : List Phase} {i : Nat}

/-- The timeout is not shorter than the time until the target. -/
theorem le_secondsUntil (target now : Int) : target ≤ now + secondsUntil target now * 1000 := by
  unfold secondsUntil
  dsimp only
  rcases Int.le_total now target with hle | hle
  · rw [Int.tdiv_eq_ediv_of_nonneg (Int.sub_nonneg.mpr hle)]
    split <;> omega
  · split <;> omega

/-! ## Leases -/

/-- The sandbox does not expire before. -/
def ManagerState.Outlasts (s : ManagerState) (sandbox : String) (time : Int) : Prop :=
  ∃ r, s.remote.lookup sandbox = some r ∧ time ≤ r.expiresAt

/-- The confirmed lease of a session with a sandbox is not after the expiry that the sandbox
    is believed to have, and that is not after the expiry that it has. -/
def TerminalSession.Backed (s : ManagerState) (obj : TerminalSession) : Prop :=
  ∀ sandbox, obj.sandbox = some sandbox →
    obj.confirmedLeaseExpiresAt ≤ obj.remoteTimeoutExpiresAt ∧
      s.Outlasts sandbox obj.remoteTimeoutExpiresAt

/-- The call relies on a sandbox not to expire before. -/
def Phase.Promises (g : Phase) (sandbox : String) (time : Int) : Prop :=
  g.hand = some (sandbox, time) ∨ g.adopting = some (sandbox, time) ∨
    ∃ e, g.extension = some e ∧ e.set = true ∧ e.sandbox = sandbox ∧ e.targetExpires = time

/-- An extension that was planned is beyond the expiry that the sandbox is believed to have. -/
def Phase.Planned (s : ManagerState) (g : Phase) : Prop :=
  ∀ e (obj : TerminalSession), g.extension = some e → e.set = false →
    s.objects[e.session]? = some obj → obj.remoteTimeoutExpiresAt ≤ e.targetExpires

structure LeasesBacked (s : ManagerState) (gs : List Phase) : Prop where
  sessions : ∀ (id : String) (session : Nat) (obj : TerminalSession),
    s.sessions.lookup id = some session → s.objects[session]? = some obj → obj.Backed s
  promises : ∀ g ∈ gs, ∀ sandbox time, g.Promises sandbox time → s.Outlasts sandbox time
  planned : ∀ g ∈ gs, g.Planned s
  reads : ∀ g ∈ gs, ∀ now, g.read = some now → now ≤ s.clock

/-- Recovery gives a session that is there a lease beyond the expiry of its sandbox, or
    beyond one that is about to be set. -/
def Overwrites (s : ManagerState) (gs : List Phase) (o : ManagerOp) : Prop :=
  ∃ sessionID leaseExpiresAt session obj sandbox, o = .recoverExisting sessionID leaseExpiresAt ∧
    s.sessions.lookup sessionID = some session ∧ s.objects[session]? = some obj ∧
    obj.destroying = false ∧ obj.sandbox = some sandbox ∧
    ¬ (s.Outlasts sandbox leaseExpiresAt ∧ ∀ g ∈ gs, ∀ e, g.extension = some e → e.session = session →
      e.set = false → leaseExpiresAt ≤ e.targetExpires)

/-- Recovery connects to a sandbox that is in use. -/
def Reconnects (s : ManagerState) (gs : List Phase) (o : ManagerOp) : Prop :=
  ∃ sandbox timeoutSec, o = .connectSandbox sandbox timeoutSec ∧ 0 < sandboxUsers sandbox s gs

section Leases

variable {sandbox : String} {time : Int}

theorem outlasts_mono {time' : Int} (hle : time' ≤ time) (h : s.Outlasts sandbox time) :
    s.Outlasts sandbox time' := by
  obtain ⟨r, hr, htime⟩ := h
  exact ⟨r, hr, Int.le_trans hle htime⟩

/-- All sandboxes are as long there as before. -/
def KeepsExpiry (s s' : ManagerState) : Prop :=
  ∀ sandbox time, s.Outlasts sandbox time → s'.Outlasts sandbox time

theorem keepsExpiry_insert (r : RemoteSandbox) (hfresh : s.remote.lookup sandbox = none) :
    KeepsExpiry s { s with remote := s.remote.insert sandbox r } := by
  rintro sandbox' time ⟨r', hr', htime⟩
  have hne : sandbox' ≠ sandbox := fun heq => nomatch (heq ▸ hr').symm.trans hfresh
  exact ⟨r', (AList.lookup_insert_ite _ _ _ _).trans ((if_neg hne).trans hr'), htime⟩

theorem keepsExpiry_kill (sandbox : String) : KeepsExpiry s (s.killSandbox sandbox) := by
  rintro sandbox' time ⟨r, hr, htime⟩
  refine ⟨_, (lookup_modifyRemote _ _ _).trans (congrArg _ hr), ?_⟩
  dsimp only
  split <;> exact htime

variable {timeoutSec : Int}

/-- The timeout of one sandbox is set. -/
theorem outlasts_expireIn {sandbox' : String}
    (hother : sandbox' = sandbox → time ≤ s.clock + timeoutSec * 1000)
    (h : s.Outlasts sandbox' time) : (s.expireIn sandbox timeoutSec).Outlasts sandbox' time := by
  obtain ⟨r, hr, htime⟩ := h
  refine ⟨_, (lookup_expireIn _ _ _).trans (congrArg _ hr), ?_⟩
  dsimp only
  split
  · rename_i heq
    exact hother heq
  · exact htime

variable {obj : TerminalSession}

theorem Backed.keeps (h : obj.Backed s) (hkeeps : KeepsExpiry s s') : obj.Backed s' :=
  fun sandbox hsandbox => ⟨(h sandbox hsandbox).1, hkeeps _ _ (h sandbox hsandbox).2⟩

variable (h : LeasesBacked s gs) (hholding : Holding s gs) (hext : Extending s gs)
  (hexcl : Exclusive s gs) (hg : gs[i]? = some g)

include h hg in
/-- What an effect has to keep. -/
theorem LeasesBacked.step
    (hsessions : ∀ (id : String) (session : Nat) (obj : TerminalSession),
      s'.sessions.lookup id = some session → s'.objects[session]? = some obj → obj.Backed s')
    (hothers : ∀ (j : Nat) (g₂ : Phase), j ≠ i → gs[j]? = some g₂ →
      (∀ sandbox time, g₂.Promises sandbox time → s'.Outlasts sandbox time) ∧ g₂.Planned s')
    (hself : (∀ sandbox time, g'.Promises sandbox time → s'.Outlasts sandbox time) ∧ g'.Planned s')
    (hread : ∀ now, g'.read = some now → g.read = some now ∨ now = s.clock)
    (hclock : s'.clock = s.clock) : LeasesBacked s' (gs.set i g') := by
  refine ⟨hsessions, fun g₂ hg₂ => ?_, fun g₂ hg₂ => ?_, fun g₂ hg₂ now hnow => ?_⟩
  · rcases List.mem_set_cases hg₂ with rfl | ⟨j, hij, hj⟩
    · exact hself.1
    · exact (hothers j g₂ (Ne.symm hij) hj).1
  · rcases List.mem_set_cases hg₂ with rfl | ⟨j, hij, hj⟩
    · exact hself.2
    · exact (hothers j g₂ (Ne.symm hij) hj).2
  · rw [hclock]
    rcases List.mem_set_cases hg₂ with rfl | ⟨j, -, hj⟩
    · rcases hread now hnow with hbefore | rfl
      · exact h.reads g (List.mem_of_getElem? hg) now hbefore
      · exact Int.le_refl _
    · exact h.reads g₂ (List.mem_of_getElem? hj) now hnow

/-- The leases of the sessions in the map are those they had; new sessions have no sandbox. -/
structure KeepsLeases (s s' : ManagerState) : Prop where
  sessions : ∀ (id : String) (session : Nat) (obj' : TerminalSession),
    s'.sessions.lookup id = some session → s'.objects[session]? = some obj' → obj'.sandbox = none ∨
      ∃ obj, s.sessions.lookup id = some session ∧ s.objects[session]? = some obj ∧
        obj'.sandbox = obj.sandbox ∧ obj'.confirmedLeaseExpiresAt = obj.confirmedLeaseExpiresAt ∧
        obj'.remoteTimeoutExpiresAt = obj.remoteTimeoutExpiresAt
  objects : ∀ (session : Nat) (obj : TerminalSession), s.objects[session]? = some obj →
    ∃ obj', s'.objects[session]? = some obj' ∧ obj'.remoteTimeoutExpiresAt = obj.remoteTimeoutExpiresAt

theorem keepsLeases_of_eq (hobjects : s'.objects = s.objects)
    (hsessions : ∀ id session, s'.sessions.lookup id = some session → s.sessions.lookup id = some session) :
    KeepsLeases s s' :=
  ⟨fun id session obj' hlookup hobj' =>
    .inr ⟨obj', hsessions id session hlookup, hobjects ▸ hobj', rfl, rfl, rfl⟩,
    fun _ obj hobj => ⟨obj, hobjects ▸ hobj, rfl⟩⟩

variable {f : TerminalSession → TerminalSession}

theorem keepsLeases_touch {session : Nat} (hf : ∀ obj, (f obj).sandbox = obj.sandbox ∧
      (f obj).confirmedLeaseExpiresAt = obj.confirmedLeaseExpiresAt ∧
      (f obj).remoteTimeoutExpiresAt = obj.remoteTimeoutExpiresAt) :
    KeepsLeases s (s.modify session f) := by
  refine ⟨fun id n obj' hlookup hobj' => .inr ?_, fun n obj hobj => ?_⟩
  · rw [getElem?_modify] at hobj'
    obtain ⟨obj, hobj, rfl⟩ := Option.map_eq_some_iff.mp hobj'
    refine ⟨obj, hlookup, hobj, ?_⟩
    split
    · exact hf obj
    · exact ⟨rfl, rfl, rfl⟩
  · rw [getElem?_modify, hobj, Option.map_some]
    refine ⟨_, rfl, ?_⟩
    split
    · exact (hf obj).2.2
    · rfl

/-- What is in the map after a session was inserted. -/
theorem insertSession_cases {id : String} {n : Nat} {obj' : TerminalSession}
    (hlookup : (s.insertSession obj).sessions.lookup id = some n)
    (hobj' : (s.insertSession obj).objects[n]? = some obj') :
    (s.sessions.lookup id = some n ∧ s.objects[n]? = some obj') ∨ obj' = obj := by
  rcases List.getElem?_concat_cases hobj' with ⟨hlt, hobj'⟩ | ⟨-, heq⟩
  · rcases AList.lookup_insert_cases hlookup with ⟨-, hlast⟩ | ⟨-, hlookup⟩
    · exact absurd hlast (Nat.ne_of_lt hlt)
    · exact .inl ⟨hlookup, hobj'⟩
  · exact .inr heq

theorem keepsLeases_insert (hsandbox : obj.sandbox = none) :
    KeepsLeases s (s.insertSession obj) := by
  refine ⟨fun id n obj' hlookup hobj' => ?_, fun n obj' hobj' => ⟨obj', ?_, rfl⟩⟩
  · rcases insertSession_cases hlookup hobj' with ⟨hlookup, hobj'⟩ | rfl
    · exact .inr ⟨obj', hlookup, hobj', rfl, rfl, rfl⟩
    · exact .inl hsandbox
  · exact List.getElem?_concat_of_some hobj'

theorem KeepsLeases.trans {s₁ s₂ s₃ : ManagerState} (h : KeepsLeases s₁ s₂) (h' : KeepsLeases s₂ s₃) :
    KeepsLeases s₁ s₃ := by
  refine ⟨fun id n obj₃ hlookup hobj₃ => ?_, fun n obj hobj => ?_⟩
  · rcases h'.sessions id n obj₃ hlookup hobj₃ with hnone | ⟨obj₂, hlookup₂, hobj₂, hs, hc, hr⟩
    · exact .inl hnone
    · rcases h.sessions id n obj₂ hlookup₂ hobj₂ with hnone | ⟨obj₁, hlookup₁, hobj₁, hs', hc', hr'⟩
      · exact .inl (hs.trans hnone)
      · exact .inr ⟨obj₁, hlookup₁, hobj₁, hs.trans hs', hc.trans hc', hr.trans hr'⟩
  · obtain ⟨obj₂, hobj₂, hr⟩ := h.objects n obj hobj
    obtain ⟨obj₃, hobj₃, hr'⟩ := h'.objects n obj₂ hobj₂
    exact ⟨obj₃, hobj₃, hr'.trans hr⟩

variable (hkeeps : KeepsExpiry s s') (hleases : KeepsLeases s s')

include h hkeeps hleases in
/-- Sessions keep their leases, and sandboxes their expiry. -/
theorem LeasesBacked.kept :
    ∀ (id : String) (session : Nat) (obj : TerminalSession), s'.sessions.lookup id = some session →
      s'.objects[session]? = some obj → obj.Backed s' := by
  intro id session obj' hlookup' hobj' sandbox hsandbox
  rcases hleases.sessions id session obj' hlookup' hobj' with hnone | ⟨obj, hlookup, hobj, hs, hc, hr⟩
  · nomatch hnone.symm.trans hsandbox
  · rw [hc, hr]
    exact Backed.keeps (h.sessions id session obj hlookup hobj) hkeeps sandbox (hs.symm.trans hsandbox)

theorem Planned.keeps (h : g.Planned s) (hext : ∀ e, g.extension = some e → g.Extends s e)
    (hleases : ∀ (session : Nat) (obj : TerminalSession), s.objects[session]? = some obj →
      ∃ obj', s'.objects[session]? = some obj' ∧ obj'.remoteTimeoutExpiresAt = obj.remoteTimeoutExpiresAt) :
    g.Planned s' := by
  intro e obj' he hset hobj'
  obtain ⟨obj, hobj, -⟩ := (hext e he).sandbox
  obtain ⟨obj₂, hobj₂, hsame⟩ := hleases _ obj hobj
  obtain rfl := Option.mem_unique hobj' hobj₂
  rw [hsame]
  exact h e obj he hset hobj

include h hext hg hkeeps hleases in
/-- An operation that leaves leases and timeouts alone. -/
theorem LeasesBacked.quiet (hclock : s'.clock = s.clock)
    (hself : ∀ sandbox time, g'.Promises sandbox time → g.Promises sandbox time)
    (hextension : ∀ e, g'.extension = some e → e.set = false → g.extension = some e)
    (hread : ∀ now, g'.read = some now → g.read = some now ∨ now = s.clock) :
    LeasesBacked s' (gs.set i g') := by
  have hplanned : ∀ g₂ ∈ gs, g₂.Planned s' := fun g₂ hg₂ =>
    Planned.keeps (h.planned g₂ hg₂) (hext.own g₂ hg₂) hleases.objects
  have hmem := List.mem_of_getElem? hg
  refine h.step hg (h.kept hkeeps hleases) (fun j g₂ _ hj => ⟨fun sandbox time hp => ?_, ?_⟩)
    ⟨fun sandbox time hp => ?_, fun e obj he hset hobj => ?_⟩ hread hclock
  · exact hkeeps _ _ (h.promises g₂ (List.mem_of_getElem? hj) sandbox time hp)
  · exact hplanned g₂ (List.mem_of_getElem? hj)
  · exact hkeeps _ _ (h.promises g hmem sandbox time (hself sandbox time hp))
  · exact hplanned g hmem e obj (hextension e he hset) hset hobj

/-- The call keeps what it relies on. -/
structure Phase.SameLeases (g g' : Phase) : Prop where
  hand : g'.hand = g.hand ∨ g'.hand = none
  adopting : g'.adopting = g.adopting ∨ g'.adopting = none
  extension : g'.extension = g.extension ∨ g'.extension = none
  read : g'.read = g.read

/-- What is there was there before. -/
theorem eq_some_of_eq_or {α : Type} {o o' : Option α} {a : α} (h : o' = o ∨ o' = none)
    (ha : o' = some a) : o = some a := by
  rcases h with rfl | rfl
  · exact ha
  · nomatch ha

/-- The call relies on nothing new. -/
theorem Phase.SameLeases.promises (hself : g.SameLeases g') (h : g'.Promises sandbox time) :
    g.Promises sandbox time :=
  h.imp (eq_some_of_eq_or hself.hand) (Or.imp (eq_some_of_eq_or hself.adopting)
    fun ⟨e, he, hset⟩ => ⟨e, eq_some_of_eq_or hself.extension he, hset⟩)

include h hext hg hkeeps hleases in
/-- An operation that has nothing to do with leases. -/
theorem LeasesBacked.same (hclock : s'.clock = s.clock) (hself : g.SameLeases g') :
    LeasesBacked s' (gs.set i g') :=
  h.quiet hext hg hkeeps hleases hclock
    (fun _ _ => hself.promises) (fun _ he _ => eq_some_of_eq_or hself.extension he) fun _ hnow => .inl (hself.read ▸ hnow)

include h hg in
/-- The lease of one session is updated. -/
theorem LeasesBacked.update {session : Nat}
    (hf : ∀ id obj, s.sessions.lookup id = some session → s.objects[session]? = some obj →
      obj.Backed s → (f obj).Backed s)
    (hplanned : ∀ (j : Nat) (g₂ : Phase) (e : Extension) (obj : TerminalSession), gs[j]? = some g₂ →
      (j ≠ i ∨ g'.extension = some e) → g₂.extension = some e → e.session = session →
      e.set = false → s.objects[session]? = some obj → (f obj).remoteTimeoutExpiresAt ≤ e.targetExpires)
    (hself : g.SameLeases g') : LeasesBacked (s.modify session f) (gs.set i g') := by
  have hmem := List.mem_of_getElem? hg
  -- What is planned, for this session and for others.
  have hkept : ∀ (j : Nat) (g₂ : Phase) (e : Extension) (obj' : TerminalSession), gs[j]? = some g₂ →
      (j ≠ i ∨ g'.extension = some e) → g₂.extension = some e → e.set = false →
      (s.modify session f).objects[e.session]? = some obj' → obj'.remoteTimeoutExpiresAt ≤ e.targetExpires := by
    intro j g₂ e obj' hj hother he hset hobj'
    rw [getElem?_modify] at hobj'
    obtain ⟨obj, hobj, rfl⟩ := Option.map_eq_some_iff.mp hobj'
    split
    · rename_i heq
      exact hplanned j g₂ e obj hj hother he heq.symm hset (heq ▸ hobj)
    · exact h.planned g₂ (List.mem_of_getElem? hj) e obj he hset hobj
  refine h.step hg (fun id n obj' hlookup hobj' => ?_) (fun j g₂ hji hj => ⟨?_, ?_⟩)
    ⟨fun sandbox time hp => ?_, ?_⟩ (fun now hnow => .inl (hself.read ▸ hnow)) rfl
  · rw [getElem?_modify] at hobj'
    obtain ⟨obj, hobj, rfl⟩ := Option.map_eq_some_iff.mp hobj'
    have hbacked : obj.Backed s := h.sessions id n obj hlookup hobj
    split
    · rename_i heq
      subst heq
      exact hf id obj hlookup hobj hbacked
    · exact hbacked
  · exact h.promises g₂ (List.mem_of_getElem? hj)
  · exact fun e obj' he hset hobj' => hkept j g₂ e obj' hj (.inl hji) he hset hobj'
  · exact h.promises g hmem sandbox time (hself.promises hp)
  · exact fun e obj' he hset hobj' =>
      hkept i g e obj' hg (.inr he) (eq_some_of_eq_or hself.extension he) hset hobj'

include h hg in
/-- The timeout of a sandbox is set. -/
theorem LeasesBacked.expire
    (hsession : ∀ id session obj, s.sessions.lookup id = some session →
      s.objects[session]? = some obj → obj.sandbox = some sandbox →
      obj.remoteTimeoutExpiresAt ≤ s.clock + timeoutSec * 1000)
    (hothers : ∀ (j : Nat) (g₂ : Phase) time, j ≠ i → gs[j]? = some g₂ → g₂.Promises sandbox time →
      time ≤ s.clock + timeoutSec * 1000) (hself : ∀ sandbox' time, g'.Promises sandbox' time →
      (s.expireIn sandbox timeoutSec).Outlasts sandbox' time)
    (hextension : ∀ e, g'.extension = some e → e.set = false → g.extension = some e)
    (hread : g'.read = g.read) : LeasesBacked (s.expireIn sandbox timeoutSec) (gs.set i g') := by
  have hrest := modifyRemote_rest (s := s) sandbox ({ · with expiresAt := s.clock + timeoutSec * 1000 })
  have hsessions : (s.expireIn sandbox timeoutSec).sessions = s.sessions := hrest.1
  have hobjects : (s.expireIn sandbox timeoutSec).objects = s.objects := hrest.2.1
  refine h.step hg (fun id session obj hlookup hobj sandbox' hsandbox' => ?_)
    (fun j g₂ hji hj => ⟨fun sandbox' time hp => ?_, fun e obj he hset hobj => ?_⟩)
    ⟨hself, fun e obj he hset hobj => ?_⟩ (fun now hnow => .inl (hread ▸ hnow)) hrest.2.2.2
  · rw [hsessions] at hlookup
    rw [hobjects] at hobj
    obtain ⟨hle, houtlasts⟩ := h.sessions id session obj hlookup hobj sandbox' hsandbox'
    refine ⟨hle, outlasts_expireIn (fun heq => ?_) houtlasts⟩
    exact hsession id session obj hlookup hobj (heq ▸ hsandbox')
  · refine outlasts_expireIn (fun heq => ?_) (h.promises g₂ (List.mem_of_getElem? hj) sandbox' time hp)
    exact hothers j g₂ time hji hj (heq ▸ hp)
  · exact h.planned g₂ (List.mem_of_getElem? hj) e obj he hset (hobjects ▸ hobj)
  · exact h.planned g (List.mem_of_getElem? hg) e obj (hextension e he hset) hset (hobjects ▸ hobj)

/-- A sandbox is in one session of the map at most. -/
theorem Exclusive.session_eq (h : Exclusive s gs) {id id' : String} {session session' : Nat}
    {obj' : TerminalSession} (hlookup : s.sessions.lookup id = some session)
    (hobj : s.objects[session]? = some obj) (hsandbox : obj.sandbox = some sandbox)
    (hlookup' : s.sessions.lookup id' = some session') (hobj' : s.objects[session']? = some obj')
    (hsandbox' : obj'.sandbox = some sandbox) : session = session' := by
  have hone : mapped (owns sandbox) s ≤ 1 := Nat.le_trans (Nat.le_add_right _ _) (h.one sandbox)
  have hown : (s.objects[session]?).any (owns sandbox ·.retire) = true := by
    rw [hobj, Option.any_some]
    exact decide_eq_true hsandbox
  have hown' : (s.objects[session']?).any (owns sandbox ·.retire) = true := by
    rw [hobj', Option.any_some]
    exact decide_eq_true hsandbox'
  obtain rfl := AList.key_eq_of_countValues_le_one hone hlookup hown hlookup' hown'
  exact Option.mem_unique hlookup hlookup'

/-- A sandbox of a session in the map is not with a call. -/
theorem Exclusive.not_with_call (h : Exclusive s gs) {id : String} {session : Nat}
    (hlookup : s.sessions.lookup id = some session) (hobj : s.objects[session]? = some obj)
    (hsandbox : obj.sandbox = some sandbox) (hg : g ∈ gs) :
    g.uses sandbox = 0 := by
  have hpos := mapped_pos hlookup hobj hsandbox
  have hle : mapped (owns sandbox) s + g.uses sandbox ≤ sandboxUsers sandbox s gs := uses_le_users hg
  have hone := h.one sandbox
  omega

/-- What a call extends is a session in the map. -/
theorem Phase.Extends.session {e : Extension} (h : g.Extends s e) (hholding : Holding s gs) (hg : g ∈ gs) :
    ∃ id obj, s.sessions.lookup id = some e.session ∧ s.objects[e.session]? = some obj ∧
      obj.sandbox = some e.sandbox := by
  obtain ⟨obj, hobj, hsandbox⟩ := h.sandbox
  obtain ⟨claim, hc, hsession⟩ := h.holds
  exact ⟨_, obj, hsession ▸ hholding.held g hg claim hc, hobj, hsandbox⟩

/-- A call that relies on the sandbox of a session in the map extends its timeout. -/
theorem Phase.Promises.extends (h : g.Promises sandbox time) (hfree : g.uses sandbox = 0) :
    ∃ e, g.extension = some e ∧ e.set = true ∧ e.sandbox = sandbox ∧ e.targetExpires = time := by
  rcases h with h | h | h
  · exact absurd hfree (Nat.ne_of_gt (uses_hand h))
  · exact absurd hfree (Nat.ne_of_gt (uses_adopting h))
  · exact h

include h hholding hext hexcl hg in
/-- `SetTimeout` by the call that has the lock, whether or not it reports an error. -/
theorem LeasesBacked.extend (hallowed : g.Allowed (.setTimeout sandbox timeoutSec))
    (hself : g' = g ∨ g' = { g with extension := g.extension.map ({ · with set := true }) }) :
    LeasesBacked (s.expireIn sandbox timeoutSec) (gs.set i g') := by
  have hmem := List.mem_of_getElem? hg
  obtain ⟨e, now, he, hset, rfl, hread, rfl⟩ := hallowed
  have hown := hext.own g hmem e he
  obtain ⟨id, obj, hlookup, hobj, hsandbox⟩ := hown.session hholding hmem
  have hfree : ∀ g₂ ∈ gs, g₂.uses e.sandbox = 0 := fun g₂ hg₂ =>
    hexcl.not_with_call hlookup hobj hsandbox hg₂
  have htarget : e.targetExpires ≤ s.clock + secondsUntil e.targetExpires now * 1000 := by
    have := le_secondsUntil e.targetExpires now
    have := h.reads g hmem now hread
    omega
  have hold : ∀ sandbox' time, g.Promises sandbox' time →
      (s.expireIn e.sandbox (secondsUntil e.targetExpires now)).Outlasts sandbox' time := by
    intro sandbox' time hp
    refine outlasts_expireIn (fun heq => ?_) (h.promises g hmem sandbox' time hp)
    subst heq
    obtain ⟨e₂, he₂, hset₂, -⟩ := hp.extends (hfree g hmem)
    obtain rfl := Option.mem_unique he he₂
    nomatch hset.symm.trans hset₂
  refine h.expire hg (fun id' session' obj' hlookup' hobj' hsandbox' => ?_)
    (fun j g₂ time hji hj hp => ?_) (fun sandbox' time hp => ?_) (fun e' he' hset' => ?_) ?_
  · obtain rfl := hexcl.session_eq hlookup hobj hsandbox hlookup' hobj' hsandbox'
    exact Int.le_trans (h.planned g hmem e obj' he hset hobj') htarget
  · -- Another call that relies on the sandbox would have the lock as well.
    have hmem₂ := List.mem_of_getElem? hj
    obtain ⟨e₂, he₂, -, hsandbox₂, -⟩ := hp.extends (hfree g₂ hmem₂)
    have hown₂ := hext.own g₂ hmem₂ e₂ he₂
    obtain ⟨id₂, obj₂, hlookup₂, hobj₂, hs₂⟩ := hown₂.session hholding hmem₂
    have hsame := hexcl.session_eq hlookup hobj hsandbox hlookup₂ hobj₂ (hs₂.trans (congrArg some hsandbox₂))
    exact absurd (hsame ▸ hown₂.locked) (hext.apart i j g g₂ (Ne.symm hji) hg hj _ hown.locked)
  · rcases hself with rfl | rfl
    · exact hold sandbox' time hp
    · rcases hp with hp | hp | ⟨e', he', -, hsandbox', htime⟩
      · exact hold sandbox' time (.inl hp)
      · exact hold sandbox' time (.inr (.inl hp))
      · obtain ⟨e₀, he₀, rfl⟩ := Option.map_eq_some_iff.mp he'
        obtain rfl := Option.mem_unique he he₀
        obtain rfl : e.sandbox = sandbox' := hsandbox'
        obtain rfl : e.targetExpires = time := htime
        obtain ⟨r, hr, -⟩ := (h.sessions id e.session obj hlookup hobj e.sandbox hsandbox).2
        refine ⟨_, (lookup_expireIn _ _ _).trans (congrArg _ hr), ?_⟩
        dsimp only
        rw [if_pos rfl]
        exact htarget
  · rcases hself with rfl | rfl
    · exact he'
    · obtain ⟨e₀, -, rfl⟩ := Option.map_eq_some_iff.mp he'
      nomatch hset'
  · rcases hself with rfl | rfl <;> rfl

include h hholding hext hg in
/-- `Connect` to a sandbox that nobody uses. -/
theorem LeasesBacked.connect
    (hallowed : g.Allowed (.connectSandbox sandbox timeoutSec))
    (hunused : sandboxUsers sandbox s gs = 0) {adopting : Option (String × Int)}
    (hadopting : adopting = none ∨ adopting = some (sandbox, g.promise timeoutSec))
    (hthere : adopting ≠ none → (s.remote.lookup sandbox).isSome = true) :
    LeasesBacked (s.expireIn sandbox timeoutSec) (gs.set i { g with adopting := adopting }) := by
  have hmem := List.mem_of_getElem? hg
  obtain ⟨hfree, -, now, lease, hread, -⟩ := hallowed
  have hnobody : ∀ id session obj, s.sessions.lookup id = some session →
      s.objects[session]? = some obj → obj.sandbox ≠ some sandbox := by
    intro id session obj hlookup hobj hsandbox
    have hpos := mapped_pos hlookup hobj hsandbox
    unfold sandboxUsers at hunused
    omega
  -- Nobody relies on it.
  have hnone : ∀ g₂ ∈ gs, ∀ time, ¬ g₂.Promises sandbox time := by
    intro g₂ hg₂ time hp
    have huses : g₂.uses sandbox = 0 := by
      have hle : mapped (owns sandbox) s + g₂.uses sandbox ≤ sandboxUsers sandbox s gs := uses_le_users hg₂
      omega
    obtain ⟨e, he, -, hsandbox, -⟩ := hp.extends huses
    obtain ⟨id, obj, hlookup, hobj, hs⟩ := (hext.own g₂ hg₂ e he).session hholding hg₂
    exact hnobody id e.session obj hlookup hobj (hs.trans (congrArg some hsandbox))
  have hold : ∀ sandbox' time, g.Promises sandbox' time →
      (s.expireIn sandbox timeoutSec).Outlasts sandbox' time := fun sandbox' time hp =>
    outlasts_expireIn (fun heq => absurd (heq ▸ hp) (hnone g hmem time)) (h.promises g hmem sandbox' time hp)
  refine h.expire hg (fun id session obj hlookup hobj hsandbox => ?_) (fun j g₂ time _ hj hp => ?_)
    (fun sandbox' time hp => ?_) (fun _ he _ => he) rfl
  · exact absurd hsandbox (hnobody id session obj hlookup hobj)
  · exact absurd hp (hnone g₂ (List.mem_of_getElem? hj) time)
  · rcases hp with hp | hp | hp
    · exact hold sandbox' time (.inl hp)
    · rcases hadopting with rfl | rfl
      · nomatch hp
      · cases hp
        obtain ⟨r, hr⟩ := Option.isSome_iff_exists.mp (hthere nofun)
        refine ⟨_, (lookup_expireIn _ _ _).trans (congrArg _ hr), ?_⟩
        have hbefore := h.reads g hmem now hread
        dsimp only
        rw [if_pos rfl, Phase.promise, hread, Option.getD_some]
        dsimp only
        omega
    · exact hold sandbox' time (.inr (.inr hp))

include h hholding hext hexcl hg in
/-- Operations on leases. -/
theorem LeasesBacked.lease (hoverwrites : ¬ Overwrites s gs o)
    (hreconnects : ¬ Reconnects s gs o) (heffect : LeaseEffect g s o g' s') :
    LeasesBacked s' (gs.set i g') := by
  have hmem := List.mem_of_getElem? hg
  have hrefl : KeepsExpiry s s := fun _ _ h => h
  have hkept : KeepsLeases s s := keepsLeases_of_eq rfl fun _ _ h => h
  have hunused : ∀ sandbox timeoutSec, o = .connectSandbox sandbox timeoutSec →
      sandboxUsers sandbox s gs = 0 := fun sandbox timeoutSec ho =>
    Nat.eq_zero_of_not_pos fun hpos => hreconnects ⟨sandbox, timeoutSec, ho, hpos⟩
  cases heffect with
  | idle => exact h.same hext hg hrefl hkept rfl ⟨.inl rfl, .inl rfl, .inl rfl, rfl⟩
  | read =>
    exact h.quiet hext hg hrefl hkept rfl (fun _ _ hp => hp) (fun _ he _ => he)
      fun now hnow => .inr (Option.some.inj hnow).symm
  | abandoned => exact h.same hext hg hrefl hkept rfl ⟨.inl rfl, .inr rfl, .inl rfl, rfl⟩
  | readied | locked =>
    exact h.same hext hg hrefl (keepsLeases_touch fun _ => ⟨rfl, rfl, rfl⟩) rfl
      ⟨.inl rfl, .inl rfl, .inl rfl, rfl⟩
  | unlocked =>
    exact h.same hext hg hrefl (keepsLeases_touch fun _ => ⟨rfl, rfl, rfl⟩) rfl
      ⟨.inl rfl, .inl rfl, .inr rfl, rfl⟩
  | @confirmed session deadline obj hallowed hobj hlate =>
    refine h.update hg (fun id obj' hlookup hobj' hbacked sandbox hsandbox => ?_)
      (fun j g₂ e obj' hj _ he hsession hset hobj' => ?_) ⟨.inl rfl, .inl rfl, .inl rfl, rfl⟩
    · obtain rfl := Option.mem_unique hobj hobj'
      obtain ⟨hle, houtlasts⟩ := hbacked sandbox hsandbox
      refine ⟨?_, houtlasts⟩
      have hdesired := le_targetExpires deadline obj.desiredLeaseExpiresAt
      unfold ManagerState.confirm
      dsimp only
      split <;> omega
    · exact h.planned g₂ (List.mem_of_getElem? hj) e obj' he hset (hsession ▸ hobj')
  | @planned session deadline obj sandbox hallowed hobj hearly hsandbox =>
    refine h.step hg h.sessions (fun j g₂ _ hj => ?_) ⟨fun sandbox time hp => ?_, ?_⟩
      (fun _ hnow => .inl hnow) rfl
    · exact ⟨h.promises g₂ (List.mem_of_getElem? hj), h.planned g₂ (List.mem_of_getElem? hj)⟩
    · rcases hp with hp | hp | ⟨e, he, hset, -⟩
      · exact h.promises g hmem sandbox time (.inl hp)
      · exact h.promises g hmem sandbox time (.inr (.inl hp))
      · cases he
        nomatch hset
    · intro e obj' he _ hobj'
      cases he
      obtain rfl := Option.mem_unique hobj hobj'
      exact Int.le_of_lt hearly
  | extended hallowed => exact h.extend hholding hext hexcl hg hallowed (.inr rfl)
  | extendFailed hallowed => exact h.extend hholding hext hexcl hg hallowed (.inl rfl)
  | @recorded session leaseExpires targetExpires hallowed =>
    obtain ⟨e, he, hset, rfl, rfl, rfl⟩ := hallowed
    have hown := hext.own g hmem e he
    refine h.update hg (fun id obj' hlookup hobj' hbacked sandbox hsandbox => ?_)
      (fun j g₂ e₂ obj' hj hother he₂ hsession hset₂ hobj' => ?_) ⟨.inl rfl, .inl rfl, .inr rfl, rfl⟩
    · obtain ⟨obj, hobj, hs⟩ := hown.sandbox
      obtain rfl := Option.mem_unique hobj hobj'
      obtain rfl := Option.mem_unique hs hsandbox
      obtain ⟨hle, houtlasts⟩ := hbacked _ hs
      have hset := h.promises g hmem _ _ (.inr (.inr ⟨e, he, hset, rfl, rfl⟩))
      have htarget := hown.target
      unfold ManagerState.recordSync ManagerState.confirm
      dsimp only
      constructor
      · split <;> split <;> omega
      · split
        · exact hset
        · exact houtlasts
    · -- The call has the lock.
      rcases hother with hji | hnone
      · have hlocked := (hext.own g₂ (List.mem_of_getElem? hj) e₂ he₂).locked
        exact absurd (hsession ▸ hlocked) (hext.apart i j g g₂ (Ne.symm hji) hg hj _ hown.locked)
      · nomatch hnone
  | @adopted sessionID leaseExpiresAt session obj hlookup hobj hlive =>
    have hbacks : ∀ sandbox, obj.sandbox = some sandbox → s.Outlasts sandbox leaseExpiresAt ∧
        ∀ g ∈ gs, ∀ e, g.extension = some e → e.session = session → e.set = false →
          leaseExpiresAt ≤ e.targetExpires := fun sandbox hsandbox => by
      by_contra hnot
      exact hoverwrites ⟨_, _, session, obj, sandbox, rfl, hlookup, hobj, hlive, hsandbox, hnot⟩
    refine h.update hg (fun id obj' hlookup' hobj' hbacked sandbox hsandbox => ?_)
      (fun j g₂ e obj' hj _ he hsession hset hobj' => ?_) ⟨.inl rfl, .inl rfl, .inl rfl, rfl⟩
    · obtain rfl := Option.mem_unique hobj hobj'
      exact ⟨Int.le_refl _, (hbacks sandbox hsandbox).1⟩
    · have hmem₂ := List.mem_of_getElem? hj
      obtain ⟨obj₂, hobj₂, hsandbox⟩ := (hext.own g₂ hmem₂ e he).sandbox
      rw [hsession, hobj] at hobj₂
      cases hobj₂
      exact (hbacks e.sandbox hsandbox).2 g₂ hmem₂ e he hsession hset
  | @readopted sessionID sandbox leaseExpiresAt session obj hallowed hlookup hobj hsandbox =>
    -- The sandbox is in the session, so the call cannot have connected to it.
    obtain ⟨now, hadopting⟩ := hallowed.2.2.2.2.2
    have hzero := hexcl.not_with_call hlookup hobj hsandbox hmem
    exact absurd hzero (Nat.ne_of_gt (uses_adopting hadopting))
  | @connected sandbox timeoutSec adopting hallowed hadopting hthere =>
    exact h.connect hholding hext hg hallowed (hunused sandbox timeoutSec rfl) hadopting fun _ => hthere
  | @connectFailed sandbox timeoutSec hallowed =>
    have hnone : g.adopting = none := hallowed.1.adopting
    have hconnect := h.connect hholding hext hg hallowed (hunused sandbox timeoutSec rfl) (.inl hnone)
      fun hsome => absurd hnone hsome
    exact hconnect

include h hext hg in
/-- Operations on slots and sandboxes. -/
theorem LeasesBacked.slot (hcreating : Creating s gs) (heffect : SlotEffect cfg g s o g' s') :
    LeasesBacked s' (gs.set i g') := by
  have hmem := List.mem_of_getElem? hg
  have hrefl : KeepsExpiry s s := fun _ _ h => h
  have hback : ∀ destroys (obj : TerminalSession),
      (ManagerState.giveBack destroys obj).sandbox = obj.sandbox ∧
      (ManagerState.giveBack destroys obj).confirmedLeaseExpiresAt = obj.confirmedLeaseExpiresAt ∧
      (ManagerState.giveBack destroys obj).remoteTimeoutExpiresAt = obj.remoteTimeoutExpiresAt :=
    fun destroys obj => by cases destroys <;> exact ⟨rfl, rfl, rfl⟩
  have hremoved : ∀ (s₂ : ManagerState) sessionID, KeepsLeases s₂ (s₂.removeSession sessionID) :=
    fun s₂ sessionID => keepsLeases_of_eq rfl fun _ _ hlookup => (AList.lookup_of_erase hlookup).2
  have hreserved : ∀ s₂ : ManagerState, KeepsLeases s₂ s₂.reserve := fun s₂ =>
    keepsLeases_of_eq rfl fun _ _ h => h
  cases heffect with
  | @made _ id leaseTarget =>
    exact h.same hext hg hrefl ((keepsLeases_insert rfl).trans (hreserved _)) rfl
      ⟨.inl rfl, .inl rfl, .inl rfl, rfl⟩
  | replaced =>
    exact h.same hext hg hrefl ((hremoved s _).trans (keepsLeases_insert rfl)) rfl
      ⟨.inl rfl, .inl rfl, .inl rfl, rfl⟩
  | dropped => exact h.same hext hg hrefl (hremoved s _) rfl ⟨.inl rfl, .inl rfl, .inl rfl, rfl⟩
  | joined =>
    exact h.same hext hg hrefl (keepsLeases_touch fun _ => ⟨rfl, rfl, rfl⟩) rfl
      ⟨.inl rfl, .inl rfl, .inl rfl, rfl⟩
  | @sandboxMade session timeoutSec metadata sandbox hallowed hfresh =>
    have hkeeps := keepsExpiry_insert
      { metadata := metadata, expiresAt := s.clock + timeoutSec * 1000, created := true } hfresh
    obtain ⟨-, -, -, -, -, now, lease, hread, -⟩ := hallowed
    refine h.step hg (h.kept hkeeps (keepsLeases_of_eq rfl fun _ _ h => h))
      (fun j g₂ _ hj => ⟨fun sandbox' time hp => ?_, h.planned g₂ (List.mem_of_getElem? hj)⟩)
      ⟨fun sandbox' time hp => ?_, h.planned g hmem⟩ (fun _ hnow => .inl hnow) rfl
    · exact hkeeps _ _ (h.promises g₂ (List.mem_of_getElem? hj) sandbox' time hp)
    · rcases hp with hp | hp
      · cases hp
        refine ⟨_, AList.lookup_insert _, ?_⟩
        have hbefore := h.reads g hmem now hread
        rw [Phase.promise, hread, Option.getD_some]
        dsimp only
        omega
      · exact hkeeps _ _ (h.promises g hmem sandbox' time (.inr hp))
  | @published session created leaseExpiresAt obj hallowed hobj =>
    obtain ⟨hholds, hcreates, -, -, hpublishes⟩ := hallowed
    have hempty := hcreating.sandbox_eq_none hg hcreates hholds hobj
    refine h.update hg (fun id obj' hlookup hobj' hbacked sandbox hsandbox => ?_)
      (fun j g₂ e obj' hj _ he hsession hset hobj' => ?_) ⟨.inr rfl, .inl rfl, .inl rfl, rfl⟩
    · cases created with
      | error err => nomatch hsandbox
      | ok created =>
        cases hsandbox
        obtain ⟨now, hhand⟩ := hpublishes
        have houtlasts := h.promises g hmem _ _ (.inl hhand)
        exact ⟨Int.le_refl _, outlasts_mono (le_secondsUntil leaseExpiresAt now) houtlasts⟩
    · -- A session without a sandbox is not extended.
      obtain ⟨obj₂, hobj₂, hsandbox⟩ := (hext.own g₂ (List.mem_of_getElem? hj) e he).sandbox
      rw [hsession, hobj] at hobj₂
      cases hobj₂
      nomatch hempty.symm.trans hsandbox
  | released destroys =>
    exact h.same hext hg hrefl (keepsLeases_touch (hback destroys)) rfl ⟨.inl rfl, .inl rfl, .inl rfl, rfl⟩
  | retired destroys =>
    exact h.same hext hg hrefl ((keepsLeases_touch (hback destroys)).trans (hremoved _ _)) rfl
      ⟨.inl rfl, .inl rfl, .inl rfl, rfl⟩
  | expired =>
    refine h.same hext hg hrefl (keepsLeases_of_eq rfl fun id session hlookup => ?_) rfl
      ⟨.inl rfl, .inl rfl, .inl rfl, rfl⟩
    exact (lookup_takeExpired.mp hlookup).1
  | freed =>
    exact h.same hext hg hrefl (keepsLeases_of_eq rfl fun _ _ h => h) rfl ⟨.inl rfl, .inl rfl, .inl rfl, rfl⟩
  | @killed sandbox | @killedListed sandbox =>
    have hrest := modifyRemote_rest (s := s) sandbox fun r => { r with kills := r.kills + 1 }
    exact h.same hext hg (keepsExpiry_kill sandbox) (keepsLeases_of_eq hrest.2.1 fun _ _ hlookup => hrest.1 ▸ hlookup)
      hrest.2.2.2 ⟨.inl rfl, .inl rfl, .inl rfl, rfl⟩
  | @recovered sessionID sandbox leaseExpiresAt hallowed hnone =>
    obtain ⟨now, hadopting⟩ := hallowed.2.2.2.2.2
    have houtlasts : s.Outlasts sandbox leaseExpiresAt :=
      outlasts_mono (le_secondsUntil leaseExpiresAt now) (h.promises g hmem _ _ (.inr (.inl hadopting)))
    have hplanned : ∀ g₂ ∈ gs, g₂.Planned
        (s.insertSession (ManagerState.recoveredSession sessionID sandbox leaseExpiresAt)).reserve :=
      fun g₂ hg₂ => Planned.keeps (h.planned g₂ hg₂) (hext.own g₂ hg₂) fun n obj hobj =>
        ⟨obj, List.getElem?_concat_of_some hobj, rfl⟩
    refine h.step hg (fun id n obj hlookup hobj => ?_)
      (fun j g₂ _ hj => ⟨h.promises g₂ (List.mem_of_getElem? hj), hplanned g₂ (List.mem_of_getElem? hj)⟩)
      ⟨fun sandbox' time hp => ?_, hplanned g hmem⟩ (fun _ hnow => .inl hnow) rfl
    · rcases insertSession_cases hlookup hobj with ⟨hlookup, hobj⟩ | rfl
      · exact h.sessions id n obj hlookup hobj
      · intro sandbox' hsandbox'
        cases hsandbox'
        exact ⟨Int.le_refl _, houtlasts⟩
    · have hkept : g.SameLeases { g with adopting := none } := ⟨.inl rfl, .inr rfl, .inl rfl, rfl⟩
      exact h.promises g hmem sandbox' time (hkept.promises hp)

end Leases

/-! ## Runs -/

/-- The step does not overwrite the lease of a session that is there, and does not connect
    to a sandbox that is in use. -/
def LeasesKept (p : ManagerPool) (a : ManagerAction) : Prop :=
  ∀ i ans o, a = .run i ans → p.nextOp i = some o →
    ¬ Overwrites p.shared (phases p) o ∧ ¬ Reconnects p.shared (phases p) o

/-- What holds in every such run. -/
theorem leases_kept {p : ManagerPool} (h : (managerMachine lib cfg).ReachableWhere LeasesKept p) :
    Exclusive p.shared (phases p) ∧ LeasesBacked p.shared (phases p) := by
  refine manager_invariant (I := fun s gs => Exclusive s gs ∧ LeasesBacked s gs) ?_ ?_ ?_ ?_ h
  · rintro s ⟨remote, clock, -, rfl⟩
    exact ⟨⟨fun _ => Nat.zero_le _, fun _ _ => rfl⟩, (fun _ _ _ hlookup => nomatch hlookup),
      (fun _ hg => nomatch hg), (fun _ hg => nomatch hg), (fun _ hg => nomatch hg)⟩
  · rintro p c - ⟨hexcl, hbacked⟩
    have hfree := free_start c
    have hread : c.start.read = none := by cases c <;> rfl
    have hsum : ∀ sandbox, sandboxUsers sandbox p.shared (phases p ++ [c.start]) =
        sandboxUsers sandbox p.shared (phases p) := fun sandbox => by
      unfold sandboxUsers
      rw [List.sum_map_concat, uses_of_none hfree.idle.hand hfree.adopting, Nat.add_zero]
    refine ⟨⟨fun sandbox => hsum sandbox ▸ hexcl.one sandbox,
      fun sandbox hnone => (hsum sandbox).trans (hexcl.known sandbox hnone)⟩,
      hbacked.sessions, List.forall_mem_concat hbacked.promises fun sandbox time hp => ?_,
      List.forall_mem_concat hbacked.planned fun e obj he => ?_,
      List.forall_mem_concat hbacked.reads fun now hnow => ?_⟩
    · obtain ⟨e, he, -⟩ := hp.extends (uses_of_none hfree.idle.hand hfree.adopting)
      nomatch hfree.idle.extension.symm.trans he
    · nomatch hfree.idle.extension.symm.trans he
    · nomatch hread.symm.trans hnow
  · rintro p i ans g o g' p' hreach hok ⟨hexcl, hbacked⟩ hg hnext heffect
    obtain ⟨hoverwrites, hreconnects⟩ := hok i ans o rfl hnext
    have hholding := managerHolding hreach
    have hext := extensions_locked hreach
    cases heffect with
    | slot heffect =>
      have hcreating := creations_apart hreach
      exact ⟨hexcl.slot hholding hcreating hg heffect, hbacked.slot hext hg hcreating heffect⟩
    | lease heffect =>
      refine ⟨hexcl.lease hg (fun sandbox timeoutSec ho => ?_) heffect,
        hbacked.lease hholding hext hexcl hg hoverwrites hreconnects heffect⟩
      exact Nat.eq_zero_of_not_pos fun hpos => hreconnects ⟨sandbox, timeoutSec, ho, hpos⟩
  · rintro s gs now hle ⟨hexcl, hbacked⟩
    exact ⟨⟨hexcl.one, hexcl.known⟩, hbacked.sessions, hbacked.promises, hbacked.planned,
      fun g hg now' hnow => Int.le_trans (hbacked.reads g hg now' hnow) hle⟩

/-- In every run in which recovery neither overwrites the lease of a session that is there nor
    connects to a sandbox that is in use, every session with a sandbox has: its confirmed
    lease is not after the expiry that the sandbox is believed to have, and that is not after
    the expiry that it has. As long as the confirmed lease has not passed, the sandbox has not
    expired. -/
theorem leases_backed (lib : E2BLib) (cfg : ManagerSettings) (p : ManagerPool)
    (h : (managerMachine lib cfg).ReachableWhere LeasesKept p) (id : String) (session : Nat)
    (obj : TerminalSession) (sandbox : String) (hlookup : p.shared.sessions.lookup id = some session)
    (hobj : p.shared.objects[session]? = some obj) (hsandbox : obj.sandbox = some sandbox) :
    ∃ r, p.shared.remote.lookup sandbox = some r ∧
      obj.confirmedLeaseExpiresAt ≤ obj.remoteTimeoutExpiresAt ∧
      obj.remoteTimeoutExpiresAt ≤ r.expiresAt ∧
      (p.shared.clock < obj.confirmedLeaseExpiresAt → p.shared.clock < r.expiresAt) := by
  obtain ⟨hle, r, hr, hexpires⟩ := (leases_kept h).2.sessions id session obj hlookup hobj sandbox hsandbox
  exact ⟨r, hr, hle, hexpires, fun hlease => Int.lt_of_lt_of_le hlease (Int.le_trans hle hexpires)⟩

/-- `LeasesKept`, as a test. -/
def leasesKept (p : ManagerPool) : ManagerAction → Bool
  | .run i _ =>
    match p.nextOp i with
    | some (.recoverExisting sessionID leaseExpiresAt) =>
      (p.shared.current sessionID).all fun (session, obj) => obj.sandbox.all fun sandbox =>
        (p.shared.remote.lookup sandbox).any (leaseExpiresAt ≤ ·.expiresAt) &&
          (phases p).all fun g => g.extension.all fun e =>
            e.session = session → e.set = false → leaseExpiresAt ≤ e.targetExpires
    | some (.connectSandbox sandbox _) => sandboxUsers sandbox p.shared (phases p) = 0
    | _ => true
  | _ => true

theorem leasesKept_of_eq_true {p : ManagerPool} {a : ManagerAction} (h : leasesKept p a = true) :
    LeasesKept p a := by
  rintro i ans o rfl hnext
  simp only [leasesKept, hnext] at h
  constructor
  · rintro ⟨sessionID, leaseExpiresAt, session, obj, sandbox, rfl, hlookup, hobj, -, hsandbox, hnot⟩
    have hcurrent : p.shared.current sessionID = some (session, obj) := by
      rw [ManagerState.current, hlookup]
      dsimp only
      rw [hobj, Option.map_some]
    simp only [hcurrent, hsandbox, Option.all_some, Bool.and_eq_true] at h
    refine hnot ⟨?_, fun g hg e he hsession hset => ?_⟩
    · obtain ⟨r, hr, hle⟩ := (Option.any_eq_true _ _).mp h.1
      exact ⟨r, hr, of_decide_eq_true hle⟩
    · have hall := List.all_eq_true.mp h.2 g hg
      rw [he, Option.all_some] at hall
      exact of_decide_eq_true hall hsession hset
  · rintro ⟨sandbox, timeoutSec, rfl, hpos⟩
    have := of_decide_eq_true h
    omega

/-- Recovery confirms the session "s" within the time that its sandbox has. -/
theorem leases_backed_recovered :
    ∃ p obj r, (managerMachine .sample .sample).ReachableWhere LeasesKept p ∧
      p.shared.objects[0]? = some obj ∧ p.shared.remote.lookup "b" = some r ∧
      obj.confirmedLeaseExpiresAt = 300500 ∧ obj.remoteTimeoutExpiresAt ≤ r.expiresAt := by
  have hrun := Machine.reachableWhere_runWhere leasesKept (fun _ _ => leasesKept_of_eq_true)
    ([.spawn (.execute { command := "x", sessionID := "s", createIfMissing := true } none)] ++
      ManagerAction.runs 0 executeSample ++ [.spawn (.recover [some ⟨"s", 300500⟩])] ++
      ManagerAction.runs 1 [.none, .none, .none])
    (ManagerPool.fresh_reachable .sample .sample) rfl
  obtain ⟨r, hr, -, hle, -⟩ := leases_backed .sample .sample _ hrun "s" 0 _ "b" rfl rfl rfl
  exact ⟨_, _, r, hrun, rfl, hr, rfl, hle⟩

/-- The console reports a lease of 1000 seconds for a session whose sandbox was created for
    301 seconds. Recovery writes it into the session: at 500 seconds the confirmed lease has
    not passed, and the sandbox is gone. -/
theorem lease_overwritten :
    ∃ p obj r, (managerMachine .sample .sample).Reachable p ∧
      p.shared.sessions.lookup "s" = some 0 ∧ p.shared.objects[0]? = some obj ∧
      obj.sandbox = some "b" ∧ p.shared.remote.lookup "b" = some r ∧
      r.expiresAt < obj.remoteTimeoutExpiresAt ∧ r.expiresAt ≤ p.shared.clock ∧
      p.shared.clock < obj.confirmedLeaseExpiresAt := by
  have hrun := Machine.reachable_run
    ([.spawn (.execute { command := "x", sessionID := "s", createIfMissing := true } none)] ++
      ManagerAction.runs 0 executeSample ++ [.spawn (.recover [some ⟨"s", 1000000⟩])] ++
      ManagerAction.runs 1 [.none, .none, .none] ++ [.env (.tick 500000)])
    (ManagerPool.fresh_reachable .sample .sample) rfl
  exact ⟨_, _, _, hrun, rfl, rfl, rfl, rfl, by decide, by decide, by decide⟩

end Onlyboxes.E2B
