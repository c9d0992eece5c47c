import Onlyboxes.Spec.DockerSteps

/-!
# Sessions that follow each other under one id

The lease of a session can end while calls still use it. Its id is free then, and a new
session can be made under it. The older calls give back their slots by the id and remove
containers by a name that is made from it, so they reach the new session and its
container. They do not, as long as a session is made only when no call is concerned with
an older one of its id.

## Key results

- `latest_kept`: then every session that a call is concerned with is the latest of its id
- `incarnations_isolated`: so an older call changes nothing of a later session, and
  removes no container of it
- `later_session_destroyed`: a run in which it does both
-/

namespace Onlyboxes.Docker

open Text Worker

variable {lib : DockerLib} {cfg : ManagerSettings} {g g' : Phase} {s s' : ManagerState} {o : ManagerOp}

/-- The call is concerned with the session: it has a slot, or it has to remove the container
    or to clean up. -/
def Phase.Concerns (g : Phase) (session : Nat) : Prop :=
  ((g.holds = true ∨ g.removing = true) ∧ ∃ claim, g.claim = some claim ∧ claim.session = session) ∨
    ∃ r ∈ g.cleaning, r.session = session

/-- A session is made only when no call is concerned with an older one of its id. -/
def MakesFirst (lib : DockerLib) (cfg : ManagerSettings) (p : ManagerPool) (a : ManagerAction) : Prop :=
  ∀ p' new, (managerMachine lib cfg).step p a = some p' →
    p'.shared.objects = p.shared.objects ++ [new] →
    ∀ g ∈ phases lib cfg p, ∀ session obj, g.Concerns session →
      p.shared.objects[session]? = some obj → obj.sessionID ≠ new.sessionID

/-- No session of its id was made after it. -/
def ManagerState.IsLatest (s : ManagerState) (session : Nat) : Prop :=
  ∃ obj, s.objects[session]? = some obj ∧ ∀ session' obj', s.objects[session']? = some obj' →
    obj'.sessionID = obj.sessionID → session' ≤ session

/-- The sessions in the map and those that calls are concerned with are the latest. -/
structure Latest (s : ManagerState) (gs : List Phase) : Prop where
  mapped : ∀ id session, s.sessions.lookup id = some session → s.IsLatest session
  concerned : ∀ g ∈ gs, ∀ session, g.Concerns session → s.IsLatest session

variable {session : Nat}

/-- An update keeps the order of the sessions. -/
theorem ManagerState.IsLatest.updates {F : Nat → TerminalSession → TerminalSession}
    (h : s.IsLatest session) (hup : s.Updates s' F) (hF : ManagerState.KeepsNames F) :
    s'.IsLatest session := by
  obtain ⟨obj, hobj, hlast⟩ := h
  refine ⟨F session obj, by rw [hup.objects, hobj, Option.map_some], fun session' obj' hobj' hid => ?_⟩
  rw [hup.objects] at hobj'
  obtain ⟨obj₁, hobj₁, rfl⟩ := Option.map_eq_some_iff.mp hobj'
  rw [(hF session obj).1, (hF session' obj₁).1] at hid
  exact hlast session' obj₁ hobj₁ hid

/-- A new session of another id changes nothing. -/
theorem ManagerState.IsLatest.insertSession {new : TerminalSession} (h : s.IsLatest session)
    (hother : ∀ obj, s.objects[session]? = some obj → obj.sessionID ≠ new.sessionID) :
    (s.insertSession new).IsLatest session := by
  obtain ⟨obj, hobj, hlast⟩ := h
  refine ⟨obj, ?_, fun session' obj' hobj' hid => ?_⟩
  · exact List.getElem?_concat_of_some hobj
  · rcases List.getElem?_concat_cases hobj' with ⟨-, hobj'⟩ | ⟨rfl, rfl⟩
    · exact hlast session' obj' hobj' hid
    · exact absurd hid.symm (hother obj hobj)

theorem ManagerState.isLatest_insertSession (s : ManagerState) (new : TerminalSession) :
    (s.insertSession new).IsLatest s.objects.length := by
  refine ⟨new, List.getElem?_concat_length, fun session' obj' hobj' _ => ?_⟩
  rcases List.getElem?_concat_cases hobj' with ⟨hlt, -⟩ | ⟨rfl, -⟩
  · exact Nat.le_of_lt hlt
  · exact Nat.le_refl _

/-- A call becomes concerned with sessions of the map and with the one it makes only. -/
theorem concerns_of_effect (heffect : ManagerEffect lib g s o g' s') (h : g'.Concerns session) :
    g.Concerns session ∨ (∃ id, s.sessions.lookup id = some session) ∨
      ∃ new, s' = s.insertSession new ∧ session = s.objects.length := by
  -- Most effects leave the call with no more than it had.
  have hfewer : ∀ {g₂ : Phase}, g₂.Concerns session → g₂.claim = g.claim →
      (g₂.holds = true → g.holds = true) →
      (g₂.removing = true → g.holds = true ∨ g.removing = true) →
      (∀ r ∈ g₂.cleaning, r ∈ g.cleaning ∨ ∃ id, s.sessions.lookup id = some r.session) →
      g.Concerns session ∨ (∃ id, s.sessions.lookup id = some session) ∨
        ∃ new, s' = s.insertSession new ∧ session = s.objects.length := by
    rintro g₂ (⟨hduty, claim, hg₂, hsession⟩ | ⟨r, hr, rfl⟩) hclaim hholds hremoving hcleaning
    · refine .inl (.inl ⟨hduty.elim (fun h => .inl (hholds h)) hremoving, claim, ?_, hsession⟩)
      exact hclaim ▸ hg₂
    · exact (hcleaning r hr).imp (fun hr => .inr ⟨r, hr, rfl⟩) .inl
  have hnone : ∀ {g₂ : Phase} {P : Prop}, g₂.Clean → ∀ r ∈ g₂.cleaning, P := fun hclean r hr => by
    rw [hclean.1] at hr
    nomatch hr
  cases heffect with
  | quiet hs hg | touched session hf hg hlease =>
    exact hfewer h hg.claim (fun h => hg.holds ▸ h) (fun h => .inr (hg.removing h))
      fun r hr => .inl (hg.cleaning ▸ hr)
  | @created _ _ _ new hfree _ _ =>
    rcases h with ⟨-, claim, ⟨rfl⟩, rfl⟩ | ⟨r, hr, -⟩
    · exact .inr (.inr ⟨new, rfl, rfl⟩)
    · exact hnone hfree.clean r hr
  | @joined sessionID _ _ _ _ hfree hlookup _ _ =>
    rcases h with ⟨-, claim, ⟨rfl⟩, rfl⟩ | ⟨r, hr, -⟩
    · exact .inr (.inl ⟨sessionID, hlookup⟩)
    · exact hnone hfree.clean r hr
  | recovered hfree _ _ => exact .inl h
  | left _ _ _ _ _ => exact hfewer h rfl nofun .inr fun r hr => .inl hr
  | gone _ _ _ hclean _ | released _ _ _ hclean _ _ _ =>
    exact hfewer h rfl nofun .inr fun r hr => nomatch hr
  | @retired _ sessionID _ _ _ session' _ _ _ _ _ hlookup _ _ =>
    refine hfewer h rfl nofun .inr fun r hr => .inr ⟨sessionID, ?_⟩
    rw [List.mem_singleton.mp hr]
    exact hlookup
  | @detached _ session' obj _ _ _ _ hlookup =>
    refine hfewer h rfl nofun nofun fun r hr => .inr ⟨obj.sessionID, ?_⟩
    rw [List.mem_singleton.mp hr]
    exact hlookup
  | stranded _ hholds _ _ _ =>
    exact hfewer h rfl nofun (fun _ => .inl hholds.2) fun r hr => nomatch hr
  | expired _ hperm =>
    refine hfewer h rfl id .inr fun r hr => .inr ?_
    exact (ManagerState.exists_mem_expired.mp ⟨r, hperm.mem_iff.mp hr, rfl⟩).1
  | freed hcleaning _ _ =>
    refine hfewer h rfl id .inr fun r hr => .inl ?_
    rw [hcleaning]
    exact List.mem_cons_of_mem _ hr

/-- One effect keeps the order, if a new session has no older one that calls are concerned
    with. -/
theorem latest_of_effect (hsound : s.Sound lib) {gs : List Phase} {i : Nat} (h : Latest s gs)
    (hg : gs[i]? = some g) (heffect : ManagerEffect lib g s o g' s')
    (hfirst : ∀ new, s'.objects = s.objects ++ [new] → ∀ g ∈ gs, ∀ session obj, g.Concerns session →
      s.objects[session]? = some obj → obj.sessionID ≠ new.sessionID) :
    Latest s' (gs.set i g') := by
  -- What was the latest stays so, whether a session is made or not.
  obtain ⟨hmapped, hconcerned, hnew⟩ :
      (∀ id session, s.sessions.lookup id = some session → s'.IsLatest session) ∧
      (∀ g₂ ∈ gs, ∀ session, g₂.Concerns session → s'.IsLatest session) ∧
      ∀ id session, s'.sessions.lookup id = some session →
        s.sessions.lookup id = some session ∨ s'.IsLatest session := by
    rcases updates_of_effect heffect with ⟨new, inflight, rfl, hnone, -⟩ | ⟨F, ⟨hup, hF, -⟩, -⟩
    · refine ⟨fun id session hlookup => ?_, fun g₂ hg₂ session hconcerns => ?_,
        fun id session hlookup => ?_⟩
      · refine (h.mapped id session hlookup).insertSession fun obj hobj hsame => ?_
        obtain ⟨obj', hobj', hid⟩ := hsound.mapped id session hlookup
        obtain rfl := Option.mem_unique hobj hobj'
        rw [← hid, hsame, hnone] at hlookup
        nomatch hlookup
      · exact (h.concerned g₂ hg₂ session hconcerns).insertSession
          fun obj hobj => hfirst new rfl g₂ hg₂ session obj hconcerns hobj
      · rcases AList.lookup_insert_cases hlookup with ⟨-, rfl⟩ | ⟨-, hlookup⟩
        · exact .inr (s.isLatest_insertSession new)
        · exact .inl hlookup
    · exact ⟨fun id session hlookup => (h.mapped id session hlookup).updates hup hF,
        fun g₂ hg₂ session hconcerns => (h.concerned g₂ hg₂ session hconcerns).updates hup hF,
        fun id session hlookup => .inl (hup.sessions id session hlookup)⟩
  refine ⟨fun id session hlookup => ?_, List.forall_mem_set hconcerned fun session hconcerns => ?_⟩
  · exact (hnew id session hlookup).elim (hmapped id session) fun hlast => hlast
  · rcases concerns_of_effect heffect hconcerns with hbefore | ⟨id, hlookup⟩ | ⟨new, rfl, rfl⟩
    · exact hconcerned g (List.mem_of_getElem? hg) session hbefore
    · exact hmapped id session hlookup
    · exact s.isLatest_insertSession new

/-- Every session that a call is concerned with is the latest of its id. -/
theorem latest_kept {p : ManagerPool}
    (h : (managerMachine lib cfg).ReachableWhere (MakesFirst lib cfg) p) :
    Latest p.shared (phases lib cfg p) := by
  refine manager_invariant (I := Latest) ?_ ?_ ?_ ?_ h
  · rintro s ⟨containers, clock, -, rfl⟩
    exact ⟨(fun _ _ h => nomatch h), fun _ h => nomatch h⟩
  · intro s gs ih
    refine ⟨ih.mapped, List.forall_mem_concat ih.concerned fun session hconcerns => ?_⟩
    rcases hconcerns with ⟨-, claim, hclaim, -⟩ | ⟨r, hr, -⟩
    · nomatch hclaim
    · nomatch hr
  · intro p i ans g o g' p' hreach hok hs ih hg _ heffect
    exact latest_of_effect (managerSound hreach) ih hg heffect fun new => hok p' new hs
  · intro s s' gs hsame ih
    have hlatest : ∀ session, s.IsLatest session → s'.IsLatest session := fun session hlast =>
      hlast.updates (ManagerState.updates_congr hsame) fun _ _ => ⟨rfl, rfl, id⟩
    refine ⟨fun id session hlookup => ?_, fun g hg session hconcerns => ?_⟩
    · rw [hsame.sessions] at hlookup
      exact hlatest session (ih.mapped id session hlookup)
    · exact hlatest session (ih.concerned g hg session hconcerns)

/-- A call that claimed a session and has given back its slot changes nothing that others
    rely on. -/
theorem spared_of_effect {claim : Claim} (hclaim : g.claim = some claim) (hholds : g.holds = false)
    (heffect : ManagerEffect lib g s o g' s') {obj : TerminalSession}
    (hobj : s.objects[session]? = some obj) :
    ∃ obj', s'.objects[session]? = some obj' ∧ obj'.inflight = obj.inflight ∧
      obj'.destroying = obj.destroying ∧ obj'.leaseExpiresAt = obj.leaseExpiresAt := by
  have hfree : ∀ {P : Prop}, g.Free → P := fun hfree => nomatch hclaim.symm.trans hfree.claim
  have hnot : ∀ {P : Prop} {claim' : Claim}, g.Holds claim' → P := fun hheld =>
    nomatch hholds.symm.trans hheld.2
  -- An update of one object, as far as others rely on it.
  have hmodify : ∀ (session' : Nat) (f : TerminalSession → TerminalSession),
      (f obj).inflight = obj.inflight → (f obj).destroying = obj.destroying →
      (f obj).leaseExpiresAt = obj.leaseExpiresAt →
      ∃ obj', (s.modify session' f).objects[session]? = some obj' ∧ obj'.inflight = obj.inflight ∧
        obj'.destroying = obj.destroying ∧ obj'.leaseExpiresAt = obj.leaseExpiresAt := by
    intro session' f hinflight hdestroying hlease
    rw [ManagerState.getElem?_modify, hobj, Option.map_some]
    split
    · exact ⟨f obj, rfl, hinflight, hdestroying, hlease⟩
    · exact ⟨obj, rfl, rfl, rfl, rfl⟩
  cases heffect with
  | quiet hs hg => exact ⟨obj, by rw [hs.objects, hobj], rfl, rfl, rfl⟩
  | touched session' hf hg hlease =>
    obtain ⟨-, -, hinflight, hdestroying, -⟩ := hf obj
    have hlease := hlease.resolve_left fun hnone => nomatch hclaim.symm.trans hnone
    exact hmodify session' _ hinflight hdestroying (hlease obj)
  | created hf | joined hf | recovered hf | expired hf => exact hfree hf
  | left hheld | gone ho hheld | released ho hheld | retired ho hheld | stranded hclean hheld =>
    exact hnot hheld
  | detached hclean howner =>
    rcases howner with ⟨claim', hheld, -⟩ | hf
    · exact hnot hheld
    · exact hfree hf
  | freed =>
    unfold ManagerState.releaseCapacityReservation
    split
    · exact hmodify _ _ rfl rfl rfl
    · exact ⟨obj, hobj, rfl, rfl, rfl⟩

/-- If sessions are made only when no call is concerned with an older one of their id, then
    a call that claimed a session changes neither the slots nor the mark nor the lease of a
    later one of its id, and no removal of a container is issued for the older one any
    more, so none comes after the container of the later one was created. -/
theorem incarnations_isolated (lib : DockerLib) (cfg : ManagerSettings) (p : ManagerPool)
    (h : (managerMachine lib cfg).ReachableWhere (MakesFirst lib cfg) p) (A B : Nat)
    (a b : TerminalSession) (hA : p.shared.objects[A]? = some a) (hB : p.shared.objects[B]? = some b)
    (hid : b.sessionID = a.sessionID) (hlater : A < B) :
    (∀ i ans p' g claim, (managerMachine lib cfg).step p (.run i ans) = some p' →
      (phases lib cfg p)[i]? = some g → g.claim = some claim → claim.session = A →
      ∃ b', p'.shared.objects[B]? = some b' ∧ b'.inflight = b.inflight ∧
        b'.destroying = b.destroying ∧ b'.leaseExpiresAt = b.leaseExpiresAt) ∧
    (∀ i containerName, p.nextOp i ≠ some (.dockerRemove (some A) containerName)) := by
  have hlatest := latest_kept h
  -- The older one is not the latest, so nobody is concerned with it.
  have hnobody : ∀ g ∈ phases lib cfg p, ¬ g.Concerns A := by
    intro g hg hconcerns
    obtain ⟨a', ha', hlast⟩ := hlatest.concerned g hg A hconcerns
    obtain rfl := Option.mem_unique hA ha'
    exact Nat.not_le_of_lt hlater (hlast B b hB hid)
  refine ⟨fun i ans p' g claim hs hg hclaim hsession => ?_, fun i containerName hnext => ?_⟩
  · rcases manager_cases h hs with ⟨c, hc, -, -⟩ | ⟨j, _, g₂, o, g', ⟨rfl, rfl⟩, hg₂, -, -, heffect, -⟩ |
      ⟨hsame, -⟩
    · nomatch hc
    · obtain rfl := Option.mem_unique hg hg₂
      refine spared_of_effect hclaim (eq_false_of_ne_true fun hholds => ?_) heffect hB
      exact hnobody g (List.mem_of_getElem? hg) (.inl ⟨.inl hholds, claim, hclaim, hsession⟩)
    · exact ⟨b, by rw [hsame.objects, hB], rfl, rfl, rfl⟩
  · obtain ⟨t, ht, hallowed⟩ := allowed_of_nextOp h hnext
    refine hnobody _ (List.mem_of_getElem? (phase_of_thread ht)) ?_
    rcases hallowed with ⟨claim, hclaim, hsession, hduty⟩ | ⟨r, rest, hcleaning, hsession⟩
    · exact .inl ⟨hduty, claim, hclaim, hsession⟩
    · exact .inr ⟨r, by rw [hcleaning]; exact List.mem_cons_self, hsession⟩

/-! ## Runs -/

/-- The sessions that the call is concerned with. -/
def Phase.concerned (g : Phase) : List Nat :=
  (if g.holds || g.removing then (g.claim.map (·.session)).toList else []) ++
    g.cleaning.map (·.session)

theorem mem_concerned (h : g.Concerns session) : session ∈ g.concerned := by
  rw [Phase.concerned, List.mem_append]
  rcases h with ⟨hduty, claim, hclaim, rfl⟩ | ⟨r, hr, rfl⟩
  · left
    rw [if_pos ((Bool.or_eq_true _ _).mpr hduty), hclaim]
    exact List.mem_singleton_self _
  · exact .inr (List.mem_map_of_mem hr)

/-- `MakesFirst`, as a test. -/
def makesFirst (lib : DockerLib) (cfg : ManagerSettings) (p : ManagerPool) (a : ManagerAction) : Bool :=
  ((managerMachine lib cfg).step p a).all fun p' =>
    (p'.shared.objects.drop p.shared.objects.length).all fun new =>
      (phases lib cfg p).all fun g => g.concerned.all fun session =>
        (p.shared.objects[session]?).all fun obj => obj.sessionID ≠ new.sessionID

theorem makesFirst_of_eq_true {p : ManagerPool} {a : ManagerAction} (h : makesFirst lib cfg p a = true) :
    MakesFirst lib cfg p a := by
  intro p' new hs hnew g hg session obj hconcerns hobj
  unfold makesFirst at h
  rw [hs, Option.all_some, hnew, List.drop_left, List.all_cons, Bool.and_eq_true] at h
  have h := List.all_eq_true.mp (List.all_eq_true.mp h.1 g hg) session (mem_concerned hconcerns)
  rw [hobj, Option.all_some] at h
  exact of_decide_eq_true h

/-- One session is used and cleaned up, then a second one is made under its id. -/
theorem incarnations_isolated_sequential :
    ∃ p a b, (managerMachine .sample .sample).ReachableWhere (MakesFirst .sample .sample) p ∧
      p.shared.objects[0]? = some a ∧ p.shared.objects[1]? = some b ∧ b.sessionID = a.sessionID ∧
      ∀ i containerName, p.nextOp i ≠ some (.dockerRemove (some 0) containerName) := by
  have hrun := Machine.reachableWhere_runWhere (makesFirst .sample .sample)
    (fun _ _ => makesFirst_of_eq_true)
    ([.spawn (.execute { command := "x", sessionID := "s", createIfMissing := true })] ++
      ManagerAction.runs 0 [.none, .none, .success, .success, .none, .none, .success, .none, .none] ++
      [.env (.tick 60000), .spawn .janitor] ++
      ManagerAction.runs 1 [.none, .order [⟨0, "onlyboxes-terminal-v1-s"⟩], .success, .none] ++
      [.spawn (.execute { command := "x", sessionID := "s", createIfMissing := true })] ++
      ManagerAction.runs 2 [.none, .none, .success])
    (ManagerPool.fresh_reachable .sample .sample) rfl
  exact ⟨_, _, _, hrun, rfl, rfl, rfl,
    (incarnations_isolated .sample .sample _ hrun 0 1 _ _ rfl rfl rfl (by decide)).2⟩

/-- The lease of a session ends while its container is created. The session is cleaned up, a
    second one is made under its id, and its container is created. -/
def replacedWhileCreated : List ManagerAction :=
  [.spawn (.execute { command := "x", sessionID := "s", createIfMissing := true })] ++
    ManagerAction.runs 0 [.none, .none, .success] ++
    [.env (.tick 60000), .spawn .janitor] ++
    ManagerAction.runs 1 [.none, .order [⟨0, "onlyboxes-terminal-v1-s"⟩], .success, .none] ++
    [.spawn (.execute { command := "x", sessionID := "s", createIfMissing := true })] ++
    ManagerAction.runs 2 [.none, .none, .success] ++
    -- Now the start of the first container fails.
    ManagerAction.runs 0 [.docker { err := some (.exit (.exited 1)) } false]

/-- The call that made the first session removes the container of the second one, and gives
    back its slot by the id: the second session loses its slot and is destroyed, although
    its own call has just started. -/
theorem later_session_destroyed :
    ∃ p p' q q' a b b', (managerMachine .sample .sample).Reachable p ∧
      p.shared.objects[0]? = some a ∧ p.shared.objects[1]? = some b ∧
      b.sessionID = a.sessionID ∧ b.inflight = 1 ∧ b.destroying = false ∧
      p.nextOp 0 = some (.dockerRemove (some 0) b.containerName) ∧
      p.shared.containers.lookup b.containerName = some { creator := some 1 } ∧
      (managerMachine .sample .sample).step p (.run 0 .success) = some p' ∧
      p'.shared.containers.lookup b.containerName = none ∧
      (managerMachine .sample .sample).step p' (.run 0 .none) = some q ∧
      q.nextOp 0 = some (.releaseAndDestroySession "s") ∧
      (managerMachine .sample .sample).step q (.run 0 .none) = some q' ∧
      q'.shared.objects[1]? = some b' ∧ b'.inflight = 0 ∧ b'.destroying = true := by
  have hrun := Machine.reachable_run replacedWhileCreated
    (ManagerPool.fresh_reachable .sample .sample) rfl
  exact ⟨_, _, _, _, _, _, _, hrun, rfl, rfl, rfl, rfl, rfl, rfl, rfl, rfl, rfl, rfl, rfl, rfl, rfl,
    rfl, rfl⟩

end Onlyboxes.Docker
