import Onlyboxes.Docker.PythonExec
import Onlyboxes.Spec.DockerSteps

/-!
# What the commands of a call decide

How the outcome of a child process reaches the caller of the Docker manager. The end of
the context is reported by `os/exec` only for a process that exits with 0; a process that
was killed is an exit with code -1. And a container that is gone is recognised by a text on
the standard error of the command, which the user's command writes too.

## Key results

- `deadline_reported`: a deadline that ends a command is reported, and the session marked,
  exactly if the process exits with 0 nevertheless
- `output_decides`: the answer is that of a command that ran to its end exactly if its
  standard error does not have that text
- `killed_command_completes`, `output_destroys_session`: runs in which they are not
- `python_container_removed`: when the container of a call of `pythonExec` is gone
-/

namespace Onlyboxes.Docker

open Text Worker

variable {lib : DockerLib} {cfg : ManagerSettings} {g g' : Phase} {s s' : ManagerState} {o : ManagerOp}

/-! ## Logs and phases -/

/-- The result of a child process that was run for the caller. -/
def childResult : CallEvent → Option DockerCommandResult
  | ⟨.dockerCreate .., result, _⟩ => some result
  | ⟨.dockerStart _, result, _⟩ => some result
  | ⟨.dockerInspectIP _, result, _⟩ => some result
  | ⟨.dockerExec .., result, _⟩ => some result
  | ⟨.dockerProbe .., result, _⟩ => some result
  | ⟨.dockerCopy .., result, _⟩ => some result
  | _ => none

/-- The phase of a call. -/
def callPhase (lib : DockerLib) (cfg : ManagerSettings) (t : ManagerThread) : Phase :=
  (managerProtocol lib cfg).after t.call.start t.log

/-- The result of the command of the caller. -/
def execResult : CallEvent → Option DockerCommandResult
  | ⟨.dockerExec .., result, _⟩ => some result
  | _ => none

/-- The result of the probe of a resource. -/
def probeResult : CallEvent → Option DockerCommandResult
  | ⟨.dockerProbe .., result, _⟩ => some result
  | _ => none

/-- The result of the copy of a resource. -/
def copyResult : CallEvent → Option DockerCommandResult
  | ⟨.dockerCopy .., result, _⟩ => some result
  | _ => none

/-- What an event does to what a phase remembers of the commands. -/
theorem commands_next (g : Phase) (e : CallEvent) :
    (g.next e).ran = (childResult e).toList ++ g.ran ∧
    (g.next e).exec = (execResult e).or g.exec ∧ (g.next e).probe = (probeResult e).or g.probe ∧
    (g.next e).copied = (copyResult e).or g.copied := by
  obtain ⟨o, r, st⟩ := e
  cases o with
  | claimSession | resolveProxyTarget => cases r <;> exact ⟨rfl, rfl, rfl, rfl⟩
  | _ => exact ⟨rfl, rfl, rfl, rfl⟩

variable {log : List CallEvent}

theorem mem_ran_after {e : CallEvent} {r : DockerCommandResult} (he : e ∈ log)
    (hr : childResult e = some r) : r ∈ ((managerProtocol lib cfg).after g log).ran := by
  induction log with
  | nil => nomatch he
  | cons e' log ih =>
    change r ∈ (Phase.next _ e').ran
    rw [(commands_next _ e').1, List.mem_append]
    rcases List.mem_cons.mp he with rfl | he
    · rw [hr]
      exact .inl (List.mem_singleton_self _)
    · exact .inr (ih he)

/-- A field of the phase that remembers the result of a command that is run once. -/
structure Remembers (lib : DockerLib) (cfg : ManagerSettings)
    (field : Phase → Option DockerCommandResult) (result : CallEvent → Option DockerCommandResult) :
    Prop where
  next : ∀ g e, field (g.next e) = (result e).or (field g)
  once : ∀ g e, (result e).isSome = true → g.Allowed lib cfg e.op → field g = none

namespace Remembers

variable {field : Phase → Option DockerCommandResult} {result : CallEvent → Option DockerCommandResult}
  {log : List CallEvent} {r : DockerCommandResult}

theorem after (h : Remembers lib cfg field result)
    (hkept : (managerProtocol lib cfg).Kept g log) {e : CallEvent} (he : e ∈ log)
    (hr : result e = some r) : field ((managerProtocol lib cfg).after g log) = some r := by
  induction log with
  | nil => nomatch he
  | cons e' log ih =>
    obtain ⟨hkept, hallowed, -⟩ := hkept
    refine (h.next _ e').trans ?_
    rcases List.mem_cons.mp he with rfl | he
    · rw [hr, Option.some_or]
    · -- It was run before, so the last event was another one.
      have hbefore := ih hkept he
      cases hlast : result e' with
      | none => rw [Option.none_or, hbefore]
      | some r' =>
        have hnone := h.once _ e' (by rw [hlast]; rfl) hallowed
        nomatch hbefore.symm.trans hnone

theorem mem_log (h : Remembers lib cfg field result) (hg : field g = none)
    (hr : field ((managerProtocol lib cfg).after g log) = some r) : ∃ e ∈ log, result e = some r := by
  induction log with
  | nil => nomatch hg.symm.trans hr
  | cons e log ih =>
    rw [show field ((managerProtocol lib cfg).after g (e :: log)) = _ from h.next _ e] at hr
    cases hlast : result e with
    | none =>
      rw [hlast, Option.none_or] at hr
      obtain ⟨e', he', hr'⟩ := ih hr
      exact ⟨e', List.mem_cons_of_mem _ he', hr'⟩
    | some r' =>
      rw [hlast, Option.some_or] at hr
      exact ⟨e, List.mem_cons_self, hlast.trans hr⟩

end Remembers

theorem remembers_exec : Remembers lib cfg Phase.exec execResult where
  next g e := (commands_next g e).2.1
  once g e h hallowed := by
    obtain ⟨o, r, st⟩ := e
    cases o with
    | dockerExec => exact hallowed
    | _ => nomatch h

theorem remembers_probe : Remembers lib cfg Phase.probe probeResult where
  next g e := (commands_next g e).2.2.1
  once g e h hallowed := by
    obtain ⟨o, r, st⟩ := e
    cases o with
    | dockerProbe => exact hallowed.1
    | _ => nomatch h

theorem remembers_copied : Remembers lib cfg Phase.copied copyResult where
  next g e := (commands_next g e).2.2.2
  once g e h hallowed := by
    obtain ⟨o, r, st⟩ := e
    cases o with
    | dockerCopy => exact hallowed
    | _ => nomatch h

/-- The call finds its session gone when it gives back its slot. -/
def findsGone : CallEvent → Bool
  | ⟨.releaseSession _, none, _⟩ => true
  | _ => false

/-- The call marks its session to be destroyed. -/
def destroys : CallEvent → Bool
  | ⟨.releaseAndDestroySession _, _, _⟩ => true
  | _ => false

theorem findsGone_of_released (hg : g.released = none)
    (h : ((managerProtocol lib cfg).after g log).released = some none) :
    log.any findsGone = true := by
  induction log with
  | nil => nomatch hg.symm.trans h
  | cons e log ih =>
    obtain ⟨o, r, st⟩ := e
    rw [List.any_cons, Bool.or_eq_true]
    cases o with
    | releaseSession sessionID =>
      cases r with
      | none => exact .inl rfl
      | some answer => nomatch Option.some.inj h
    | claimSession | resolveProxyTarget => cases r <;> exact .inr (ih h)
    | _ => exact .inr (ih h)

theorem destroyed_after (h : log.any destroys = true) :
    ((managerProtocol lib cfg).after g log).destroyed = true := by
  induction log with
  | nil => nomatch h
  | cons e log ih =>
    obtain ⟨o, r, st⟩ := e
    rw [List.any_cons, Bool.or_eq_true] at h
    cases o with
    | releaseAndDestroySession => rfl
    | claimSession | resolveProxyTarget => cases r <;> exact ih (h.resolve_left Bool.false_ne_true)
    | _ => exact ih (h.resolve_left Bool.false_ne_true)

/-! ## Deadlines -/

/-- A session that a call marked is marked. -/
structure Marks (s : ManagerState) (g : Phase) : Prop where
  unclaimed : g.claim = none → g.destroyed = false
  marked : ∀ claim obj, g.claim = some claim → g.destroyed = true →
    s.objects[claim.session]? = some obj → obj.destroying = true

theorem Marks.mono {g₁ g₂ : Phase} (h : Marks s g) (hclaimed : g.Claimed s)
    (heffect : ManagerEffect lib g₁ s o g₂ s') (hclaim : g'.claim = g.claim)
    (hdestroyed : g'.destroyed = g.destroyed) : Marks s' g' := by
  refine ⟨fun hnone => hdestroyed.trans (h.unclaimed (hclaim ▸ hnone)),
    fun claim obj' hg' hmarked hobj' => ?_⟩
  rw [hclaim] at hg'
  obtain ⟨obj, hobj, -⟩ := hclaimed claim hg'
  obtain ⟨obj'', hobj'', -, hkept⟩ := object_of_effect heffect hobj
  obtain rfl := Option.mem_unique hobj' hobj''
  exact hkept (h.marked claim obj hg' (hdestroyed ▸ hmarked) hobj)

/-- Whatever session the id has when a call destroys it, its own one is marked. -/
theorem marks_of_effect (hsound : s.Sound lib) (hclaimed : g.Claimed s) (h : Marks s g)
    (heffect : ManagerEffect lib g s o g' s') : Marks s' g' := by
  have hstay : ∀ {g₂ : Phase}, g₂.claim = g.claim → g₂.destroyed = g.destroyed → Marks s' g₂ :=
    fun hclaim hdestroyed => h.mono hclaimed heffect hclaim hdestroyed
  -- A claimed session that is not in the map is marked already.
  have hdestroy : ∀ {claim : Claim} {cleaning : List Retired} {released : Option (Option Int)},
      g.Holds claim → (s.sessions.lookup claim.sessionID = some claim.session →
        ∀ obj', s'.objects[claim.session]? = some obj' → obj'.destroying = true) →
      Marks s' (g.release true released cleaning) := by
    intro claim cleaning released hholds hmapped
    refine ⟨(fun hnone => nomatch hholds.1.symm.trans hnone), fun claim' obj' hclaim' _ hobj' => ?_⟩
    obtain rfl := Option.mem_unique hholds.1 hclaim'
    by_cases hlookup : s.sessions.lookup claim.sessionID = some claim.session
    · exact hmapped hlookup obj' hobj'
    · obtain ⟨obj, hobj, hid⟩ := hclaimed claim hclaim'
      obtain ⟨obj'', hobj'', -, hkept⟩ := object_of_effect heffect hobj
      obtain rfl := Option.mem_unique hobj' hobj''
      exact hkept (hsound.unmapped claim.session obj hobj (hid ▸ hlookup))
  cases heffect with
  | quiet hs hg | touched session hf hg hlease => exact hstay hg.claim hg.destroyed
  | created hfree hnone hnew | joined hfree hlookup hobj hactive =>
    have hnot := h.unclaimed hfree.claim
    exact ⟨nofun, fun _ _ _ hdestroyed => nomatch hnot.symm.trans hdestroyed⟩
  | recovered | left | detached | stranded | expired | freed => exact hstay rfl rfl
  | @gone _ _ destroys _ _ _ hholds hid _ hnone =>
    cases destroys with
    | false => exact hstay rfl rfl
    | true =>
      refine hdestroy hholds fun hlookup => ?_
      rw [hid, hnone] at hlookup
      nomatch hlookup
  | @released _ _ destroys _ _ _ _ _ hholds hid _ hlookup hobj _ =>
    cases destroys with
    | false => exact hstay rfl rfl
    | true =>
      refine hdestroy hholds fun hown obj' hobj' => ?_
      obtain rfl := Option.mem_unique hlookup (hid ▸ hown)
      rw [ManagerState.getElem?_modify, hobj, Option.map_some, if_pos rfl] at hobj'
      exact Option.some.inj hobj' ▸ rfl
  | @retired _ _ destroys _ _ _ _ _ hholds hid _ hlookup hobj _ =>
    cases destroys with
    | false => exact hstay rfl rfl
    | true =>
      refine hdestroy hholds fun hown obj' hobj' => ?_
      obtain rfl := Option.mem_unique hlookup (hid ▸ hown)
      have hobj' : (s.modify _ _).objects[_]? = some obj' := hobj'
      rw [ManagerState.getElem?_modify, hobj, Option.map_some, if_pos rfl] at hobj'
      exact Option.some.inj hobj' ▸ rfl

variable {ok : ManagerPool → ManagerAction → Prop} {p : ManagerPool}

/-- Sessions that calls marked are marked. -/
theorem sessions_marked (h : (managerMachine lib cfg).ReachableWhere ok p) :
    ∀ g ∈ phases lib cfg p, Marks p.shared g := by
  refine manager_invariant (I := fun s gs => ∀ g ∈ gs, Marks s g) ?_ ?_ ?_ ?_ h
  · exact fun _ _ _ h => nomatch h
  · intro s gs ih
    exact List.forall_mem_concat ih ⟨fun _ => rfl, fun _ _ hclaim => nomatch hclaim⟩
  · intro p i ans g o g' p' hreach _ _ ih hg _ heffect
    have hclaimed := claims_known hreach
    have hmem := List.mem_of_getElem? hg
    exact List.forall_mem_set (fun g₂ hg₂ => (ih g₂ hg₂).mono (hclaimed g₂ hg₂) heffect rfl rfl)
      (marks_of_effect (managerSound hreach) (hclaimed g hmem) (ih g hmem) heffect)
  · intro s s' gs hsame ih g hg
    refine ⟨(ih g hg).unclaimed, fun claim obj hclaim hdestroyed hobj => ?_⟩
    rw [hsame.objects] at hobj
    exact (ih g hg).marked claim obj hclaim hdestroyed hobj

/-- A child process whose context ended while it ran. -/
def interrupted (err : ContextError) (e : ProcessExit) (stdout stderr : Bytes) (pipesOpen : Bool) :
    CommandRun :=
  { stdout := stdout, stderr := stderr, err := waitError (some err) e pipesOpen }

/-- A process that exits with 0 leaves the error of the context, another one its exit. -/
theorem runDockerCommandCLI_interrupted (err : ContextError) (e : ProcessExit) (stdout stderr : Bytes)
    (pipesOpen : Bool) :
    (e.success = true ∧
      (runDockerCommandCLI (interrupted err e stdout stderr pipesOpen)).err = some (.context err)) ∨
    (e.success = false ∧ (runDockerCommandCLI (interrupted err e stdout stderr pipesOpen)).err = none ∧
      (runDockerCommandCLI (interrupted err e stdout stderr pipesOpen)).exitCode ≠ 0) := by
  unfold interrupted waitError
  cases hsuccess : e.success with
  | true => exact .inl ⟨rfl, rfl⟩
  | false =>
    refine .inr ⟨rfl, rfl, ?_⟩
    cases e with
    | exited code =>
      cases code with
      | zero => nomatch hsuccess
      | succ n => exact Int.natCast_ne_zero.mpr n.succ_ne_zero
    | signaled => exact Int.negSucc_ne_zero 0

/-- The session that the call claimed is marked. -/
def MarkedByCall (lib : DockerLib) (cfg : ManagerSettings) (s : ManagerState) (t : ManagerThread) : Prop :=
  ∃ claim obj, (callPhase lib cfg t).claim = some claim ∧ s.objects[claim.session]? = some obj ∧
    obj.destroying = true

/-- What a call reports about a child process whose context ended. -/
theorem reports_interrupted (h : (managerMachine lib cfg).ReachableWhere ok p) {i : Nat}
    {t : ManagerThread} (ht : p.threads[i]? = some t) {context : Bool}
    (hreports : (callPhase lib cfg t).Reports context) {err : ContextError} {e : ProcessExit}
    {stdout stderr : Bytes} {pipesOpen : Bool} {ev : CallEvent} (hev : ev ∈ t.log)
    (hchild : childResult ev = some (runDockerCommandCLI (interrupted err e stdout stderr pipesOpen))) :
    context = true ∧ MarkedByCall lib cfg p.shared t ↔ e.success = true := by
  have hmem : _ ∈ (callPhase lib cfg t).ran := mem_ran_after hev hchild
  obtain ⟨htells, hdestroyed⟩ := hreports
  rcases runDockerCommandCLI_interrupted err e stdout stderr pipesOpen with
    ⟨hsuccess, hcontext⟩ | ⟨hfailed, hnone, hexit⟩
  · refine iff_of_true ⟨(htells _ hmem).1 err hcontext, ?_⟩ hsuccess
    -- The call destroyed the session that it claimed.
    have hdestroyed := hdestroyed _ hmem err hcontext
    have hphase : callPhase lib cfg t ∈ phases lib cfg p := List.mem_of_getElem? (phase_of_thread ht)
    have hmarks := sessions_marked h (callPhase lib cfg t) hphase
    cases hclaim : (callPhase lib cfg t).claim with
    | none => nomatch (hmarks.unclaimed hclaim).symm.trans hdestroyed
    | some claim =>
      obtain ⟨obj, hobj, -⟩ := claims_known h (callPhase lib cfg t) hphase claim hclaim
      exact ⟨claim, obj, hclaim, hobj, hmarks.marked claim obj hclaim hdestroyed hobj⟩
  · have hnot := (htells _ hmem).2 hnone hexit
    exact iff_of_false (fun hboth => nomatch hnot.symm.trans hboth.1)
      fun hsuccess => nomatch hfailed.symm.trans hsuccess

/-- For a call of `Execute` or `ResolveResource` that is about to answer, and a child
    process of it whose context ended while it ran: the answer is an error of the context
    and the session is marked exactly if the process exits with 0 nevertheless. For a
    command of `worker-sys`, the answer is an error of the context exactly then. -/
theorem deadline_reported (lib : DockerLib) (cfg : ManagerSettings) (p : ManagerPool)
    (h : (managerMachine lib cfg).Reachable p) (err : ContextError) (e : ProcessExit)
    (stdout stderr : Bytes) (pipesOpen : Bool) :
    (∀ i t result ev, p.threads[i]? = some t → p.nextOp i = some (.returnExecute result) →
      ev ∈ t.log → childResult ev =
        some (runDockerCommandCLI (interrupted err e stdout stderr pipesOpen)) →
      (Phase.isContext result = true ∧ MarkedByCall lib cfg p.shared t ↔ e.success = true)) ∧
    (∀ i t result ev, p.threads[i]? = some t → p.nextOp i = some (.returnResource result) →
      ev ∈ t.log → childResult ev =
        some (runDockerCommandCLI (interrupted err e stdout stderr pipesOpen)) →
      (Phase.isContext result = true ∧ MarkedByCall lib cfg p.shared t ↔ e.success = true)) ∧
    (∀ (executor : ComputerUseExecutor) command, trimSpace command ≠ "" →
      executor.isCommandAllowed (trimSpace command) = true →
      ((∃ err', executor.execute command (fun _ => interrupted err e stdout stderr pipesOpen) =
        .error (.context err')) ↔ e.success = true)) := by
  refine ⟨fun i t result ev ht hnext hev hchild => ?_, fun i t result ev ht hnext hev hchild => ?_,
    fun executor command hne hallowed => ?_⟩
  · obtain ⟨t', ht', hreports, -⟩ := allowed_of_nextOp h hnext
    obtain rfl := Option.mem_unique ht ht'
    exact reports_interrupted h ht hreports hev hchild
  · obtain ⟨t', ht', hreports, -⟩ := allowed_of_nextOp h hnext
    obtain rfl := Option.mem_unique ht ht'
    exact reports_interrupted h ht hreports hev hchild
  · have hexecute : executor.execute command (fun _ => interrupted err e stdout stderr pipesOpen) =
        executor.finish (interrupted err e stdout stderr pipesOpen) := by
      simp only [ComputerUseExecutor.execute, if_neg hne, if_pos hallowed]
    rw [hexecute]
    unfold interrupted waitError ComputerUseExecutor.finish
    cases e.success with
    | true => exact iff_of_true ⟨err, rfl⟩ rfl
    | false => exact iff_of_false (fun ⟨_, herr⟩ => nomatch herr) Bool.false_ne_true

/-- A session is made, and its command runs. -/
def executesCommand (exec : CommandRun) : List ManagerAction :=
  [.spawn (.execute { command := "x", sessionID := "s", createIfMissing := true })] ++
    ManagerAction.runs 0 [.none, .none, .success, .success, .none, .none, .docker exec false, .none]

theorem deadline_reported_execute :
    ∃ p t ev result, (managerMachine .sample .sample).Reachable p ∧ p.threads[0]? = some t ∧
      ev ∈ t.log ∧ childResult ev =
        some (runDockerCommandCLI (interrupted .deadlineExceeded (.exited 0) [] [] false)) ∧
      p.nextOp 0 = some (.returnExecute result) ∧ Phase.isContext result = true ∧
      MarkedByCall .sample .sample p.shared t := by
  have hrun := Machine.reachable_run
    (executesCommand (interrupted .deadlineExceeded (.exited 0) [] [] false) ++
      ManagerAction.runs 0 [.success, .none])
    (ManagerPool.fresh_reachable .sample .sample) rfl
  have hreported := deadline_reported .sample .sample _ hrun .deadlineExceeded (.exited 0) [] [] false
  exact ⟨_, _, _, _, hrun, rfl, List.mem_of_getElem? (i := 3) rfl, rfl, rfl,
    (hreported.1 0 _ _ _ rfl rfl (List.mem_of_getElem? (i := 3) rfl) rfl).mpr rfl⟩

/-- A command is killed by its deadline. `Execute` answers its output with the exit code -1,
    and the session stays, although the command may still run in the container. -/
theorem killed_command_completes :
    ∃ p t ev r obj, (managerMachine .sample .sample).Reachable p ∧ p.threads[0]? = some t ∧ ev ∈ t.log ∧
      childResult ev =
        some (runDockerCommandCLI (interrupted .deadlineExceeded .signaled [] [] false)) ∧
      p.nextOp 0 = some (.returnExecute (.ok r)) ∧ r.exitCode = -1 ∧
      p.shared.current "s" = some (0, obj) ∧ obj.destroying = false := by
  have hrun := Machine.reachable_run
    (executesCommand (interrupted .deadlineExceeded .signaled [] [] false))
    (ManagerPool.fresh_reachable .sample .sample) rfl
  exact ⟨_, _, _, _, _, hrun, rfl, List.mem_of_getElem? (i := 1) rfl, rfl, rfl, rfl, rfl, rfl⟩

/-! ## Output -/

/-- A command that ran to its end. -/
def completed (stdout stderr : Bytes) (e : ProcessExit) : CommandRun :=
  { stdout := stdout, stderr := stderr, err := waitError none e false }

theorem runDockerCommandCLI_completed (stdout stderr : Bytes) (e : ProcessExit) :
    runDockerCommandCLI (completed stdout stderr e) =
      { stdout := stdout, stderr := stderr, exitCode := e.exitCode } := by
  unfold completed waitError
  cases hsuccess : e.success with
  | true =>
    obtain rfl : e = .exited 0 := of_decide_eq_true hsuccess
    rfl
  | false => rfl

/-- For a call of `Execute` that is about to answer, whose command ran to its end and whose
    session was still there when it gave back its slot: the answer is the result of the
    command and the session is not destroyed exactly if the standard error does not have
    the text. And `ResolveResource` answers that there is no session exactly if the probe
    or the copy has it, or the probe itself says so. -/
theorem output_decides (lib : DockerLib) (cfg : ManagerSettings) (p : ManagerPool)
    (h : (managerMachine lib cfg).Reachable p) (stdout stderr : Bytes) (e : ProcessExit) :
    (∀ i t result ev, p.threads[i]? = some t → p.nextOp i = some (.returnExecute result) →
      ev ∈ t.log → execResult ev = some (runDockerCommandCLI (completed stdout stderr e)) →
      t.log.any findsGone = false →
      ((∃ claim lease, (callPhase lib cfg t).claim = some claim ∧ result = .ok
          { sessionID := claim.sessionID
            created := claim.created
            stdout := (truncateByBytes stdout cfg.outputLimitBytes).1
            stderr := (truncateByBytes stderr cfg.outputLimitBytes).1
            exitCode := e.exitCode
            stdoutTruncated := (truncateByBytes stdout cfg.outputLimitBytes).2
            stderrTruncated := (truncateByBytes stderr cfg.outputLimitBytes).2
            leaseExpiresUnixMS := lease }) ∧ t.log.any destroys = false ↔
        isNoSuchContainerMessage lib.toLower stderr = false)) ∧
    (∀ i t result ev, p.threads[i]? = some t → p.nextOp i = some (.returnResource result) →
      ev ∈ t.log → probeResult ev = some (runDockerCommandCLI (completed stdout stderr e)) →
      (∀ ev' ∈ t.log, ∀ r, copyResult ev' = some r → r.err = none) →
      t.log.any findsGone = false →
      (Phase.isLost result = true ↔
        Phase.probeLost lib (runDockerCommandCLI (completed stdout stderr e)) = true ∨
        ∃ ev' ∈ t.log, ∃ r, copyResult ev' = some r ∧
          isNoSuchContainerMessage lib.toLower r.stderr = true)) := by
  have hcompleted := runDockerCommandCLI_completed stdout stderr e
  refine ⟨fun i t result ev ht hnext hev hexec hthere => ?_,
    fun i t result ev ht hnext hev hprobe hcopies hthere => ?_⟩
  · obtain ⟨t', ht', -, hanswers⟩ := allowed_of_nextOp h hnext
    obtain rfl := Option.mem_unique ht ht'
    have hkept := (managerKeeps h t (List.mem_of_getElem? ht)).1
    have hanswers := hanswers _ (remembers_exec.after hkept hev hexec) (by rw [hcompleted])
    rw [hcompleted] at hanswers
    cases hmessage : isNoSuchContainerMessage lib.toLower stderr with
    | true =>
      rw [if_pos hmessage] at hanswers
      refine iff_of_false (fun hok => ?_) nofun
      obtain ⟨⟨_, _, -, hok⟩, -⟩ := hok
      nomatch hanswers.1.symm.trans hok
    | false =>
      rw [if_neg (by rw [hmessage]; exact Bool.false_ne_true)] at hanswers
      obtain ⟨hkeeps, ⟨claim, lease, hclaim, -, hok⟩ | ⟨hgone, -⟩⟩ := hanswers
      · refine iff_of_true ⟨⟨claim, lease, hclaim, hok⟩, eq_false_of_ne_true fun hdestroys => ?_⟩ rfl
        nomatch hkeeps.symm.trans (destroyed_after hdestroys)
      · nomatch hthere.symm.trans (findsGone_of_released rfl hgone)
  · obtain ⟨t', ht', -, hanswers⟩ := allowed_of_nextOp h hnext
    obtain rfl := Option.mem_unique ht ht'
    have hkept := (managerKeeps h t (List.mem_of_getElem? ht)).1
    have hlost : Phase.isLost result = (_ || (callPhase lib cfg t).copied.any _) :=
      hanswers (fun hgone => nomatch hthere.symm.trans (findsGone_of_released rfl hgone)) _
        (remembers_probe.after hkept hev hprobe) (by rw [hcompleted]) fun r hr => by
          obtain ⟨ev', hev', hcopy⟩ := remembers_copied.mem_log rfl hr
          exact hcopies ev' hev' r hcopy
    rw [hlost, Bool.or_eq_true, Option.any_eq_true]
    refine or_congr_right ⟨fun ⟨r, hr, hmessage⟩ => ?_, fun ⟨ev', hev', r, hcopy, hmessage⟩ => ?_⟩
    · obtain ⟨ev', hev', hcopy⟩ := remembers_copied.mem_log rfl hr
      exact ⟨ev', hev', r, hcopy, hmessage⟩
    · exact ⟨r, remembers_copied.after hkept hev' hcopy, hmessage⟩

theorem output_decides_silent :
    ∃ p t ev result, (managerMachine .sample .sample).Reachable p ∧ p.threads[0]? = some t ∧
      ev ∈ t.log ∧ execResult ev = some (runDockerCommandCLI (completed [] [] (.exited 3))) ∧
      p.nextOp 0 = some (.returnExecute result) ∧ t.log.any destroys = false := by
  have hrun := Machine.reachable_run
    (executesCommand (completed [] [] (.exited 3))) (ManagerPool.fresh_reachable .sample .sample) rfl
  have hdecides := output_decides .sample .sample _ hrun [] [] (.exited 3)
  exact ⟨_, _, _, _, hrun, rfl, List.mem_of_getElem? (i := 1) rfl, rfl, rfl,
    ((hdecides.1 0 _ _ _ rfl rfl (List.mem_of_getElem? (i := 1) rfl) rfl rfl).mpr rfl).2⟩

/-- A command prints the text to its standard error and exits with 0. `Execute` answers that
    there is no session, and the session and its container are removed. -/
theorem output_destroys_session :
    ∃ p t ev, (managerMachine .sample .sample).Reachable p ∧ p.threads[0]? = some t ∧
      ev ∈ t.log ∧ execResult ev =
        some (runDockerCommandCLI (completed [] (bytes "no such container") (.exited 0))) ∧
      t.log.any findsGone = false ∧ p.nextOp 0 = some (.returnExecute (.error .sessionNotFound)) ∧
      t.log.any destroys = true ∧ p.shared.sessions.lookup "s" = none ∧
      p.shared.containers.lookup "onlyboxes-terminal-v1-s" = none := by
  have hrun := Machine.reachable_run
    (executesCommand (completed [] (bytes "no such container") (.exited 0)) ++
      ManagerAction.runs 0 [.success, .none])
    (ManagerPool.fresh_reachable .sample .sample) rfl
  exact ⟨_, _, _, hrun, rfl, List.mem_of_getElem? (i := 3) rfl, rfl, rfl, rfl, rfl, rfl, rfl⟩

/-! ## Containers of Python code -/

theorem commandFailure_of_succeeded {lib : DockerLib} {stage : String} {r : DockerCommandResult}
    (h : ManagerState.succeeded r = true) : commandFailure lib stage r = none := by
  simp only [ManagerState.succeeded, Bool.and_eq_true, decide_eq_true_eq] at h
  simp only [commandFailure, h.1, h.2, if_true]

/-- Whatever docker does, no container of the name is there when the call returns, exactly if
    `docker create` reports success, or made no container and there was none before. -/
theorem python_container_removed (lib : PythonExecLib) (docker : DockerHost)
    (containerName dockerImage memoryLimit cpuLimit : String) (pidsLimit : Int)
    (dockerNetwork code : String) (containers : List String) :
    containerName ∉ (runPythonExecInDockerWithNetwork lib docker (.ok containerName) dockerImage
        memoryLimit cpuLimit pidsLimit dockerNetwork code containers).2 ↔
      ManagerState.succeeded (docker.runDockerCommand (pythonExecDockerCreateArgsWithNetwork lib
        containerName dockerImage memoryLimit cpuLimit pidsLimit dockerNetwork code)) = true ∨
      docker.creates = false ∧ containerName ∉ containers := by
  unfold runPythonExecInDockerWithNetwork
  dsimp only
  generalize docker.runDockerCommand _ = createResult
  cases hcreate : commandFailure lib.toDockerLib "docker create failed" createResult with
  | none =>
    refine iff_of_true (fun hmem => ?_) (.inl (succeeded_of_commandFailure hcreate))
    exact of_decide_eq_true (List.mem_filter.mp hmem).2 rfl
  | some err =>
    have hfailed : ManagerState.succeeded createResult ≠ true := fun hsucceeded =>
      nomatch (commandFailure_of_succeeded hsucceeded).symm.trans hcreate
    rw [or_iff_right hfailed]
    cases docker.creates with
    | false => exact ⟨fun hnot => ⟨rfl, hnot⟩, And.right⟩
    | true => exact iff_of_false (fun hnot => hnot List.mem_cons_self) fun h => nomatch h.1

/-- The deadline kills `docker create` after the container was made: the call returns the
    error and leaves the container. -/
theorem python_container_left :
    let lib : PythonExecLib := { DockerLib.sample with atoi := fun _ => .ok 0, quote := fun _ => "" }
    let docker : DockerHost :=
      { run := fun _ => interrupted .deadlineExceeded .signaled [] [] false, creates := true }
    (runPythonExecInDockerWithNetwork lib docker (.ok "onlyboxes-pythonexec-1") "" "" "" 0 "" "" []).2 =
      ["onlyboxes-pythonexec-1"] := rfl

end Onlyboxes.Docker
