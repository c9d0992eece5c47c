import Onlyboxes.Console.SessionRuntime
import Onlyboxes.ForStd.Ledger
import Onlyboxes.ForStd.Machine

/-!
# Capability slots and pending commands of a connection

Any number of goroutines use one `activeSession`: dispatches take a slot, register a
command or give the slot back, results resolve commands, dispatches that return
unregister theirs, and the connection may be closed. Each of these is broken at its
mutex boundaries, so that between taking a command out of the pending map, releasing
its slot and closing its result channel anything else may happen.

Slots are followed by a `Ledger`: a ticket is issued with every successful
`tryAcquireCapability` and retired by the `releaseCapability` that returns the slot.

## Key results

- `SessionSystem.Inv.step`: one step keeps slots and commands accounted for
- `slots_and_commands_conserved`: the statement for every reachable state
-/

namespace Onlyboxes.Console

open Text AList

/-- A dispatch that acquired a slot and neither registered nor released it yet. -/
structure SlotHolder where
  ticket : Nat
  capability : String
  deriving DecidableEq, Repr

/-- A command taken out of the pending map whose slot is not released yet, with the
    outcome its channel is going to get. -/
structure Removal where
  commandID : String
  capability : String
  outcome : Option CommandOutcome
  deriving DecidableEq, Repr

/-- A connection and the goroutines that use it. -/
structure SessionSystem where
  session : ActiveSession
  holders : List SlotHolder := []
  removals : List Removal := []
  /-- Commands whose slot is released and whose result channel is not closed yet. -/
  closings : List (String × Option CommandOutcome) := []
  channels : GoMap String ResultChannel := ∅
  /-- The critical section of `close` has run. -/
  swapped : Bool := false
  -- The history: tickets issued and retired, the ticket of each registered command,
  -- and the commands whose `closeResult` has run.
  issued : Nat := 0
  released : List Nat := []
  tickets : GoMap String Nat := ∅
  closed : List String := []

/-- The atomic actions of the goroutines. -/
inductive SessionAction where
  | acquire (capability : String)
  | release (holder : SlotHolder)
  | register (holder : SlotHolder) (commandID : String)
  | unregister (commandID : String)
  | resolve (result : CommandResult)
  | releaseRemoval (removal : Removal)
  | closeResult (closing : String × Option CommandOutcome)
  | close (err : Option String)
  | closeSwap

namespace SessionSystem

variable (m : CaseMap)

/-- The ticket a command was registered with. -/
def ticketOf (tickets : GoMap String Nat) (commandID : String) : Nat :=
  (tickets.lookup commandID).getD 0

/-- `unregisterPending` and `resolvePending` up to the end of their critical section. -/
def take (s : SessionSystem) (commandID : String) (outcome : Option CommandOutcome) :
    SessionSystem :=
  match s.session.takePending commandID with
  | (_, none) => s
  | (session, some pending) =>
    { s with
      session := session
      removals := ⟨trimSpace commandID, pending.capability, outcome⟩ :: s.removals }

/-- One atomic step. Command ids are pairwise distinct: a command is registered under
    an id that was not used before. -/
def step (s : SessionSystem) : SessionAction → Option SessionSystem
  | .acquire capability =>
    match s.session.tryAcquireCapability m capability with
    | (session, false) => some { s with session := session }
    | (session, true) => some { s with
        session := session
        holders := ⟨s.issued, capability⟩ :: s.holders
        issued := s.issued + 1 }
  | .release holder =>
    if holder ∈ s.holders then some { s with
      session := s.session.releaseCapability m holder.capability
      holders := s.holders.erase holder
      released := holder.ticket :: s.released }
    else none
  | .register holder commandID =>
    if holder ∈ s.holders ∧ s.channels.lookup (trimSpace commandID) = none then
      match s.session.registerPending m commandID holder.capability with
      | .error _ => some s
      | .ok session => some { s with
          session := session
          holders := s.holders.erase holder
          channels := s.channels.insert (trimSpace commandID) {}
          tickets := s.tickets.insert (trimSpace commandID) holder.ticket }
    else none
  | .unregister commandID => some (s.take commandID none)
  | .resolve result => some (s.take result.commandID (some result.outcome))
  | .releaseRemoval removal =>
    if removal ∈ s.removals then some { s with
      session := s.session.releaseCapability m removal.capability
      removals := s.removals.erase removal
      closings := (removal.commandID, removal.outcome) :: s.closings
      released := ticketOf s.tickets removal.commandID :: s.released }
    else none
  | .closeResult closing =>
    if closing ∈ s.closings then some { s with
      closings := s.closings.erase closing
      channels := s.channels.insert closing.1
        (((s.channels.lookup closing.1).getD {}).closeResult closing.2)
      closed := closing.1 :: s.closed }
    else none
  | .close err => some { s with session := s.session.closeDone err }
  | .closeSwap =>
    if s.session.done ∧ s.swapped = false then
      let (session, taken) := s.session.closeSwap
      some { s with
        session := session
        removals := taken.map (fun e =>
          ⟨e.1, e.2.capability, some { err := some (.closed s.session.sessionError) }⟩) ++
            s.removals
        swapped := true }
    else none

/-- A connection from its `ConnectHello` on. -/
def machine : Machine SessionSystem SessionAction where
  init s := ∃ nodeID declared, s = { session := ActiveSession.new m nodeID declared }
  step := step m

/-- The slots of dispatches that did not register yet. -/
def holderSlots (holders : List SlotHolder) : List (Nat × String) :=
  holders.map fun h => (h.ticket, normalizeCapability m h.capability)

/-- The slots of pending commands. -/
def pendingSlots (tickets : GoMap String Nat) (pending : GoMap String PendingCommand) :
    List (Nat × String) :=
  pending.entries.map fun e => (ticketOf tickets e.1, e.2.capability)

/-- The slots of commands that were just removed. -/
def removalSlots (tickets : GoMap String Nat) (removals : List Removal) : List (Nat × String) :=
  removals.map fun r => (ticketOf tickets r.commandID, r.capability)

/-- The slots in use, with their tickets. -/
def slots (s : SessionSystem) : List (Nat × String) :=
  holderSlots m s.holders ++
    (pendingSlots s.tickets s.session.pending ++ removalSlots s.tickets s.removals)

/-- The commands that were registered and whose result channel is still open. -/
def openCommands (s : SessionSystem) : List String :=
  s.session.pending.keys ++ (s.removals.map Removal.commandID ++ s.closings.map Prod.fst)

end SessionSystem

/-- `inflight` of a capability; 0 for one the worker did not declare. -/
def ActiveSession.inflight (s : ActiveSession) (c : String) : Int :=
  match s.capabilities.lookup c with
  | none => 0
  | some state => state.inflight

/-! ## The counters -/

namespace ActiveSession

variable {m : CaseMap} {s : ActiveSession}

theorem inflight_of_lookup {c : String} {state : SessionCapability}
    (h : s.capabilities.lookup c = some state) : s.inflight c = state.inflight := by
  rw [inflight, h]

theorem inflight_setCapability (s : ActiveSession) (name c : String) (state : SessionCapability) :
    (s.setCapability name state).inflight c = if c = name then state.inflight else s.inflight c := by
  show (match (s.capabilities.insert name state).lookup c with
    | none => 0
    | some state => state.inflight) = _
  rw [lookup_insert_ite]
  by_cases hc : c = name
  · rw [if_pos hc, if_pos hc]
  · rw [if_neg hc, if_neg hc]
    rfl

/-- Limits are positive and respected. -/
def WithinLimits (s : ActiveSession) : Prop :=
  ∀ c state, s.capabilities.lookup c = some state →
    0 < state.maxInflight ∧ state.inflight ≤ state.maxInflight

theorem WithinLimits.setCapability (h : s.WithinLimits) {name : String} {state : SessionCapability}
    (hmax : 0 < state.maxInflight) (hle : state.inflight ≤ state.maxInflight) :
    (s.setCapability name state).WithinLimits := by
  intro c state' hstate'
  rcases lookup_insert_cases hstate' with ⟨-, rfl⟩ | ⟨-, hstate'⟩
  · exact ⟨hmax, hle⟩
  · exact h c state' hstate'

/-- An attempt to acquire a slot counts it exactly when it succeeds. -/
theorem tryAcquire_spec (h : s.WithinLimits) (capability : String) :
    (s.tryAcquireCapability m capability).1.WithinLimits ∧
    (s.tryAcquireCapability m capability).1.pending = s.pending ∧
    (s.tryAcquireCapability m capability).1.done = s.done ∧
    ((s.tryAcquireCapability m capability).2 = false →
      (s.tryAcquireCapability m capability).1.inflight = s.inflight) ∧
    ((s.tryAcquireCapability m capability).2 = true →
      normalizeCapability m capability ≠ "" ∧
      ∀ c, (s.tryAcquireCapability m capability).1.inflight c =
        if c = normalizeCapability m capability then
          s.inflight (normalizeCapability m capability) + 1
        else s.inflight c) := by
  unfold tryAcquireCapability
  dsimp only
  split
  · exact ⟨h, rfl, rfl, fun _ => rfl, nofun⟩
  · rename_i hne
    split
    · exact ⟨h, rfl, rfl, fun _ => rfl, nofun⟩
    · rename_i state hstate
      obtain ⟨hmax, hle⟩ := h _ state hstate
      -- A declared limit is positive, so the default never replaces it.
      have heff : effectiveMax state = state.maxInflight := by
        unfold effectiveMax
        rw [if_neg (by omega)]
      have hin := inflight_of_lookup hstate
      simp only [heff]
      split
      · refine ⟨h.setCapability hmax hle, rfl, rfl, fun _ => ?_, nofun⟩
        funext c
        rw [inflight_setCapability]
        split
        · rename_i hc
          rw [hc, hin]
        · rfl
      · refine ⟨h.setCapability hmax (by dsimp only; omega), rfl, rfl, nofun,
          fun _ => ⟨hne, fun c => ?_⟩⟩
        rw [inflight_setCapability, hin]

/-- Releasing a slot that is counted takes it off the counter. -/
theorem release_spec (h : s.WithinLimits) {c : String} (hnorm : normalizeCapability m c = c)
    (hne : c ≠ "") (hpos : 0 < s.inflight c) :
    (s.releaseCapability m c).WithinLimits ∧
    (s.releaseCapability m c).pending = s.pending ∧
    (s.releaseCapability m c).done = s.done ∧
    ∀ c', (s.releaseCapability m c).inflight c' =
      if c' = c then s.inflight c - 1 else s.inflight c' := by
  unfold releaseCapability
  dsimp only
  rw [hnorm, if_neg hne]
  unfold inflight at hpos
  split at hpos
  · omega
  · rename_i state hstate
    obtain ⟨hmax, hle⟩ := h _ state hstate
    have hin := inflight_of_lookup hstate
    simp only [hstate, if_pos hpos]
    refine ⟨h.setCapability hmax (by dsimp only; omega), rfl, rfl, fun c' => ?_⟩
    rw [inflight_setCapability, hin]

theorem releaseCapability_pending (capability : String) :
    (s.releaseCapability m capability).pending = s.pending := by
  unfold releaseCapability
  dsimp only
  split
  · rfl
  · split
    · rfl
    · split <;> rfl

/-- What a successful `registerPending` leaves behind. -/
theorem registerPending_eq_ok {commandID capability : String} {s' : ActiveSession}
    (h : s.registerPending m commandID capability = .ok s') :
    s' = { s with pending :=
      s.pending.insert (trimSpace commandID) ⟨normalizeCapability m capability⟩ } := by
  unfold registerPending at h
  dsimp only at h
  split at h
  · nomatch h
  · split at h
    · nomatch h
    · exact (Except.ok.inj h).symm

/-- What `unregisterPending` and `resolvePending` take. -/
theorem takePending_eq_some {commandID : String} {s' : ActiveSession} {pending : PendingCommand}
    (h : s.takePending commandID = (s', some pending)) :
    s.pending.lookup (trimSpace commandID) = some pending ∧
    s' = { s with pending := s.pending.erase (trimSpace commandID) } := by
  unfold takePending at h
  dsimp only at h
  split at h
  · nomatch h
  · split at h
    · nomatch h
    · rename_i p hlookup
      obtain ⟨hs', hp⟩ := Prod.mk.inj h
      rw [hlookup, hp]
      exact ⟨rfl, hs'.symm⟩

end ActiveSession

/-! ## The invariant -/

namespace SessionSystem

variable {m : CaseMap} {s s' : SessionSystem}

/-- Slots and commands are accounted for. -/
structure Inv (m : CaseMap) (s : SessionSystem) : Prop where
  limits : s.session.WithinLimits
  normal : ∀ p ∈ slots m s, normalizeCapability m p.2 = p.2 ∧ p.2 ≠ ""
  ledger : Ledger s.session.inflight (slots m s) s.released s.issued
  commands : (s.openCommands ++ s.closed).Perm s.channels.keys
  channel_open : ∀ k ∈ s.openCommands, s.channels.lookup k = some {}
  channel_closed : ∀ k ∈ s.closed, ∃ ch, s.channels.lookup k = some ch ∧ ch.closes = 1 ∧
    ch.sent.length ≤ 1

section

variable (h : Inv m s)

include h

/-- A step that closes no command may move them between places. -/
theorem Inv.of_slots (hlimits : s'.session.WithinLimits)
    (hnormal : ∀ p ∈ slots m s', normalizeCapability m p.2 = p.2 ∧ p.2 ≠ "")
    (hledger : Ledger s'.session.inflight (slots m s') s'.released s'.issued)
    (hopen : s'.openCommands.Perm s.openCommands)
    (hhistory : (s'.closed, s'.channels) = (s.closed, s.channels)) : Inv m s' := by
  obtain ⟨hclosed, hchannels⟩ := Prod.mk.inj hhistory
  refine ⟨hlimits, hnormal, hledger, ?_, fun k hk => ?_, ?_⟩
  all_goals rw [hchannels]
  · rw [hclosed]
    exact (hopen.append_right s.closed).trans h.commands
  · exact h.channel_open k (hopen.mem_iff.mp hk)
  · rw [hclosed]
    exact h.channel_closed

/-- A step that only moves units and commands between places keeps the invariant. -/
theorem Inv.move (hcaps : s'.session.capabilities = s.session.capabilities)
    (hslots : (slots m s').Perm (slots m s)) (hopen : s'.openCommands.Perm s.openCommands)
    (hledger : (s'.released, s'.issued) = (s.released, s.issued))
    (hhistory : (s'.closed, s'.channels) = (s.closed, s.channels)) : Inv m s' := by
  obtain ⟨hreleased, hissued⟩ := Prod.mk.inj hledger
  have hinflight : s'.session.inflight = s.session.inflight := by
    funext c
    unfold ActiveSession.inflight
    rw [hcaps]
  refine h.of_slots (fun c state hstate => ?_) (fun p hp => h.normal p (hslots.mem_iff.mp hp)) ?_ hopen
    hhistory
  · rw [hcaps] at hstate
    exact h.limits c state hstate
  · rw [hreleased, hissued]
    exact h.ledger.move hinflight hslots

/-- A step that returns the slot `p` keeps the invariant. -/
theorem Inv.release {p : Nat × String} (hslots : (slots m s).Perm (p :: slots m s'))
    (hsession : s'.session = s.session.releaseCapability m p.2)
    (hopen : s'.openCommands.Perm s.openCommands)
    (hledger : (s'.released, s'.issued) = (p.1 :: s.released, s.issued))
    (hhistory : (s'.closed, s'.channels) = (s.closed, s.channels)) : Inv m s' := by
  obtain ⟨hreleased, hissued⟩ := Prod.mk.inj hledger
  have hp : p ∈ slots m s := hslots.mem_iff.mpr List.mem_cons_self
  obtain ⟨hnorm, hne⟩ := h.normal p hp
  obtain ⟨hlimits, _, _, hlevel⟩ :=
    ActiveSession.release_spec h.limits hnorm hne (h.ledger.level_pos hp)
  refine h.of_slots (hsession ▸ hlimits) (fun q hq => ?_) ?_ hopen hhistory
  · exact h.normal q (hslots.mem_iff.mpr (List.mem_cons_of_mem p hq))
  · rw [hreleased, hissued, hsession]
    exact h.ledger.release p hlevel hslots

/-- No command is in two places, and none of them is closed. -/
theorem Inv.nodup : (s.openCommands ++ s.closed).Nodup :=
  h.commands.nodup_iff.mpr s.channels.keys_nodup

/-- Commands in flight are not new. -/
theorem Inv.ne_of_fresh {k k' : String} (hfresh : s.channels.lookup k = none)
    (hk' : k' ∈ s.openCommands) : k' ≠ k := by
  intro heq
  have hlookup := h.channel_open k' hk'
  rw [heq, hfresh] at hlookup
  nomatch hlookup

/-! ## One step -/

theorem Inv.acquire (capability : String) (hs : step m s (.acquire capability) = some s') :
    Inv m s' := by
  simp only [step] at hs
  obtain ⟨hlimits, hpending, _, hfail, hok⟩ :=
    ActiveSession.tryAcquire_spec (m := m) h.limits capability
  split at hs
  all_goals
    rename_i session heq
    rw [heq] at hlimits hpending hfail hok
    replace hpending : session.pending = s.session.pending := hpending
    cases hs
    refine h.of_slots hlimits ?_ ?_ (by simp only [openCommands, hpending]; exact .refl _) rfl
  · simp only [slots, hpending]
    exact h.normal
  · exact h.ledger.move (hfail rfl) (by simp only [slots, hpending]; exact .refl _)
  · simp only [slots, hpending]
    refine List.forall_mem_cons.mpr ⟨⟨normalizeCapability_idem m capability, (hok rfl).1⟩, h.normal⟩
  · -- The new ticket is the only new entry of the slots in use.
    exact h.ledger.acquire _ (hok rfl).2 (by simp only [slots, hpending]; exact .refl _)

variable {holder : SlotHolder}

omit h in
theorem holderSlots_erase (hmem : holder ∈ s.holders) : (holderSlots m s.holders).Perm
    ((holder.ticket, normalizeCapability m holder.capability) ::
      holderSlots m (s.holders.erase holder)) :=
  (List.perm_cons_erase hmem).map _

theorem Inv.release_holder (hs : step m s (.release holder) = some s') :
    Inv m s' := by
  simp only [step] at hs
  split at hs
  · rename_i hmem
    obtain rfl := Option.some.inj hs
    have hperm := holderSlots_erase (m := m) hmem
    have hpending : (s.session.releaseCapability m holder.capability).pending =
        s.session.pending := ActiveSession.releaseCapability_pending holder.capability
    apply h.release (p := (holder.ticket, normalizeCapability m holder.capability))
    · simp only [slots, hpending]
      exact hperm.append_right _
    · -- A dispatch knows the capability under its raw name.
      unfold ActiveSession.releaseCapability
      rw [normalizeCapability_idem]
    · simp only [openCommands, hpending]
      exact List.Perm.refl _
    · rfl
    · rfl
  · exact nomatch hs

omit h in
/-- Registering a command under a new id leaves the tickets of the others alone. -/
theorem ticketOf_insert (tickets : GoMap String Nat) {k k' : String} (hne : k' ≠ k) (t : Nat) :
    ticketOf (tickets.insert k t) k' = ticketOf tickets k' := by
  unfold ticketOf
  rw [lookup_insert_ite, if_neg hne]

omit h in
theorem ticketOf_insert_self (tickets : GoMap String Nat) (k : String) (t : Nat) :
    ticketOf (tickets.insert k t) k = t := by
  unfold ticketOf
  rw [lookup_insert]
  rfl

variable {k : String}

/-- A new command joins the pending ones with its ticket. -/
theorem Inv.pendingSlots_insert (hfresh : s.channels.lookup k = none) (t : Nat) (c : String) :
    pendingSlots (s.tickets.insert k t) (s.session.pending.insert k ⟨c⟩) =
      (t, c) :: pendingSlots s.tickets s.session.pending := by
  have hnotMem : k ∉ s.session.pending := fun hk =>
    h.ne_of_fresh hfresh (List.mem_append_left _ hk) rfl
  unfold pendingSlots
  rw [entries_insert_of_notMem hnotMem, List.map_cons, ticketOf_insert_self]
  congr 1
  apply List.map_congr_left
  intro e he
  have hmem : e.1 ∈ s.openCommands := List.mem_append_left _ (List.mem_map_of_mem he)
  rw [ticketOf_insert _ (h.ne_of_fresh hfresh hmem)]

/-- A new command has nothing to do with those just removed. -/
theorem Inv.removalSlots_insert (hfresh : s.channels.lookup k = none) (t : Nat) :
    removalSlots (s.tickets.insert k t) s.removals =
      removalSlots s.tickets s.removals := by
  apply List.map_congr_left
  intro r hr
  have hmem : r.commandID ∈ s.openCommands :=
    List.mem_append_right _ (List.mem_append_left _ (List.mem_map_of_mem hr))
  rw [ticketOf_insert _ (h.ne_of_fresh hfresh hmem)]

/-- Registering under a new id moves the slot of the dispatch to the new command. -/
theorem Inv.registered (hmem : holder ∈ s.holders) (hfresh : s.channels.lookup k = none) :
    Inv m { s with
      session := { s.session with
        pending := s.session.pending.insert k ⟨normalizeCapability m holder.capability⟩ }
      holders := s.holders.erase holder
      channels := s.channels.insert k {}
      tickets := s.tickets.insert k holder.ticket } := by
  have hnew : k ∉ s.session.pending.keys := fun hk =>
    h.ne_of_fresh hfresh (List.mem_append_left _ hk) rfl
  have hchannels : (s.channels.insert k {}).keys = k :: s.channels.keys := by
    rw [keys_insert, List.erase_of_not_mem (not_mem_keys_of_lookup hfresh)]
  have hpending : (s.session.pending.insert k
      ⟨normalizeCapability m holder.capability⟩).keys = k :: s.session.pending.keys := by
    rw [keys_insert, List.erase_of_not_mem hnew]
  have hperm := holderSlots_erase (m := m) hmem
  have hslots : (holderSlots m (s.holders.erase holder) ++
      (pendingSlots (s.tickets.insert k holder.ticket)
          (s.session.pending.insert k ⟨normalizeCapability m holder.capability⟩) ++
        removalSlots (s.tickets.insert k holder.ticket) s.removals)).Perm (slots m s) := by
    rw [h.pendingSlots_insert hfresh, h.removalSlots_insert hfresh]
    exact List.perm_middle.trans (hperm.symm.append_right _)
  constructor
  · exact h.limits
  · intro p hp
    exact h.normal p (hslots.mem_iff.mp hp)
  · exact h.ledger.move rfl hslots
  · simp only [openCommands, hpending, hchannels]
    exact h.commands.cons k
  · simp only [openCommands, hpending]
    intro k' hk'
    rw [lookup_insert_ite]
    split
    · rfl
    · rename_i hne
      exact h.channel_open k' ((List.mem_cons.mp hk').resolve_left hne)
  · intro k' hk'
    obtain ⟨ch, hch, hclosed⟩ := h.channel_closed k' hk'
    have hne : k' ≠ k := by
      intro heq
      rw [heq, hfresh] at hch
      nomatch hch
    have hch' : (s.channels.insert k {}).lookup k' = some ch := by
      rw [lookup_insert_ite, if_neg hne, hch]
    exact ⟨ch, hch', hclosed⟩

theorem Inv.register {commandID : String} (hs : step m s (.register holder commandID) = some s') :
    Inv m s' := by
  simp only [step] at hs
  split at hs
  · rename_i hcond
    obtain ⟨hmem, hfresh⟩ := hcond
    cases hreg : s.session.registerPending m commandID holder.capability with
    | error err =>
      -- The dispatch keeps its slot, and releases it next.
      rw [hreg] at hs
      cases hs
      exact h
    | ok session =>
      rw [hreg] at hs
      cases hs
      obtain rfl := ActiveSession.registerPending_eq_ok hreg
      exact h.registered hmem hfresh
  · nomatch hs

/-- Taking a command out of the pending map moves its slot to the removed ones. -/
theorem Inv.take (commandID : String) (outcome : Option CommandOutcome) :
    Inv m (s.take commandID outcome) := by
  unfold SessionSystem.take
  split
  · exact h
  · rename_i session pending heq
    obtain ⟨hlookup, rfl⟩ := ActiveSession.takePending_eq_some heq
    have hslots : (pendingSlots s.tickets s.session.pending).Perm
        ((ticketOf s.tickets (trimSpace commandID), pending.capability) ::
          pendingSlots s.tickets (s.session.pending.erase (trimSpace commandID))) :=
      (entries_perm_erase hlookup).map _
    apply h.move
    · rfl
    · apply List.Perm.append_left
      exact List.perm_middle.trans (hslots.symm.append_right _)
    · have hkeys := List.perm_cons_erase (mem_keys_of_lookup hlookup)
      rw [← keys_erase] at hkeys
      exact List.perm_middle.trans (hkeys.symm.append_right _)
    · rfl
    · rfl

theorem Inv.releaseRemoval {removal : Removal} (hs : step m s (.releaseRemoval removal) = some s') :
    Inv m s' := by
  simp only [step] at hs
  split at hs
  · rename_i hmem
    obtain rfl := Option.some.inj hs
    have hperm : (removalSlots s.tickets s.removals).Perm
        ((ticketOf s.tickets removal.commandID, removal.capability) ::
          removalSlots s.tickets (s.removals.erase removal)) :=
      (List.perm_cons_erase hmem).map _
    have hpending : (s.session.releaseCapability m removal.capability).pending =
        s.session.pending := ActiveSession.releaseCapability_pending removal.capability
    apply h.release (p := (ticketOf s.tickets removal.commandID, removal.capability))
    · simp only [slots, hpending]
      rw [← List.append_assoc, ← List.append_assoc]
      exact (hperm.append_left _).trans List.perm_middle
    · dsimp only
    · -- The command goes from the removed ones to those about to be closed.
      simp only [openCommands, hpending, List.map_cons]
      apply List.Perm.append_left
      have hids := (List.perm_cons_erase hmem).map Removal.commandID
      exact List.perm_middle.trans (hids.symm.append_right _)
    · rfl
    · rfl
  · exact nomatch hs

omit h in
/-- `closeResult` on a channel that was not closed closes it. -/
theorem closeResult_fresh (outcome : Option CommandOutcome) :
    (({} : ResultChannel).closeResult outcome).closes = 1 ∧
    (({} : ResultChannel).closeResult outcome).sent.length ≤ 1 := by
  cases outcome with
  | none => exact ⟨rfl, Nat.zero_le 1⟩
  | some o => exact ⟨rfl, Nat.le_refl 1⟩

theorem Inv.closeResult {closing : String × Option CommandOutcome}
    (hs : step m s (.closeResult closing) = some s') : Inv m s' := by
  simp only [step] at hs
  split at hs
  · rename_i hmem
    cases hs
    have hperm := (List.perm_cons_erase hmem).map Prod.fst
    have hopen : s.openCommands.Perm (closing.1 ::
        (s.session.pending.keys ++ (s.removals.map Removal.commandID ++
          (s.closings.erase closing).map Prod.fst))) := by
      unfold openCommands
      rw [← List.append_assoc, ← List.append_assoc]
      exact (hperm.append_left _).trans List.perm_middle
    have hchannel : s.channels.lookup closing.1 = some {} :=
      h.channel_open _ (hopen.mem_iff.mpr List.mem_cons_self)
    -- No other command in flight or closed has this id.
    have hnodup := ((hopen.append_right s.closed).nodup_iff).mp h.nodup
    rw [List.cons_append, List.nodup_cons] at hnodup
    have hother : ∀ k, k ∈ s.session.pending.keys ++ (s.removals.map Removal.commandID ++
        (s.closings.erase closing).map Prod.fst) ++ s.closed → k ≠ closing.1 := by
      intro k hk heq
      exact hnodup.1 (heq ▸ hk)
    rw [hchannel, Option.getD_some]
    constructor
    · exact h.limits
    · exact h.normal
    · exact h.ledger
    · have hkeys : (s.channels.insert closing.1
          (({} : ResultChannel).closeResult closing.2)).keys.Perm s.channels.keys := by
        rw [keys_insert]
        exact (List.perm_cons_erase (mem_keys_of_lookup hchannel)).symm
      exact (List.perm_middle.trans (hopen.symm.append_right s.closed)).trans
        (h.commands.trans hkeys.symm)
    · intro k hk
      rw [lookup_insert_ite, if_neg (hother k (List.mem_append_left _ hk))]
      exact h.channel_open k (hopen.mem_iff.mpr (List.mem_cons_of_mem _ hk))
    · intro k hk
      rcases List.mem_cons.mp hk with rfl | hk
      · exact ⟨_, lookup_insert _, closeResult_fresh closing.2⟩
      · rw [lookup_insert_ite, if_neg (hother k (List.mem_append_right _ hk))]
        exact h.channel_closed k hk
  · nomatch hs

theorem Inv.close (err : Option String) :
    Inv m { s with session := s.session.closeDone err } := by
  unfold ActiveSession.closeDone
  split
  · exact h
  · exact h.move rfl (List.Perm.refl _) (List.Perm.refl _) rfl rfl

/-- `close` takes all pending commands at once. -/
theorem Inv.closeSwap (hs : step m s .closeSwap = some s') : Inv m s' := by
  simp only [step, ActiveSession.closeSwap] at hs
  split at hs
  · cases hs
    apply h.move
    · rfl
    · simp only [slots, removalSlots, pendingSlots, List.map_append, List.map_map]
      exact List.Perm.refl _
    · simp only [openCommands, List.map_append, List.map_map, List.append_assoc]
      exact List.Perm.refl _
    · rfl
    · rfl
  · nomatch hs

/-- Every atomic action keeps slots and commands accounted for. -/
theorem Inv.step (a : SessionAction) (hs : step m s a = some s') : Inv m s' := by
  cases a with
  | acquire capability => exact h.acquire capability hs
  | release holder => exact h.release_holder hs
  | register holder commandID => exact h.register hs
  | unregister commandID =>
    obtain rfl := Option.some.inj hs
    exact h.take commandID none
  | resolve result =>
    obtain rfl := Option.some.inj hs
    exact h.take result.commandID (some result.outcome)
  | releaseRemoval removal => exact h.releaseRemoval hs
  | closeResult closing => exact h.closeResult hs
  | close err =>
    obtain rfl := Option.some.inj hs
    exact h.close err
  | closeSwap => exact h.closeSwap hs

end

/-! ## Whole runs -/

/-- Capabilities start with a positive limit and nothing in flight. -/
theorem capabilitiesFromHello_spec (m : CaseMap) (declared : List (Option DeclaredCapability)) :
    ∀ c state, (capabilitiesFromHello m declared).lookup c = some state →
      0 < state.maxInflight ∧ state.inflight = 0 := by
  unfold capabilitiesFromHello
  apply List.foldl_invariant (P := fun capabilitySet : GoMap String SessionCapability =>
    ∀ c state, capabilitySet.lookup c = some state → 0 < state.maxInflight ∧ state.inflight = 0)
  · intro c state hstate
    rw [lookup_empty] at hstate
    nomatch hstate
  · intro capabilitySet capability _ ih
    split
    · exact ih
    · dsimp only
      split
      · exact ih
      · intro c state hstate
        rcases lookup_insert_cases hstate with ⟨-, rfl⟩ | ⟨-, hstate⟩
        · -- A declared limit that is not positive is replaced by the default.
          refine ⟨?_, rfl⟩
          dsimp only
          split
          · decide
          · omega
        · exact ih c state hstate

theorem Inv.init (m : CaseMap) (nodeID : String) (declared : List (Option DeclaredCapability)) :
    Inv m { session := ActiveSession.new m nodeID declared } := by
  have hcaps := capabilitiesFromHello_spec m declared
  constructor
  · intro c state hstate
    obtain ⟨hmax, hzero⟩ := hcaps c state hstate
    exact ⟨hmax, by omega⟩
  · intro p hp
    nomatch hp
  · apply Ledger.init
    intro c
    unfold ActiveSession.inflight
    split
    · rfl
    · rename_i state hstate
      exact (hcaps c state hstate).2
  · exact List.Perm.refl _
  · intro k hk
    nomatch hk
  · intro k hk
    nomatch hk

theorem Inv.of_reachable (h : (machine m).Reachable s) : Inv m s :=
  h.invariant (fun s hinit => by
      obtain ⟨nodeID, declared, rfl⟩ := hinit
      exact Inv.init m nodeID declared)
    (fun _ a _ _ ih _ hs => ih.step a hs)

/-- The capabilities of the pending commands, of the slots held by dispatches, and of
    the commands removed whose slot is not released. -/
def pendingCapabilities (s : SessionSystem) : List String :=
  s.session.pending.entries.map fun e => e.2.capability

@[inherit_doc pendingCapabilities]
def heldCapabilities (m : CaseMap) (s : SessionSystem) : List String :=
  s.holders.map fun h => normalizeCapability m h.capability

@[inherit_doc pendingCapabilities]
def removedCapabilities (s : SessionSystem) : List String := s.removals.map Removal.capability

theorem count_slots (s : SessionSystem) (c : String) :
    ((slots m s).map Prod.snd).count c =
      s.pendingCapabilities.count c + (s.heldCapabilities m).count c +
        s.removedCapabilities.count c := by
  have hslots : (slots m s).map Prod.snd =
      s.heldCapabilities m ++ (s.pendingCapabilities ++ s.removedCapabilities) := by
    simp only [slots, holderSlots, pendingSlots, removalSlots, List.map_append, List.map_map]
    rfl
  rw [hslots, List.count_append, List.count_append]
  omega

/-- A registered command is in flight with an open channel, or its channel was closed
    once with at most one outcome. -/
theorem Inv.channel (h : Inv m s) {ch : ResultChannel} (hch : s.channels.lookup k = some ch) :
    ch.sent.length ≤ 1 ∧ ch.closes + s.openCommands.count k = 1 := by
  have hmem : k ∈ s.openCommands ++ s.closed :=
    h.commands.mem_iff.mpr (mem_keys_of_lookup hch)
  have hcount : s.openCommands.count k + s.closed.count k = 1 := by
    rw [← List.count_append]
    exact List.count_eq_one_of_mem h.nodup hmem
  rcases List.mem_append.mp hmem with hopen | hclosed
  · have hfresh := h.channel_open k hopen
    rw [hch] at hfresh
    cases hfresh
    have hpos := List.count_pos_iff.mpr hopen
    constructor
    · exact Nat.zero_le 1
    · show 0 + s.openCommands.count k = 1
      omega
  · obtain ⟨ch', hch', hcloses, hsent⟩ := h.channel_closed k hclosed
    rw [hch] at hch'
    cases hch'
    have hpos := List.count_pos_iff.mpr hclosed
    exact ⟨hsent, by omega⟩

end SessionSystem

open SessionSystem in
/-- In every state of a connection, whatever its goroutines do and in whichever order:
    the slots in flight respect the limits and are those of pending commands, of
    dispatches about to register or release, and of removed commands whose release has
    not run; every acquired slot is in one of these places or was released, once; every
    registered command got at most one outcome and its channel is open, with the command
    in flight once, or was closed once. When nothing is in flight, every slot was
    released once and every channel closed once. -/
theorem slots_and_commands_conserved (m : CaseMap) (s : SessionSystem)
    (h : (SessionSystem.machine m).Reachable s) :
    (∀ c state, s.session.capabilities.lookup c = some state →
      0 ≤ state.inflight ∧ state.inflight ≤ state.maxInflight) ∧
    (∀ c, s.session.inflight c =
      s.pendingCapabilities.count c + (s.heldCapabilities m).count c +
        s.removedCapabilities.count c) ∧
    (∀ t < s.issued, ((slots m s).map Prod.fst).count t + s.released.count t = 1) ∧
    (∀ k ch, s.channels.lookup k = some ch →
      ch.sent.length ≤ 1 ∧ ch.closes + s.openCommands.count k = 1) ∧
    (slots m s = [] → s.openCommands = [] →
      (∀ t < s.issued, s.released.count t = 1) ∧
      ∀ k ch, s.channels.lookup k = some ch → ch.closes = 1) := by
  have hinv := Inv.of_reachable h
  have htickets : ∀ t < s.issued, ((slots m s).map Prod.fst).count t + s.released.count t = 1 :=
    fun t ht => hinv.ledger.count_eq_one ht
  have hcount : ∀ c, s.session.inflight c =
      s.pendingCapabilities.count c + (s.heldCapabilities m).count c +
        s.removedCapabilities.count c := by
    intro c
    rw [hinv.ledger.level_eq, count_slots]
    push_cast
    rfl
  refine ⟨fun c state hstate => ⟨?_, (hinv.limits c state hstate).2⟩, hcount, htickets,
    fun k ch hch => hinv.channel hch, fun hslots hopen => ⟨fun t ht => ?_, fun k ch hch => ?_⟩⟩
  · have hin := ActiveSession.inflight_of_lookup hstate
    have := hcount c
    omega
  · have hone := htickets t ht
    rw [hslots] at hone
    simpa using hone
  · have hone := (hinv.channel hch).2
    rw [hopen] at hone
    simpa using hone

/-- One command resolved and closed, one pending and one slot held. -/
theorem slots_and_commands_conserved_three_slots :
    ∃ s : SessionSystem, (SessionSystem.machine ⟨id, fun _ => rfl, fun _ _ => rfl⟩).Reachable s ∧
      s.issued = 3 ∧ s.closed = ["a"] ∧ s.session.inflight "echo" = 2 ∧
      ∀ t < s.issued, ((SessionSystem.slots ⟨id, fun _ => rfl, fun _ _ => rfl⟩ s).map Prod.fst).count t +
        s.released.count t = 1 := by
  have hinit : (SessionSystem.machine ⟨id, fun _ => rfl, fun _ _ => rfl⟩).Reachable
      { session := ActiveSession.new ⟨id, fun _ => rfl, fun _ _ => rfl⟩ "n" [some ⟨"echo", 4⟩] } :=
    .init ⟨"n", [some ⟨"echo", 4⟩], rfl⟩
  have hrun := Machine.reachable_run
    [.acquire "echo", .acquire "echo", .register ⟨0, "echo"⟩ "a", .acquire "echo",
      .register ⟨1, "echo"⟩ "b", .resolve { commandID := "a", payloadJSON := "{}" },
      .resolve { commandID := "a", payloadJSON := "{}" },
      .releaseRemoval ⟨"a", "echo", some { payloadJSON := "{}" }⟩,
      .closeResult ("a", some { payloadJSON := "{}" })] hinit rfl
  exact ⟨_, hrun, rfl, rfl, rfl, (slots_and_commands_conserved _ _ hrun).2.2.1⟩

end Onlyboxes.Console
