import Onlyboxes.Console.McpTools

/-!
# Renaming the tools of the MCP server

Names are resolved one tool after the other, and each resolution depends on those before.
What is kept is that the map of names is exactly the list of tools, and that no tool has
the default name of another one; so a default name is free when its tool comes.

## Key results

- `McpRegistered.addTool`: one registration succeeds and keeps this
- `mcp_renaming_safe`: all tools are registered, under names of their own
-/

namespace Onlyboxes.Console

variable {overrides : String → Option String} {capabilities : List String} {server : List McpTool × McpNames}

/-- The name of a tool is its own or a valid override, and not another tool's own one. -/
def McpTool.Named (overrides : String → Option String) (tool : McpTool) : Prop :=
  (tool.name = tool.capabilityID ∨
    overrides tool.capabilityID = some tool.name ∧ mcpToolNamePattern tool.name = true) ∧
  ∀ c ∈ builtinDefaultNames, tool.name = c → c = tool.capabilityID

theorem applyToolNameOverride_cases (defaultValue : String) (override : Option String) :
    applyToolNameOverride defaultValue override = defaultValue ∨
      override = some (applyToolNameOverride defaultValue override) ∧
        mcpToolNamePattern (applyToolNameOverride defaultValue override) = true := by
  fun_cases applyToolNameOverride with
  | case4 override _ hvalid => exact .inr ⟨rfl, by simpa using hvalid⟩
  | _ => exact .inl rfl

/-- A tool whose own name is free gets a name, and a free one. -/
theorem resolveExposedName_eq_ok (overrides : String → Option String) {names : McpNames} {c : String}
    (hown : names.lookup c = none) (hnew : ∀ name, names.lookup name ≠ some c) :
    ∃ name, resolveExposedName names c c (overrides c) = .ok (name, names.insert name c) ∧
      names.lookup name = none ∧ McpTool.Named overrides ⟨c, name⟩ := by
  have hfree : ∀ name, names.taken c name = false → names.lookup name = none := by
    intro name htaken
    cases hlookup : names.lookup name with
    | none => rfl
    | some owner =>
      rw [McpNames.taken, hlookup, Option.any_some, decide_eq_false_iff_not, not_not] at htaken
      exact absurd (htaken ▸ hlookup) (hnew name)
  have hdefault : ¬ names.taken c c = true := by simp [McpNames.taken, hown]
  have hcases := applyToolNameOverride_cases c (overrides c)
  unfold resolveExposedName
  generalize applyToolNameOverride c (overrides c) = final at hcases ⊢
  dsimp only
  split_ifs with hfall htaken
  · exact ⟨c, rfl, hown, .inl rfl, fun _ _ => Eq.symm⟩
  · exact absurd ⟨by rintro rfl; exact hdefault htaken, .inr htaken⟩ hfall
  · refine ⟨final, rfl, hfree final (eq_false_of_ne_true htaken), hcases, ?_⟩
    rintro _ hbuiltin rfl
    exact by_contra fun hne => hfall ⟨hne, .inl ⟨hbuiltin, hne⟩⟩

/-- What registration keeps: the tools so far, each with a name that is the key of its entry. -/
structure McpRegistered (overrides : String → Option String) (capabilities : List String)
    (server : List McpTool × McpNames) : Prop where
  capabilities_eq : server.1.map (·.capabilityID) = capabilities
  lookup_iff : ∀ name c, server.2.lookup name = some c ↔ ⟨c, name⟩ ∈ server.1
  named : ∀ tool ∈ server.1, tool.Named overrides

/-- A tool is added after others. -/
theorem McpRegistered.addTool (h : McpRegistered overrides capabilities server) {c : String}
    (hc : c ∈ builtinDefaultNames) (hnew : c ∉ capabilities) :
    ∃ server', addTool overrides server c = .ok server' ∧ McpRegistered overrides (capabilities ++ [c]) server' := by
  have hother : ∀ name, ⟨c, name⟩ ∉ server.1 := fun name htool =>
    hnew (h.capabilities_eq ▸ List.mem_map_of_mem htool)
  obtain ⟨name, hresolve, hfree, hnamed⟩ := resolveExposedName_eq_ok overrides
    (Option.eq_none_iff_forall_ne_some.mpr fun owner hlookup => by
      have htool := (h.lookup_iff c owner).mp hlookup
      obtain rfl : c = owner := (h.named _ htool).2 c hc rfl
      exact hother _ htool)
    fun name hlookup => hother name ((h.lookup_iff name c).mp hlookup)
  refine ⟨(server.1 ++ [⟨c, name⟩], server.2.insert name c), by rw [Console.addTool, hresolve]; rfl, ?_, ?_, ?_⟩
  · rw [List.map_append, h.capabilities_eq]
    rfl
  · intro name' owner
    rw [AList.lookup_insert_ite, List.mem_append, List.mem_singleton, McpTool.mk.injEq, ← h.lookup_iff]
    split
    · rename_i heq
      subst heq
      simp [hfree, eq_comm]
    · rename_i hne
      simp [hne]
  · exact List.forall_mem_append.mpr ⟨h.named, List.forall_mem_singleton.mpr hnamed⟩

theorem McpRegistered.addTools (pending : List String) (h : McpRegistered overrides capabilities server)
    (hpending : ∀ c ∈ pending, c ∈ builtinDefaultNames) (hnodup : (capabilities ++ pending).Nodup) :
    ∃ server', pending.foldlM (Console.addTool overrides) server = .ok server' ∧
      McpRegistered overrides (capabilities ++ pending) server' := by
  induction pending generalizing capabilities server with
  | nil => exact ⟨server, rfl, (List.append_nil capabilities).symm ▸ h⟩
  | cons c pending ih =>
    obtain ⟨server₁, hadd, h₁⟩ := h.addTool (hpending c List.mem_cons_self) fun hmem =>
      (List.nodup_append.mp hnodup).2.2 c hmem c List.mem_cons_self rfl
    rw [List.append_cons] at hnodup ⊢
    rw [List.foldlM_cons, hadd]
    exact ih h₁ (fun c hc => hpending c (List.mem_cons_of_mem _ hc)) hnodup

/-- No two tools have one name. -/
theorem McpRegistered.names_nodup (h : McpRegistered overrides capabilities server) (hnodup : capabilities.Nodup) :
    (server.1.map (·.name)).Nodup := by
  refine List.Nodup.map_on ?_ (.of_map _ (h.capabilities_eq ▸ hnodup))
  rintro ⟨c, name⟩ htool ⟨c', _⟩ htool' rfl
  obtain rfl : c = c' :=
    Option.mem_unique ((h.lookup_iff name c).mpr htool) ((h.lookup_iff name c').mpr htool')
  rfl

/-- However the tools are renamed, all are registered, each under its own name or a valid
    override and no two under one, and `tools/list` answers with those that are not hidden. -/
theorem mcp_renaming_safe (overrides : String → Option String) (exportStore : Bool) (exportPrefix : String) :
    ∃ tools names, newMCPHandler overrides exportStore exportPrefix = .ok (tools, names) ∧
      tools.map (·.capabilityID) = mcpCapabilities exportStore exportPrefix ∧ (tools.map (·.name)).Nodup ∧
      (∀ tool ∈ tools, tool.Named overrides) ∧
      ∀ hiddenTools listed, listed.Perm tools → (listTools names hiddenTools listed).Perm
        (tools.filter fun tool => !isCapabilityHidden hiddenTools tool.capabilityID) := by
  have hnodup : (mcpCapabilities exportStore exportPrefix).Nodup := by unfold mcpCapabilities; split <;> decide
  have hstart : McpRegistered overrides [] ([], ∅) := ⟨rfl, fun _ _ => iff_of_false nofun nofun, nofun⟩
  obtain ⟨⟨tools, names⟩, hok, h⟩ := hstart.addTools (mcpCapabilities exportStore exportPrefix)
    (by unfold mcpCapabilities; split <;> decide) hnodup
  refine ⟨tools, names, hok, h.capabilities_eq, h.names_nodup hnodup, h.named, fun hiddenTools listed hperm => ?_⟩
  refine .trans (.of_eq ?_) (hperm.filter _)
  unfold listTools
  split
  · refine List.filter_congr fun tool htool => ?_
    rw [(h.lookup_iff tool.name tool.capabilityID).mpr (hperm.mem_iff.mp htool)]
    rfl
  · rename_i hempty
    have hnone : ∀ key, hiddenTools.lookup key = none := fun key => by
      rw [AList.lookup, List.eq_nil_of_length_eq_zero (Nat.eq_zero_of_not_pos hempty)]
      rfl
    simp [isCapabilityHidden, hnone]

end Onlyboxes.Console
