import Onlyboxes.ForStd.GoMap
import Onlyboxes.ForStd.Text

/-!
# The tools of the MCP server

`NewMCPHandler` (`mcp_handler.go`): the names under which the tools are registered, which
the configuration may override, and the filter of `tools/list`. The server is a library's;
it lists the tools that were added to it, in an order of its own.
-/

namespace Onlyboxes.Console

open Text

/-- A tool of the server, by its capability and its name. -/
structure McpTool where
  capabilityID : String
  name : String

def mcpToolNamePattern (name : String) : Bool :=
  name.toList.all (fun c => c.isAlphanum || c == '_' || c == '-') && 1 ≤ name.length && name.length ≤ 64

def applyToolNameOverride (defaultValue : String) : Option String → String
  | none => defaultValue
  | some override =>
    if override = "" then defaultValue
    else if !mcpToolNamePattern override then defaultValue
    else override

/-- `builtinDefaultNames`, where every tool has the name of its capability. -/
def builtinDefaultNames : List String :=
  ["echo", "pythonExec", "terminalExec", "computerUse", "readImage", "exportFile"]

/-- `nameToCapabilityID`. -/
abbrev McpNames := GoMap String String

/-- The name has another owner. -/
def McpNames.taken (names : McpNames) (capabilityID name : String) : Bool :=
  (names.lookup name).any (· ≠ capabilityID)

/-- `resolveExposedName`; the error is its panic. -/
def resolveExposedName (names : McpNames) (capabilityID defaultName : String) (override : Option String) :
    Except String (String × McpNames) :=
  let final := applyToolNameOverride defaultName override
  let final :=
    if final ≠ defaultName ∧ (final ∈ builtinDefaultNames ∧ final ≠ capabilityID ∨
        names.taken capabilityID final) then defaultName
    else final
  if names.taken capabilityID final then
    .error ("onlyboxes: duplicate MCP tool name " ++ final ++ " for capability " ++ capabilityID)
  else .ok (final, names.insert final capabilityID)

/-- One tool is added to the server. -/
def addTool (overrides : String → Option String) (server : List McpTool × McpNames) (capabilityID : String) :
    Except String (List McpTool × McpNames) := do
  let (name, names) ← resolveExposedName server.2 capabilityID capabilityID (overrides capabilityID)
  return (server.1 ++ [⟨capabilityID, name⟩], names)

/-- The tools there are; files are exported only with a store and a prefix. -/
def mcpCapabilities (exportStore : Bool) (exportPrefix : String) : List String :=
  ["echo", "pythonExec", "terminalExec", "computerUse", "readImage"] ++
    if exportStore ∧ trimSpace exportPrefix ≠ "" then ["exportFile"] else []

/-- `NewMCPHandler`: the server's tools and their names. -/
def newMCPHandler (overrides : String → Option String) (exportStore : Bool) (exportPrefix : String) :
    Except String (List McpTool × McpNames) :=
  (mcpCapabilities exportStore exportPrefix).foldlM (addTool overrides) ([], ∅)

def isCapabilityHidden (hiddenTools : GoMap String Bool) (capability : String) : Bool :=
  let key := trimSpace capability.toLower
  if key = "" then false else (hiddenTools.lookup key).getD false

/-- What `tools/list` answers when the server lists `tools`. -/
def listTools (names : McpNames) (hiddenTools : GoMap String Bool) (tools : List McpTool) : List McpTool :=
  if hiddenTools.entries.length > 0 then
    tools.filter fun tool => !isCapabilityHidden hiddenTools ((names.lookup tool.name).getD tool.name)
  else tools

end Onlyboxes.Console
