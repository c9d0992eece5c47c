import Onlyboxes.ForStd.GoMap
import Onlyboxes.ForStd.Text
import Onlyboxes.Console.Status

/-!
# Owner scoping of terminal session ids

The string layer of `task_owner_scope.go`: an account sees external session ids,
the console and its workers see `obx:<owner>:<external id>`. Of the headers for an upload
only some are passed on.
-/

namespace Onlyboxes.Console

open Text

def taskOwnerScopePrefix : String := "obx"
def taskOwnerScopeSeparator : String := ":"

/-- `taskOwnerScopeSeparator` as the character `strings.SplitN` cuts at. -/
def taskOwnerScopeSeparatorChar : Char := ':'

def normalizeTaskOwnerID (ownerID : String) : String := trimSpace ownerID

/-- What every scoped id of an owner begins with. -/
def ownerScope (ownerID : String) : String :=
  taskOwnerScopePrefix ++ taskOwnerScopeSeparator ++ ownerID ++ taskOwnerScopeSeparator

/-- The internal id of an account's session. Without an owner the id stays as it is. -/
def scopeTerminalSessionID (ownerID externalSessionID : String) : String :=
  let normalizedOwnerID := normalizeTaskOwnerID ownerID
  let normalizedSessionID := trimSpace externalSessionID
  if normalizedOwnerID = "" ∨ normalizedSessionID = "" then normalizedSessionID
  else ownerScope normalizedOwnerID ++ normalizedSessionID

/-- `[A-Za-z0-9]`. -/
def isSessionIDStart (c : Char) : Bool := c.isAlphanum

/-- `[A-Za-z0-9._:-]`. -/
def isSessionIDChar (c : Char) : Bool :=
  c.isAlphanum || c == '.' || c == '_' || c == ':' || c == '-'

/-- `externalTerminalSessionIDPattern`: one start character and at most 255 more. -/
def matchesExternalTerminalSessionID (sessionID : String) : Bool :=
  match sessionID.toList with
  | [] => false
  | c :: cs => isSessionIDStart c && cs.all isSessionIDChar && cs.length ≤ 255

def validateExternalTerminalSessionID (sessionID : String) : Except StatusError Unit :=
  if matchesExternalTerminalSessionID sessionID then .ok ()
  else .error ⟨.invalidArgument,
    "session_id must contain only letters, numbers, '.', '_', ':', or '-'"⟩

/-- Split a scoped id into owner and external id. -/
def parseScopedTerminalSessionID (scopedSessionID : String) : Option (String × String) :=
  match splitN (trimSpace scopedSessionID) taskOwnerScopeSeparatorChar 3 with
  | [scope, owner, session] =>
    let ownerID := trimSpace owner
    let sessionID := trimSpace session
    if scope ≠ taskOwnerScopePrefix ∨ ownerID = "" ∨ sessionID = "" then none
    else some (ownerID, sessionID)
  | _ => none

/-- `isValidPersistedTerminalSessionID`: what `RestoreTerminalSessionRoutes` accepts. -/
def isValidPersistedTerminalSessionID (sessionID : String) : Bool :=
  match splitN (trimSpace sessionID) taskOwnerScopeSeparatorChar 3 with
  | [scope, owner, session] =>
    scope == taskOwnerScopePrefix && trimSpace owner != "" && trimSpace session != ""
  | _ => false

def isAllowedTerminalResourceUploadHeader (name : String) : Bool :=
  hasPrefix name "x-amz-" || name = "content-type" || name = "content-md5"

def canonicalTerminalResourceUploadHeaderName (name : String) : String :=
  if name = "content-type" then "Content-Type"
  else if name = "content-md5" then "Content-MD5"
  else name

/-- A pass over the headers in the order of their entries. A nil map is an empty one. -/
def filterTerminalResourceUploadHeaders (m : CaseMap) (headers : GoMap String String) :
    GoMap String String :=
  headers.entries.foldl (fun filtered ⟨name, value⟩ =>
    let normalizedName := m.toLower (trimSpace name)
    if normalizedName = "" then filtered
    else if !isAllowedTerminalResourceUploadHeader normalizedName then filtered
    else filtered.insert (canonicalTerminalResourceUploadHeaderName normalizedName) value) ∅

end Onlyboxes.Console
