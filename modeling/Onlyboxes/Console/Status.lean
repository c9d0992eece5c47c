/-!
# gRPC status errors

The status codes the console answers with, and the error value built by
`status.Error(code, message)`.
-/

namespace Onlyboxes.Console

/-- The `codes.Code` values the console uses. -/
inductive Code where
  | invalidArgument
  | deadlineExceeded
  | notFound
  | permissionDenied
  | unauthenticated
  | failedPrecondition
  | internal
  | unavailable
  deriving DecidableEq, Repr

/-- `status.Error(code, message)`. -/
structure StatusError where
  code : Code
  message : String
  deriving DecidableEq, Repr

end Onlyboxes.Console
