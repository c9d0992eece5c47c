import Onlyboxes.ForStd.Text

/-!
# Commands that workers run

How a worker runs a command: what `os/exec` reports about a child process whose context
may end while it runs, and what the Docker worker (`runDockerCommandCLI`,
`python_runtime.go`) and `worker-sys` (`computer_use.go`) make of it. The output of a
command is any sequence of bytes.
-/

namespace Onlyboxes.Worker

open Text

/-- A Go string that need not be valid UTF-8. -/
abbrev Bytes := List UInt8

/-- The errors of a context that is over. -/
inductive ContextError where
  | deadlineExceeded
  | canceled
  deriving DecidableEq, Repr

/-- How a process ended. -/
inductive ProcessExit where
  | exited (code : Nat)
  /-- A signal killed it. -/
  | signaled
  deriving DecidableEq, Repr

namespace ProcessExit

def exitCode : ProcessExit → Int
  | exited code => code
  | signaled => -1

def success (e : ProcessExit) : Bool := e = exited 0

end ProcessExit

/-- The errors of `Cmd.Run`. -/
inductive RunError where
  | context (err : ContextError)
  /-- `*exec.ExitError`. -/
  | exit (e : ProcessExit)
  /-- `exec.ErrWaitDelay`. -/
  | waitDelay
  | other (message : String)
  deriving DecidableEq, Repr

/-- A command that was run: its output and the error of `Cmd.Run`. -/
structure CommandRun where
  stdout : Bytes := []
  stderr : Bytes := []
  err : Option RunError := none
  deriving DecidableEq, Repr

/-- The error of `Cmd.Wait`, by the error of the context if it ended while the process
    ran, by how the process ended, and by whether something kept its pipes open: an exit
    that is no success comes first. -/
def waitError (ctxErr : Option ContextError) (e : ProcessExit) (pipesOpen : Bool) : Option RunError :=
  if e.success then
    match ctxErr with
    | some err => some (.context err)
    | none => if pipesOpen then some .waitDelay else none
  else some (.exit e)

def truncateByBytes (value : Bytes) (maxBytes : Int) : Bytes × Bool :=
  if maxBytes ≤ 0 then (value, false)
  else if value.length ≤ maxBytes then (value, false)
  else (value.take maxBytes.toNat, true)

/-! ## E2B -/

/-- `limitedBuffer`, which keeps the beginning of what is written to it. -/
structure LimitedBuffer where
  limit : Int
  buf : Bytes := []
  truncated : Bool := false

def LimitedBuffer.write (b : LimitedBuffer) (data : Bytes) : LimitedBuffer :=
  if data.length = 0 then b
  else if b.limit < 0 then { b with buf := b.buf ++ data }
  else if b.limit = 0 then { b with truncated := true }
  else
    let remaining := b.limit - b.buf.length
    if remaining ≤ 0 then { b with truncated := true }
    else if data.length > remaining then
      { b with buf := b.buf ++ data.take remaining.toNat, truncated := true }
    else { b with buf := b.buf ++ data }

/-- How a stream ends: with `io.EOF` or the empty chunk, with an error of its own, or with
    `errTerminalExportTooLarge` or the `RuntimeError` of the script. -/
inductive StreamEnd (E : Type)
  | eof
  | failed (err : E)
  | tooLarge

/-- What is left of a stream that is exported, and how it ends after that. -/
structure Source (E : Type) where
  bytes : Bytes
  ending : StreamEnd E

/-- What a read gives: the bytes, and how the stream ended, if it did. -/
abbrev ReadResult (R E : Type) := R × Bytes × Option (StreamEnd E)

/-- One read: what the consumer asks for, how much the source has ready, and whether it
    tells of its end along with the last bytes or after them. -/
structure ReadRequest where
  size : Int
  ready : Nat
  tells : Bool

/-- The source is a Python file, which gives the empty chunk only at its end. -/
def ReadRequest.file (req : ReadRequest) : ReadRequest :=
  { req with ready := max req.ready 1, tells := false }

/-- `exportLimitReader`, and `LimitedReader` of `sandboxExportScript`. The limit is positive,
    and no read gives more than is left of it. -/
structure LimitReader (E : Type) where
  source : Source E
  remaining : Nat

section Readers

variable {E : Type}

/-- `Read` of an `io.Reader`, which may be short, or give nothing at all. -/
def Source.read (source : Source E) (req : ReadRequest) (size : Nat) : ReadResult (Source E) E :=
  let n := min size req.ready
  ({ source with bytes := source.bytes.drop n }, source.bytes.take n,
    if 0 < n ∧ source.bytes.length ≤ n ∧ (req.tells ∨ source.bytes = []) then some source.ending else none)

/-- The reads of both, which look for one more byte once nothing is left of the limit. -/
def LimitReader.limited (r : LimitReader E) (req : ReadRequest) (size : Nat) : ReadResult (LimitReader E) E :=
  if r.remaining > 0 then
    let (source, chunk, err) := r.source.read req (min size r.remaining)
    (⟨source, r.remaining - chunk.length⟩, chunk, err)
  else
    let (source, probe, err) := r.source.read req 1
    (⟨source, r.remaining⟩, [], if probe.length > 0 then some .tooLarge else err)

/-- `Read` of `exportLimitReader`. -/
def LimitReader.read (r : LimitReader E) (req : ReadRequest) : ReadResult (LimitReader E) E :=
  if req.size = 0 then (r, [], none) else r.limited req req.size.toNat

/-- `read` of `LimitedReader`. -/
def LimitReader.readFile (r : LimitReader E) (req : ReadRequest) : ReadResult (LimitReader E) E :=
  r.limited req.file (if req.size < 0 then r.remaining else req.size.toNat)

/-- What a consumer gets that reads until the stream ends, and how it ended. -/
def LimitReader.consume (read : LimitReader E → ReadRequest → ReadResult (LimitReader E) E) :
    LimitReader E → List ReadRequest → Bytes × Option (StreamEnd E)
  | _, [] => ([], none)
  | r, req :: reqs =>
    match read r req with
    | (_, chunk, some err) => (chunk, some err)
    | (r, chunk, none) => (consume read r reqs).map (chunk ++ ·) id

end Readers

/-! ## Docker -/

/-- What `errors.Is` and the text of a `dockerCommandResult.Err` tell. -/
inductive CommandError where
  | context (err : ContextError)
  | other (message : String)
  deriving DecidableEq, Repr

structure DockerCommandResult where
  stdout : Bytes := []
  stderr : Bytes := []
  exitCode : Int := 0
  err : Option CommandError := none
  deriving DecidableEq, Repr

/-- `runDockerCommandCLI`, of a command that was run. -/
def runDockerCommandCLI (run : CommandRun) : DockerCommandResult :=
  match run.err with
  | none => { stdout := run.stdout, stderr := run.stderr }
  | some (.context err) => { stdout := run.stdout, stderr := run.stderr, err := some (.context err) }
  | some (.exit e) => { stdout := run.stdout, stderr := run.stderr, exitCode := e.exitCode }
  | some .waitDelay =>
    { stdout := run.stdout
      stderr := run.stderr
      err := some (.other "exec: WaitDelay expired before I/O complete") }
  | some (.other message) =>
    { stdout := run.stdout, stderr := run.stderr, err := some (.other message) }

/-- The bytes of a text. -/
def bytes (s : String) : Bytes := s.toByteArray.data.toList

/-- `strings.Contains`. -/
def containsBytes (s sub : Bytes) : Bool :=
  s.tails.any fun rest => sub.isPrefixOf rest

/-- `isNoSuchContainerMessage`, under a `strings.ToLower`. -/
def isNoSuchContainerMessage (toLower : Bytes → Bytes) (stderr : Bytes) : Bool :=
  containsBytes (toLower stderr) (bytes "no such container")

/-! ## worker-sys -/

/-- The whitelist modes of `computerUse`; any other text is `exact`. -/
inductive WhitelistMode where
  | allowAll
  | hasPrefix
  | exact
  deriving DecidableEq, Repr

structure ComputerUseExecutor where
  outputLimitBytes : Int
  whitelistMode : WhitelistMode
  whitelist : List String
  outputLimitBytes_pos : 0 < outputLimitBytes

/-- The output limit of `newComputerUseExecutor`. -/
def computerUseOutputLimit (outputLimitBytes : Int) : Int :=
  if outputLimitBytes ≤ 0 then 1024 * 1024 else outputLimitBytes

def newComputerUseExecutor (outputLimitBytes : Int) (whitelistMode : WhitelistMode)
    (whitelist : List String) : ComputerUseExecutor where
  outputLimitBytes := computerUseOutputLimit outputLimitBytes
  whitelistMode := whitelistMode
  whitelist := whitelist
  outputLimitBytes_pos := by
    unfold computerUseOutputLimit
    split <;> omega

def ComputerUseExecutor.isCommandAllowed (e : ComputerUseExecutor) (command : String) : Bool :=
  match e.whitelistMode with
  | .allowAll => true
  | .hasPrefix => e.whitelist.any fun entry => Text.hasPrefix command entry
  | .exact => e.whitelist.any fun entry => command = entry

/-- The errors of `computerUseExecutor.Execute`. -/
inductive ComputerUseError where
  | coded (code message : String)
  | context (err : ContextError)
  | other (message : String)
  deriving DecidableEq, Repr

structure ComputerUseRunResult where
  stdout : Bytes
  stderr : Bytes
  exitCode : Int
  stdoutTruncated : Bool
  stderrTruncated : Bool
  deriving DecidableEq, Repr

/-- What `computerUseExecutor.Execute` makes of a command that was run. -/
def ComputerUseExecutor.finish (e : ComputerUseExecutor) (run : CommandRun) :
    Except ComputerUseError ComputerUseRunResult :=
  let result (exitCode : Int) : ComputerUseRunResult :=
    { stdout := (truncateByBytes run.stdout e.outputLimitBytes).1
      stderr := (truncateByBytes run.stderr e.outputLimitBytes).1
      exitCode := exitCode
      stdoutTruncated := (truncateByBytes run.stdout e.outputLimitBytes).2
      stderrTruncated := (truncateByBytes run.stderr e.outputLimitBytes).2 }
  match run.err with
  | none => .ok (result 0)
  | some (.context err) => .error (.context err)
  | some .waitDelay => .error (.context .deadlineExceeded)
  | some (.exit exit) => .ok (result exit.exitCode)
  | some (.other message) => .error (.other ("shell execution failed: " ++ message))

/-- `computerUseExecutor.Execute`, given how the shell command runs if it is allowed to. -/
def ComputerUseExecutor.execute (e : ComputerUseExecutor) (command : String)
    (run : String → CommandRun) : Except ComputerUseError ComputerUseRunResult :=
  let command := trimSpace command
  if command = "" then .error (.coded "invalid_payload" "command is required")
  else if e.isCommandAllowed command then e.finish (run command)
  else .error (.coded "command_not_allowed" "command is blocked by whitelist policy")

end Onlyboxes.Worker
