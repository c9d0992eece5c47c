import Onlyboxes.Docker.Terminal

/-!
# Python code in a container of its own

`pythonExec` of the Docker worker (`python_runtime.go`): a container is created and started,
its state is read if that fails, and it is removed when the call returns.
-/

namespace Onlyboxes.Docker

open Text Worker

structure PythonExecRunResult where
  output : Bytes
  stderr : Bytes
  exitCode : Int
  deriving DecidableEq, Repr

structure DockerContainerState where
  status : Bytes
  exitCode : Int

/-- The library functions that the call uses besides those of the sessions. -/
structure PythonExecLib extends DockerLib where
  /-- `strconv.Atoi`: the number, or the error. -/
  atoi : Bytes → Except String Int
  /-- The format `%q`. -/
  quote : Bytes → String

/-- Docker during one call: how a command runs, and whether `docker create` makes the
    container, which it may do although it fails or is killed. -/
structure DockerHost where
  run : List String → CommandRun
  creates : Bool

def DockerHost.runDockerCommand (docker : DockerHost) (args : List String) : DockerCommandResult :=
  runDockerCommandCLI (docker.run args)

def defaultPythonExecDockerImage : String := "ghcr.io/astral-sh/uv:python3.12-bookworm-slim"
def defaultPythonExecMemoryLimit : String := "256m"
def defaultPythonExecCPULimit : String := "1.0"
def defaultPythonExecPidsLimit : Int := 128

/-- The trimmed value of a setting, or its default. -/
def settingOr (default value : String) : String :=
  if trimSpace value = "" then default else trimSpace value

variable (lib : PythonExecLib) (docker : DockerHost)

def pythonExecDockerCreateArgsWithNetwork (containerName dockerImage memoryLimit cpuLimit : String)
    (pidsLimit : Int) (dockerNetwork code : String) : List String :=
  ["create", "--name", containerName,
    "--label", "onlyboxes.managed=true",
    "--label", "onlyboxes.capability=pythonExec",
    "--label", "onlyboxes.runtime=worker-docker",
    "--memory", settingOr defaultPythonExecMemoryLimit memoryLimit,
    "--cpus", settingOr defaultPythonExecCPULimit cpuLimit,
    "--pids-limit", lib.itoa (if pidsLimit ≤ 0 then defaultPythonExecPidsLimit else pidsLimit)] ++
  (if trimSpace dockerNetwork = "" then [] else ["--network", trimSpace dockerNetwork]) ++
  ["--entrypoint", "sh", settingOr defaultPythonExecDockerImage dockerImage, "-c",
    "printf '%s' \"$1\" > /tmp/script.py && uv run /tmp/script.py", "_", code]

def pythonExecDockerStartArgs (containerName : String) : List String := ["start", "-a", containerName]

def pythonExecDockerInspectArgs (containerName : String) : List String :=
  ["inspect", "-f", "\x7b\x7b.State.Status\x7d\x7d|\x7b\x7b.State.ExitCode\x7d\x7d", containerName]

def inspectPythonExecContainerState (containerName : String) :
    Except CommandError DockerContainerState :=
  let result := docker.runDockerCommand (pythonExecDockerInspectArgs containerName)
  match result.err with
  | some err => .error err
  | none =>
    if result.exitCode ≠ 0 then
      .error (.other (dockerCommandFailureMessage lib.toDockerLib result.exitCode result.stderr))
    else match (lib.trimOutput result.stdout).splitOn 124 with
      | [status, exitCode] =>
        match lib.atoi (lib.trimOutput exitCode) with
        | .error err => .error (.other ("invalid container exit code: " ++ err))
        | .ok exitCode => .ok ⟨lib.trimOutput status, exitCode⟩
      | _ => .error (.other ("unexpected docker inspect output: " ++ lib.quote (lib.trimOutput result.stdout)))

def isTerminalPythonExecContainerState (state : Bytes) : Bool :=
  lib.trimOutput (lib.toLower state) ∈ [bytes "exited", bytes "dead"]

/-- What `runPythonExecInDockerWithNetwork` does with the container it created. -/
def startPythonExecContainer (containerName : String) : Except ManagerError PythonExecRunResult :=
  let startResult := docker.runDockerCommand (pythonExecDockerStartArgs containerName)
  match startResult.err with
  | some (.context err) => .error (.command "" (.context err))
  | some err => .error (.command "docker start failed" err)
  | none =>
    if startResult.exitCode = 0 then .ok ⟨startResult.stdout, startResult.stderr, 0⟩
    else match inspectPythonExecContainerState lib docker containerName with
      | .error err =>
        .error (.command ("docker start failed with exit code " ++ lib.itoa startResult.exitCode ++
          ": inspect failed") err)
      | .ok state =>
        if isTerminalPythonExecContainerState lib state.status then
          .ok ⟨startResult.stdout, startResult.stderr, state.exitCode⟩
        else
          .error (.other ("docker start failed: state=" ++ lib.text state.status ++ " " ++
            dockerCommandFailureMessage lib.toDockerLib startResult.exitCode startResult.stderr))

/-- `runPythonExecInDockerWithNetwork`, with the name that `pythonExecContainerNameFn` gives
    and the containers there are before: the result, and the containers there are after. -/
def runPythonExecInDockerWithNetwork (containerName : Except String String)
    (dockerImage memoryLimit cpuLimit : String) (pidsLimit : Int) (dockerNetwork code : String)
    (containers : List String) : Except ManagerError PythonExecRunResult × List String :=
  match containerName with
  | .error err => (.error (.other ("allocate pythonExec container name: " ++ err)), containers)
  | .ok containerName =>
    let createResult := docker.runDockerCommand (pythonExecDockerCreateArgsWithNetwork lib
      containerName dockerImage memoryLimit cpuLimit pidsLimit dockerNetwork code)
    let containers := if docker.creates then containerName :: containers else containers
    match commandFailure lib.toDockerLib "docker create failed" createResult with
    | some err => (.error err, containers)
    | none =>
      -- The deferred `cleanupPythonExecContainer` removes the container.
      (startPythonExecContainer lib docker containerName, containers.filter (· ≠ containerName))

end Onlyboxes.Docker
