import Onlyboxes.Spec.FailureAtomicity
import Onlyboxes.Spec.SlotConservation
import Onlyboxes.Spec.Incarnations
import Onlyboxes.Spec.WorkerTypes
import Onlyboxes.Spec.WorkerRevocation
import Onlyboxes.Spec.LostConnections
import Onlyboxes.Spec.TaskRuntimes
import Onlyboxes.Spec.TaskWaiting
import Onlyboxes.Spec.TaskRetention
import Onlyboxes.Spec.DockerSlots
import Onlyboxes.Spec.DockerIncarnations
import Onlyboxes.Spec.DockerCommands
import Onlyboxes.Spec.E2BLeases
import Onlyboxes.Spec.BoxLiteAccounts
import Onlyboxes.Spec.BoxLiteRequests
import Onlyboxes.Spec.E2BStreams
import Onlyboxes.Spec.McpTools
import Onlyboxes.Worker.Heartbeat
import Onlyboxes.Console.PruneThrottle
import Onlyboxes.Spec.UploadHeaders
