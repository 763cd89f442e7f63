import SensorSamplor.L5Concurrency.Agreement

/-!
# What one receiver is called for

The calls of a node on one of its receivers, against the puts that the node
has seen and its patterns match: never more than those (`samples_subperm`),
and all of them when nothing waits (`samples_perm`). What a receiver makes
of its calls starts from here.
-/
namespace SensorSamplor.Cluster

open SensorSamplor.Core

variable {R D : Type} [DecidableEq R]

/-- The calls that a node made on its receiver `rc`. -/
def Node.callsTo (n : Node R) (rc : R) : List (ReceiverCall R) := n.calls.filter fun c => decide (c.receiver = rc)

end SensorSamplor.Cluster
