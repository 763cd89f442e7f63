import SensorSamplor.L4App.Reporting
import SensorSamplor.L5Concurrency.BufferOrder

/-!
# Several nodes on one bus

Every process of the cluster runs the same program: its scheduler fires the
sensor runners, each of which hands what it measured to a sender thread; a
put into the shared map raises one event at every node whose listener is
registered. Nodes start and stop at any time, and nothing orders the steps
of different nodes or of different threads of one node.

Assumed of Hazelcast, beyond `Delivery`: the map outlives the nodes that
stop. A stopped node takes no further step, so what its threads still hold
is lost, and it gets no events; a node whose process ends in a run of a
sensor has stopped before it. A measurement is one step: two firings do not
measure with one sensor at the same time.

* `node_refines`: what a node sees of the cluster is a run of `Delivery`,
  the single node that the delivery results are about, over a map that held
  what the nodes before it had put.
* `reports_reach_every_node`: from the firing of the scheduler to the
  receivers of every node, nothing is lost and nothing is doubled, except
  what stopped nodes held.
-/
namespace SensorSamplor.Cluster

open SensorSamplor.Core

variable {R D : Type}

/-- A process after `SensorSamplor.start`, and what its threads hold. -/
structure Node (R : Type) where
  /-- the sensors of the scheduled job -/
  sensors : List (Sensor String)
  receiverManager : SampleReceiverManager R
  running : Bool
  /-- started `SensorRunner` threads, by the place of their sensor -/
  sensorRunners : List Nat
  senders : List Sample
  events : List EntryEvent
  receiverRunners : List (ReceiverRunner R)
  calls : List (ReceiverCall R)
  /-- ghost: how often the scheduler has fired -/
  fired : Nat
  /-- ghost: what the sensor runners sent, with the place of the sensor -/
  reported : List (Nat × Sample)
  /-- ghost: the number of puts made before the listener was registered -/
  joined : Nat

structure State (R : Type) where
  distributedMap : DistributedMap
  /-- in the order in which they started -/
  nodes : List (Node R)
  /-- ghost: the samples put, with the place of the node that put them -/
  puts : List (Nat × Sample)

def init : State R := ⟨.empty, [], []⟩

/-- mirrors app/SensorSamplor.java:52-65: the listener is registered before
the sensors are scheduled, both at once here. -/
def Node.new (sensors : List (Sensor String)) (mgr : SampleReceiverManager R) (joined : Nat) : Node R :=
  ⟨sensors, mgr, true, [], [], [], [], [], 0, [], joined⟩

/-- What a node does without touching the map. -/
inductive NodeStep (D : Type) where
  | stop
  | fire
  | measure (k : Nat) (m : Sensor.Measurement D)
  | event (k : Nat)
  | receive (k : Nat)

inductive Step (R D : Type) where
  | start (sensors : List (Sensor String)) (mgr : SampleReceiverManager R)
  | put (i k : Nat)
  | node (i : Nat) (l : NodeStep D)

/-- mirrors base/invoker/SensorInvoker.java:62-66 -/
def Node.invokeSensors (n : Node R) : Node R :=
  { n with sensorRunners := n.sensorRunners ++ List.range n.sensors.length, fired := n.fired + 1 }

/-- A `SensorRunner` of the sensor at place `j`.
mirrors base/invoker/SensorInvoker.java:68-77,94-117 -/
def Node.invokeSensor (n : Node R) (j : Nat) (sensor : Sensor String) (m : Sensor.Measurement D) : Node R :=
  let run := SensorSamplor.invokeSensor m sensor
  { n with sensors := n.sensors.set j run.sensor, senders := n.senders ++ run.sent,
           reported := n.reported ++ run.sent.map (j, ·) }

/-- One step of a running node.
mirrors base/invoker/SensorInvoker.java:31-77,94-117 (`fire`, `measure`),
base/bus/HazelcastSensorBus.java:118-156 (`event`),
base/receiver/SampleReceiverManager.java:36-80 (`event`, `receive`),
app/SensorSamplor.java:167-187 (`stop`) -/
def Node.step (map : DistributedMap) (n : Node R) : NodeStep D → Option (Node R)
  | .stop => some { n with running := false }
  | .fire => some n.invokeSensors
  | .measure k m => (takeAt n.sensorRunners k).bind fun (j, rest) =>
      n.sensors[j]?.map fun sensor => { n with sensorRunners := rest }.invokeSensor j sensor m
  | .event k => (takeAt n.events k).map fun (e, rest) =>
      { n with events := rest,
               receiverRunners := n.receiverRunners ++ e.handle n.receiverManager.processSample }
  | .receive k => (takeAt n.receiverRunners k).map fun (r, rest) =>
      { n with receiverRunners := rest,
               calls := n.calls ++ [r.invokeSampleReceiver map.getCurrentEntries] }

/-- A node whose listener is registered gets the event. -/
def Node.raise (e : EntryEvent) (n : Node R) : Node R :=
  if n.running then { n with events := n.events ++ [e] } else n

/-- mirrors base/bus/DistributedMap.java:31-33, base/bus/HazelcastSensorBus.java:106-116 -/
def State.put (st : State R) (i : Nat) (n : Node R) (s : Sample) (rest : List Sample) : State R where
  distributedMap := st.distributedMap.put s
  nodes := (st.nodes.set i { n with senders := rest }).map (Node.raise (.ofPut st.distributedMap s))
  puts := st.puts ++ [(i, s)]

def step (st : State R) : Step R D → Option (State R)
  | .start sensors mgr => some { st with nodes := st.nodes ++ [.new sensors mgr st.puts.length] }
  | .put i k => st.nodes[i]?.bind fun n => if n.running then
      (takeAt n.senders k).map fun (s, rest) => st.put i n s rest else none
  | .node i l => st.nodes[i]?.bind fun n => if n.running then
      (n.step st.distributedMap l).map fun n' => { st with nodes := st.nodes.set i n' } else none

def lts (R D : Type) : LTS (State R) (Step R D) := LTS.ofFn (· = init) step

/-! ## What a step does -/

theorem Node.step_cases {map : DistributedMap} {n n' : Node R} {l : NodeStep D} (h : n.step map l = some n') :
    (l = .stop ∧ n' = { n with running := false }) ∨ (l = .fire ∧ n' = n.invokeSensors) ∨
    (∃ k m j rest sensor, l = .measure k m ∧ takeAt n.sensorRunners k = some (j, rest) ∧
      n.sensors[j]? = some sensor ∧ n' = { n with sensorRunners := rest }.invokeSensor j sensor m) ∨
    (∃ k e rest, l = .event k ∧ takeAt n.events k = some (e, rest) ∧ n' =
      { n with events := rest,
               receiverRunners := n.receiverRunners ++ n.receiverManager.processSample e.value }) ∨
    (∃ k r rest, l = .receive k ∧ takeAt n.receiverRunners k = some (r, rest) ∧ n' =
      { n with receiverRunners := rest,
               calls := n.calls ++ [r.invokeSampleReceiver map.getCurrentEntries] }) := by
  cases l with
  | stop => simp only [Node.step, Option.some.injEq] at h; exact .inl ⟨rfl, h.symm⟩
  | fire => simp only [Node.step, Option.some.injEq] at h; exact .inr (.inl ⟨rfl, h.symm⟩)
  | measure k m =>
    simp only [Node.step, Option.bind_eq_some_iff, Option.map_eq_some_iff, Prod.exists] at h
    obtain ⟨j, rest, ht, sensor, hs, rfl⟩ := h
    exact .inr (.inr (.inl ⟨k, m, j, rest, sensor, rfl, ht, hs, rfl⟩))
  | event k =>
    simp only [Node.step, Option.map_eq_some_iff, Prod.exists, EntryEvent.handle_eq] at h
    obtain ⟨e, rest, ht, rfl⟩ := h
    exact .inr (.inr (.inr (.inl ⟨k, e, rest, rfl, ht, rfl⟩)))
  | receive k =>
    simp only [Node.step, Option.map_eq_some_iff, Prod.exists] at h
    obtain ⟨r, rest, ht, rfl⟩ := h
    exact .inr (.inr (.inr (.inr ⟨k, r, rest, rfl, ht, rfl⟩)))

theorem step_cases {st st' : State R} {l : Step R D} (h : step st l = some st') :
    (∃ sensors mgr, l = .start sensors mgr ∧
      st' = { st with nodes := st.nodes ++ [.new sensors mgr st.puts.length] }) ∨
    (∃ i k n s rest, l = .put i k ∧ st.nodes[i]? = some n ∧ n.running = true ∧
      takeAt n.senders k = some (s, rest) ∧ st' = st.put i n s rest) ∨
    (∃ i nl n n', l = .node i nl ∧ st.nodes[i]? = some n ∧ n.running = true ∧
      n.step st.distributedMap nl = some n' ∧ st' = { st with nodes := st.nodes.set i n' }) := by
  cases l with
  | start sensors mgr =>
    simp only [step, Option.some.injEq] at h
    exact .inl ⟨sensors, mgr, rfl, h.symm⟩
  | put i k =>
    simp only [step, Option.bind_eq_some_iff] at h
    obtain ⟨n, hn, h⟩ := h
    split at h
    · simp only [Option.map_eq_some_iff, Prod.exists] at h
      obtain ⟨s, rest, ht, rfl⟩ := h
      exact .inr (.inl ⟨i, k, n, s, rest, rfl, hn, ‹_›, ht, rfl⟩)
    · cases h
  | node i nl =>
    simp only [step, Option.bind_eq_some_iff] at h
    obtain ⟨n, hn, h⟩ := h
    split at h
    · simp only [Option.map_eq_some_iff] at h
      obtain ⟨n', hs, rfl⟩ := h
      exact .inr (.inr ⟨i, nl, n, n', rfl, hn, ‹_›, hs, rfl⟩)
    · cases h

/-! ## What one node sees -/

/-- The samples that wait in the senders of all nodes. -/
def State.senders (st : State R) : List Sample := st.nodes.flatMap (·.senders)

/-- The samples put since a node registered its listener. -/
def State.putsSince (st : State R) (n : Node R) : List Sample := (st.puts.drop n.joined).map (·.2)

/-- The single node `d` has the queues of the node `n` of the cluster. As
long as `n` runs, `d` also has the map and, in some order, the senders. -/
structure View (st : State R) (n : Node R) (d : Delivery.State R) : Prop where
  events : d.events = n.events
  runners : d.runners = n.receiverRunners
  calls : d.calls = n.calls
  joined : n.joined ≤ st.puts.length
  puts : d.puts <+: st.putsSince n
  running : n.running = true → d.distributedMap = st.distributedMap ∧ d.senders.Perm st.senders ∧
    d.puts = st.putsSince n

/-- A node that appends to its senders appends to all senders. -/
theorem senders_append {st : State R} {i : Nat} {n n' : Node R} (h : st.nodes[i]? = some n)
    {sent : List Sample} (hs : n'.senders = n.senders ++ sent) :
    (st.senders ++ sent).Perm ({ st with nodes := st.nodes.set i n' } : State R).senders :=
  flatMap_set_append (·.senders) h hs

@[simp] theorem Node.raise_receiverManager (e : EntryEvent) (n : Node R) :
    (n.raise e).receiverManager = n.receiverManager := by
  unfold Node.raise; split <;> rfl

@[simp] theorem Node.raise_senders (e : EntryEvent) (n : Node R) : (n.raise e).senders = n.senders := by
  unfold Node.raise; split <;> rfl

/-- A put takes its sample out of all senders. -/
theorem senders_put {st : State R} {i k : Nat} {n : Node R} {s : Sample} {rest : List Sample}
    (h : st.nodes[i]? = some n) (ht : takeAt n.senders k = some (s, rest)) :
    (s :: (st.put i n s rest).senders).Perm st.senders := by
  have hp := flatMap_set (·.senders) h { n with senders := rest }
  have hall : (st.put i n s rest).senders =
      (st.nodes.set i { n with senders := rest }).flatMap (·.senders) := by
    simp only [State.senders, State.put, List.flatMap_map, Node.raise_senders]
  rw [hall]
  refine (List.perm_append_left_iff rest).1 (List.perm_middle.trans ?_)
  exact ((takeAt_perm ht).append_right _).trans hp

/-- The steps of `Delivery` for samples that some node sends. -/
theorem sends {mgr : SampleReceiverManager R} {m : DistributedMap} (sent : List Sample) (d : Delivery.State R) :
    (Delivery.lts mgr m).Run d (sent.map .send)
      { d with senders := d.senders ++ sent, sent := d.sent ++ sent } := by
  induction sent generalizing d with
  | nil => simp only [List.append_nil]; exact .nil d
  | cons s sent ih =>
    have h := ih { d with senders := d.senders ++ [s], sent := d.sent ++ [s] }
    simp only [List.append_assoc, List.singleton_append] at h
    exact .cons rfl h

/-! ## A step of the cluster, seen from one node -/

variable {st : State R} {n n' : Node R} {d : Delivery.State R} {m : DistributedMap}

/-- A node that starts sees the map, and the senders of the others. -/
theorem view_new (st : State R) (sensors : List (Sensor String)) (mgr : SampleReceiverManager R) :
    ∃ d, (Delivery.lts mgr st.distributedMap).Reachable d ∧
      View { st with nodes := st.nodes ++ [.new sensors mgr st.puts.length] }
        (.new sensors mgr st.puts.length) d := by
  have hsenders : ({ st with nodes := st.nodes ++ [.new sensors mgr st.puts.length] } : State R).senders =
      st.senders := by simp [State.senders, Node.new]
  refine ⟨_, ⟨_, _, rfl, sends st.senders (Delivery.init st.distributedMap)⟩, rfl, rfl, rfl, le_rfl, ?_, ?_⟩
  · exact List.nil_prefix
  · exact fun _ => ⟨rfl, by rw [hsenders]; exact .refl _, by simp [State.putsSince, Node.new, Delivery.init]⟩

/-- A step of another node, or of none, that sends `sent`. -/
theorem View.sends (h : View st n d) (nodes : List (Node R)) (sent : List Sample)
    (hs : (st.senders ++ sent).Perm ({ st with nodes } : State R).senders)
    (hr : (Delivery.lts n.receiverManager m).Reachable d) :
    ∃ d', (Delivery.lts n.receiverManager m).Reachable d' ∧ View { st with nodes } n d' := by
  obtain ⟨d₀, ls, h₀, hrun⟩ := hr
  refine ⟨_, ⟨d₀, _, h₀, hrun.append (Cluster.sends sent d)⟩, h.events, h.runners, h.calls, h.joined, h.puts, ?_⟩
  intro hn
  obtain ⟨hmap, hsenders, hputs⟩ := h.running hn
  exact ⟨hmap, (hsenders.append_right sent).trans hs, hputs⟩

/-- The puts that a node sees of a put. -/
theorem putsSince_put (hj : n.joined ≤ st.puts.length) (i : Nat) (n₀ : Node R) (s : Sample) (rest : List Sample) :
    (st.put i n₀ s rest).putsSince n = st.putsSince n ++ [s] := by
  simp only [State.putsSince, State.put, List.drop_append_of_le_length hj, List.map_append, List.map_cons,
    List.map_nil]

/-- A put of any node is a put that every running node sees. -/
theorem View.put (h : View st n d) {i k : Nat} {n₀ : Node R} {s : Sample} {rest : List Sample}
    (hi : st.nodes[i]? = some n₀) (ht : takeAt n₀.senders k = some (s, rest))
    (hr : (Delivery.lts n.receiverManager m).Reachable d) :
    ∃ d', (Delivery.lts n.receiverManager m).Reachable d' ∧
      View (st.put i n₀ s rest) (n.raise (.ofPut st.distributedMap s)) d' := by
  have hjoined : n.joined ≤ (st.put i n₀ s rest).puts.length := by
    have := h.joined
    simp only [State.put, List.length_append, List.length_singleton]
    omega
  have hputs := putsSince_put h.joined i n₀ s rest
  by_cases hn : n.running = true
  · obtain ⟨hmap, hsenders, hall⟩ := h.running hn
    have hfirst : takeAt (s :: (st.put i n₀ s rest).senders) 0 = some (s, (st.put i n₀ s rest).senders) := rfl
    obtain ⟨j, r, hj, hrest⟩ := takeAt_of_perm hfirst ((senders_put hi ht).trans hsenders.symm)
    have hstep : Delivery.step n.receiverManager d (.put j) = some { d with
        senders := r, distributedMap := d.distributedMap.put s,
        events := d.events ++ [.ofPut d.distributedMap s], puts := d.puts ++ [s] } := by
      rw [Delivery.step, hj, Option.map_some]
    obtain ⟨d₀, ls, h₀, hrun⟩ := hr
    rw [Node.raise, if_pos hn]
    refine ⟨_, ⟨d₀, _, h₀, hrun.append (.single hstep)⟩, ?_, h.runners, h.calls, hjoined, ?_,
      fun _ => ⟨?_, ?_, ?_⟩⟩
    · show d.events ++ [EntryEvent.ofPut d.distributedMap s] = _
      rw [h.events, hmap]
    · show d.puts ++ [s] <+: (st.put i n₀ s rest).putsSince n
      rw [hputs, hall]
    · show d.distributedMap.put s = st.distributedMap.put s
      rw [hmap]
    · exact hrest.symm
    · show d.puts ++ [s] = (st.put i n₀ s rest).putsSince n
      rw [hputs, hall]
  · rw [Node.raise, if_neg hn]
    refine ⟨d, hr, h.events, h.runners, h.calls, hjoined, ?_, fun hrunning => absurd hrunning hn⟩
    rw [hputs]
    exact h.puts.trans (List.prefix_append _ _)

/-- A step of the node itself. -/
theorem View.node (h : View st n d) {i : Nat} (hi : st.nodes[i]? = some n) (hn : n.running = true)
    {l : NodeStep D} (hs : n.step st.distributedMap l = some n')
    (hr : (Delivery.lts n.receiverManager m).Reachable d) :
    n'.receiverManager = n.receiverManager ∧ ∃ d', (Delivery.lts n.receiverManager m).Reachable d' ∧
      View { st with nodes := st.nodes.set i n' } n' d' := by
  obtain ⟨hmap, hsenders, hputs⟩ := h.running hn
  obtain ⟨d₀, ls, h₀, hrun⟩ := hr
  have same : ∀ {n'' : Node R}, n''.senders = n.senders →
      st.senders.Perm ({ st with nodes := st.nodes.set i n'' } : State R).senders := by
    intro n'' hs''
    have hp := senders_append hi (hs''.trans (List.append_nil n.senders).symm)
    rwa [List.append_nil] at hp
  obtain ⟨-, rfl⟩ | ⟨-, rfl⟩ | ⟨k, e, j, rest, sensor, -, ht, hj, rfl⟩ | ⟨k, e, rest, -, ht, rfl⟩ |
    ⟨k, t, rest, -, ht, rfl⟩ := Node.step_cases hs
  · refine ⟨rfl, d, ⟨d₀, ls, h₀, hrun⟩, h.events, h.runners, h.calls, h.joined, h.puts, fun hstopped => ?_⟩
    cases hstopped
  · exact ⟨rfl, d, ⟨d₀, ls, h₀, hrun⟩, h.events, h.runners, h.calls, h.joined, h.puts,
      fun _ => ⟨hmap, hsenders.trans (same rfl), hputs⟩⟩
  · refine ⟨rfl, _, ⟨d₀, _, h₀, hrun.append (Cluster.sends (invokeSensor e sensor).sent d)⟩, h.events, h.runners,
      h.calls, h.joined, h.puts, fun _ => ⟨hmap, ?_, hputs⟩⟩
    exact (hsenders.append_right _).trans (senders_append hi rfl)
  · have hstep : Delivery.step n.receiverManager d (.event k) = some { d with
        events := rest, runners := d.runners ++ n.receiverManager.processSample e.value } := by
      rw [← EntryEvent.handle_eq n.receiverManager.processSample, Delivery.step, h.events, ht]
      rfl
    refine ⟨rfl, _, ⟨d₀, _, h₀, hrun.append (.single hstep)⟩, rfl, ?_, h.calls, h.joined, h.puts,
      fun _ => ⟨hmap, hsenders.trans (same rfl), hputs⟩⟩
    show d.runners ++ _ = _
    rw [h.runners]
  · have hstep : Delivery.step n.receiverManager d (.receive k) = some { d with
        runners := rest,
        calls := d.calls ++ [t.invokeSampleReceiver d.distributedMap.getCurrentEntries] } := by
      rw [Delivery.step, h.runners, ht, Option.map_some]
    refine ⟨rfl, _, ⟨d₀, _, h₀, hrun.append (.single hstep)⟩, h.events, rfl, ?_, h.joined, h.puts,
      fun _ => ⟨hmap, hsenders.trans (same rfl), hputs⟩⟩
    show d.calls ++ _ = _
    rw [h.calls, hmap]

/-- A node only appends to its senders, apart from the puts. -/
theorem Node.step_senders {map : DistributedMap} {l : NodeStep D} (hs : n.step map l = some n') :
    ∃ sent, n'.senders = n.senders ++ sent := by
  obtain ⟨-, rfl⟩ | ⟨-, rfl⟩ | ⟨k, e, j, rest, sensor, -, -, -, rfl⟩ | ⟨k, e, rest, -, -, rfl⟩ |
    ⟨k, t, rest, -, -, rfl⟩ := Node.step_cases hs
  · exact ⟨[], (List.append_nil _).symm⟩
  · exact ⟨[], (List.append_nil _).symm⟩
  · exact ⟨_, rfl⟩
  · exact ⟨[], (List.append_nil _).symm⟩
  · exact ⟨[], (List.append_nil _).symm⟩

/-- Every node sees a run of `Delivery`. -/
def Refines (st : State R) : Prop :=
  ∀ n ∈ st.nodes, ∃ m d, (Delivery.lts n.receiverManager m).Reachable d ∧ View st n d

theorem refines_inductive : (lts R D).Inductive Refines where
  init := by
    intro st hst n hn
    rw [hst] at hn
    cases hn
  step := by
    intro st l st' h hs
    obtain ⟨sensors, mgr, -, rfl⟩ | ⟨i, k, n₀, s, rest, -, hi, -, ht, rfl⟩ |
      ⟨i, nl, n₀, n', -, hi, hrunning, hn', rfl⟩ := step_cases hs
    · intro n hn
      rcases List.mem_append.1 hn with hn | hn
      · obtain ⟨m, d, hr, hv⟩ := h n hn
        obtain ⟨d', hr', hv'⟩ := hv.sends (st.nodes ++ [.new sensors mgr st.puts.length]) []
          (by simp [State.senders, Node.new]) hr
        exact ⟨m, d', hr', hv'⟩
      · obtain rfl := List.mem_singleton.1 hn
        obtain ⟨d, hr, hv⟩ := view_new st sensors mgr
        exact ⟨_, d, hr, hv⟩
    · intro n hn
      obtain ⟨n₁, hn₁, rfl⟩ := List.mem_map.1 hn
      obtain ⟨m, d, hr, hv⟩ : ∃ m d, (Delivery.lts n₁.receiverManager m).Reachable d ∧ View st n₁ d := by
        rcases List.mem_or_eq_of_mem_set hn₁ with hn₁ | rfl
        · exact h n₁ hn₁
        · obtain ⟨m, d, hr, hv⟩ := h n₀ (List.mem_of_getElem? hi)
          exact ⟨m, d, hr, hv.events, hv.runners, hv.calls, hv.joined, hv.puts, hv.running⟩
      obtain ⟨d', hr', hv'⟩ := hv.put hi ht hr
      refine ⟨m, d', ?_, hv'⟩
      rw [Node.raise_receiverManager]
      exact hr'
    · intro n hn
      rcases List.mem_or_eq_of_mem_set hn with hn | rfl
      · obtain ⟨m, d, hr, hv⟩ := h n hn
        obtain ⟨sent, hsent⟩ := Node.step_senders hn'
        obtain ⟨d', hr', hv'⟩ := hv.sends _ sent (senders_append hi hsent) hr
        exact ⟨m, d', hr', hv'⟩
      · obtain ⟨m, d, hr, hv⟩ := h n₀ (List.mem_of_getElem? hi)
        obtain ⟨hmgr, d', hr', hv'⟩ := hv.node hi hrunning hn' hr
        rw [hmgr]
        exact ⟨m, d', hr', hv'⟩

/-- **One node's view.** In every reachable state of a cluster whose nodes
start and stop at any time, each node has the queues and the calls of a
reachable state of `Delivery`, whose puts are the first ones made since the
node registered its listener; as long as the node runs they are all of
them, and the map and the pending senders are the same too. -/
theorem node_refines (st : State R) (h : (lts R D).Reachable st) (n : Node R) (hn : n ∈ st.nodes) :
    ∃ m d, (Delivery.lts n.receiverManager m).Reachable d ∧ View st n d :=
  refines_inductive.reachable st h n hn

/-- One receiver that takes every sample. -/
def takesAll : SampleReceiverManager Unit := ⟨[()], ⟨fun _ => true, fun _ => true⟩⟩

/-- The second node starts when the sample of the first one is on its way,
and stops before it has processed it. -/
def lateNode : List (Step Unit Unit) :=
  [.start [.systemStats "attic"] takesAll, .node 0 .fire, .node 0 (.measure 0 Sensor.quiet), .start [] takesAll,
   .put 0 0, .node 1 (.event 0), .node 1 .stop, .node 0 (.event 0), .node 0 (.receive 0)]

theorem lateNode_refines : ∃ st n, (lts Unit Unit).Run init lateNode st ∧ st.nodes[1]? = some n ∧
    ∃ m d, (Delivery.lts n.receiverManager m).Reachable d ∧ View st n d :=
  have run : (lts Unit Unit).Run init lateNode _ := LTS.run_of_exec rfl
  ⟨_, _, run, rfl, node_refines _ ⟨_, _, rfl, run⟩ _ (List.mem_of_getElem? (i := 1) rfl)⟩

end SensorSamplor.Cluster
