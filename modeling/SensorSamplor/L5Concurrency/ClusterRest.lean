import Mathlib.Algebra.Order.BigOperators.Group.List
import SensorSamplor.L5Concurrency.ClusterReports

/-!
# The cluster comes to rest

Every thread and every event of a running node leads to a bounded number of
further steps: a sensor runner to one sender, a sender to one event at each
node, an event to one receiver thread for each receiver. `State.work` adds
these up, each step of a thread lowers it (`work_step`), and so the cluster
is idle after that many steps at the latest, in any order (`drains`). Only
new nodes, firings and stops are left out.
-/
namespace SensorSamplor.Cluster

open SensorSamplor.Core

variable {R D : Type}

/-- A step of a thread or of an event's handling. -/
def Step.IsWork : Step R D → Prop
  | .put _ _ => True
  | .node _ (.measure _ _) => True
  | .node _ (.event _) => True
  | .node _ (.receive _) => True
  | .node _ .stop => False
  | .node _ .fire => False
  | .start _ _ => False

def working (R D : Type) : LTS (State R) (Step R D) := (lts R D).restrict fun _ l => l.IsWork

/-- The steps that one event takes at a node, its handling included. -/
def Node.perEvent (n : Node R) : Nat := 1 + n.receiverManager.receivers.length

/-- The steps that one put takes at all nodes. -/
def State.perPut (st : State R) : Nat := (st.nodes.map Node.perEvent).sum

/-- The steps that a node still causes when a put causes `c` of them. -/
def Node.work (c : Nat) (n : Node R) : Nat :=
  if n.running then n.sensorRunners.length * (c + 2) + n.senders.length * (c + 1) +
    n.events.length * n.perEvent + n.receiverRunners.length
  else 0

def State.work (st : State R) : Nat := (st.nodes.map (Node.work st.perPut)).sum

theorem length_takeAt {α : Type*} {l l' : List α} {i : Nat} {a : α} (h : takeAt l i = some (a, l')) :
    l.length = l'.length + 1 := by
  rw [← (takeAt_perm h).length_eq, List.length_cons]

theorem length_sent_le (m : Sensor.Measurement D) (sensor : Sensor String) :
    (invokeSensor m sensor).sent.length ≤ 1 := by
  unfold invokeSensor
  split <;> simp

theorem length_processSample_le (mgr : SampleReceiverManager R) (s : Sample) :
    (mgr.processSample s).length ≤ mgr.receivers.length := by
  unfold SampleReceiverManager.processSample
  split <;> simp

/-- A thread's step lowers the work of its node, and leaves its receivers. -/
theorem Node.work_step {map : DistributedMap} {n n' : Node R} {l : NodeStep D} (c : Nat) (hn : n.running = true)
    {i : Nat} (hw : (Step.node (R := R) i l).IsWork) (hs : n.step map l = some n') :
    n'.perEvent = n.perEvent ∧ n'.work c < n.work c := by
  obtain ⟨rfl, -⟩ | ⟨rfl, -⟩ | ⟨k, m, j, rest, sensor, -, ht, -, rfl⟩ | ⟨k, e, rest, -, ht, rfl⟩ |
    ⟨k, t, rest, -, ht, rfl⟩ := Node.step_cases hs
  · exact hw.elim
  · exact hw.elim
  · have hrunners := length_takeAt ht
    have hsent := length_sent_le m sensor
    refine ⟨rfl, ?_⟩
    simp only [Node.work, Node.invokeSensor, Node.perEvent, hn, if_true, List.length_append]
    rw [hrunners, Nat.add_mul, Nat.add_mul]
    have := Nat.mul_le_mul_right (c + 1) hsent
    omega
  · have hevents := length_takeAt ht
    have hprocess := length_processSample_le n.receiverManager e.value
    refine ⟨rfl, ?_⟩
    simp only [Node.work, Node.perEvent, hn, if_true, List.length_append]
    rw [hevents, Nat.add_mul]
    omega
  · have hrunners := length_takeAt ht
    refine ⟨rfl, ?_⟩
    simp only [Node.work, Node.perEvent, hn, if_true]
    omega

/-- An event raised at a node is worth what a put counts for the node. -/
theorem Node.work_raise (c : Nat) (e : EntryEvent) (n : Node R) :
    (n.raise e).work c ≤ n.work c + n.perEvent := by
  unfold Node.raise
  split
  · rename_i hn
    simp only [Node.work, Node.perEvent, hn, if_true, List.length_append, List.length_singleton, Nat.add_mul]
    omega
  · omega

@[simp] theorem Node.raise_perEvent (e : EntryEvent) (n : Node R) : (n.raise e).perEvent = n.perEvent := by
  unfold Node.perEvent
  rw [Node.raise_receiverManager]

theorem work_put {st : State R} {i k : Nat} {n : Node R} {s : Sample} {rest : List Sample}
    (hi : st.nodes[i]? = some n) (hn : n.running = true) (ht : takeAt n.senders k = some (s, rest)) :
    (st.put i n s rest).work < st.work := by
  have hsame := map_set_of_eq Node.perEvent hi { n with senders := rest } rfl
  have hperPut : (st.put i n s rest).perPut = st.perPut := by
    simp only [State.perPut, State.put, List.map_map, Function.comp_def, Node.raise_perEvent]
    rw [hsame]
  have hsum := sum_map_set (Node.work st.perPut) hi { n with senders := rest }
  have hsenders := length_takeAt ht
  have hnode : n.work st.perPut = Node.work st.perPut { n with senders := rest } + (st.perPut + 1) := by
    simp only [Node.work, Node.perEvent, hn, if_true]
    rw [hsenders, Nat.add_mul]
    omega
  have hraise : (st.put i n s rest).work ≤ ((st.nodes.set i { n with senders := rest }).map fun u =>
      u.work st.perPut + u.perEvent).sum := by
    rw [State.work, hperPut]
    show (((st.nodes.set i { n with senders := rest }).map (Node.raise _)).map _).sum ≤ _
    rw [List.map_map]
    exact List.sum_le_sum fun u _ => Node.work_raise _ _ u
  rw [List.sum_map_add, hsame] at hraise
  have hall : (st.nodes.map Node.perEvent).sum = st.perPut := rfl
  unfold State.work at hraise ⊢
  omega

theorem work_step {st st' : State R} {l : Step R D} (hw : l.IsWork) (h : step st l = some st') :
    st'.work < st.work := by
  obtain ⟨sensors, mgr, rfl, -⟩ | ⟨i, k, n, s, rest, -, hi, hn, ht, rfl⟩ | ⟨i, nl, n, n', rfl, hi, hn, hs, rfl⟩ :=
    step_cases h
  · exact hw.elim
  · exact work_put hi hn ht
  · obtain ⟨hperEvent, hlt⟩ := Node.work_step st.perPut hn hw hs
    have hperPut : State.perPut { st with nodes := st.nodes.set i n' } = st.perPut :=
      congrArg List.sum (map_set_of_eq Node.perEvent hi n' hperEvent)
    have hsum := sum_map_set (Node.work st.perPut) hi n'
    simp only [State.work, hperPut]
    omega

/-! ## Where it stops -/

/-- In a reachable state a thread can take a step unless no thread waits. -/
theorem quiescent_iff {st : State R} (h : (lts R D).Reachable st) :
    (working R D).Quiescent st ↔ st.Idle := by
  have hc : Conserved st := conserved_inductive.reachable st h
  refine ⟨fun hq n hn hrunning => ?_, fun hidle l st' hs => ?_⟩
  · obtain ⟨i, hi⟩ := List.getElem?_of_mem hn
    have stuck : ∀ l : Step R D, l.IsWork → step st l = none := by
      intro l hl
      cases hs : step st l with
      | none => rfl
      | some st' => exact (hq l st' ⟨hs, hl⟩).elim
    have hput := stuck (.put i 0) trivial
    have hevent := stuck (.node i (.event 0)) trivial
    have hreceive := stuck (.node i (.receive 0)) trivial
    simp only [step, hi, Option.bind_some, hrunning, if_true, Node.step, Option.map_eq_none_iff,
      takeAt_zero_eq_none] at hput hevent hreceive
    refine ⟨?_, hput, hevent, hreceive⟩
    -- a waiting sensor runner has a sensor that it can measure with
    cases hrunners : n.sensorRunners with
    | nil => rfl
    | cons j rest =>
      have hmeasure := stuck (.node i (.measure 0 Sensor.quiet)) trivial
      have hj : j < n.sensors.length := (hc.accounts n hn).places j (hrunners ▸ List.mem_cons_self)
      simp [step, hi, hrunning, Node.step, hrunners, takeAt, hj] at hmeasure
  · obtain ⟨hs, hl⟩ := hs
    have empty : ∀ {α : Type} {k : Nat} {a : α} {rest : List α}, takeAt [] k ≠ some (a, rest) := by
      intro α k a rest ht
      cases ht
    obtain ⟨sensors, mgr, rfl, -⟩ | ⟨i, k, n, s, rest, -, hi, hn, ht, -⟩ | ⟨i, nl, n, n', rfl, hi, hn, hs, -⟩ :=
      step_cases hs
    · exact hl
    · rw [(hidle n (List.mem_of_getElem? hi) hn).2.1] at ht
      exact empty ht
    · obtain ⟨hrunners, -, hevents, hreceivers⟩ := hidle n (List.mem_of_getElem? hi) hn
      obtain ⟨rfl, -⟩ | ⟨rfl, -⟩ | ⟨k, m, j, rest, sensor, -, ht, -⟩ | ⟨k, e, rest, -, ht, -⟩ |
        ⟨k, t, rest, -, ht, -⟩ := Node.step_cases hs
      · exact hl
      · exact hl
      · rw [hrunners] at ht; exact empty ht
      · rw [hevents] at ht; exact empty ht
      · rw [hreceivers] at ht; exact empty ht

/-- **Coming to rest.** From every reachable state, the threads and events
that wait take at most `work` steps, whatever their order; where none of
them can take a step the cluster is idle, and it gets there. -/
theorem drains (st : State R) (h : (lts R D).Reachable st) :
    (∀ ls st', (working R D).Run st ls st' → ls.length ≤ st.work ∧
      ((working R D).Quiescent st' ↔ st'.Idle)) ∧
    ∃ ls st', (working R D).Run st ls st' ∧ st'.Idle := by
  have hstep : ∀ (s : State R) l s', (working R D).step s l s' → s'.work < s.work :=
    fun s l s' hs => work_step hs.2 hs.1
  have reachable : ∀ ls st', (working R D).Run st ls st' → (lts R D).Reachable st' := by
    intro ls st' hr
    obtain ⟨s₀, ls₀, h₀, hr₀⟩ := h
    exact ⟨s₀, ls₀ ++ ls, h₀, hr₀.append hr.of_restrict⟩
  refine ⟨fun ls st' hr => ⟨?_, quiescent_iff (reachable ls st' hr)⟩, ?_⟩
  · have := hr.length_le hstep
    omega
  · obtain ⟨ls, st', hr, hq⟩ := LTS.exists_quiescent hstep st
    exact ⟨ls, st', hr, (quiescent_iff (reachable ls st' hr)).1 hq⟩

/-- After a firing of a node with one sensor and one receiver four steps are
left: a measurement, a put, an event and a call. -/
theorem oneFiring_drains : ∃ st, (lts Unit Unit).Run init
      [.start [.systemStats "attic"] takesAll, .node 0 .fire] st ∧ st.work = 4 ∧
    (∀ ls st', (working Unit Unit).Run st ls st' → ls.length ≤ st.work ∧
      ((working Unit Unit).Quiescent st' ↔ st'.Idle)) ∧
    ∃ ls st', (working Unit Unit).Run st ls st' ∧ st'.Idle :=
  have run : (lts Unit Unit).Run init [.start [.systemStats "attic"] takesAll, .node 0 .fire] _ :=
    LTS.run_of_exec rfl
  ⟨_, run, rfl, drains _ ⟨_, _, rfl, run⟩⟩

end SensorSamplor.Cluster
