import SensorSamplor.L3Receivers.Window
import SensorSamplor.L5Concurrency.ClusterReports
import SensorSamplor.L5Concurrency.Exporter

/-!
# Two exporters agree

The cluster and the exporters of two of its nodes together. A node calls its
JSON exporter once for each put that it sees, with whatever the map holds at
that moment; the exporter's threads run in any order. Once the cluster is
idle and the calls have returned, what an exporter shows of a sensor depends
only on what was put on the bus, for a node that had started before the
sensor's first put: the buffer that the first call imports adds nothing that
is not put, and the order of arrival shows only in what the eviction cuts
off below the window.

The calls of one node are all started threads of the `Exporter` pool, so its
runs cover every order in which they start and run.
-/
namespace SensorSamplor.Cluster

open SensorSamplor.Core SampleCollection

variable {R D : Type}

/-! ## What the calls carry -/

/-- The map is what the puts made of it; a call is of the method for its
sample, and its buffer holds only what was put. -/
structure Buffered (st : State R) : Prop where
  map : st.distributedMap = .putAll (st.puts.map (·.2))
  calls : ∀ n ∈ st.nodes, ∀ c ∈ n.calls, (c.method = .processSample ↔ c.sample.isError = false) ∧
    ∀ s ∈ c.sampleBuffer, s ∈ st.puts.map (·.2)

@[simp] theorem Node.raise_calls (e : EntryEvent) (n : Node R) : (n.raise e).calls = n.calls := by
  unfold Node.raise; split <;> rfl

/-- A step of a node makes at most one call, with the entries of the map. -/
theorem Node.step_calls {map : DistributedMap} {n n' : Node R} {l : NodeStep D} (hs : n.step map l = some n') :
    ∀ c ∈ n'.calls, c ∈ n.calls ∨ ∃ t : ReceiverRunner R, c = t.invokeSampleReceiver map.getCurrentEntries := by
  obtain ⟨-, rfl⟩ | ⟨-, rfl⟩ | ⟨k, m, j, rest, sensor, -, -, -, rfl⟩ | ⟨k, e, rest, -, -, rfl⟩ |
    ⟨k, t, rest, -, -, rfl⟩ := Node.step_cases hs
  · exact fun c hc => .inl hc
  · exact fun c hc => .inl hc
  · exact fun c hc => .inl hc
  · exact fun c hc => .inl hc
  · intro c hc
    rcases List.mem_append.1 hc with hc | hc
    · exact .inl hc
    · exact .inr ⟨t, List.mem_singleton.1 hc⟩

theorem buffered_inductive : (lts R D).Inductive Buffered where
  init := by
    intro st hst
    rw [hst]
    exact ⟨rfl, fun n hn => (List.not_mem_nil hn).elim⟩
  step := by
    intro st l st' h hs
    obtain ⟨sensors, mgr, -, rfl⟩ | ⟨i, k, n₀, s, rest, -, hi, -, -, rfl⟩ | ⟨i, nl, n₀, n', -, hi, -, hn', rfl⟩ :=
      step_cases hs
    · refine ⟨h.map, fun n hn => ?_⟩
      rcases List.mem_append.1 hn with hn | hn
      · exact h.calls n hn
      · rw [List.mem_singleton.1 hn]
        exact fun c hc => (List.not_mem_nil hc).elim
    · refine ⟨?_, fun n hn c hc => ?_⟩
      · show st.distributedMap.put s = .putAll ((st.puts ++ [(i, s)]).map (·.2))
        rw [h.map, List.map_append, DistributedMap.putAll, DistributedMap.putAll, List.foldl_append]
        rfl
      · have hcall : ∃ n₁ ∈ st.nodes, c ∈ n₁.calls := by
          obtain ⟨n₁, hn₁, rfl⟩ := List.mem_map.1 hn
          rw [Node.raise_calls] at hc
          rcases List.mem_or_eq_of_mem_set hn₁ with hn₁ | rfl
          · exact ⟨n₁, hn₁, hc⟩
          · exact ⟨n₀, List.mem_of_getElem? hi, hc⟩
        obtain ⟨n₁, hn₁, hc₁⟩ := hcall
        obtain ⟨hmethod, hbuffer⟩ := h.calls n₁ hn₁ c hc₁
        refine ⟨hmethod, fun x hx => ?_⟩
        show x ∈ (st.puts ++ [(i, s)]).map (·.2)
        rw [List.map_append]
        exact List.mem_append_left _ (hbuffer x hx)
    · refine ⟨h.map, fun n hn c hc => ?_⟩
      rcases List.mem_or_eq_of_mem_set hn with hn | rfl
      · exact h.calls n hn c hc
      · rcases Node.step_calls hn' c hc with hc | ⟨t, rfl⟩
        · exact h.calls n₀ (List.mem_of_getElem? hi) c hc
        · refine ⟨?_, fun x hx => ?_⟩
          · rw [invokeSampleReceiver_method, invokeSampleReceiver_sample]
          · rw [invokeSampleReceiver_sampleBuffer, h.map] at hx
            exact DistributedMap.mem_puts hx

/-! ## The calls of one exporter -/

section OneExporter

variable [DecidableEq R]

/-- The calls of `processSample` that a node made on its receiver `rc`. -/
def Node.callsOf (n : Node R) (rc : R) : List Exporter.Call :=
  n.calls.filterMap fun c =>
    if c.receiver = rc ∧ c.method = .processSample then some ⟨c.sampleBuffer, c.sample⟩ else none

/-- What was put on the bus, without the errors. -/
def State.shown (st : State R) : List Sample :=
  (st.puts.map (·.2)).filter JsonExporterSampleReceiver.isNoError

theorem mem_callsOf {n : Node R} {rc : R} {call : Exporter.Call} : call ∈ n.callsOf rc ↔
    ∃ c ∈ n.calls, c.receiver = rc ∧ c.method = .processSample ∧ call = ⟨c.sampleBuffer, c.sample⟩ := by
  unfold Node.callsOf
  rw [List.mem_filterMap]
  refine exists_congr fun c => and_congr_right fun _ => ?_
  split
  · rename_i h
    simp only [Option.some.injEq, h.1, h.2, true_and]
    exact eq_comm
  · rename_i h
    exact iff_of_false nofun fun hc => h ⟨hc.1, hc.2.1⟩

/-- An idle node has handed its exporter what it saw put, if its patterns
match and it is no error. -/
theorem called_of_idle {st : State R} (h : (lts R D).Reachable st) (hidle : st.Idle) {n : Node R}
    (hn : n ∈ st.nodes) (hrunning : n.running = true) {rc : R} (hrc : rc ∈ n.receiverManager.receivers)
    {x : Sample} (hx : x ∈ st.putsSince n) (hmatches : n.receiverManager.samplePatternChecker.matches x = true)
    (herror : x.isError = false) : ∃ call ∈ n.callsOf rc, call.sample = x := by
  obtain ⟨-, -, hevents, hrunners⟩ := hidle n hn hrunning
  have hcalled := called_running h hn hrunning rc x
  have howed : n.owed rc x = 0 := by simp [Node.owed, hevents, hrunners]
  have hdue : 0 < n.receiverManager.due rc x := by
    rw [SampleReceiverManager.due, if_pos hmatches]
    exact List.count_pos_iff.2 hrc
  have hpos : 0 < n.called rc x := by
    have := Nat.mul_pos (List.count_pos_iff.2 hx) hdue
    omega
  obtain ⟨c, hc, hcx⟩ := List.countP_pos_iff.1 hpos
  obtain ⟨hreceiver, rfl⟩ := of_decide_eq_true hcx
  have hmethod := ((buffered_inductive.reachable st h).calls n hn c hc).1.2 herror
  exact ⟨_, mem_callsOf.2 ⟨c, hc, hreceiver, hmethod, rfl⟩, rfl⟩

/-- What the calls bring to an exporter was put on the bus. -/
theorem brought_shown {st : State R} (h : (lts R D).Reachable st) {n : Node R} (hn : n ∈ st.nodes) {rc : R}
    {s : Sample} (hs : Exporter.Brought (n.callsOf rc) s) : s ∈ st.puts.map (·.2) := by
  obtain ⟨call, hcall, hs⟩ := hs
  obtain ⟨c, hc, -, -, rfl⟩ := mem_callsOf.1 hcall
  rcases hs with hs | rfl
  · exact ((buffered_inductive.reachable st h).calls n hn c hc).2 s hs
  · have hle := called_le h hn c.receiver c.sample
    have hcalled : 0 < n.called c.receiver c.sample :=
      List.countP_pos_iff.2 ⟨c, hc, decide_eq_true ⟨rfl, rfl⟩⟩
    have hpos : 0 < (st.puts.map (·.2)).count c.sample := by
      by_contra hzero
      rw [Nat.eq_zero_of_not_pos hzero, Nat.zero_mul] at hle
      omega
    exact List.count_pos_iff.1 hpos

/-- A running node with the exporter `r` as its receiver `rc`, which had
started before the sensor `(p, t)` put anything, takes the sensor, and whose
exporter calls have all returned, in the state `e`. -/
structure Exporting (F : SampleDateFormatter)
    (toJSONString : JSONObject (JSONObject (JSONObject (JSONArray (JSONObject Value)))) → String) (limit : Int)
    (st : State R) (p t : String) (n : Node R) (rc : R) (r : JsonExporterSampleReceiver)
    (e : Pool Exporter.Shared Exporter.Thread) : Prop where
  node : n ∈ st.nodes
  running : n.running = true
  receiver : rc ∈ n.receiverManager.receivers
  manager : n.receiverManager.samplePatternChecker.sensorPattern t = true ∧
    n.receiverManager.samplePatternChecker.platformPattern p = true
  exporter : r.samplePatternChecker.sensorPattern t = true ∧ r.samplePatternChecker.platformPattern p = true
  before : ∀ q ∈ st.puts.take n.joined, q.2.node ≠ (p, t)
  reachable : (Exporter.lts r F toJSONString limit (n.callsOf rc)).Reachable e
  returned : Exporter.AllReturned e

variable {F : SampleDateFormatter}
  {toJSONString : JSONObject (JSONObject (JSONObject (JSONArray (JSONObject Value)))) → String} {limit : Int}
  {st : State R} {p t : String} {n : Node R} {rc : R} {r : JsonExporterSampleReceiver}
  {e : Pool Exporter.Shared Exporter.Thread}

/-- The samples of the sensor that the exporter's collection is made of are
those shown on the bus. -/
theorem Exporting.collection (he : Exporting F toJSONString limit st p t n rc r e)
    (h : (lts R D).Reachable st) (hidle : st.Idle) : ∃ xs, After limit xs e.shared.statics.sampleCollection ∧
      (∀ s ∈ xs, s ∈ st.shown) ∧ ∀ s, s.node = (p, t) → (s ∈ xs ↔ s ∈ st.shown) := by
  -- the samples that one sequential run takes, unfiltered
  obtain ⟨ys, hafter, hsub, hsup⟩ : ∃ ys : List Sample,
      After limit (ys.filter r.accepts) e.shared.statics.sampleCollection ∧
      (∀ s ∈ ys, Exporter.Brought (n.callsOf rc) s) ∧ ∀ call ∈ n.callsOf rc, call.sample ∈ ys := by
    obtain ⟨hperm, hnil, hcons⟩ := (Exporter.Inv.sequential
      (Exporter.inv_inductive.reachable e he.reachable) F).finished he.returned
    by_cases hcalls : n.callsOf rc = []
    · refine ⟨[], ?_, fun s hs => (List.not_mem_nil hs).elim, fun call hcall => ?_⟩
      · rw [hnil hcalls]
        exact after_new limit
      · rw [hcalls] at hcall
        cases hcall
    · obtain ⟨j, call, hj, -, hshows⟩ := hcons hcalls
      refine ⟨call.sampleBuffer ++ e.shared.added, after_of_addAll hshows, fun s hs => ?_, fun c hc => ?_⟩
      · rcases List.mem_append.1 hs with hs | hs
        · exact ⟨call, List.mem_of_getElem? hj, .inl hs⟩
        · obtain ⟨c, hc, rfl⟩ := List.mem_map.1 (hperm.subset hs)
          exact ⟨c, hc, .inr rfl⟩
      · exact List.mem_append_right _ (hperm.symm.subset (List.mem_map_of_mem hc))
  have hshown : ∀ s ∈ ys.filter r.accepts, s ∈ st.shown := by
    intro s hs
    obtain ⟨hys, haccepts⟩ := List.mem_filter.1 hs
    rw [JsonExporterSampleReceiver.accepts, Bool.and_eq_true] at haccepts
    exact List.mem_filter.2 ⟨brought_shown h he.node (hsub s hys), haccepts.1⟩
  refine ⟨_, hafter, hshown, fun s hnode => ⟨hshown s, fun hs => ?_⟩⟩
  obtain ⟨hput, herror⟩ := List.mem_filter.1 hs
  obtain ⟨rfl, rfl⟩ := Prod.mk.inj hnode
  have hsince : s ∈ st.putsSince n := by
    rw [← List.take_append_drop n.joined st.puts, List.map_append] at hput
    rcases List.mem_append.1 hput with htake | hdrop
    · obtain ⟨q, hq, rfl⟩ := List.mem_map.1 htake
      exact absurd rfl (he.before q hq)
    · exact hdrop
  have hmatches : n.receiverManager.samplePatternChecker.matches s = true := by
    simp only [SamplePatternChecker.matches, he.manager.1, he.manager.2, Bool.and_self]
  have hfalse : s.isError = false := by simpa [JsonExporterSampleReceiver.isNoError] using herror
  obtain ⟨call, hcall, rfl⟩ := called_of_idle h hidle he.node he.running he.receiver hsince hmatches hfalse
  refine List.mem_filter.2 ⟨hsup call hcall, ?_⟩
  simp only [JsonExporterSampleReceiver.accepts, herror, SamplePatternChecker.matches, he.exporter.1,
    he.exporter.2, Bool.and_self]

theorem offered_congr {xs ys : List Sample} (h : ∀ s, s.node = (p, t) → (s ∈ xs ↔ s ∈ ys)) (k : String) :
    offered p t k xs = offered p t k ys := by
  ext m
  simp only [offered, mem_millisOf, List.mem_filter, mem_ofNode, and_assoc]
  refine exists_congr fun s => ⟨fun hs => ?_, fun hs => ?_⟩
  · exact ⟨(h s hs.2.1).1 hs.1, hs.2⟩
  · exact ⟨(h s hs.2.1).2 hs.1, hs.2⟩

/-- **What an exporter ends up with.** A series for each key that the sensor
put on the bus, and in it the window of the time stamps put. -/
theorem Exporting.shows (he : Exporting F toJSONString limit st p t n rc r e) (h : (lts R D).Reachable st)
    (hidle : st.Idle) (hkeys : SameKeys st.shown) (k : String) :
    ((e.shared.statics.sampleCollection.seriesAt p t k).isSome = true ↔
      ∃ s ∈ st.shown, s.node = (p, t) ∧ k ∈ s.data) ∧
    ∀ tuples, e.shared.statics.sampleCollection.seriesAt p t k = some tuples →
      Window limit (offered p t k st.shown) tuples ∧
      ∀ u ∈ tuples.keys, ∃ s ∈ st.shown, s.node = (p, t) ∧ ∃ v, s.data.lookup k = some v ∧ u = tupleFrom s v := by
  obtain ⟨xs, hafter, hsub, hiff⟩ := he.collection h hidle
  have hseries : e.shared.statics.sampleCollection.seriesAt p t k = seriesOf limit (ofNode (p, t) xs) k := by
    rw [seriesAt, hafter.sensors, seriesOf]
  refine ⟨?_, fun tuples ht => ⟨?_, fun u hu => ?_⟩⟩
  · rw [hseries, seriesOf_isSome]
    refine exists_congr fun s => ?_
    rw [mem_ofNode, and_assoc]
    refine ⟨fun hs => ?_, fun hs => ?_⟩
    · exact ⟨hsub s hs.1, hs.2⟩
    · exact ⟨(hiff s hs.2.1).2 hs.1, hs.2⟩
  · rw [← offered_congr hiff k]
    exact hafter.window (fun a ha b hb => hkeys a (hsub a ha) b (hsub b hb)) ht
  · rw [hseries] at ht
    obtain ⟨s, hs, v, hv, rfl⟩ := (seriesOf_holds _ k ht).source u hu
    obtain ⟨hmem, hnode⟩ := mem_ofNode.1 hs
    exact ⟨s, hsub s hmem, hnode, v, hv, rfl⟩

/-- Two collections agree on a sensor: the same keys, each series with the
window of the same time stamps, and the same latest entry. -/
structure Agree (limit : Int) (shown : List Sample) (p t : String) (c c' : SampleCollection) : Prop where
  keys : ∀ k, (c.seriesAt p t k).isSome = true ↔ (c'.seriesAt p t k).isSome = true
  windows : ∀ k tuples tuples', c.seriesAt p t k = some tuples → c'.seriesAt p t k = some tuples' →
    Window limit (offered p t k shown) tuples ∧ Window limit (offered p t k shown) tuples'
  latest : 2 ≤ limit → ∀ k tuples tuples', c.seriesAt p t k = some tuples → c'.seriesAt p t k = some tuples' →
    ∃ u u', tuples.keys.getLast? = some u ∧ tuples'.keys.getLast? = some u' ∧
      u.timestamp.millis = u'.timestamp.millis ∧
      ((∀ a ∈ shown, ∀ b ∈ shown, a.node = (p, t) → b.node = (p, t) →
        a.timestamp.millis = b.timestamp.millis → a = b) → u = u')

/-- **Agreement.** In an idle cluster whose samples of one sensor have the
same keys, any two nodes that had started before a sensor put anything and
take it agree on it, whatever the order in which senders, events, receiver
threads and the threads of the two exporters ran. -/
theorem exporters_agree (st : State R) (h : (lts R D).Reachable st) (hidle : st.Idle) (hkeys : SameKeys st.shown)
    {n n' : Node R} {rc rc' : R} {r r' : JsonExporterSampleReceiver} {e e' : Pool Exporter.Shared Exporter.Thread}
    (he : Exporting F toJSONString limit st p t n rc r e)
    (he' : Exporting F toJSONString limit st p t n' rc' r' e') :
    Agree limit st.shown p t e.shared.statics.sampleCollection e'.shared.statics.sampleCollection := by
  refine ⟨fun k => ?_, fun k s s' hs hs' => ⟨?_, ?_⟩, fun hlimit k s s' hs hs' => ?_⟩
  · exact (he.shows h hidle hkeys k).1.trans (he'.shows h hidle hkeys k).1.symm
  · exact ((he.shows h hidle hkeys k).2 s hs).1
  · exact ((he'.shows h hidle hkeys k).2 s' hs').1
  · obtain ⟨hw, hsource⟩ := (he.shows h hidle hkeys k).2 s hs
    obtain ⟨hw', hsource'⟩ := (he'.shows h hidle hkeys k).2 s' hs'
    obtain ⟨u, hu, hmem, hmax⟩ := hw.last hlimit
    obtain ⟨u', hu', hmem', hmax'⟩ := hw'.last hlimit
    have hmillis : u.timestamp.millis = u'.timestamp.millis := le_antisymm (hmax' _ hmem) (hmax _ hmem')
    refine ⟨u, u', hu, hu', hmillis, fun hdistinct => ?_⟩
    obtain ⟨a, ha, hanode, v, hv, rfl⟩ := hsource u (List.mem_of_getLast? hu)
    obtain ⟨b, hb, hbnode, v', hv', rfl⟩ := hsource' u' (List.mem_of_getLast? hu')
    obtain rfl := hdistinct a ha b hb hanode hbnode hmillis
    rw [hv, Option.some.injEq] at hv'
    rw [hv']

end OneExporter

/-- Two readings of one sensor, which the second node receives in reverse. -/
def crossedReadings : List (Step Unit Unit) :=
  [.start [.systemStats "attic"] takesAll, .start [] takesAll, .node 0 .fire, .node 0 .fire,
   .node 0 (.measure 0 Sensor.quiet),
   .node 0 (.measure 0 { Sensor.quiet with uuid := ⟨0, 2⟩, now := ⟨1, "UTC"⟩ }), .put 0 0, .put 0 0,
   .node 0 (.event 0), .node 0 (.event 0), .node 0 (.receive 0), .node 0 (.receive 0),
   .node 1 (.event 1), .node 1 (.event 0), .node 1 (.receive 0), .node 1 (.receive 0)]

def crossed : State Unit := (LTS.exec step init crossedReadings).getD init

/-- The exporter that takes everything, and prints nothing of it. -/
def quietBody (i : Nat) : Exporter.Shared → Exporter.Thread → Exporter.Env →
    Option (Exporter.Shared × Exporter.Thread) :=
  Exporter.body Exporter.everything ⟨fun _ => "", fun _ => ""⟩ (fun _ => "") i

/-- A new exporter with the threads of two calls. -/
def exporting (calls : List Exporter.Call) : Pool Exporter.Shared Exporter.Thread :=
  ⟨⟨⟨0, true, .new 5⟩, ⟨0, none⟩, [], [], []⟩, calls.map (⟨·, .importing⟩)⟩

def oneAfterAnother : List (Nat × Exporter.Env) := [0, 0, 0, 1, 1, 1].map (·, ⟨0, .success 1⟩)

/-- The exporter after the threads ran one after the other. -/
def exported (calls : List Exporter.Call) : Pool Exporter.Shared Exporter.Thread :=
  (LTS.exec (Pool.step quietBody) (exporting calls) oneAfterAnother).getD (exporting calls)

theorem exported_reachable {calls : List Exporter.Call}
    (h : (LTS.exec (Pool.step quietBody) (exporting calls) oneAfterAnother).isSome = true) :
    (Exporter.lts Exporter.everything ⟨fun _ => "", fun _ => ""⟩ (fun _ => "") 5 calls).Reachable
      (exported calls) := by
  refine ⟨exporting calls, oneAfterAnother, ⟨rfl, rfl, rfl, rfl, rfl, rfl⟩, LTS.run_of_exec ?_⟩
  obtain ⟨e, he⟩ := Option.isSome_iff_exists.1 h
  rw [exported, he]
  exact he

theorem crossedReadings_agree :
    Agree 5 crossed.shown "attic" "systemStats"
      (exported ((crossed.nodes.head (by decide)).callsOf ())).shared.statics.sampleCollection
      (exported ((crossed.nodes.getLast (by decide)).callsOf ())).shared.statics.sampleCollection := by
  have run : (lts Unit Unit).Run init crossedReadings crossed := LTS.run_of_exec rfl
  have first : Exporting ⟨fun _ => "", fun _ => ""⟩ (fun _ => "") 5 crossed "attic" "systemStats"
      (crossed.nodes.head (by decide)) () Exporter.everything
      (exported ((crossed.nodes.head (by decide)).callsOf ())) :=
    ⟨List.head_mem _, rfl, .head _, ⟨rfl, rfl⟩, ⟨rfl, rfl⟩, nofun, exported_reachable (by decide +kernel),
      by unfold Exporter.AllReturned; decide +kernel⟩
  have second : Exporting ⟨fun _ => "", fun _ => ""⟩ (fun _ => "") 5 crossed "attic" "systemStats"
      (crossed.nodes.getLast (by decide)) () Exporter.everything
      (exported ((crossed.nodes.getLast (by decide)).callsOf ())) :=
    ⟨List.getLast_mem _, rfl, .head _, ⟨rfl, rfl⟩, ⟨rfl, rfl⟩, nofun, exported_reachable (by decide +kernel),
      by unfold Exporter.AllReturned; decide +kernel⟩
  refine exporters_agree crossed ⟨_, _, rfl, run⟩ (by unfold State.Idle; decide) ?_ first second
  -- both readings have the two keys of the sensor
  have hdata : ∀ s ∈ crossed.shown,
      s.data = (Sensor.measureSystemStats (Sensor.quiet (D := Unit)) "attic").data := by decide
  intro a ha b hb _ k hk
  rw [hdata b hb, ← hdata a ha]
  exact hk

end SensorSamplor.Cluster
