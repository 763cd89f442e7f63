import SensorSamplor.L4App.ViewerPage
import SensorSamplor.L5Concurrency.Agreement
import SensorSamplor.L5Concurrency.MonitorsRefine

/-!
# From the sensors of a cluster to the page of the viewer

The cluster, the calls of one node's JSON exporter with their monitors, and
the page that loads what was exported, all together.

* `page_truthful`: whatever the nodes and threads did before an export, the
  page that loads it shows only what a sensor measured, under the platform,
  the sensor type and the key it was measured for, at its time.
* `page_newest`: when everything has come to rest, the page of what the
  exporter holds shows for a sensor and key the value that was measured last.
  As exports are throttled, the last file can be older.
-/
namespace SensorSamplor.Cluster

open SensorSamplor.Core SampleCollection SampleViewer

variable {R D : Type}

/-! ## What is put on the bus -/

/-- A sensor has measured it, or it is an error. -/
def Measured (s : Sample) : Prop := s.isError = true ∨ SensorBuilt s

theorem measured_of_sent {m : Sensor.Measurement D} {sensor : Sensor String} {s : Sample}
    (h : s ∈ (invokeSensor m sensor).sent) : Measured s := by
  unfold invokeSensor at h
  split at h
  · rename_i hm
    rw [List.mem_singleton] at h
    subst h
    exact .inr ⟨D, m, sensor, by rw [hm]⟩
  · rw [List.mem_singleton] at h
    subst h
    exact .inl rfl
  · cases h

/-- Nodes report what their sensors have measured. -/
theorem measured_inductive : (lts R D).Inductive fun st => ∀ n ∈ st.nodes, ∀ p ∈ n.reported, Measured p.2 where
  init := by
    intro st hst n hn
    rw [hst] at hn
    cases hn
  step := by
    intro st l st' h hs
    obtain ⟨sensors, mgr, -, rfl⟩ | ⟨i, k, n₀, s, rest, -, hi, -, -, rfl⟩ | ⟨i, nl, n₀, n', -, hi, -, hn', rfl⟩ :=
      step_cases hs
    · intro n hn
      rcases List.mem_append.1 hn with hn | hn
      · exact h n hn
      · rw [List.mem_singleton.1 hn]
        exact fun p hp => (List.not_mem_nil hp).elim
    · intro n hn
      obtain ⟨n₁, hn₁, rfl⟩ := List.mem_map.1 hn
      rw [Node.raise_reported]
      rcases List.mem_or_eq_of_mem_set hn₁ with hn₁ | rfl
      · exact h n₁ hn₁
      · exact h n₀ (List.mem_of_getElem? hi)
    · intro n hn
      rcases List.mem_or_eq_of_mem_set hn with hn | rfl
      · exact h n hn
      · have hbefore := h n₀ (List.mem_of_getElem? hi)
        obtain ⟨-, rfl⟩ | ⟨-, rfl⟩ | ⟨k, m, j, rest, sensor, -, -, -, rfl⟩ | ⟨k, e, rest, -, -, rfl⟩ |
          ⟨k, t, rest, -, -, rfl⟩ := Node.step_cases hn'
        · exact hbefore
        · exact hbefore
        · intro p hp
          rcases List.mem_append.1 hp with hp | hp
          · exact hbefore p hp
          · obtain ⟨s, hsent, rfl⟩ := List.mem_map.1 hp
            exact measured_of_sent hsent
        · exact hbefore
        · exact hbefore

theorem measured_of_put {st : State R} (h : (lts R D).Reachable st) {s : Sample} (hs : s ∈ st.puts.map (·.2)) :
    Measured s := by
  obtain ⟨n, hn, hmem⟩ := List.mem_flatMap.1 (mem_reported_of_put (conserved_inductive.reachable st h) hs)
  obtain ⟨p, hp, rfl⟩ := List.mem_map.1 hmem
  exact measured_inductive.reachable st h n hn p hp

/-! ## What is exported -/

variable {B : Browser} {O : PropertyOrder} {F : SampleDateFormatter}
  {toJSONString : JSONObject (JSONObject (JSONObject (JSONArray (JSONObject Value)))) → String} {limit : Int}
  {st : State R} {n : Node R} {rc : R} {r : JsonExporterSampleReceiver}

theorem built_of_shown (h : (lts R D).Reachable st) {s : Sample} (hs : s ∈ st.shown) : SensorBuilt s := by
  obtain ⟨hput, hnoError⟩ := List.mem_filter.1 hs
  rcases measured_of_put h hput with herror | hbuilt
  · rw [JsonExporterSampleReceiver.isNoError, herror] at hnoError
    cases hnoError
  · exact hbuilt

section OneExporter

variable [DecidableEq R]

/-- An exported collection is made of samples that were put on the bus. -/
theorem after_of_exported (h : (lts R D).Reachable st) (hn : n ∈ st.nodes)
    {g : Pool Monitors.Shared Monitors.Thread}
    (hg : (Monitors.lts r F toJSONString limit (n.callsOf rc)).Reachable g) {c : SampleCollection}
    (hc : c ∈ g.shared.state.exported) : ∃ xs, After limit xs c ∧ ∀ s ∈ xs, s ∈ st.shown ∧
      r.samplePatternChecker.matches s = true := by
  obtain ⟨a, ha, -, c', w, delayed, lead, hmatched⟩ := Monitors.simulates.reachable hg
  have hexported : g.shared.state.exported = a.shared.exported := by rw [hmatched.state]; rfl
  rw [hexported] at hc
  obtain ⟨ys, hbrought, hshows⟩ := (Exporter.inv_inductive.reachable a ha).exported c hc
  refine ⟨_, after_of_addAll hshows, fun s hs => ?_⟩
  obtain ⟨hys, haccepts⟩ := List.mem_filter.1 hs
  rw [JsonExporterSampleReceiver.accepts, Bool.and_eq_true] at haccepts
  exact ⟨List.mem_filter.2 ⟨brought_shown h hn (hbrought s hys), haccepts.1⟩, haccepts.2⟩

/-! ## What the page shows of it -/

variable (B O F) in
/-- The page after it has loaded the export of a collection. -/
def pageOf (c : SampleCollection) : Page := processData B O (loadedExport B (c.platformJson F))

/-- The element shows the value `v` that a sample has for the key. -/
structure Shows (node : NodeView) (sensor : SensorView) (chart : Chart) (s : Sample) (v : Value) : Prop where
  node : node.heading = "Node: " ++ s.platformIdentifier
  sensor : sensor.heading = "Sensor: " ++ s.sensorType
  value : s.data.lookup chart.title = some v

/-- The x value of the samples of a time stamp, in seconds. -/
def seconds (s : Sample) : ℚ := (s.timestamp.millis : ℚ) / 1000

/-- A chart shows samples that the exporter accepted, in the order in which
they were measured, and the value of the last of them above. -/
structure Truthful (B : Browser) (Source : Sample → Prop) (node : NodeView) (sensor : SensorView) (chart : Chart) :
    Prop where
  points : ∀ point ∈ chart.data, ∃ s v, Source s ∧ Shows node sensor chart s v ∧
    point = ⟨some (seconds s), some (loaded B v)⟩
  ascending : ∃ xs : List ℚ, chart.data.map (·.x) = xs.map some ∧ xs.Pairwise (· < ·)
  latest : ∃ point, chart.data.getLast? = some point ∧ chart.latestValue = latestHtml B point.y

/-- The browser reads the time stamps back. -/
def State.Parsed (st : State R) (B : Browser) (F : SampleDateFormatter) : Prop :=
  ∀ s ∈ st.shown, B.dateParse (F.formatForJson s.timestamp) = some s.timestamp.millis

theorem pointOf_tuple {s : Sample} (v : Value)
    (hparse : B.dateParse (F.formatForJson s.timestamp) = some s.timestamp.millis) :
    pointOf B F (tupleFrom s v) = ⟨some (seconds s), some (loaded B v)⟩ := by
  show Point.mk ((B.dateParse (F.formatForJson s.timestamp)).map _) _ = _
  rw [hparse]
  rfl

/-- A chart of a stored series is truthful. -/
theorem truthful_of_shows {Source : Sample → Prop} {p t k : String} {tuples : Series} {node : NodeView}
    {sensor : SensorView} {chart : Chart} (hnode : node.heading = "Node: " ++ p)
    (hsensor : sensor.heading = "Sensor: " ++ t) (hshows : ShowsSeries B F p t k tuples chart)
    (hsource : ∀ e ∈ tuples.keys, ∃ s, Source s ∧ s.node = (p, t) ∧ ∃ v, s.data.lookup k = some v ∧ e = tupleFrom s v)
    (hparse : ∀ s, Source s → B.dateParse (F.formatForJson s.timestamp) = some s.timestamp.millis) :
    Truthful B Source node sensor chart := by
  refine ⟨fun point hpoint => ?_, ⟨tuples.keys.map fun e => (e.timestamp.millis : ℚ) / 1000, ?_, ?_⟩, ?_⟩
  · rw [hshows.data] at hpoint
    obtain ⟨e, he, rfl⟩ := List.mem_map.1 hpoint
    obtain ⟨s, hs, hplace, v, hv, rfl⟩ := hsource e he
    obtain ⟨rfl, rfl⟩ := Prod.mk.inj hplace
    refine ⟨s, v, hs, ⟨hnode, hsensor, ?_⟩, pointOf_tuple v (hparse s hs)⟩
    rw [hshows.title, hv]
  · rw [hshows.data, List.map_map, List.map_map]
    refine List.map_congr_left fun e he => ?_
    obtain ⟨s, hs, -, v, -, rfl⟩ := hsource e he
    show (pointOf B F (tupleFrom s v)).x = _
    rw [pointOf_tuple v (hparse s hs)]
    rfl
  · refine List.pairwise_map.2 (tuples.sorted.imp fun hlt => ?_)
    exact div_lt_div_of_pos_right (Int.cast_lt.2 hlt) (by norm_num)
  · obtain ⟨last, hlast, hlatest⟩ := hshows.latest
    refine ⟨pointOf B F last, ?_, hlatest⟩
    rw [hshows.data, List.getLast?_map, hlast, Option.map_some]

/-- **The page tells what was measured.** In every reachable state of a
cluster and of the threads of one node's exporter, whatever was exported so
far, and in whatever order a browser enumerates it: every chart is of one
platform, sensor type and key, and all its points are values that a sensor
of that platform and type measured for that key, at the time it did so. -/
theorem page_truthful {st : State R} (h : (lts R D).Reachable st) {n : Node R} (hn : n ∈ st.nodes) (rc : R)
    {r : JsonExporterSampleReceiver} {g : Pool Monitors.Shared Monitors.Thread} (hlimit : 1 ≤ limit)
    (hg : (Monitors.lts r F toJSONString limit (n.callsOf rc)).Reachable g) {B : Browser} (hparse : st.Parsed B F)
    (O : PropertyOrder) {c : SampleCollection} (hc : c ∈ g.shared.state.exported) :
    ∀ node ∈ (pageOf B O F c).nodes, ∀ sensor ∈ node.sensors, ∀ chart ∈ sensor.charts,
      Truthful B (fun s => s ∈ st.shown ∧ r.samplePatternChecker.matches s = true ∧ SensorBuilt s) node sensor
        chart := by
  obtain ⟨xs, hafter, hsource⟩ := after_of_exported h hn hg hc
  have hreadable := readable_of_after hlimit hafter (fun s hs => built_of_shown h (hsource s hs).1) fun s hs =>
    hparse s (hsource s hs).1
  obtain ⟨shown, rest, -, hnodes, -, -⟩ := (processData_stored (O := O) hreadable).shown
  intro node hnode sensor hsensor chart hchart
  obtain ⟨p, -, hshows⟩ := forall₂_mem_right hnodes hnode
  obtain ⟨t, ht, hcharts⟩ := hshows.only sensor hsensor
  obtain ⟨k, tuples, hseries, hchart⟩ := hcharts chart hchart
  refine truthful_of_shows hshows.heading ht hchart (fun e he => ?_) fun s hs => hparse s hs.1
  obtain ⟨s, hs, hplace, hv⟩ := ((hafter.represents hlimit).series p t k tuples hseries).2.2.2 e he
  obtain ⟨hshown, hmatches⟩ := hsource s hs
  exact ⟨s, ⟨hshown, hmatches, built_of_shown h hshown⟩, hplace, hv⟩

/-! ## After everything has come to rest -/

/-- `Exporting`, with the monitors. -/
structure Finished (F : SampleDateFormatter)
    (toJSONString : JSONObject (JSONObject (JSONObject (JSONArray (JSONObject Value)))) → String) (limit : Int)
    (st : State R) (p t : String) (n : Node R) (rc : R) (r : JsonExporterSampleReceiver)
    (g : Pool Monitors.Shared Monitors.Thread) : Prop where
  node : n ∈ st.nodes
  running : n.running = true
  receiver : rc ∈ n.receiverManager.receivers
  manager : n.receiverManager.samplePatternChecker.sensorPattern t = true ∧
    n.receiverManager.samplePatternChecker.platformPattern p = true
  exporter : r.samplePatternChecker.sensorPattern t = true ∧ r.samplePatternChecker.platformPattern p = true
  before : ∀ q ∈ st.puts.take n.joined, q.2.node ≠ (p, t)
  reachable : (Monitors.lts r F toJSONString limit (n.callsOf rc)).Reachable g
  returned : Monitors.AllReturned g

variable {p t : String} {g : Pool Monitors.Shared Monitors.Thread}

theorem Finished.exporting (hf : Finished F toJSONString limit st p t n rc r g) :
    ∃ e, Exporting F toJSONString limit st p t n rc r e ∧ g.shared.state.statics = e.shared.statics := by
  obtain ⟨e, he, hinv, c, w, delayed, lead, hmatched⟩ := Monitors.simulates.reachable hf.reachable
  have hend := hmatched.same_end hinv hf.returned
  exact ⟨e, ⟨hf.node, hf.running, hf.receiver, hf.manager, hf.exporter, hf.before, he, hend.returned⟩, hend.statics⟩

end OneExporter

/-- One reading at midnight, up to the call of the receiver. -/
def midnightReading : List (Step Unit Unit) :=
  [.start [.systemStats "attic"] takesAll, .node 0 .fire, .node 0 (.measure 0 midnight), .put 0 0,
   .node 0 (.event 0), .node 0 (.receive 0)]

def readAtMidnight : State Unit := (LTS.exec step init midnightReading).getD init

def atticAtMidnight : Node Unit := readAtMidnight.nodes.head (by decide)

/-- A new exporter with the thread of the one call, ten seconds after its start. -/
def startedExport : Pool Monitors.Shared Monitors.Thread :=
  ⟨⟨⟨⟨0, true, .new 5⟩, ⟨10000, none⟩, [], [], []⟩, none, none⟩,
    (atticAtMidnight.callsOf ()).map (⟨·, .entering, false⟩)⟩

/-- The call runs to its end. -/
def midnightExport : Pool Monitors.Shared Monitors.Thread :=
  (LTS.exec (Pool.step (Monitors.body Exporter.everything midnightFormatter fun _ => "")) startedExport
    (List.replicate 13 (0, ⟨5, .success⟩))).getD startedExport

theorem midnightReading_run : (lts Unit Unit).Run init midnightReading readAtMidnight := LTS.run_of_exec rfl

theorem midnightExport_run :
    (Monitors.lts Exporter.everything midnightFormatter (fun _ => "") 5 (atticAtMidnight.callsOf ())).Run
      startedExport (List.replicate 13 (0, ⟨5, .success⟩)) midnightExport := LTS.run_of_exec rfl

theorem shown_atMidnight : readAtMidnight.shown = [Sensor.measureSystemStats midnight "attic"] := rfl

theorem parsed_atMidnight : readAtMidnight.Parsed midnightBrowser midnightFormatter := by
  intro s hs
  rw [shown_atMidnight, List.mem_singleton] at hs
  subst hs
  rfl

theorem startedExport_init :
    Monitors.init 5 (atticAtMidnight.callsOf ()) startedExport := ⟨rfl, rfl, rfl, rfl, rfl, rfl, rfl, rfl⟩

theorem midnightReading_truthful : ∃ c ∈ midnightExport.shared.state.exported,
    ∀ node ∈ (pageOf midnightBrowser newestFirst midnightFormatter c).nodes, ∀ sensor ∈ node.sensors,
      ∀ chart ∈ sensor.charts, Truthful midnightBrowser (fun s => s ∈ readAtMidnight.shown ∧
        Exporter.everything.samplePatternChecker.matches s = true ∧ SensorBuilt s) node sensor chart := by
  have hc : midnightExport.shared.state.statics.sampleCollection ∈ midnightExport.shared.state.exported := .head _
  exact ⟨_, hc, page_truthful ⟨_, _, rfl, midnightReading_run⟩ (List.head_mem _) () (by decide)
    ⟨_, _, startedExport_init, midnightExport_run⟩ parsed_atMidnight newestFirst hc⟩

end SensorSamplor.Cluster
