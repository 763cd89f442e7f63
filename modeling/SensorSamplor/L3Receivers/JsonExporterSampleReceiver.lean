import SensorSamplor.L3Receivers.StoreRuns

/-!
# The JSON exporter

`processSample` in its three parts: the import of the whole bus buffer on
the first run, the adding of the delivered sample, and the export when
enough time has passed. The fields that all receivers of a process share
(`static` in the source) are `Statics`; the exported file and the clock are
the `World`.

A write takes some time and then succeeds, or fails with an `IOException`,
which is logged, and leaves any file or none (`Write`).
-/
namespace SensorSamplor

open SensorSamplor.Core

/-- mirrors receiver.jsonexporter/receiver/exporter/JsonExporterSampleReceiver.java:36-52 -/
structure JsonExporterSampleReceiver where
  outputFile : String
  samplePatternChecker : SamplePatternChecker

namespace JsonExporterSampleReceiver

/-- mirrors receiver.jsonexporter/receiver/exporter/JsonExporterSampleReceiver.java:28 -/
def EXPORT_INTERVAL_SECONDS : Int := 10

/-- mirrors receiver.jsonexporter/receiver/exporter/JsonExporterSampleReceiver.java:32-40;
`lastExport` in milliseconds. -/
structure Statics where
  lastExport : Int
  firstRun : Bool
  sampleCollection : SampleCollection

/-- The clock, in milliseconds, and the file at `outputFile`. -/
structure World where
  now : Int
  file : Option String

/-- What a write of the file does. -/
inductive Write where
  | success (millis : Nat)
  | failure (millis : Nat) (file : Option String)

/-- mirrors receiver.jsonexporter/receiver/exporter/JsonExporterSampleReceiver.java:79-81 -/
def isNoError (sample : Sample) : Bool := !sample.isError

/-- mirrors receiver.jsonexporter/receiver/exporter/JsonExporterSampleReceiver.java:71-77 -/
def addToCollection (r : JsonExporterSampleReceiver) (c : SampleCollection) (sample : Sample) :
    Except Fault SampleCollection :=
  if isNoError sample && r.samplePatternChecker.matches sample then c.addSample sample else .ok c

/-- mirrors receiver.jsonexporter/receiver/exporter/JsonExporterSampleReceiver.java:61-69 -/
def importCompleteBufferIfFirstRun (r : JsonExporterSampleReceiver) (st : Statics)
    (sampleBuffer : List Sample) : Except Fault Statics :=
  if st.firstRun then
    (sampleBuffer.foldlM r.addToCollection st.sampleCollection).map fun c =>
      { st with sampleCollection := c, firstRun := false }
  else .ok st

/-- mirrors receiver.jsonexporter/receiver/exporter/JsonExporterSampleReceiver.java:94-97 -/
def areAtLeastSecondsPassedBetween (t0 t1 seconds : Int) : Bool := decide (t0 + 1000 * seconds ≤ t1)

/-- mirrors receiver.jsonexporter/receiver/exporter/JsonExporterSampleReceiver.java:90-92 -/
def enoughTimeHasPassed (st : Statics) (w : World) : Bool :=
  areAtLeastSecondsPassedBetween st.lastExport w.now EXPORT_INTERVAL_SECONDS

section
variable (F : SampleDateFormatter)
  (toJSONString : JSONObject (JSONObject (JSONObject (JSONArray (JSONObject Value)))) → String)

/-- mirrors receiver.jsonexporter/receiver/exporter/JsonExporterSampleReceiver.java:103-121 -/
def exportCollectionWithErrorHandling (st : Statics) (w : World) : Write → Statics × World
  | .success millis =>
    let json := st.sampleCollection.toJSON F toJSONString
    ({ st with lastExport := w.now + millis }, { now := w.now + millis, file := some json })
  | .failure millis file => (st, { now := w.now + millis, file := file })

/-- mirrors receiver.jsonexporter/receiver/exporter/JsonExporterSampleReceiver.java:83-88 -/
def conditionallyCreateExport (st : Statics) (w : World) (write : Write) : Statics × World :=
  if enoughTimeHasPassed st w then exportCollectionWithErrorHandling F toJSONString st w write
  else (st, w)

/-- No attempt before it is time, else an export that succeeds, or one that fails. -/
theorem conditionallyCreateExport_cases (st : Statics) (w : World) (write : Write) :
    (enoughTimeHasPassed st w = false ∧ conditionallyCreateExport F toJSONString st w write = (st, w)) ∨
    (enoughTimeHasPassed st w = true ∧ ∃ millis, write = .success millis ∧
      conditionallyCreateExport F toJSONString st w write =
        ({ st with lastExport := w.now + millis },
          ⟨w.now + millis, some (st.sampleCollection.toJSON F toJSONString)⟩)) ∨
    (enoughTimeHasPassed st w = true ∧ ∃ millis file, write = .failure millis file ∧
      conditionallyCreateExport F toJSONString st w write = (st, ⟨w.now + millis, file⟩)) := by
  unfold conditionallyCreateExport
  cases enoughTimeHasPassed st w with
  | false => exact .inl ⟨rfl, rfl⟩
  | true =>
    cases write with
    | success millis => exact .inr (.inl ⟨rfl, millis, rfl, rfl⟩)
    | failure millis file => exact .inr (.inr ⟨rfl, millis, file, rfl, rfl⟩)

end

/-! ## The filter -/

/-- The samples that the exporter takes. -/
def accepts (r : JsonExporterSampleReceiver) (sample : Sample) : Bool :=
  isNoError sample && r.samplePatternChecker.matches sample

theorem addToCollection_eq (r : JsonExporterSampleReceiver) (c : SampleCollection) (sample : Sample) :
    r.addToCollection c sample = if r.accepts sample then c.addSample sample else .ok c := rfl

/-- A loop of `addToCollection` adds the accepted samples in order. -/
theorem foldlM_addToCollection (r : JsonExporterSampleReceiver) (xs : List Sample) (c : SampleCollection) :
    xs.foldlM r.addToCollection c = c.addAll (xs.filter r.accepts) := by
  induction xs generalizing c with
  | nil => rfl
  | cons x xs ih =>
    rw [List.foldlM_cons, List.filter_cons, addToCollection_eq]
    by_cases h : r.accepts x = true
    · rw [if_pos h, if_pos h]
      show _ = c.addSample x >>= fun c => c.addAll (xs.filter r.accepts)
      cases c.addSample x with
      | error f => rfl
      | ok c' => exact ih c'
    · rw [if_neg h, if_neg h]
      exact ih c

/-- What a collection that shows the accepted samples `xs` exports: no
platform, sensor or value that is not an accepted sample's. -/
structure Clean (r : JsonExporterSampleReceiver) (F : SampleDateFormatter) (xs : List Sample)
    (c : SampleCollection) : Prop where
  platforms : ∀ p, ((c.platformJson F).lookup p).isSome = true →
    r.samplePatternChecker.platformPattern p = true
  sensors : ∀ p t, (((c.platformJson F).lookup p).bind (·.lookup t)).isSome = true →
    r.samplePatternChecker.sensorPattern t = true
  values : ∀ p t k array, c.arrayAt F p t k = some array → ∀ o ∈ array, ∃ s ∈ xs,
    s.isError = false ∧ s.node = (p, t) ∧ ∃ v, s.data.lookup k = some v ∧
      o = SampleCollection.entry F (SampleCollection.tupleFrom s v)

theorem clean_of_after {r : JsonExporterSampleReceiver} (F : SampleDateFormatter) {n : Int}
    {xs : List Sample} {c : SampleCollection} (h : SampleCollection.After n xs c)
    (hxs : ∀ s ∈ xs, r.accepts s = true) :
    Clean r F xs c := by
  have accepted : ∀ s ∈ xs, s.isError = false ∧
      r.samplePatternChecker.sensorPattern s.sensorType = true ∧
      r.samplePatternChecker.platformPattern s.platformIdentifier = true := by
    intro s hs
    simpa [accepts, isNoError, SamplePatternChecker.matches] using hxs s hs
  have hjson : ∀ p, ((c.platformJson F).lookup p).isSome = c.hasNode p := by
    intro p
    rw [SampleCollection.platformJson, Dict.lookup_build, Option.isSome_map]
    rfl
  refine ⟨fun p hp => ?_, fun p t ht => ?_, fun p t k array ha o ho => ?_⟩
  · rw [hjson] at hp
    obtain ⟨s, hs, rfl⟩ := (h.nodes p).1 hp
    exact (accepted s hs).2.2
  · have hsensor : (c.sensorAt p t).isSome = true := by
      rw [SampleCollection.platformJson, Dict.lookup_build] at ht
      unfold SampleCollection.sensorAt SampleCollection.getNode
      cases hp : c.data.lookup p with
      | none => rw [hp] at ht; cases ht
      | some sensors =>
        rw [hp, Option.map_some, Option.bind_some, Dict.lookup_build, Option.isSome_map] at ht
        exact ht
    rw [h.sensors, SampleCollection.sensorOf_isSome] at hsensor
    obtain ⟨s, hs⟩ := hsensor
    obtain ⟨hmem, hnode⟩ := SampleCollection.mem_ofNode.1 hs
    cases hnode
    exact (accepted s hmem).2.1
  · rw [SampleCollection.arrayAt_eq, Option.map_eq_some_iff] at ha
    obtain ⟨tuples, ht, rfl⟩ := ha
    obtain ⟨e, he, rfl⟩ := List.mem_map.1 ho
    rw [SampleCollection.seriesAt, h.sensors] at ht
    obtain ⟨s, hs, v, hv, rfl⟩ := (SampleCollection.seriesOf_holds _ k ht).source e he
    obtain ⟨hmem, hnode⟩ := SampleCollection.mem_ofNode.1 hs
    exact ⟨s, hmem, (accepted s hmem).1, hnode, v, hv, rfl⟩

end JsonExporterSampleReceiver
end SensorSamplor
