import SensorSamplor.Core.TreeKeys
import SensorSamplor.L1Data.Sample

/-!
# The sample store of the JSON exporter

`SampleCollection` keeps, for every platform, sensor type and data key, a
`TreeMap` of `SampleTuple`s that compare by time stamp only. The levels are
created when a sample first needs them, and when a sample brings a key its
sensor does not have yet, the series of all of the sample's keys are created
anew. The model follows the code and its faults: a `null` that is
dereferenced (`nullPointer`) and the eviction loop, which a limit below one
never ends (`diverges`).

`addSample_spec` says, for a limit of at least one, what a call does: it
does not fault, and it changes nothing but the series of the sample's own
platform and sensor type, which it gives the value `recorded`. With a lower
limit a sample that has values is never added (`addSample_diverges`).
-/
namespace SensorSamplor

open SensorSamplor.Core

/-- mirrors receiver.jsonexporter/receiver/exporter/SampleCollection.java:148-177 -/
structure SampleTuple where
  id : String
  timestamp : DateTime
  value : Value
  deriving DecidableEq

/-- mirrors receiver.jsonexporter/receiver/exporter/SampleCollection.java:173-176:
what `compareTo` compares. -/
def SampleTuple.rank (t : SampleTuple) : Int := t.timestamp.millis

/-- The keys of a `TreeMap<SampleTuple, String>`; its values are all null. -/
abbrev Series := TreeKeys SampleTuple.rank

/-- The series of one platform and sensor type by data key. -/
abbrev SensorMap := Dict String Series

/-- mirrors receiver.jsonexporter/receiver/exporter/SampleCollection.java:25-32 -/
structure SampleCollection where
  maximumEntriesPerSensor : Int
  data : Dict String (Dict String SensorMap)

inductive Fault where
  | nullPointer
  | diverges
  deriving DecidableEq

namespace SampleCollection

def new (maximumEntriesPerSensor : Int) : SampleCollection := ⟨maximumEntriesPerSensor, ∅⟩

/-- mirrors receiver.jsonexporter/receiver/exporter/SampleCollection.java:66-68 -/
def getNode (c : SampleCollection) (node : String) : Option (Dict String SensorMap) := c.data.lookup node

/-- mirrors receiver.jsonexporter/receiver/exporter/SampleCollection.java:58-60 -/
def hasNode (c : SampleCollection) (node : String) : Bool := (c.getNode node).isSome

/-- mirrors receiver.jsonexporter/receiver/exporter/SampleCollection.java:86-88 -/
def getSensor (c : SampleCollection) (node sensor : String) : Except Fault (Option SensorMap) :=
  match c.getNode node with
  | none => .error .nullPointer
  | some sensors => .ok (sensors.lookup sensor)

/-- mirrors receiver.jsonexporter/receiver/exporter/SampleCollection.java:78-80 -/
def hasSensor (c : SampleCollection) (node sensor : String) : Except Fault Bool :=
  (c.getSensor node sensor).map Option.isSome

/-- mirrors receiver.jsonexporter/receiver/exporter/SampleCollection.java:94-101 -/
def hasValues (c : SampleCollection) (node sensor : String) : List String → Except Fault Bool
  | [] => .ok true
  | value :: values =>
    match c.getSensor node sensor with
    | .error f => .error f
    | .ok none => .error .nullPointer
    | .ok (some valuesMap) => if value ∈ valuesMap then c.hasValues node sensor values else .ok false

/-- mirrors receiver.jsonexporter/receiver/exporter/SampleCollection.java:70-72 -/
def createNodeFor (c : SampleCollection) (sample : Sample) : SampleCollection :=
  { c with data := c.data.insert sample.platformIdentifier ∅ }

/-- Store `valuesMap` as the series of a sensor: the effect of a write
through a reference to its map. -/
def setSensor (c : SampleCollection) (node sensor : String) (valuesMap : SensorMap) :
    Except Fault SampleCollection :=
  match c.getNode node with
  | none => .error .nullPointer
  | some sensors => .ok { c with data := c.data.insert node (sensors.insert sensor valuesMap) }

/-- mirrors receiver.jsonexporter/receiver/exporter/SampleCollection.java:103-105 -/
def createSensorFor (c : SampleCollection) (sample : Sample) : Except Fault SampleCollection :=
  c.setSensor sample.platformIdentifier sample.sensorType ∅

/-- mirrors receiver.jsonexporter/receiver/exporter/SampleCollection.java:114-116 -/
def createValues (valuesMap : SensorMap) (values : List String) : SensorMap :=
  values.foldl (fun m v => m.insert v TreeKeys.empty) valuesMap

/-- mirrors receiver.jsonexporter/receiver/exporter/SampleCollection.java:107-117 -/
def createValuesFor (c : SampleCollection) (sample : Sample) : Except Fault SampleCollection := do
  match ← c.getSensor sample.platformIdentifier sample.sensorType with
  | none => if sample.data.keys = [] then .ok c else .error .nullPointer
  | some valuesMap =>
    c.setSensor sample.platformIdentifier sample.sensorType (createValues valuesMap sample.data.keys)

/-- mirrors receiver.jsonexporter/receiver/exporter/SampleCollection.java:39-52 -/
def checkForDataStructure (c : SampleCollection) (sample : Sample) : Except Fault SampleCollection := do
  if !c.hasNode sample.platformIdentifier then
    (← (c.createNodeFor sample).createSensorFor sample).createValuesFor sample
  else if !(← c.hasSensor sample.platformIdentifier sample.sensorType) then
    (← c.createSensorFor sample).createValuesFor sample
  else if !(← c.hasValues sample.platformIdentifier sample.sensorType sample.data.keys) then
    c.createValuesFor sample
  else .ok c

/-- mirrors receiver.jsonexporter/receiver/exporter/SampleCollection.java:140-146 -/
def tupleFrom (sample : Sample) (value : Value) : SampleTuple :=
  ⟨sample.id.toString, sample.timestamp, value⟩

/-- The loop of `addSampleToTuples`, for as many rounds as `fuel` allows.
mirrors receiver.jsonexporter/receiver/exporter/SampleCollection.java:134-136 -/
def evict (maximumEntriesPerSensor : Int) : Nat → Series → Except Fault Series
  | 0, _ => .error .diverges
  | fuel + 1, tuples =>
    if maximumEntriesPerSensor ≤ tuples.size then evict maximumEntriesPerSensor fuel tuples.pollFirst
    else .ok tuples

/-- mirrors receiver.jsonexporter/receiver/exporter/SampleCollection.java:132-138.
A loop that ends at all polls no more often than there are tuples. -/
def addSampleToTuples (maximumEntriesPerSensor : Int) (sample : Sample) (tuples : Option Series)
    (value : Value) : Except Fault Series :=
  match tuples with
  | none => .error .nullPointer
  | some tuples =>
    (evict maximumEntriesPerSensor (tuples.size + 1) tuples).map (·.put (tupleFrom sample value))

/-- mirrors receiver.jsonexporter/receiver/exporter/SampleCollection.java:124-130 -/
def addSampleToSensor (maximumEntriesPerSensor : Int) (sample : Sample) (sensor : SensorMap) :
    Except Fault SensorMap :=
  sample.data.entries.foldlM (fun sensor e =>
    (addSampleToTuples maximumEntriesPerSensor sample (sensor.lookup e.1) e.2).map (sensor.insert e.1))
    sensor

/-- mirrors receiver.jsonexporter/receiver/exporter/SampleCollection.java:119-122 -/
def addDataOf (c : SampleCollection) (sample : Sample) : Except Fault SampleCollection := do
  match ← c.getSensor sample.platformIdentifier sample.sensorType with
  | none => if sample.data.keys = [] then .ok c else .error .nullPointer
  | some sensor =>
    c.setSensor sample.platformIdentifier sample.sensorType
      (← addSampleToSensor c.maximumEntriesPerSensor sample sensor)

/-- mirrors receiver.jsonexporter/receiver/exporter/SampleCollection.java:34-37 -/
def addSample (c : SampleCollection) (sample : Sample) : Except Fault SampleCollection := do
  (← c.checkForDataStructure sample).addDataOf sample

/-! ## The export -/

/-- mirrors receiver.jsonexporter/receiver/exporter/SampleCollection.java:207-216 -/
def entry (F : SampleDateFormatter) (t : SampleTuple) : JSONObject Value :=
  ((∅ : JSONObject Value).insert "timestamp" (.string (F.formatForJson t.timestamp))).insert
    "value" t.value

/-- The object that `toJSON` prints.
mirrors receiver.jsonexporter/receiver/exporter/SampleCollection.java:179-203 -/
def platformJson (F : SampleDateFormatter) (c : SampleCollection) :
    JSONObject (JSONObject (JSONObject (JSONArray (JSONObject Value)))) :=
  Dict.build (fun sensors =>
    Dict.build (fun values =>
      Dict.build (fun tuples => tuples.keys.map (entry F)) values) sensors) c.data

/-- mirrors receiver.jsonexporter/receiver/exporter/SampleCollection.java:179-205 -/
def toJSON (F : SampleDateFormatter)
    (toJSONString : JSONObject (JSONObject (JSONObject (JSONArray (JSONObject Value)))) → String)
    (c : SampleCollection) : String :=
  toJSONString (c.platformJson F)

/-! ## Eviction -/

theorem evict_eq {n : Int} (hn : 1 ≤ n) (fuel : Nat) (tuples : Series) (h : tuples.size < fuel) :
    evict n fuel tuples = .ok (tuples.keep (n - 1).toNat) := by
  induction fuel generalizing tuples with
  | zero => omega
  | succ fuel ih =>
    simp only [evict]
    by_cases hle : n ≤ tuples.size
    · have hsize := tuples.size_pollFirst
      rw [if_pos hle, ih tuples.pollFirst (by omega), TreeKeys.keep_pollFirst (by omega)]
    · rw [if_neg hle, TreeKeys.keep_of_size_le (by omega)]

/-- With a limit below one the loop never ends. -/
theorem evict_diverges {n : Int} (hn : n < 1) (fuel : Nat) (tuples : Series) :
    evict n fuel tuples = .error .diverges := by
  induction fuel generalizing tuples with
  | zero => rfl
  | succ fuel ih =>
    simp only [evict]
    rw [if_pos (by omega)]
    exact ih tuples.pollFirst

/-- The loop ends after some number of rounds. -/
def LoopEnds (n : Int) (tuples : Series) : Prop := ∃ rounds tuples', evict n rounds tuples = .ok tuples'

theorem loopEnds_iff (n : Int) (tuples : Series) : LoopEnds n tuples ↔ 1 ≤ n := by
  refine ⟨fun h => ?_, fun hn => ?_⟩
  · obtain ⟨rounds, tuples', h⟩ := h
    by_contra hn
    rw [evict_diverges (by omega)] at h
    cases h
  · exact ⟨tuples.size + 1, _, evict_eq hn _ tuples (by omega)⟩

/-- A series after a tuple came in: cut to the `n - 1` greatest, then put. -/
def slide (n : Int) (tuples : Series) (t : SampleTuple) : Series := (tuples.keep (n - 1).toNat).put t

theorem addSampleToTuples_eq {n : Int} (hn : 1 ≤ n) (sample : Sample) (tuples : Series) (value : Value) :
    addSampleToTuples n sample (some tuples) value = .ok (slide n tuples (tupleFrom sample value)) := by
  simp only [addSampleToTuples]
  rw [evict_eq hn _ tuples (by omega)]
  rfl

/-! ## What a call changes -/

/-- The series of one platform and sensor type. -/
def sensorAt (c : SampleCollection) (node sensor : String) : Option SensorMap :=
  (c.getNode node).bind (·.lookup sensor)

/-- `c'` is `c` with the series of the sample's platform and sensor type set to `m`. -/
structure Sets (c : SampleCollection) (sample : Sample) (m : SensorMap) (c' : SampleCollection) :
    Prop where
  limit : c'.maximumEntriesPerSensor = c.maximumEntriesPerSensor
  sensors : ∀ p t, c'.sensorAt p t = if (p, t) = sample.node then some m else c.sensorAt p t
  nodes : ∀ p, c'.hasNode p = (decide (p = sample.platformIdentifier) || c.hasNode p)

theorem Sets.own {c c' : SampleCollection} {sample : Sample} {m : SensorMap} (h : Sets c sample m c') :
    c'.sensorAt sample.platformIdentifier sample.sensorType = some m := by
  rw [h.sensors]; exact if_pos rfl

theorem Sets.trans {c c' c'' : SampleCollection} {sample : Sample} {m m' : SensorMap}
    (h : Sets c sample m c') (h' : Sets c' sample m' c'') : Sets c sample m' c'' := by
  refine ⟨h'.limit.trans h.limit, fun p t => ?_, fun p => ?_⟩
  · rw [h'.sensors, h.sensors]
    split <;> rfl
  · rw [h'.nodes, h.nodes, ← Bool.or_assoc, Bool.or_self]

theorem Sets.refl {c : SampleCollection} {sample : Sample} {m : SensorMap}
    (h : c.sensorAt sample.platformIdentifier sample.sensorType = some m) : Sets c sample m c := by
  refine ⟨rfl, fun p t => ?_, fun p => ?_⟩
  · split
    · rename_i he; cases he; exact h
    · rfl
  · by_cases hp : p = sample.platformIdentifier
    · subst hp
      obtain ⟨sensors, hs, -⟩ := Option.bind_eq_some_iff.1 h
      simp [hasNode, hs]
    · simp [hp]

theorem getSensor_of_getNode {c : SampleCollection} {node : String} {sensors : Dict String SensorMap}
    (h : c.getNode node = some sensors) (sensor : String) :
    c.getSensor node sensor = .ok (c.sensorAt node sensor) := by
  simp [getSensor, sensorAt, h]

theorem getSensor_of_sensorAt {c : SampleCollection} {node sensor : String} {m : SensorMap}
    (h : c.sensorAt node sensor = some m) : c.getSensor node sensor = .ok (some m) := by
  obtain ⟨sensors, hs, -⟩ := Option.bind_eq_some_iff.1 h
  rw [getSensor_of_getNode hs, h]

theorem setSensor_spec {c : SampleCollection} (sample : Sample) (m : SensorMap)
    (h : c.hasNode sample.platformIdentifier = true) :
    ∃ c', c.setSensor sample.platformIdentifier sample.sensorType m = .ok c' ∧ Sets c sample m c' := by
  obtain ⟨sensors, hs⟩ := Option.isSome_iff_exists.1 h
  refine ⟨{ c with data := c.data.insert sample.platformIdentifier (sensors.insert sample.sensorType m) },
    by simp only [setSensor, hs], rfl, fun p t => ?_, fun p => ?_⟩
  · by_cases hp : p = sample.platformIdentifier
    · subst hp
      by_cases ht : t = sample.sensorType
      · subst ht; simp [sensorAt, getNode, Sample.node]
      · simp only [getNode] at hs
        simp [sensorAt, getNode, Sample.node, ht, AList.lookup_insert_ne ht, hs]
    · simp [sensorAt, getNode, Sample.node, hp, AList.lookup_insert_ne hp]
  · by_cases hp : p = sample.platformIdentifier
    · subst hp; simp [hasNode, getNode]
    · simp [hasNode, getNode, hp, AList.lookup_insert_ne hp]

theorem hasValues_eq {c : SampleCollection} {node sensor : String} {m : SensorMap}
    (h : c.sensorAt node sensor = some m) (values : List String) :
    c.hasValues node sensor values = .ok (values.all fun v => decide (v ∈ m)) := by
  induction values with
  | nil => rfl
  | cons v values ih =>
    simp only [hasValues, getSensor_of_sensorAt h, ih, List.all_cons]
    by_cases hv : v ∈ m <;> simp [hv]

/-- The series of a sensor when a sample's values are about to be added. -/
def prepared (m : Option SensorMap) (sample : Sample) : SensorMap :=
  match m with
  | none => createValues ∅ sample.data.keys
  | some m =>
    if sample.data.keys.all fun v => decide (v ∈ m) then m else createValues m sample.data.keys

theorem createValuesFor_spec {c : SampleCollection} {sample : Sample} {m : SensorMap}
    (h : c.sensorAt sample.platformIdentifier sample.sensorType = some m) :
    ∃ c', c.createValuesFor sample = .ok c' ∧ Sets c sample (createValues m sample.data.keys) c' := by
  have hn : c.hasNode sample.platformIdentifier = true := by
    obtain ⟨sensors, hs, -⟩ := Option.bind_eq_some_iff.1 h
    simp [hasNode, hs]
  obtain ⟨c', hc', hs⟩ := setSensor_spec sample (createValues m sample.data.keys) hn
  exact ⟨c', by simp only [createValuesFor, getSensor_of_sensorAt h, bind, Except.bind, hc'], hs⟩

/-- Creating the sensor and then its values. -/
theorem createSensor_values {c : SampleCollection} {sample : Sample}
    (h : c.hasNode sample.platformIdentifier = true) :
    ∃ c', (c.createSensorFor sample >>= fun c => c.createValuesFor sample) = .ok c' ∧
      Sets c sample (createValues ∅ sample.data.keys) c' := by
  obtain ⟨c₁, h₁, s₁⟩ := setSensor_spec sample ∅ h
  obtain ⟨c₂, h₂, s₂⟩ := createValuesFor_spec s₁.own
  exact ⟨c₂, by simp only [createSensorFor, h₁, bind, Except.bind, h₂], s₁.trans s₂⟩

theorem checkForDataStructure_spec (c : SampleCollection) (sample : Sample) :
    ∃ c', c.checkForDataStructure sample = .ok c' ∧
      Sets c sample (prepared (c.sensorAt sample.platformIdentifier sample.sensorType) sample) c' := by
  unfold checkForDataStructure
  cases hnode : c.getNode sample.platformIdentifier with
  | none =>
    have hhas : c.hasNode sample.platformIdentifier = false := by simp [hasNode, hnode]
    have hcreated : (c.createNodeFor sample).hasNode sample.platformIdentifier = true := by
      simp [hasNode, getNode, createNodeFor]
    obtain ⟨c', hc', hs⟩ := createSensor_values hcreated
    refine ⟨c', by rw [hhas]; exact hc', hs.limit, fun p t => ?_, fun p => ?_⟩
    · rw [hs.sensors, show c.sensorAt sample.platformIdentifier sample.sensorType = none by
        simp [sensorAt, hnode]]
      by_cases hp : p = sample.platformIdentifier
      · subst hp
        simp [sensorAt, getNode, createNodeFor, prepared, show c.data.lookup _ = none from hnode]
      · simp [sensorAt, getNode, createNodeFor, Sample.node, hp, AList.lookup_insert_ne hp]
    · rw [hs.nodes]
      by_cases hp : p = sample.platformIdentifier
      · simp [hp]
      · simp [hasNode, getNode, createNodeFor, hp, AList.lookup_insert_ne hp]
  | some sensors =>
    have hhas : c.hasNode sample.platformIdentifier = true := by simp [hasNode, hnode]
    simp only [hhas, hasSensor, getSensor_of_getNode hnode, Except.map, bind, Except.bind]
    cases hsensor : c.sensorAt sample.platformIdentifier sample.sensorType with
    | none =>
      obtain ⟨c', hc', hs⟩ := createSensor_values hhas
      exact ⟨c', hc', hs⟩
    | some m =>
      simp only [hasValues_eq hsensor, prepared]
      cases hall : sample.data.keys.all fun v => decide (v ∈ m) with
      | true => exact ⟨c, rfl, .refl hsensor⟩
      | false =>
        obtain ⟨c', hc', hs⟩ := createValuesFor_spec hsensor
        exact ⟨c', hc', hs⟩

/-- The series of a sensor after a sample was added, from those before. -/
def recorded (n : Int) (m : Option SensorMap) (sample : Sample) : SensorMap :=
  Dict.updateWith (fun _ v old => slide n (old.getD .empty) (tupleFrom sample v)) sample.data
    (prepared m sample)

theorem mem_createValues {m : SensorMap} {values : List String} {k : String} :
    (createValues m values).lookup k = if k ∈ values then some .empty else m.lookup k :=
  Dict.lookup_foldl_insert_const TreeKeys.empty values m k

/-- Every key of the sample has a series when its values are added. -/
theorem mem_prepared (m : Option SensorMap) (sample : Sample) {k : String} (hk : k ∈ sample.data) :
    k ∈ prepared m sample := by
  have hkeys : k ∈ sample.data.keys := hk
  have created : ∀ m : SensorMap, k ∈ createValues m sample.data.keys := by
    intro m
    rw [← AList.lookup_isSome, mem_createValues, if_pos hkeys]; rfl
  unfold prepared
  split
  · exact created ∅
  · split
    · rename_i hall; exact of_decide_eq_true (List.all_eq_true.1 hall k hkeys)
    · exact created _

/-- Whether the loop of `addSampleToTuples` ends for a sample: the limit is at
least one or there is nothing to add. -/
def Terminates (n : Int) (sample : Sample) : Prop := 1 ≤ n ∨ sample.data.entries = []

theorem addSampleToSensor_eq {n : Int} {sample : Sample} (hn : Terminates n sample) {sensor : SensorMap}
    (h : ∀ k ∈ sample.data, k ∈ sensor) : addSampleToSensor n sample sensor =
      .ok (Dict.updateWith (fun _ v old => slide n (old.getD .empty) (tupleFrom sample v)) sample.data
        sensor) := by
  have hkeys : ∀ e ∈ sample.data.entries, e.1 ∈ sensor :=
    fun e he => h e.1 (List.mem_keys_of_mem he)
  unfold Terminates at hn
  unfold addSampleToSensor Dict.updateWith
  generalize sample.data.entries = es at hkeys hn
  clear h
  rcases hn with hn | rfl
  · induction es generalizing sensor with
    | nil => rfl
    | cons e es ih =>
      obtain ⟨tuples, ht⟩ := Dict.exists_lookup (hkeys e List.mem_cons_self)
      rw [List.foldlM_cons, List.foldl_cons, ht, addSampleToTuples_eq hn]
      exact ih fun e' he' => (AList.mem_insert _).2 (.inr (hkeys e' (List.mem_cons_of_mem e he')))
  · rfl

theorem addSampleToSensor_diverges {n : Int} {sample : Sample} (hn : ¬ Terminates n sample)
    {sensor : SensorMap} (h : ∀ k ∈ sample.data, k ∈ sensor) :
    addSampleToSensor n sample sensor = .error .diverges := by
  have hkeys : ∀ e ∈ sample.data.entries, e.1 ∈ sensor :=
    fun e he => h e.1 (List.mem_keys_of_mem he)
  unfold Terminates at hn
  unfold addSampleToSensor
  generalize sample.data.entries = es at hkeys hn
  cases es with
  | nil => exact absurd (.inr rfl) hn
  | cons e es =>
    obtain ⟨tuples, ht⟩ := Dict.exists_lookup (hkeys e List.mem_cons_self)
    rw [List.foldlM_cons, ht, addSampleToTuples, evict_diverges (by omega)]
    rfl

/-- **One call.** When its loop ends, `addSample` does not fault and changes
the sample's own sensor only. -/
theorem addSample_spec {c : SampleCollection} {sample : Sample}
    (hn : Terminates c.maximumEntriesPerSensor sample) :
    ∃ c', c.addSample sample = .ok c' ∧ Sets c sample (recorded c.maximumEntriesPerSensor
      (c.sensorAt sample.platformIdentifier sample.sensorType) sample) c' := by
  obtain ⟨c₁, h₁, s₁⟩ := c.checkForDataStructure_spec sample
  have hnode : c₁.hasNode sample.platformIdentifier = true := by rw [s₁.nodes]; simp
  obtain ⟨c₂, h₂, s₂⟩ := setSensor_spec sample
    (recorded c.maximumEntriesPerSensor (c.sensorAt sample.platformIdentifier sample.sensorType) sample)
    hnode
  refine ⟨c₂, ?_, s₁.trans s₂⟩
  simp only [addSample, h₁, bind, Except.bind, addDataOf, getSensor_of_sensorAt s₁.own, s₁.limit]
  rw [addSampleToSensor_eq hn fun k hk => mem_prepared _ sample hk]
  exact h₂

/-- With a limit below one, the first sample with a value is never added. -/
theorem addSample_diverges {c : SampleCollection} {sample : Sample}
    (hn : ¬ Terminates c.maximumEntriesPerSensor sample) : c.addSample sample = .error .diverges := by
  obtain ⟨c₁, h₁, s₁⟩ := c.checkForDataStructure_spec sample
  simp only [addSample, h₁, bind, Except.bind, addDataOf, getSensor_of_sensorAt s₁.own, s₁.limit]
  rw [addSampleToSensor_diverges hn fun k hk => mem_prepared _ sample hk]

theorem addSample_ok {c c' : SampleCollection} {sample : Sample} (h : c.addSample sample = .ok c') :
    Sets c sample (recorded c.maximumEntriesPerSensor
      (c.sensorAt sample.platformIdentifier sample.sensorType) sample) c' := by
  by_cases hn : Terminates c.maximumEntriesPerSensor sample
  · obtain ⟨c'', hc'', hs⟩ := addSample_spec hn
    rw [h, Except.ok.injEq] at hc''
    exact hc'' ▸ hs
  · rw [addSample_diverges hn] at h; cases h

end SampleCollection
end SensorSamplor
