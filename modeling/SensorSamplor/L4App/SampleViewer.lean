import SensorSamplor.L3Receivers.StoreRuns
import SensorSamplor.L3Sensors.HttpXmlItems
import SensorSamplor.L3Sensors.SensorInvoker

/-!
# The sample viewer

The page `sensorsamplor.opt/sampleViewer/index.html` loads the exported file
and draws a chart for every array in it. `prepareDataForChart` turns the
entries of an array into points, and the chart library checks them
(`validateSeries`).

The store's shape makes every array non-empty and its time stamps ascend.
What is left of the check is the type of the values: `viewer_draws_iff` says
that everything can be drawn exactly when no text is stored. Only HTTP/XML
samples have texts as values.

Outside the sources, and so parameters here (`Browser`): `Date.parse`, the
text of a number, and what the page reads where the exporter printed an
object of another class. json-simple prints a `double` that is no number as null. JavaScript's numbers
are exact here.
-/
namespace SensorSamplor

open SensorSamplor.Core

/-- A value on the page. -/
inductive JsValue where
  | null
  | number (q : ℚ)
  | string (s : String)
  deriving DecidableEq

structure Browser where
  /-- `Date.parse`; `none` is `NaN` -/
  dateParse : String → Option Int
  objectValue : List UInt8 → JsValue
  /-- the text that a number is joined to others as -/
  numberToString : ℚ → String

/-- A point of a chart; an `x` of `none` is `NaN`, a `y` of `none` undefined. -/
structure Point where
  x : Option ℚ
  y : Option JsValue
  deriving DecidableEq

namespace SampleViewer

/-- A value after json-simple printed and the page parsed it. -/
def loaded (B : Browser) : Value → JsValue
  | .null => .null
  | .string s => .string s
  | .long n => .number n
  | .double (.finite q) => .number q
  | .double _ => .null
  | .object serialized => B.objectValue serialized

def loadedArray (B : Browser) (array : JSONArray (JSONObject Value)) : JSONArray (JSONObject JsValue) :=
  array.map (Dict.build (loaded B))

/-- mirrors sensorsamplor.opt/sampleViewer/index.html:142-150. The exporter's time stamps
are strings. -/
def prepareDataForChart (B : Browser) (valueData : JSONArray (JSONObject JsValue)) : List Point :=
  valueData.map fun value =>
    let date : Option ℚ :=
      match value.lookup "timestamp" with
      | some (.string timestamp) => (B.dateParse timestamp).map fun millis : Int => (millis : ℚ) / 1000
      | _ => none
    ⟨date, value.lookup "value"⟩

/-- `typeof`. -/
def typeOf : Option JsValue → String
  | none => "undefined"
  | some .null => "object"
  | some (.number _) => "number"
  | some (.string _) => "string"

/-- `a < b`, which is false for `NaN`. -/
def lessThan : Option ℚ → Option ℚ → Bool
  | some a, some b => decide (a < b)
  | _, _ => false

/-- The check of one series; an error is a thrown text.
mirrors sensorsamplor.opt/sampleViewer/rickshaw/rickshaw.js:453-480 -/
def validateSeries (name : String) : List Point → Except String Unit
  | [] => .ok ()
  | first :: rest =>
    if typeOf first.y ≠ "number" ∧ first.y ≠ some .null then
      .error ("x and y properties of points should be numbers instead of number and " ++ typeOf first.y)
    else
      match rest with
      | second :: third :: more =>
        if lessThan third.x second.x || lessThan second.x first.x ||
            lessThan ((third :: more).getLast (List.cons_ne_nil third more)).x first.x then
          .error ("series data needs to be sorted on x values for series name: " ++ name)
        else .ok ()
      | _ => .ok ()

/-! ## Series that can be drawn -/

/-- What a chart's points should be. -/
structure Drawable (data : List Point) : Prop where
  nonempty : data ≠ []
  ascending : ∃ xs : List ℚ, data.map (·.x) = xs.map some ∧ xs.Pairwise (· ≤ ·)
  numbers : ∀ p ∈ data, p.y = some .null ∨ ∃ q, p.y = some (.number q)

theorem not_lessThan {data : List Point} {xs : List ℚ} (hx : data.map (·.x) = xs.map some)
    (hxs : xs.Pairwise (· ≤ ·)) : data.Pairwise fun a b => lessThan b.x a.x = false := by
  have hpoints : (data.map (·.x)).Pairwise fun a b => lessThan b a = false := by
    rw [hx, List.pairwise_map]
    exact hxs.imp fun h => decide_eq_false (not_lt.2 h)
  exact List.pairwise_map.1 hpoints

/-- The library accepts them. -/
theorem Drawable.valid {data : List Point} (h : Drawable data) (name : String) :
    validateSeries name data = .ok () := by
  obtain ⟨xs, hx, hxs⟩ := h.ascending
  have hsorted := not_lessThan hx hxs
  cases data with
  | nil => rfl
  | cons first rest =>
    have hfirst : ¬ (typeOf first.y ≠ "number" ∧ first.y ≠ some .null) := by
      rcases h.numbers first List.mem_cons_self with hy | ⟨q, hy⟩
      · exact fun hne => hne.2 hy
      · exact fun hne => hne.1 (by rw [hy]; rfl)
    simp only [validateSeries]
    rw [if_neg hfirst]
    split
    · rename_i second third more
      obtain ⟨hall, hrest⟩ := List.pairwise_cons.1 hsorted
      have hlast := hall _ (List.mem_cons_of_mem second
        (List.getLast_mem (List.cons_ne_nil third more)))
      have hsecond := hall second List.mem_cons_self
      have hthird := (List.pairwise_cons.1 hrest).1 third List.mem_cons_self
      simp only [hthird, hsecond, hlast, Bool.or_self, Bool.false_eq_true, if_false]
    · rfl

/-! ## The points of a stored series -/

/-- The point of a stored tuple. -/
def pointOf (B : Browser) (F : SampleDateFormatter) (t : SampleTuple) : Point :=
  ⟨(B.dateParse (F.formatForJson t.timestamp)).map fun millis : Int => (millis : ℚ) / 1000, some (loaded B t.value)⟩

theorem prepareDataForChart_entries (B : Browser) (F : SampleDateFormatter) (tuples : List SampleTuple) :
    prepareDataForChart B (loadedArray B (tuples.map (SampleCollection.entry F))) =
      tuples.map (pointOf B F) := by
  unfold prepareDataForChart loadedArray
  rw [List.map_map, List.map_map]
  refine List.map_congr_left fun t _ => ?_
  have hne : "timestamp" ≠ "value" := by decide
  simp only [Function.comp, SampleCollection.entry, Dict.lookup_build, AList.lookup_insert,
    AList.lookup_insert_ne hne, Option.map_some]
  rfl

def IsText : Value → Prop
  | .string _ => True
  | _ => False

def IsObject : Value → Prop
  | .object _ => True
  | _ => False

theorem loaded_number_iff (B : Browser) {v : Value} (h : ¬ IsObject v) :
    (some (loaded B v) = some .null ∨ ∃ q, some (loaded B v) = some (.number q)) ↔ ¬ IsText v := by
  cases v with
  | null => simp [loaded, IsText]
  | string s => simp [loaded, IsText]
  | long n => simp [loaded, IsText]
  | double d => cases d <;> simp [loaded, IsText]
  | object serialized => exact absurd trivial h

/-- An array of ascending tuples can be drawn when none of them is a text. -/
theorem drawable_iff {B : Browser} {F : SampleDateFormatter} {tuples : List SampleTuple}
    (hne : tuples ≠ []) (hsorted : tuples.Pairwise fun a b => a.timestamp.millis < b.timestamp.millis)
    (hparse : ∀ t ∈ tuples, B.dateParse (F.formatForJson t.timestamp) = some t.timestamp.millis)
    (hobject : ∀ t ∈ tuples, ¬ IsObject t.value) :
    Drawable (tuples.map (pointOf B F)) ↔ ∀ t ∈ tuples, ¬ IsText t.value := by
  constructor
  · intro h t ht
    exact (loaded_number_iff B (hobject t ht)).1 (h.numbers _ (List.mem_map_of_mem ht))
  · intro h
    refine ⟨fun hnil => hne (List.map_eq_nil_iff.1 hnil),
      ⟨tuples.map fun t => (t.timestamp.millis : ℚ) / 1000, ?_, ?_⟩, fun p hp => ?_⟩
    · rw [List.map_map, List.map_map]
      refine List.map_congr_left fun t ht => ?_
      simp only [Function.comp, pointOf, hparse t ht, Option.map_some]
    · refine List.pairwise_map.2 (hsorted.imp fun hlt => ?_)
      have hle : ((_ : Int) : ℚ) ≤ _ := Int.cast_le.2 hlt.le
      exact div_le_div_of_nonneg_right hle (by norm_num)
    · obtain ⟨t, ht, rfl⟩ := List.mem_map.1 hp
      exact (loaded_number_iff B (hobject t ht)).2 (h t ht)

/-! ## The samples of the sensors -/

/-- A sample that one of the four sensors has measured. -/
def SensorBuilt (s : Sample) : Prop :=
  ∃ (D : Type) (m : Sensor.Measurement D) (sensor : Sensor String), (sensor.measure m).1 = .ok s

/-- The values of a sample are those of two items. -/
theorem value_of_two {s : Sample} {k₁ k₂ : String} {v₁ v₂ : Value}
    (hs : s.data = ((∅ : Dict String Value).insert k₁ v₁).insert k₂ v₂) {k : String} {v : Value}
    (hv : s.data.lookup k = some v) : v = v₁ ∨ v = v₂ := by
  rw [hs] at hv
  rcases Dict.lookup_insert_eq_some hv with rfl | hv
  · exact .inr rfl
  · rcases Dict.lookup_insert_eq_some hv with rfl | hv
    · exact .inl rfl
    · cases hv

theorem toOneDigitDouble_eq_ok {d : Double} {v : Value} (h : Am2302Sensor.toOneDigitDouble d = .ok v) :
    ¬ IsObject v := by
  unfold Am2302Sensor.toOneDigitDouble at h
  split at h
  · cases h
    exact id
  · cases h

theorem am2302_values {s : Am2302Sensor String} {uuid : UUID} {now : DateTime} {reads : Nat → Reading}
    {sample : Sample} (h : (s.measure uuid now reads).1 = .ok sample) {k : String} {v : Value}
    (hv : sample.data.lookup k = some v) : ¬ IsObject v := by
  rcases s.measure_cases uuid now reads with ⟨-, hm⟩ | ⟨-, hm⟩
  · rw [hm] at h
    cases h
  · rw [hm] at h
    unfold Am2302Sensor.toSample at h
    obtain ⟨temperature, ht, h⟩ := bind_eq_ok.1 h
    obtain ⟨humidity, hh, h⟩ := bind_eq_ok.1 h
    cases h
    rcases value_of_two rfl hv with rfl | rfl
    · exact toOneDigitDouble_eq_ok ht
    · exact toOneDigitDouble_eq_ok hh

theorem httpXml_values {D : Type} {http : HttpXml D} {s : HttpXmlSensor String} {uuid : UUID} {now : DateTime}
    {sample : Sample} (h : s.measure http uuid now = .ok sample) {k : String} {v : Value}
    (hv : sample.data.lookup k = some v) : ¬ IsObject v := by
  obtain ⟨platformIdentifier, source⟩ := s
  cases source with
  | none => cases h
  | some source =>
    obtain ⟨d, -, -, rfl⟩ := HttpXmlSensor.fetchAndEvaluate_eq_ok.1 (HttpXmlSensor.measure_eq_ok.1 h)
    have hitem : (HttpXmlSensor.itemsOf http d source.xPaths ∅).lookup k = some v := hv
    unfold HttpXmlSensor.itemsOf at hitem
    rw [Dict.lookup_foldl_insert] at hitem
    simp only [AList.lookup_empty, Option.or_none, Option.map_eq_some_iff] at hitem
    obtain ⟨x, -, rfl⟩ := hitem
    cases HttpXmlSensor.selected http d x with
    | nil => exact id
    | cons node nodes =>
      simp only [HttpXmlSensor.contentOf]
      cases node.getNodeValue <;> exact id

/-- The sensors' values are null, texts and numbers. -/
theorem sensorBuilt_values {s : Sample} (h : SensorBuilt s) {k : String} {v : Value}
    (hv : s.data.lookup k = some v) : ¬ IsObject v := by
  obtain ⟨D, m, sensor, h⟩ := h
  cases sensor with
  | am2302 sensor => exact am2302_values h hv
  | dummyTemperature platformIdentifier =>
    have hmeasure : Sensor.measureDummy m platformIdentifier = .ok s := h
    unfold Sensor.measureDummy at hmeasure
    split at hmeasure
    · cases hmeasure
    · cases hmeasure
      rcases value_of_two rfl hv with rfl | rfl
      · exact id
      · exact id
  | systemStats platformIdentifier =>
    have hmeasure : Except.ok (Sensor.measureSystemStats m platformIdentifier) = Except.ok s := h
    cases hmeasure
    rcases value_of_two rfl hv with rfl | rfl
    · exact id
    · exact id
  | httpXml sensor => exact httpXml_values h hv

/-! ## What the page shows -/

/-- Every exported array can be drawn. -/
def AllDrawable (B : Browser) (F : SampleDateFormatter) (c : SampleCollection) : Prop :=
  ∀ p t k array, c.arrayAt F p t k = some array →
    Drawable (prepareDataForChart B (loadedArray B array))

/-- No tuple of the store has a text as its value. -/
def NoTextStored (c : SampleCollection) : Prop :=
  ∀ p t k tuples, c.seriesAt p t k = some tuples → ∀ e ∈ tuples.keys, ¬ IsText e.value

/-- No data item of the sample is a text. -/
def NoText (s : Sample) : Prop := ∀ k v, s.data.lookup k = some v → ¬ IsText v

/-- **What the viewer can draw.** For every run of samples that the sensors
have measured, everything in the export can be drawn if and only if no text
is stored; so it can, after each of them, when none of them has a text. -/
theorem viewer_draws_iff (B : Browser) (F : SampleDateFormatter) {n : Int} (hn : 1 ≤ n) (xs : List Sample)
    (hbuilt : ∀ s ∈ xs, SensorBuilt s)
    (hparse : ∀ s ∈ xs, B.dateParse (F.formatForJson s.timestamp) = some s.timestamp.millis) :
    ∃ c, SampleCollection.addAll (SampleCollection.new n) xs = .ok c ∧
      (AllDrawable B F c ↔ NoTextStored c) ∧ ((∀ s ∈ xs, NoText s) → AllDrawable B F c) := by
  obtain ⟨c, hc, hafter⟩ := SampleCollection.addAll_spec hn xs
  have hseries := (hafter.represents hn).series
  -- one series
  have key : ∀ p t k tuples, c.seriesAt p t k = some tuples →
      (Drawable (prepareDataForChart B (loadedArray B (tuples.keys.map (SampleCollection.entry F)))) ↔
        ∀ e ∈ tuples.keys, ¬ IsText e.value) := by
    intro p t k tuples ht
    obtain ⟨hne, -, hsorted, hsource⟩ := hseries p t k tuples ht
    rw [prepareDataForChart_entries]
    refine drawable_iff hne hsorted (fun e he => ?_) (fun e he => ?_)
    · obtain ⟨s, hs, -, v, -, rfl⟩ := hsource e he
      exact hparse s hs
    · obtain ⟨s, hs, -, v, hv, rfl⟩ := hsource e he
      exact sensorBuilt_values (hbuilt s hs) hv
  have hiff : AllDrawable B F c ↔ NoTextStored c := by
    constructor
    · intro h p t k tuples ht
      exact (key p t k tuples ht).1 (h p t k _ (by rw [SampleCollection.arrayAt_eq, ht]; rfl))
    · intro h p t k array ha
      rw [SampleCollection.arrayAt_eq, Option.map_eq_some_iff] at ha
      obtain ⟨tuples, ht, rfl⟩ := ha
      exact (key p t k tuples ht).2 (h p t k tuples ht)
  refine ⟨c, hc, hiff, fun hall => hiff.2 fun p t k tuples ht e he => ?_⟩
  obtain ⟨s, hs, -, v, hv, rfl⟩ := (hseries p t k tuples ht).2.2.2 e he
  exact hall s hs k v hv

/-- A run at midnight, with a service of one document. -/
def midnight : Sensor.Measurement Unit where
  uuid := ⟨0, 1⟩
  now := ⟨1429920000000, "UTC"⟩
  errorUuid := ⟨0, 2⟩
  errorNow := ⟨1429920000000, "UTC"⟩
  reads _ := ⟨0, 20, 50⟩
  pinsMapped := true
  ownsWord _ := false
  nextDouble := 1
  randomTemperature := 20
  randomHumidity := 50
  getSystemLoadAverage := .finite (1 / 4)
  usedMemory := 1024
  http := HttpXmlSensor.pastries

def midnightFormatter : SampleDateFormatter :=
  ⟨fun _ => "2015-04-25:00:00:00 +0000", fun _ => "2015-04-25T00:00:00.000+0000"⟩

def midnightBrowser : Browser :=
  ⟨fun s => if s = "2015-04-25T00:00:00.000+0000" then some 1429920000000 else none, fun _ => .null,
    fun q => if q = 1 / 4 then "0.25" else toString q⟩

theorem systemStats_drawn : ∃ c,
    SampleCollection.addAll (SampleCollection.new 1) [Sensor.measureSystemStats midnight "node"] = .ok c ∧
    (AllDrawable midnightBrowser midnightFormatter c ↔ NoTextStored c) ∧
    ((∀ s ∈ [Sensor.measureSystemStats midnight "node"], NoText s) →
      AllDrawable midnightBrowser midnightFormatter c) := by
  refine viewer_draws_iff _ _ (by decide) [Sensor.measureSystemStats midnight "node"]
    (fun s hs => ?_) (fun s hs => ?_)
  · rw [List.mem_singleton.1 hs]
    exact ⟨Unit, midnight, .systemStats "node", rfl⟩
  · rw [List.mem_singleton.1 hs]
    rfl

/-- The sample of an XPath to an attribute. -/
def attributeSample : Sample :=
  (Sample.transferSample ⟨0, 1⟩ ⟨1429920000000, "UTC"⟩ "node" "myDonutSensor").addItem
    "pastries/donuts/@eaten" (.string "5")

/-- Its value is a text, also where it reads as a number: the library throws. -/
theorem attribute_not_drawn : SensorBuilt attributeSample ∧
    midnightBrowser.dateParse (midnightFormatter.formatForJson attributeSample.timestamp) =
      some attributeSample.timestamp.millis ∧
    ∃ c, SampleCollection.addAll (SampleCollection.new 1) [attributeSample] = .ok c ∧
      ∃ array, c.arrayAt midnightFormatter "node" "myDonutSensor" "pastries/donuts/@eaten" = some array ∧
        ¬ Drawable (prepareDataForChart midnightBrowser (loadedArray midnightBrowser array)) ∧
        validateSeries "pastries/donuts/@eaten"
          (prepareDataForChart midnightBrowser (loadedArray midnightBrowser array)) =
          .error "x and y properties of points should be numbers instead of number and string" := by
  refine ⟨⟨Unit, midnight, .httpXml ⟨"node", some (HttpXmlSensor.pastrySource ["pastries/donuts/@eaten"])⟩, ?_⟩,
    rfl, ?_⟩
  · rfl
  obtain ⟨c, hc, h⟩ := SampleCollection.addAll_spec (n := 1) (by decide) [attributeSample]
  refine ⟨c, hc, [SampleCollection.entry midnightFormatter
    (SampleCollection.tupleFrom attributeSample (.string "5"))], ?_, fun hd => ?_, ?_⟩
  · rw [SampleCollection.arrayAt_eq, SampleCollection.seriesAt, h.sensors]
    rfl
  · have hvalid := hd.valid "pastries/donuts/@eaten"
    cases hvalid
  · rfl

end SampleViewer
end SensorSamplor
