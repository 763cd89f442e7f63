import SensorSamplor.Core.Outcome
import SensorSamplor.L4App.SampleViewer

/-!
# The page of the sample viewer

`processData` walks the loaded export with three nested loops: a node is
appended to the page after all charts of all its sensors are made, so an
error thrown for one series leaves out its whole node and all nodes that
follow, and nothing catches it.

`page_shows` goes from the samples to the page: it shows every platform that
is enumerated before the first one with a series whose oldest kept value is
a text, each with exactly the store's sensors and keys, the stored points in
their order, and as latest value the one with the greatest time stamp.

The latest value is put on the page as HTML, and a text in it is not escaped:
`latestValue` is that HTML. What a browser makes of markup in such a text is
left out.

JavaScript enumerates the properties of an object in an order of its own
(`PropertyOrder`). Of the graph only the check of its series is modelled;
what is drawn after it does not throw.
-/
namespace SensorSamplor.SampleViewer

open SensorSamplor.Core

/-- The order in which `for .. in` meets the properties of an object. -/
structure PropertyOrder where
  entries : {α : Type} → Dict String α → List (String × α)
  mem_iff : ∀ {α : Type} (d : Dict String α) (k : String) (v : α), (k, v) ∈ entries d ↔ d.lookup k = some v
  nodup : ∀ {α : Type} (d : Dict String α), ((entries d).map Prod.fst).Nodup

inductive JsError where
  | typeError
  | thrown (message : String)
  deriving DecidableEq

/-- mirrors sensorsamplor.opt/sampleViewer/index.html:39-47,132-141 -/
structure Chart where
  id : String
  chartId : String
  title : String
  /-- the HTML in the element of that class -/
  latestValue : String
  data : List Point

/-- mirrors sensorsamplor.opt/sampleViewer/index.html:31-37 -/
structure SensorView where
  id : String
  heading : String
  charts : List Chart

/-- mirrors sensorsamplor.opt/sampleViewer/index.html:23-29 -/
structure NodeView where
  id : String
  heading : String
  sensors : List SensorView

/-- What is in the element `nodes`, and the error that ends the script. -/
structure Page where
  nodes : List NodeView
  uncaught : Option JsError

variable (B : Browser) (O : PropertyOrder)

/-- The text of a value, when it is joined to another text. -/
def textOf : Option JsValue → String
  | none => "undefined"
  | some .null => "null"
  | some (.number q) => B.numberToString q
  | some (.string s) => s

/-- mirrors sensorsamplor.opt/sampleViewer/index.html:137 -/
def latestHtml (value : Option JsValue) : String := "<b>" ++ textOf B value ++ "</b>"

/-- mirrors sensorsamplor.opt/sampleViewer/index.html:80-116,132-141 -/
def createChartWith (nodeName sensorName valueName : String) (valueData : JSONArray (JSONObject JsValue)) :
    Except JsError Chart :=
  match valueData.getLast? with
  | none => .error .typeError
  | some last =>
    let data := prepareDataForChart B valueData
    match validateSeries valueName data with
    | .error message => .error (.thrown message)
    | .ok () => .ok {
        id := "sensorSamplor-" ++ nodeName ++ "-" ++ sensorName ++ "-" ++ valueName
        chartId := "sensorSamplor-" ++ nodeName ++ "-" ++ sensorName ++ "-" ++ valueName ++ "-chart"
        title := valueName
        latestValue := latestHtml B (last.lookup "value")
        data := data }

/-- One round of the loop over the sensors.
mirrors sensorsamplor.opt/sampleViewer/index.html:63-74,125-130 -/
def createSensorWith (nodeName : String)
    (sensor : String × JSONObject (JSONArray (JSONObject JsValue))) : Except JsError SensorView :=
  ((O.entries sensor.2).mapM fun value => createChartWith B nodeName sensor.1 value.1 value.2).map fun charts =>
    { id := "sensorSamplor-" ++ nodeName ++ "-" ++ sensor.1
      heading := "Sensor: " ++ sensor.1
      charts := charts }

/-- One round of the loop over the nodes.
mirrors sensorsamplor.opt/sampleViewer/index.html:58-77,118-123 -/
def createNodeWith (node : String × JSONObject (JSONObject (JSONArray (JSONObject JsValue)))) :
    Except JsError NodeView :=
  ((O.entries node.2).mapM (createSensorWith B O node.1)).map fun sensors =>
    { id := "sensorSamplor-" ++ node.1
      heading := "Node: " ++ node.1
      sensors := sensors }

/-- mirrors sensorsamplor.opt/sampleViewer/index.html:57-78 -/
def processData (nodesData : JSONObject (JSONObject (JSONObject (JSONArray (JSONObject JsValue))))) : Page :=
  let (nodes, uncaught) := untilError (createNodeWith B O) (O.entries nodesData)
  ⟨nodes, uncaught⟩

/-- The export as the page loads it. -/
def loadedExport (json : JSONObject (JSONObject (JSONObject (JSONArray (JSONObject Value))))) :
    JSONObject (JSONObject (JSONObject (JSONArray (JSONObject JsValue)))) :=
  Dict.build (Dict.build (Dict.build (loadedArray B))) json

/-! ## One series -/

variable {B : Browser} {O : PropertyOrder} {F : SampleDateFormatter} {c : SampleCollection}

/-- The chart shows a stored series: its points, and its last value. -/
structure ShowsSeries (B : Browser) (F : SampleDateFormatter) (p t k : String) (tuples : Series)
    (chart : Chart) : Prop where
  title : chart.title = k
  id : chart.id = "sensorSamplor-" ++ p ++ "-" ++ t ++ "-" ++ k
  data : chart.data = tuples.keys.map (pointOf B F)
  latest : ∃ last, tuples.keys.getLast? = some last ∧ chart.latestValue = latestHtml B (some (loaded B last.value))

/-- The oldest entry of a series has a text as its value. -/
def StartsWithText (tuples : Series) : Prop := ∃ e, tuples.keys.head? = some e ∧ IsText e.value

/-- What the page needs of a stored series. -/
structure Readable (B : Browser) (F : SampleDateFormatter) (tuples : Series) : Prop where
  nonempty : tuples.keys ≠ []
  dates : ∀ e ∈ tuples.keys, B.dateParse (F.formatForJson e.timestamp) = some e.timestamp.millis
  values : ∀ e ∈ tuples.keys, ¬ IsObject e.value

theorem typeOf_loaded_iff (B : Browser) {v : Value} (h : ¬ IsObject v) :
    (typeOf (some (loaded B v)) ≠ "number" ∧ some (loaded B v) ≠ some .null) ↔ IsText v := by
  cases v with
  | null => exact iff_of_false (fun h => h.2 rfl) id
  | string s =>
    have hne : "string" ≠ "number" := by decide
    exact iff_of_true ⟨hne, nofun⟩ trivial
  | long n => exact iff_of_false (fun h => h.1 rfl) id
  | double d =>
    cases d with
    | finite q => exact iff_of_false (fun h => h.1 rfl) id
    | _ => exact iff_of_false (fun h => h.2 rfl) id
  | object serialized => exact absurd trivial h

/-- Of points in ascending order the library checks the first value only. -/
theorem validateSeries_sorted (name : String) {first : Point} {rest : List Point}
    (hsorted : (first :: rest).Pairwise fun a b => lessThan b.x a.x = false) :
    validateSeries name (first :: rest) =
      if typeOf first.y ≠ "number" ∧ first.y ≠ some .null then
        .error ("x and y properties of points should be numbers instead of number and " ++ typeOf first.y)
      else .ok () := by
  simp only [validateSeries]
  split
  · rfl
  · split
    · rename_i second third more
      obtain ⟨hall, hrest⟩ := List.pairwise_cons.1 hsorted
      have hlast := hall _ (List.mem_cons_of_mem second (List.getLast_mem (List.cons_ne_nil third more)))
      have hsecond := hall second List.mem_cons_self
      have hthird := (List.pairwise_cons.1 hrest).1 third List.mem_cons_self
      simp only [hthird, hsecond, hlast, Bool.or_self, Bool.false_eq_true, if_false]
    · rfl

theorem Readable.sorted {tuples : Series} (h : Readable B F tuples) :
    (tuples.keys.map (pointOf B F)).Pairwise fun a b => lessThan b.x a.x = false := by
  have hx : (tuples.keys.map (pointOf B F)).map (·.x) =
      (tuples.keys.map fun e => (e.timestamp.millis : ℚ) / 1000).map some := by
    rw [List.map_map, List.map_map]
    refine List.map_congr_left fun e he => ?_
    simp only [Function.comp, pointOf, h.dates e he, Option.map_some]
  refine not_lessThan hx (List.pairwise_map.2 (tuples.sorted.imp fun hlt => ?_))
  exact div_le_div_of_nonneg_right (Int.cast_le.2 (le_of_lt hlt)) (by norm_num)

theorem lookup_value_entry (B : Browser) (F : SampleDateFormatter) (e : SampleTuple) :
    (Dict.build (loaded B) (SampleCollection.entry F e)).lookup "value" = some (loaded B e.value) := by
  rw [Dict.lookup_build, SampleCollection.entry, AList.lookup_insert, Option.map_some]

def notNumber : JsError :=
  .thrown "x and y properties of points should be numbers instead of number and string"

/-- A stored series is drawn, unless its oldest value is a text. -/
theorem createChartWith_stored (p t k : String) {tuples : Series} (h : Readable B F tuples) :
    (StartsWithText tuples ∧
      createChartWith B p t k (loadedArray B (tuples.keys.map (SampleCollection.entry F))) = .error notNumber) ∨
    (¬ StartsWithText tuples ∧ ∃ chart, ShowsSeries B F p t k tuples chart ∧
      createChartWith B p t k (loadedArray B (tuples.keys.map (SampleCollection.entry F))) = .ok chart) := by
  obtain ⟨last, hlast⟩ := Option.ne_none_iff_exists'.1 (mt List.getLast?_eq_none_iff.1 h.nonempty)
  have hloaded : (loadedArray B (tuples.keys.map (SampleCollection.entry F))).getLast? =
      some (Dict.build (loaded B) (SampleCollection.entry F last)) := by
    rw [loadedArray, List.getLast?_map, List.getLast?_map, hlast]
    rfl
  have hdata := prepareDataForChart_entries B F tuples.keys
  have hsorted := h.sorted
  cases hkeys : tuples.keys with
  | nil => exact absurd hkeys h.nonempty
  | cons first rest =>
    have hiff := typeOf_loaded_iff B (h.values first (hkeys ▸ List.mem_cons_self))
    have hfirst : StartsWithText tuples ↔ IsText first.value := by
      simp only [StartsWithText, hkeys, List.head?_cons, Option.some.injEq, exists_eq_left']
    rw [hkeys] at hloaded hdata hsorted
    have hy : (pointOf B F first).y = some (loaded B first.value) := rfl
    have hvalid := validateSeries_sorted k hsorted
    rw [hy] at hvalid
    by_cases htext : IsText first.value
    · have hstring : typeOf (some (loaded B first.value)) = "string" := by
        cases hvalue : first.value with
        | string s => rfl
        | _ => rw [hvalue] at htext; exact htext.elim
      refine .inl ⟨hfirst.2 htext, ?_⟩
      rw [if_pos (hiff.2 htext), hstring] at hvalid
      simp only [createChartWith, hloaded, hdata]
      rw [List.map_cons, hvalid]
      rfl
    · rw [if_neg (mt hiff.1 htext)] at hvalid
      refine .inr ⟨fun h => htext (hfirst.1 h), ⟨_, "sensorSamplor-" ++ p ++ "-" ++ t ++ "-" ++ k ++ "-chart", k,
        latestHtml B (some (loaded B last.value)), _⟩, ⟨rfl, rfl, rfl, last, hlast, rfl⟩, ?_⟩
      simp only [createChartWith, hloaded, hdata, lookup_value_entry, hkeys]
      rw [List.map_cons, hvalid]

/-! ## One node -/

/-- What the page loads for a platform are the stored series. -/
theorem lookup_loadedExport {p : String} {sensors : JSONObject (JSONObject (JSONArray (JSONObject JsValue)))}
    (hp : (loadedExport B (c.platformJson F)).lookup p = some sensors) (t k : String) :
    (sensors.lookup t).bind (·.lookup k) =
      (c.seriesAt p t k).map fun tuples => loadedArray B (tuples.keys.map (SampleCollection.entry F)) := by
  have harray := SampleCollection.arrayAt_eq F c p t k
  rw [loadedExport, Dict.lookup_build, Option.map_eq_some_iff] at hp
  obtain ⟨json, hjson, rfl⟩ := hp
  rw [SampleCollection.arrayAt, hjson, Option.bind_some] at harray
  rw [Dict.lookup_build]
  cases ht : json.lookup t with
  | none =>
    rw [ht] at harray
    cases hs : c.seriesAt p t k with
    | none => rfl
    | some tuples => rw [hs] at harray; cases harray
  | some values =>
    rw [ht, Option.bind_some] at harray
    rw [Option.map_some, Option.bind_some, Dict.lookup_build, harray, Option.map_map]
    rfl

/-- The node's element shows its sensors and keys, each exactly once, and
nothing else. -/
structure ShowsNode (B : Browser) (F : SampleDateFormatter) (c : SampleCollection) (p : String)
    (node : NodeView) : Prop where
  heading : node.heading = "Node: " ++ p
  id : node.id = "sensorSamplor-" ++ p
  sensors : (node.sensors.map (·.heading)).Nodup ∧ ∀ sensor ∈ node.sensors, (sensor.charts.map (·.title)).Nodup
  drawn : ∀ t k tuples, c.seriesAt p t k = some tuples → ∃ sensor ∈ node.sensors,
    sensor.heading = "Sensor: " ++ t ∧ ∃ chart ∈ sensor.charts, ShowsSeries B F p t k tuples chart
  only : ∀ sensor ∈ node.sensors, ∃ t, sensor.heading = "Sensor: " ++ t ∧ ∀ chart ∈ sensor.charts,
    ∃ k tuples, c.seriesAt p t k = some tuples ∧ ShowsSeries B F p t k tuples chart

theorem createSensorWith_eq_ok {p : String} {sensor : String × JSONObject (JSONArray (JSONObject JsValue))}
    {view : SensorView} : createSensorWith B O p sensor = .ok view ↔ ∃ charts,
      List.Forall₂ (fun value chart => createChartWith B p sensor.1 value.1 value.2 = .ok chart)
        (O.entries sensor.2) charts ∧
      view = ⟨"sensorSamplor-" ++ p ++ "-" ++ sensor.1, "Sensor: " ++ sensor.1, charts⟩ := by
  rw [createSensorWith, map_eq_ok]
  exact exists_congr fun charts => and_congr mapM_eq_ok eq_comm

theorem createNodeWith_eq_ok {node : String × JSONObject (JSONObject (JSONArray (JSONObject JsValue)))}
    {view : NodeView} : createNodeWith B O node = .ok view ↔ ∃ sensors,
      List.Forall₂ (fun sensor view => createSensorWith B O node.1 sensor = .ok view) (O.entries node.2) sensors ∧
      view = ⟨"sensorSamplor-" ++ node.1, "Node: " ++ node.1, sensors⟩ := by
  rw [createNodeWith, map_eq_ok]
  exact exists_congr fun sensors => and_congr mapM_eq_ok eq_comm

theorem nodup_heading {names : List String} (label : String) (h : names.Nodup) :
    (names.map (label ++ ·)).Nodup :=
  h.map fun _ _ => (String.append_right_inj label).1

theorem title_createChartWith {p t k : String} {array : JSONArray (JSONObject JsValue)} {chart : Chart}
    (h : createChartWith B p t k array = .ok chart) : chart.title = k := by
  unfold createChartWith at h
  split at h
  · cases h
  · simp only at h
    split at h
    · cases h
    · cases h
      rfl

theorem series_of_entries {p t k : String} {sensors : JSONObject (JSONObject (JSONArray (JSONObject JsValue)))}
    (hp : (loadedExport B (c.platformJson F)).lookup p = some sensors)
    {values : JSONObject (JSONArray (JSONObject JsValue))} (ht : (t, values) ∈ O.entries sensors)
    {array : JSONArray (JSONObject JsValue)} (hk : (k, array) ∈ O.entries values) :
    ∃ tuples, c.seriesAt p t k = some tuples ∧
      array = loadedArray B (tuples.keys.map (SampleCollection.entry F)) := by
  have hlookup := lookup_loadedExport hp t k
  rw [(O.mem_iff sensors t values).1 ht, Option.bind_some, (O.mem_iff values k array).1 hk] at hlookup
  obtain ⟨tuples, hs, harray⟩ := Option.map_eq_some_iff.1 hlookup.symm
  exact ⟨tuples, hs, harray.symm⟩

theorem entries_of_series {p t k : String} {sensors : JSONObject (JSONObject (JSONArray (JSONObject JsValue)))}
    (hp : (loadedExport B (c.platformJson F)).lookup p = some sensors) {tuples : Series}
    (hs : c.seriesAt p t k = some tuples) : ∃ values, (t, values) ∈ O.entries sensors ∧
      (k, loadedArray B (tuples.keys.map (SampleCollection.entry F))) ∈ O.entries values := by
  have hlookup := lookup_loadedExport hp t k
  rw [hs, Option.map_some, Option.bind_eq_some_iff] at hlookup
  obtain ⟨values, ht, hk⟩ := hlookup
  exact ⟨values, (O.mem_iff sensors t values).2 ht, (O.mem_iff values k _).2 hk⟩

/-- A stored platform is shown, unless a series of it starts with a text. -/
theorem createNodeWith_stored {p : String} {sensors : JSONObject (JSONObject (JSONArray (JSONObject JsValue)))}
    (hp : (loadedExport B (c.platformJson F)).lookup p = some sensors)
    (hreadable : ∀ t k tuples, c.seriesAt p t k = some tuples → Readable B F tuples) :
    ((∃ t k tuples, c.seriesAt p t k = some tuples ∧ StartsWithText tuples) ∧
      createNodeWith B O (p, sensors) = .error notNumber) ∨
    ((∀ t k tuples, c.seriesAt p t k = some tuples → ¬ StartsWithText tuples) ∧
      ∃ node, createNodeWith B O (p, sensors) = .ok node ∧ ShowsNode B F c p node) := by
  cases hnode : createNodeWith B O (p, sensors) with
  | error e =>
    -- the error of the first series that is not drawn
    have hmapM : (O.entries sensors).mapM (createSensorWith B O p) = .error e := by
      rw [createNodeWith] at hnode
      cases hm : (O.entries sensors).mapM (createSensorWith B O p) with
      | error e' => rw [hm] at hnode; cases hnode; rfl
      | ok views => rw [hm] at hnode; cases hnode
    obtain ⟨⟨t, values⟩, ht, hsensor⟩ := mapM_eq_error hmapM
    have hcharts : (O.entries values).mapM (fun value => createChartWith B p t value.1 value.2) = .error e := by
      rw [createSensorWith] at hsensor
      cases hm : (O.entries values).mapM fun value => createChartWith B p t value.1 value.2 with
      | error e' => rw [hm] at hsensor; cases hsensor; rfl
      | ok charts => rw [hm] at hsensor; cases hsensor
    obtain ⟨⟨k, array⟩, hk, hchart⟩ := mapM_eq_error hcharts
    obtain ⟨tuples, hs, rfl⟩ := series_of_entries hp ht hk
    rcases createChartWith_stored p t k (hreadable t k tuples hs) with ⟨htext, herror⟩ | ⟨-, chart, -, hok⟩
    · rw [herror] at hchart
      cases hchart
      exact .inl ⟨⟨t, k, tuples, hs, htext⟩, rfl⟩
    · rw [hok] at hchart
      cases hchart
  | ok node =>
    obtain ⟨views, hviews, rfl⟩ := createNodeWith_eq_ok.1 hnode
    have drawn : ∀ t k tuples, c.seriesAt p t k = some tuples → ¬ StartsWithText tuples ∧
        ∃ sensor ∈ views, sensor.heading = "Sensor: " ++ t ∧
          ∃ chart ∈ sensor.charts, ShowsSeries B F p t k tuples chart := by
      intro t k tuples hs
      obtain ⟨values, ht, hk⟩ := entries_of_series (O := O) hp hs
      obtain ⟨sensor, hsensor, hview⟩ := forall₂_mem_left hviews ht
      obtain ⟨charts, hcharts, rfl⟩ := createSensorWith_eq_ok.1 hview
      obtain ⟨chart, hchart, hok⟩ := forall₂_mem_left hcharts hk
      rcases createChartWith_stored p t k (hreadable t k tuples hs) with ⟨-, herror⟩ | ⟨htext, chart', hshows, hok'⟩
      · rw [herror] at hok
        cases hok
      · obtain rfl := Except.ok.inj (hok'.symm.trans hok)
        exact ⟨htext, _, hsensor, rfl, chart', hchart, hshows⟩
    refine .inr ⟨fun t k tuples hs => (drawn t k tuples hs).1, _, rfl, rfl, rfl, ⟨?_, fun sensor hsensor => ?_⟩,
      fun t k tuples hs => (drawn t k tuples hs).2, fun sensor hsensor => ?_⟩
    · have hnames : views.map (·.heading) = (O.entries sensors).map fun x => "Sensor: " ++ x.1 := by
        refine forall₂_map_eq hviews fun x view hview => ?_
        obtain ⟨charts, -, rfl⟩ := createSensorWith_eq_ok.1 hview
        rfl
      have hnodup := nodup_heading "Sensor: " (O.nodup sensors)
      rw [List.map_map] at hnodup
      rw [hnames]
      exact hnodup
    · obtain ⟨x, -, hview⟩ := forall₂_mem_right hviews hsensor
      obtain ⟨charts, hcharts, rfl⟩ := createSensorWith_eq_ok.1 hview
      show (charts.map (·.title)).Nodup
      rw [forall₂_map_eq (f := Prod.fst) hcharts fun _ _ => title_createChartWith]
      exact O.nodup x.2
    · obtain ⟨⟨t, values⟩, ht, hview⟩ := forall₂_mem_right hviews hsensor
      obtain ⟨charts, hcharts, rfl⟩ := createSensorWith_eq_ok.1 hview
      refine ⟨t, rfl, fun chart hchart => ?_⟩
      obtain ⟨⟨k, array⟩, hk, hok⟩ := forall₂_mem_right hcharts hchart
      obtain ⟨tuples, hs, rfl⟩ := series_of_entries hp ht hk
      rcases createChartWith_stored p t k (hreadable t k tuples hs) with ⟨-, herror⟩ | ⟨-, chart', hshows, hok'⟩
      · rw [herror] at hok
        cases hok
      · obtain rfl := Except.ok.inj (hok'.symm.trans hok)
        exact ⟨k, tuples, hs, hshows⟩

/-! ## The page -/

/-- The platforms of the export in the order in which the page meets them. -/
def platforms (B : Browser) (O : PropertyOrder) (F : SampleDateFormatter) (c : SampleCollection) : List String :=
  (O.entries (loadedExport B (c.platformJson F))).map Prod.fst

/-- A series of the platform has a text as its oldest value. -/
def HasText (c : SampleCollection) (p : String) : Prop :=
  ∃ t k tuples, c.seriesAt p t k = some tuples ∧ StartsWithText tuples

/-- The page shows the platforms before the first one that has a text, in
full, and stops there. -/
structure ShowsUntilText (B : Browser) (O : PropertyOrder) (F : SampleDateFormatter) (c : SampleCollection)
    (page : Page) : Prop where
  all : ∀ p, p ∈ platforms B O F c ↔ c.hasNode p = true
  once : (platforms B O F c).Nodup
  shown : ∃ shown rest, platforms B O F c = shown ++ rest ∧ List.Forall₂ (ShowsNode B F c) shown page.nodes ∧
    (∀ p ∈ shown, ¬ HasText c p) ∧
    (rest = [] ∧ page.uncaught = none ∨
      ∃ p rest', rest = p :: rest' ∧ HasText c p ∧ page.uncaught = some notNumber)

theorem processData_stored (hreadable : ∀ p t k tuples, c.seriesAt p t k = some tuples → Readable B F tuples) :
    ShowsUntilText B O F c (processData B O (loadedExport B (c.platformJson F))) := by
  have stored : ∀ node ∈ O.entries (loadedExport B (c.platformJson F)),
      (HasText c node.1 ∧ createNodeWith B O node = .error notNumber) ∨ (¬ HasText c node.1 ∧
        ∃ view, createNodeWith B O node = .ok view ∧ ShowsNode B F c node.1 view) := by
    intro node hnode
    have hp := (O.mem_iff _ _ _).1 hnode
    rcases createNodeWith_stored (O := O) hp (hreadable node.1) with h | ⟨hno, view, hok, hshows⟩
    · exact .inl h
    · exact .inr ⟨fun ⟨t, k, tuples, hs, htext⟩ => hno t k tuples hs htext, view, hok, hshows⟩
  refine ⟨fun p => ?_, O.nodup _, ?_⟩
  · have hjson : ((loadedExport B (c.platformJson F)).lookup p).isSome = c.hasNode p := by
      rw [loadedExport, Dict.lookup_build, Option.isSome_map, SampleCollection.platformJson, Dict.lookup_build,
        Option.isSome_map]
      rfl
    rw [← hjson, Option.isSome_iff_exists, platforms, List.mem_map]
    refine ⟨fun h => ?_, fun h => ?_⟩
    · obtain ⟨node, hnode, rfl⟩ := h
      exact ⟨node.2, (O.mem_iff _ _ _).1 hnode⟩
    · obtain ⟨sensors, hs⟩ := h
      exact ⟨(p, sensors), (O.mem_iff _ _ _).2 hs, rfl⟩
  · obtain ⟨done, rest, hentries, hdone, hrest⟩ :=
      untilError_spec (createNodeWith B O) (O.entries (loadedExport B (c.platformJson F)))
    have hmem : ∀ node ∈ done, node ∈ O.entries (loadedExport B (c.platformJson F)) :=
      fun node hnode => hentries ▸ List.mem_append_left rest hnode
    refine ⟨done.map Prod.fst, rest.map Prod.fst, by rw [platforms, hentries, List.map_append], ?_, ?_, ?_⟩
    · rw [List.forall₂_map_left_iff]
      refine List.forall₂_iff_zip.2 ⟨hdone.length_eq, fun {node view} hzip => ?_⟩
      have hok := List.forall₂_zip hdone hzip
      rcases stored node (hmem node (List.of_mem_zip hzip).1) with ⟨-, herror⟩ | ⟨-, view', hok', hshows⟩
      · rw [herror] at hok
        cases hok
      · obtain rfl := Except.ok.inj (hok'.symm.trans hok)
        exact hshows
    · intro p hp
      obtain ⟨node, hnode, rfl⟩ := List.mem_map.1 hp
      obtain ⟨view, -, hok⟩ := forall₂_mem_left hdone hnode
      rcases stored node (hmem node hnode) with ⟨-, herror⟩ | ⟨hno, -⟩
      · rw [herror] at hok
        cases hok
      · exact hno
    · rcases hrest with ⟨rfl, hnone⟩ | ⟨node, rest', e, rfl, herror, hsome⟩
      · exact .inl ⟨rfl, hnone⟩
      · rcases stored node (hentries ▸ List.mem_append_right done List.mem_cons_self) with
          ⟨htext, h⟩ | ⟨-, view, h, -⟩
        · rw [h] at herror
          cases herror
          exact .inr ⟨node.1, rest'.map Prod.fst, rfl, htext, hsome⟩
        · rw [h] at herror
          cases herror

/-- The page can read the series of a store of samples that the sensors have measured. -/
theorem readable_of_after {B : Browser} {F : SampleDateFormatter} {n : Int} (hn : 1 ≤ n) {xs : List Sample}
    {c : SampleCollection} (hafter : SampleCollection.After n xs c) (hbuilt : ∀ s ∈ xs, SensorBuilt s)
    (hparse : ∀ s ∈ xs, B.dateParse (F.formatForJson s.timestamp) = some s.timestamp.millis) :
    ∀ p t k tuples, c.seriesAt p t k = some tuples → Readable B F tuples := by
  intro p t k tuples ht
  obtain ⟨hne, -, -, hsource⟩ := (hafter.represents hn).series p t k tuples ht
  refine ⟨hne, fun e he => ?_, fun e he => ?_⟩
  · obtain ⟨s, hs, -, v, -, rfl⟩ := hsource e he
    exact hparse s hs
  · obtain ⟨s, hs, -, v, hv, rfl⟩ := hsource e he
    exact sensorBuilt_values (hbuilt s hs) hv

/-- The property that was added last comes first. -/
def newestFirst : PropertyOrder where
  entries d := d.entries.map fun e => (e.1, e.2)
  mem_iff d k v := by
    rw [← Option.mem_def, AList.mem_lookup_iff, List.mem_map]
    refine ⟨fun h => ?_, fun h => ⟨_, h, rfl⟩⟩
    obtain ⟨e, he, heq⟩ := h
    cases heq
    exact he
  nodup d := by
    rw [List.map_map]
    exact d.keys_nodup

end SensorSamplor.SampleViewer
