import SensorSamplor.L2Bus.NetworkConfig
import SensorSamplor.L3Receivers.LastSamples
import SensorSamplor.L4App.Factories

/-!
# What becomes of a setting

Three settings are taken as they come, and each has values with which the
application does not do what its configuration file describes.

* The source of the XML sensor is split twice, and the second split drops
  empty parts at the end but keeps them elsewhere, so a source with an empty
  XPath is not refused (`inverts_iff`).
* The number of entries of the JSON exporter may be any integer, but only
  with one or more the store ends its loop (`storing_ends_iff`).
* A list is split before its parts are trimmed, so a blank part becomes an
  empty item (`exact_iff`); as a remote member it turns multicast off.
-/
namespace SensorSamplor

open SensorSamplor.Core SensorSamplor.Core.JavaText

/-! ## The source of the XML sensor -/

namespace HttpXmlSensorFactory

/-- `NAME;URL;XPATH[;XPATH]*` with a URL that is one. -/
structure Documented (env : Environment) (s name url : String) (xPaths : List String) : Prop where
  freeName : ';' ∉ name.toList
  freeUrl : ';' ∉ url.toList
  accepted : env.malformedURL url = none
  nonempty : xPaths ≠ []
  paths : ∀ x ∈ xPaths, x ≠ "" ∧ ';' ∉ x.toList
  join : s = ";".intercalate (name :: url :: xPaths)

/-- Parsing takes a documented source apart, and nothing else. -/
structure Inverts (env : Environment) (s : String) : Prop where
  complete : ∀ name url xPaths, Documented env s name url xPaths → parseSourceOf env s = .ok ⟨name, url, xPaths⟩
  sound : ∀ source, parseSourceOf env s = .ok source → Documented env s source.name source.url source.xPaths

theorem intercalate_cons_cons {name url : String} {xPaths : List String} (h : xPaths ≠ []) :
    ";".intercalate (name :: url :: xPaths) = name ++ ";" ++ url ++ ";" ++ ";".intercalate xPaths := by
  rw [String.intercalate_cons_of_ne_nil (List.cons_ne_nil url xPaths), String.intercalate_cons_of_ne_nil h]
  simp only [String.append_assoc]

/-- Three parts, the second one a URL. -/
theorem parseSourceOf_eq_ok {env : Environment} {s : String} {source : HttpXmlSensorSource} :
    parseSourceOf env s = .ok source ↔ ∃ rest, s = source.name ++ ";" ++ source.url ++ ";" ++ rest ∧
      ';' ∉ source.name.toList ∧ ';' ∉ source.url.toList ∧ env.malformedURL source.url = none ∧
      source.xPaths = split ';' rest := by
  have three : ∀ name url rest, splitLimit ';' 3 s = [name, url, rest] ↔
      s = name ++ ";" ++ url ++ ";" ++ rest ∧ ';' ∉ name.toList ∧ ';' ∉ url.toList :=
    fun name url rest => splitLimit_three_iff
  have built : ∀ name url rest, HttpXmlSensorSource.new env name url (split ';' rest) = .ok source ↔
      env.malformedURL url = none ∧ source = ⟨name, url, split ';' rest⟩ := by
    intro name url rest
    unfold HttpXmlSensorSource.new
    cases env.malformedURL url <;> simp [eq_comm]
  unfold parseSourceOf
  refine ⟨fun h => ?_, fun h => ?_⟩
  · split at h
    · rename_i name url rest hsplit
      obtain ⟨hs, hname, hurl⟩ := (three name url rest).1 hsplit
      obtain ⟨haccepted, rfl⟩ := (built name url rest).1 h
      exact ⟨rest, hs, hname, hurl, haccepted, rfl⟩
    · cases h
  · obtain ⟨rest, hs, hname, hurl, haccepted, hx⟩ := h
    rw [(three source.name source.url rest).2 ⟨hs, hname, hurl⟩]
    exact (built source.name source.url rest).2 ⟨haccepted, by rw [← hx]⟩

theorem Documented.parts {env : Environment} {s name url : String} {xPaths : List String}
    (h : Documented env s name url xPaths) : parts ';' (";".intercalate xPaths) = xPaths :=
  parts_eq_iff.2 ⟨h.nonempty, fun x hx => (h.paths x hx).2, rfl⟩

theorem Documented.not_mem_parts {env : Environment} {s name url : String} {xPaths : List String}
    (h : Documented env s name url xPaths) : "" ∉ JavaText.parts ';' (";".intercalate xPaths) := by
  rw [h.parts]
  intro hempty
  exact (h.paths "" hempty).1 rfl

/-- Every documented source is read. -/
theorem Documented.parse {env : Environment} {s name url : String} {xPaths : List String}
    (h : Documented env s name url xPaths) : parseSourceOf env s = .ok ⟨name, url, xPaths⟩ := by
  refine parseSourceOf_eq_ok.2 ⟨";".intercalate xPaths, ?_, h.freeName, h.freeUrl, h.accepted, ?_⟩
  · rw [h.join, intercalate_cons_cons h.nonempty]
  · rw [split_of_not_mem h.not_mem_parts, h.parts]

/-- A source of three parts is documented when the last one has no empty part. -/
theorem documented_iff {env : Environment} {name url rest : String} (hname : ';' ∉ name.toList)
    (hurl : ';' ∉ url.toList) (haccepted : env.malformedURL url = none) :
    Documented env (name ++ ";" ++ url ++ ";" ++ rest) name url (split ';' rest) ↔ "" ∉ parts ';' rest := by
  refine ⟨fun h => ?_, fun hempty => ?_⟩
  · have hjoin := h.join
    rw [intercalate_cons_cons h.nonempty] at hjoin
    have hrest : rest = ";".intercalate (split ';' rest) := by
      rw [← String.toList_inj] at hjoin ⊢
      simpa using hjoin
    rw [hrest]
    exact h.not_mem_parts
  · obtain ⟨hne, hfree, hjoin⟩ := parts_eq_iff.1 (rfl : parts ';' rest = parts ';' rest)
    rw [split_of_not_mem hempty]
    refine ⟨hname, hurl, haccepted, hne, fun x hx => ⟨?_, hfree x hx⟩, ?_⟩
    · rintro rfl
      exact hempty hx
    · rw [intercalate_cons_cons hne]
      exact congrArg _ hjoin.symm

/-- **The source of the XML sensor.** Documented sources are read as they are
meant. Nothing else is read exactly when none of the parts after the URL is
empty, or the source is refused anyway. -/
theorem inverts_iff (env : Environment) (s : String) :
    Inverts env s ↔ ∀ name url rest, s = name ++ ";" ++ url ++ ";" ++ rest → ';' ∉ name.toList →
      ';' ∉ url.toList → env.malformedURL url = none → "" ∉ parts ';' rest := by
  constructor
  · rintro ⟨-, hsound⟩ name url rest rfl hname hurl haccepted
    have hparse : parseSourceOf env (name ++ ";" ++ url ++ ";" ++ rest) = .ok ⟨name, url, split ';' rest⟩ :=
      parseSourceOf_eq_ok.2 ⟨rest, rfl, hname, hurl, haccepted, rfl⟩
    exact (documented_iff hname hurl haccepted).1 (hsound _ hparse)
  · intro h
    refine ⟨fun name url xPaths hdoc => hdoc.parse, fun source hparse => ?_⟩
    obtain ⟨rest, rfl, hname, hurl, haccepted, hx⟩ := parseSourceOf_eq_ok.1 hparse
    rw [hx]
    exact (documented_iff hname hurl haccepted).2 (h _ _ rest rfl hname hurl haccepted)

/-- A delimiter at the end is not refused, and is lost. -/
theorem trailing_delimiter_lost :
    ¬ Inverts linux "myDonutSensor;http://api.doughnuts.com/location/3;pastries/donuts/total;" := by
  intro h
  have hjoin := (h.sound ⟨"myDonutSensor", "http://api.doughnuts.com/location/3", ["pastries/donuts/total"]⟩
    (by decide +kernel)).join
  exact absurd hjoin (by decide +kernel)

end HttpXmlSensorFactory

/-! ## The number of entries of the JSON exporter -/

namespace JsonExporterSampleReceiverFactory

open SampleCollection

/-- One entry or more is kept, which is so unless configured otherwise. -/
def AtLeastOne (setting : String → Option String) : Prop :=
  MissingOr (setting MAXIMUM_EXPORT_ENTRIES_PER_SENSOR) fun value => ∃ n, parseInt value = some n ∧ 1 ≤ n

/-- The limit of the store that a factory creates. -/
theorem limit_of_builds {env : Environment} {properties : Properties} {outputFile : Option String}
    {checker : SamplePatternChecker} {c₀ : SampleCollection}
    (h : Builds properties (factory env) (.json outputFile checker c₀)) :
    ∃ n, c₀ = SampleCollection.new n ∧ (1 ≤ n ↔ AtLeastOne properties) := by
  obtain ⟨f, hf, hcreate⟩ := h
  obtain ⟨hn, -⟩ := setConfigurationValues_eq_ok.1 hf
  have hlookup : (getConfigurationItemsFor properties (factory env).getConfigurationKeys).lookup
      MAXIMUM_EXPORT_ENTRIES_PER_SENSOR = properties MAXIMUM_EXPORT_ENTRIES_PER_SENSOR := by
    rw [lookup_getConfigurationItemsFor, if_pos (by simp [factory])]
  have hnew : c₀ = SampleCollection.new f.maximumEntriesPerSensor := by
    obtain ⟨checker', -, heq⟩ := bind_eq_ok.1 hcreate
    cases heq
    rfl
  refine ⟨f.maximumEntriesPerSensor, hnew, ?_⟩
  unfold AtLeastOne MissingOr
  unfold ifConfigured at hn
  rw [hlookup] at hn
  cases hsetting : properties MAXIMUM_EXPORT_ENTRIES_PER_SENSOR with
  | none =>
    simp only [hsetting, Except.ok.injEq] at hn
    simp [← hn]
  | some value =>
    simp only [hsetting, integerValueOf] at hn
    split at hn
    · rename_i n hparse
      rw [Except.ok.injEq] at hn
      simp [hparse, ← hn]
    · cases hn

/-- **Storing ends.** The eviction loop of a configured store ends exactly when
the limit is one or more. With a lower limit no sample that has a value is
ever stored: the call for it does not return. -/
theorem storing_ends_iff {env : Environment} {properties : Properties} {outputFile : Option String}
    {checker : SamplePatternChecker} {c₀ : SampleCollection}
    (h : Builds properties (factory env) (.json outputFile checker c₀)) :
    (∀ tuples, LoopEnds c₀.maximumEntriesPerSensor tuples ↔ AtLeastOne properties) ∧
    ∀ xs s, (∃ c c', addAll c₀ xs = .ok c ∧ c.addSample s = .ok c') ↔
      AtLeastOne properties ∨ ∀ x ∈ xs ++ [s], x.data.entries = [] := by
  obtain ⟨n, rfl, hn⟩ := limit_of_builds h
  refine ⟨fun tuples => (loopEnds_iff n tuples).trans hn, fun xs s => ?_⟩
  have hcalls : (∃ c c', addAll (SampleCollection.new n) xs = .ok c ∧ c.addSample s = .ok c') ↔
      ∃ c', addAll (SampleCollection.new n) (xs ++ [s]) = .ok c' := by
    simp only [addAll_concat, bind_eq_ok]
    exact exists_comm
  rw [hcalls, addAll_ok_iff, ← hn]
  unfold Terminates
  by_cases h₁ : 1 ≤ n <;> simp [h₁]

/-- A configured JSON exporter with this limit. -/
def limitedTo (limit : String) : Properties := fun key =>
  if key = MAXIMUM_EXPORT_ENTRIES_PER_SENSOR then some limit
  else if key = RECEIVER_SENSOR_TYPE_PATTERN ∨ key = RECEIVER_PLATFORM_IDENTIFIER_PATTERN then some ".*"
  else none

theorem limit_two_ends : ∃ c c', addAll (SampleCollection.new 2) [readingAt 1] = .ok c ∧
    c.addSample (readingAt 2) = .ok c' := by
  have hbuilds := (⟨_, rfl, rfl⟩ : Builds (limitedTo "2") (factory linux) (.json none _ (.new 2)))
  have hlimit : AtLeastOne (limitedTo "2") := by
    intro value hvalue
    cases hvalue
    exact ⟨2, by decide, by decide⟩
  exact ((storing_ends_iff hbuilds).2 [readingAt 1] (readingAt 2)).2 (.inl hlimit)

/-- With a limit of zero the loop goes on when there is nothing left to evict. -/
theorem limit_zero_hangs : ∃ checker c₀, Builds (limitedTo "0") (factory linux) (.json none checker c₀) ∧
    ¬ LoopEnds c₀.maximumEntriesPerSensor .empty ∧ ¬ ∃ c, c₀.addSample (readingAt 1) = .ok c := by
  refine ⟨_, .new 0, ⟨_, rfl, rfl⟩, fun hends => ?_, fun ⟨c, hc⟩ => ?_⟩
  · exact absurd ((loopEnds_iff _ _).1 hends) (by decide)
  · rw [addSample_diverges (fun h => by rcases h with h | h <;> exact absurd h (by decide))] at hc
    cases hc

end JsonExporterSampleReceiverFactory

/-! ## Lists -/

open HazelcastSensorBus (setNetworkConfigWith setNetworkConfigWith_eq)

/-- The parts of a value that have text, trimmed. -/
def textParts (value : String) : List String := ((parts ',' value).map trim).filter fun item => item ≠ ""

/-- An item of a list, as somebody may write it. -/
structure Item where
  before : String
  text : String
  after : String
  blankBefore : ∀ c ∈ before.toList, c ≤ ' '
  blankAfter : ∀ c ∈ after.toList, c ≤ ' '
  trimmed : trim text = text
  nonblank : text ≠ ""
  single : ',' ∉ text.toList

def Item.written (i : Item) : String := i.before ++ i.text ++ i.after

/-- A list setting gives its items and nothing else, and that is what the bus
gets when its interfaces, or its remote members, are the setting. -/
structure Exact (value : String) : Prop where
  items : getStringListPropertyOf value = textParts value
  empty : getStringListPropertyOf value = [] ↔ ∀ part ∈ parts ',' value, trim part = ""
  joined : ∀ items : List Item, value = ",".intercalate (items.map Item.written) →
    getStringListPropertyOf value = items.map Item.text
  interfaces : ∀ config members, "" ∉ config.interfaces.addresses →
    "" ∉ (setNetworkConfigWith config (getStringListPropertyOf value) members).interfaces.addresses
  members : ∀ config interfaces, "" ∉ config.join.tcpIpConfig.addresses →
    "" ∉ (setNetworkConfigWith config interfaces (getStringListPropertyOf value)).join.tcpIpConfig.addresses
  multicast : ∀ config interfaces,
    (setNetworkConfigWith config interfaces (getStringListPropertyOf value)).join.multicastConfig.enabled = true ↔
      ∀ part ∈ parts ',' value, trim part = ""

theorem mem_textParts {value item : String} :
    item ∈ textParts value ↔ item ≠ "" ∧ ∃ part ∈ parts ',' value, trim part = item := by
  simp [textParts, and_comm]

theorem textParts_eq_nil {value : String} : textParts value = [] ↔ ∀ part ∈ parts ',' value, trim part = "" := by
  simp [textParts, List.filter_eq_nil_iff]

theorem textParts_empty : textParts "" = [] := by simp [textParts, parts_empty, trim]

/-- Every part of a written list is the item that was written. -/
theorem Item.trim_written (i : Item) : trim i.written = i.text := trim_pad i.blankBefore i.trimmed i.blankAfter

theorem Item.comma_not_mem_written (i : Item) : ',' ∉ i.written.toList := by
  have hblank : ∀ {s : String}, (∀ c ∈ s.toList, c ≤ ' ') → ',' ∉ s.toList :=
    fun h hc => absurd (h ',' hc) (by decide)
  simp only [Item.written, String.toList_append, List.mem_append, not_or]
  exact ⟨⟨hblank i.blankBefore, i.single⟩, hblank i.blankAfter⟩

theorem parts_written {items : List Item} (h : items ≠ []) :
    parts ',' (",".intercalate (items.map Item.written)) = items.map Item.written := by
  refine parts_eq_iff.2 ⟨mt List.map_eq_nil_iff.1 h, fun part hpart => ?_, rfl⟩
  obtain ⟨i, -, rfl⟩ := List.mem_map.1 hpart
  exact i.comma_not_mem_written

theorem textParts_written (items : List Item) :
    textParts (",".intercalate (items.map Item.written)) = items.map Item.text := by
  by_cases h : items = []
  · subst h
    exact textParts_empty
  · unfold textParts
    rw [parts_written h, List.map_map, List.filter_eq_self.2]
    · exact List.map_congr_left fun i _ => i.trim_written
    · intro item hitem
      obtain ⟨i, -, rfl⟩ := List.mem_map.1 hitem
      simp [i.trim_written, i.nonblank]

/-- Nothing but empty parts at the end is without text. -/
def Tidy (value : String) : Prop :=
  ∃ texts n, parts ',' value = texts ++ List.replicate n "" ∧ ∀ part ∈ texts, trim part ≠ ""

theorem tidy_iff (value : String) :
    Tidy value ↔ ∀ part ∈ (parts ',' value).rdropWhile (fun part => part == ""), trim part ≠ "" := by
  constructor
  · rintro ⟨texts, n, hparts, htexts⟩ part hpart
    rw [hparts, Splitting.rdropWhile_append_of_pos _ (by simp)] at hpart
    exact htexts part ((List.rdropWhile_prefix _ _).subset hpart)
  · intro h
    obtain ⟨n, hparts⟩ := parts_eq_append ',' value
    exact ⟨_, n, hparts, h⟩

theorem textParts_eq (value : String) : textParts value =
    (((parts ',' value).rdropWhile fun part => part == "").map trim).filter fun item => item ≠ "" := by
  obtain ⟨n, hparts⟩ := parts_eq_append ',' value
  have hempty : ((List.replicate n "").map trim).filter (fun item => item ≠ "") = [] := by
    simp [trim]
  unfold textParts
  conv_lhs => rw [hparts, List.map_append, List.filter_append, hempty, List.append_nil]

/-- The list is the trimmed parts with text exactly when the value is tidy. -/
theorem getStringListPropertyOf_eq_iff (value : String) :
    getStringListPropertyOf value = textParts value ↔ Tidy value := by
  unfold getStringListPropertyOf
  by_cases hvalue : value = ""
  · subst hvalue
    exact iff_of_true textParts_empty.symm ⟨[], 1, parts_empty ',', by simp⟩
  · rw [if_neg hvalue, split_eq hvalue, textParts_eq, tidy_iff, eq_comm, List.filter_eq_self]
    simp

/-- Items that were written with blanks around them come back without. -/
theorem getStringListPropertyOf_written (items : List Item) :
    getStringListPropertyOf (",".intercalate (items.map Item.written)) = items.map Item.text := by
  rw [← textParts_written, getStringListPropertyOf_eq_iff]
  by_cases h : items = []
  · subst h
    exact ⟨[], 1, parts_empty ',', by simp⟩
  · refine ⟨_, 0, (parts_written h).trans (List.append_nil _).symm, fun part hpart => ?_⟩
    obtain ⟨i, -, rfl⟩ := List.mem_map.1 hpart
    rw [i.trim_written]
    exact i.nonblank

/-- **List settings.** A list setting gives exactly its items, and the bus no
empty address, exactly when it is tidy. -/
theorem exact_iff (value : String) : Exact value ↔ Tidy value := by
  rw [← getStringListPropertyOf_eq_iff]
  refine ⟨fun h => h.items, fun h => ?_⟩
  have hblank : "" ∉ getStringListPropertyOf value := by
    rw [h]
    exact fun hmem => (mem_textParts.1 hmem).1 rfl
  have hempty : getStringListPropertyOf value = [] ↔ ∀ part ∈ parts ',' value, trim part = "" := by
    rw [h]
    exact textParts_eq_nil
  refine ⟨h, hempty, ?_, ?_, ?_, ?_⟩
  · rintro items rfl
    exact getStringListPropertyOf_written items
  · intro config members hconfig hmem
    rw [setNetworkConfigWith_eq] at hmem
    exact (List.mem_append.1 hmem).elim hconfig hblank
  · intro config interfaces hconfig hmem
    rw [setNetworkConfigWith_eq] at hmem
    exact (List.mem_append.1 hmem).elim hconfig hblank
  · intro config interfaces
    rw [setNetworkConfigWith_eq, ← hempty]
    exact decide_eq_true_iff

/-- A blank after the last comma is an empty item. -/
theorem trailing_blank_listed : ¬ Exact "192.168.1.5, " := by
  intro h
  exact absurd h.items (by decide +kernel)

end SensorSamplor
