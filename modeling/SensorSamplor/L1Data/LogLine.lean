import SensorSamplor.Core.Splitting
import SensorSamplor.L1Data.Sample

/-!
# Reading a log line back

A sample is logged as one line of five fields, joined with ` -- ` and not
escaped. Split at the first four delimiters, the line gives the fields back
exactly when the platform identifier and the sensor type are fields
(`readsBack_iff`): they hold no delimiter, do not end in the part of one
that the real one after them completes, and have no line break.

The time stamp, the id and the data are never in the way. For the time stamp
and the data this rests on what Joda-Time and json-simple print (`Printers`).
-/
namespace SensorSamplor

open SensorSamplor.Core SensorSamplor.Core.JavaText SensorSamplor.Core.Splitting

/-- No value is an object of a class that json-simple does not know. -/
def Plain (data : Dict String Value) : Prop := ∀ k serialized, data.lookup k ≠ some (.object serialized)

/-- What is printed outside the sources: Joda's pattern `yyyy-MM-dd:HH:mm:ss Z`
has no line break and no two dashes in a row, and json-simple escapes the line
breaks of keys and texts. -/
structure Printers (F : SampleDateFormatter) (toJSONString : JSONObject Value → String) : Prop where
  stampLine : ∀ d, SingleLine (F.format d)
  stampDashes : ∀ d, ¬ ['-', '-'] <:+: (F.format d).toList
  dataLine : ∀ o, Plain o → SingleLine (toJSONString o)

/-- A text that can be a field of a log line. -/
def IsField (field : String) : Prop :=
  SingleLine field ∧ ¬ " -- ".toList <:+: field.toList ∧ ¬ " --".toList <:+ field.toList

instance (s : String) : Decidable (SingleLine s) :=
  inferInstanceAs (Decidable ('\n' ∉ s.toList ∧ '\r' ∉ s.toList))

instance (field : String) : Decidable (IsField field) :=
  inferInstanceAs (Decidable (SingleLine field ∧ ¬ " -- ".toList <:+: field.toList ∧
    ¬ " --".toList <:+ field.toList))

/-- A logged sample is one line, and the line has its fields. -/
structure ReadsBack (F : SampleDateFormatter) (toJSONString : JSONObject Value → String) (s : Sample) :
    Prop where
  fields : splitTextLimit FIELD_DELIMITER 5 (s.toString F toJSONString) =
    [F.format s.timestamp, s.platformIdentifier, s.sensorType, s.id.toString, formatData toJSONString s.data]
  line : SingleLine (s.toString F toJSONString)

/-! ## The delimiter -/

/-- Only its last blank is a beginning of the delimiter. -/
theorem free_delimiter_iff (part : List Char) :
    Free FIELD_DELIMITER.toList part ↔ ¬ " -- ".toList <:+: part ∧ ¬ " --".toList <:+ part := by
  show Free [' ', '-', '-', ' '] part ↔ ¬ [' ', '-', '-', ' '] <:+: part ∧ ¬ [' ', '-', '-'] <:+ part
  rw [free_iff (List.cons_ne_nil _ _)]
  refine and_congr_right fun _ => ⟨fun h => h _ [' '] (by simp) (by simp) rfl (by decide), fun h => ?_⟩
  intro t₁ t₂ h₁ h₂ hd hpre
  simp only [List.cons_eq_append_iff, List.nil_eq_append_iff] at hd
  rcases hd with ⟨rfl, -⟩ | ⟨a, rfl, ⟨rfl, rfl⟩ | ⟨b, rfl, ⟨rfl, rfl⟩ | ⟨c, rfl, ⟨rfl, rfl⟩ |
    ⟨d, rfl, rfl, rfl⟩⟩⟩⟩
  · cases h₁ rfl
  · exact absurd hpre (by decide)
  · exact absurd hpre (by decide)
  · exact h
  · cases h₂ rfl

/-- Without two dashes in a row there is no delimiter, nor part of one at the end. -/
theorem free_of_dashes {part : List Char} (h : ¬ ['-', '-'] <:+: part) : Free FIELD_DELIMITER.toList part := by
  have hdashes : ['-', '-'] <:+: " -- ".toList ∧ ['-', '-'] <:+: " --".toList := by decide
  refine (free_delimiter_iff part).2 ⟨fun hin => h (hdashes.1.trans hin), fun hsuf => ?_⟩
  exact h (hdashes.2.trans hsuf.isInfix)

theorem free_of_unbroken {field : String} (h : Unbroken field) : Free FIELD_DELIMITER.toList field.toList := by
  have hblank : ' ' ∉ field.toList := ((unbroken_iff field).1 h).1
  have hmem : ' ' ∈ " -- ".toList ∧ ' ' ∈ " --".toList := by decide
  refine (free_delimiter_iff _).2 ⟨fun hin => hblank (hin.subset hmem.1), fun hsuf => ?_⟩
  exact hblank (hsuf.subset hmem.2)

theorem isField_iff (field : String) :
    IsField field ↔ SingleLine field ∧ Free FIELD_DELIMITER.toList field.toList := by
  rw [free_delimiter_iff]
  rfl

/-! ## The fields -/

theorem UUID.unbroken_toString (u : UUID) : Unbroken u.toString := by
  have hdash : Unbroken "-" := by decide
  have hcons : ∀ cs, String.ofList ('-' :: cs) = "-" ++ String.ofList cs := fun cs => by
    rw [← String.toList_inj]
    simp
  unfold UUID.toString
  simp only [String.ofList_append, hcons, unbroken_append]
  simp [unbroken_hexDigits, hdash]

theorem plain_empty : Plain ∅ := by simp [Plain]

/-- A sample stays plain when a plain value is added. -/
theorem Plain.insert {data : Dict String Value} (h : Plain data) (key : String) {value : Value}
    (hvalue : ∀ serialized, value ≠ .object serialized) : Plain (data.insert key value) := by
  intro k serialized
  by_cases hk : k = key
  · subst hk
    simpa using hvalue serialized
  · rw [AList.lookup_insert_ne hk]
    exact h k serialized

theorem plain_build {data : Dict String Value} (h : Plain data) : Plain (Dict.build (fun v => v) data) := by
  intro k serialized
  rw [Dict.lookup_build]
  simpa using h k serialized

/-- The fields come apart as they were joined when the delimiter is in none
of the first four. -/
theorem splitTextLimit_toString (F : SampleDateFormatter) (toJSONString : JSONObject Value → String)
    (s : Sample) : splitTextLimit FIELD_DELIMITER 5 (s.toString F toJSONString) =
        [F.format s.timestamp, s.platformIdentifier, s.sensorType, s.id.toString,
          formatData toJSONString s.data] ↔
      Free FIELD_DELIMITER.toList (F.format s.timestamp).toList ∧
      Free FIELD_DELIMITER.toList s.platformIdentifier.toList ∧
      Free FIELD_DELIMITER.toList s.sensorType.toList ∧ Free FIELD_DELIMITER.toList s.id.toString.toList := by
  have hd : FIELD_DELIMITER ≠ "" := by decide
  have hline : s.toString F toJSONString = F.format s.timestamp ++ FIELD_DELIMITER ++ (s.platformIdentifier ++
      FIELD_DELIMITER ++ (s.sensorType ++ FIELD_DELIMITER ++ (s.id.toString ++ FIELD_DELIMITER ++
        formatData toJSONString s.data))) := by
    simp only [Sample.toString, formatSample, String.append_assoc]
  rw [hline, splitTextLimit_append_iff hd, splitTextLimit_append_iff hd, splitTextLimit_append_iff hd,
    splitTextLimit_append_iff hd, splitTextLimit_one]
  simp only [and_true]

/-- **Reading a log line back.** A logged sample is one line with its fields
exactly when its platform identifier and its sensor type are fields. -/
theorem readsBack_iff {F : SampleDateFormatter} {toJSONString : JSONObject Value → String}
    (hprinters : Printers F toJSONString) (s : Sample) (hs : Plain s.data) :
    ReadsBack F toJSONString s ↔ IsField s.platformIdentifier ∧ IsField s.sensorType := by
  have hid := s.id.unbroken_toString
  have hdata : SingleLine (formatData toJSONString s.data) := hprinters.dataLine _ (plain_build hs)
  have hstamp := free_of_dashes (hprinters.stampDashes s.timestamp)
  have hline : SingleLine (s.toString F toJSONString) ↔
      SingleLine s.platformIdentifier ∧ SingleLine s.sensorType := by
    have hdelimiter : SingleLine FIELD_DELIMITER := by decide
    simp [Sample.toString, formatSample, singleLine_append, hdelimiter, hprinters.stampLine, hdata,
      ((unbroken_iff _).1 hid).2]
  rw [isField_iff, isField_iff]
  refine ⟨fun h => ?_, fun h => ?_⟩
  · obtain ⟨hfields, hsingle⟩ := h
    obtain ⟨-, hplatform, htype, -⟩ := (splitTextLimit_toString F toJSONString s).1 hfields
    obtain ⟨hplatformLine, htypeLine⟩ := hline.1 hsingle
    exact ⟨⟨hplatformLine, hplatform⟩, htypeLine, htype⟩
  · obtain ⟨⟨hplatformLine, hplatform⟩, htypeLine, htype⟩ := h
    have hfields := (splitTextLimit_toString F toJSONString s).2
      ⟨hstamp, hplatform, htype, free_of_unbroken hid⟩
    exact ⟨hfields, hline.2 ⟨hplatformLine, htypeLine⟩⟩

/-! ## A logged sample -/

/-- A sample with a temperature. -/
def logged (platformIdentifier : String) : Sample :=
  (Sample.transferSample ⟨0xd38727dbcb754f10, 0xb6ccc6b12e9e7aea⟩ ⟨1419699960000, "+01:00"⟩ platformIdentifier
    "temperature").addItem "temperature" (.double (.finite 20))

/-- How that sample is printed. -/
def stamp : SampleDateFormatter :=
  ⟨fun _ => "2014-12-27:18:06:00 +0100", fun _ => "2014-12-27T18:06:00.000+0100"⟩

def temperatureJson : JSONObject Value → String := fun _ => "\x7b\"temperature\":20.0\x7d"

theorem logged_printers : Printers stamp temperatureJson := by
  refine ⟨fun d => ?_, fun d => ?_, fun o _ => ?_⟩
  · show SingleLine "2014-12-27:18:06:00 +0100"
    decide
  · show ¬ ['-', '-'] <:+: "2014-12-27:18:06:00 +0100".toList
    decide
  · show SingleLine "\x7b\"temperature\":20.0\x7d"
    decide

theorem logged_plain (platformIdentifier : String) : Plain (logged platformIdentifier).data :=
  plain_empty.insert "temperature" fun _ => by simp

theorem logged_readsBack : ReadsBack stamp temperatureJson (logged "workshop_temperature_logger") :=
  (readsBack_iff logged_printers _ (logged_plain _)).2 (by decide)

/-- A name that ends in a part of the delimiter moves the rest of it to the next field. -/
theorem dashes_at_the_end : ¬ ReadsBack stamp temperatureJson (logged "workshop --") := by
  intro h
  exact absurd h.fields (by decide +kernel)

end SensorSamplor
