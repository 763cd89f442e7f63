import SensorSamplor.Core.Outcome
import SensorSamplor.L1Data.Sample
import SensorSamplor.L1Data.Throwable

/-!
# The Graphite receiver

For each data item of a sample the receiver sends one message to the carbon
server, a line `metric_path value timestamp`. None of the three is escaped,
and the path is a join of platform, sensor type and key with a dot.

* `payload_wellFormed_iff`: when the messages are what the server reads
  three fields from.
* `paths_differ_iff`: when two measurements go to different metrics.

How an object of a class outside the repository prints itself is a parameter
(`objectToString`).
-/
namespace SensorSamplor

open SensorSamplor.Core SensorSamplor.Core.JavaText

/-- `value.toString()`, which a null reference does not have. -/
def Value.text (objectToString : List UInt8 → String) : Value → Option String
  | .null => none
  | .string s => some s
  | .long n => some n.repr
  | .double d => some d.toString
  | .object serialized => some (objectToString serialized)

/-- mirrors receiver.graphite/receiver/graphite/GraphiteSampleReceiver.java:37-47 -/
structure GraphiteSampleReceiver where
  carbonServerUrl : Option String
  carbonServerPort : Int
  carbonServerUsername : Option String
  carbonServerPassword : Option String

namespace GraphiteSampleReceiver

def GRAPHITE_FIELD_DELIMITER : String := " "

def GRAPHITE_PATH_DELIMITER : String := "."

/-- mirrors receiver.graphite/receiver/graphite/GraphiteSampleReceiver.java:114-117 -/
def pathOf (sample : Sample) (key : String) : String :=
  sample.platformIdentifier ++ GRAPHITE_PATH_DELIMITER ++ sample.sensorType ++ GRAPHITE_PATH_DELIMITER ++ key

/-- mirrors receiver.graphite/receiver/graphite/GraphiteSampleReceiver.java:119-122 -/
def valueOf (objectToString : List UInt8 → String) (sample : Sample) (key : String) :
    Except Throwable String :=
  match (sample.data.lookup key).bind (Value.text objectToString) with
  | some text => .ok text
  | none => .error .nullPointerException

/-- mirrors receiver.graphite/receiver/graphite/GraphiteSampleReceiver.java:124-127; the
division of Java's `long` rounds toward zero. -/
def timestampOf (sample : Sample) : String := (sample.timestamp.millis.tdiv 1000).repr

/-- mirrors receiver.graphite/receiver/graphite/GraphiteSampleReceiver.java:109-112 -/
def graphiteFormatOfItem (objectToString : List UInt8 → String) (sample : Sample) (key : String) :
    Except Throwable String := do
  let value ← valueOf objectToString sample key
  return pathOf sample key ++ GRAPHITE_FIELD_DELIMITER ++ value ++ GRAPHITE_FIELD_DELIMITER ++
    timestampOf sample

/-- mirrors receiver.graphite/receiver/graphite/GraphiteSampleReceiver.java:101-107 -/
def graphiteFormatOf (objectToString : List UInt8 → String) (sample : Sample) :
    Except Throwable (List String) :=
  sample.data.keys.mapM (graphiteFormatOfItem objectToString sample)

/-! ## The messages -/

/-- A line of which the server reads these three fields. -/
def IsMessage (line path value timestamp : String) : Prop :=
  SingleLine line ∧ fields line = [path, value, timestamp]

/-- The line is the message of the sample's data item `key`. -/
def IsMessageOf (objectToString : List UInt8 → String) (sample : Sample) (key line : String) : Prop :=
  ∃ value, (sample.data.lookup key).bind (Value.text objectToString) = some value ∧
    IsMessage line (pathOf sample key) value (sample.timestamp.millis.tdiv 1000).repr

/-- The payload of a sample is one message for each of its data items. -/
def WellFormed (objectToString : List UInt8 → String) (sample : Sample) : Prop :=
  ∃ lines, graphiteFormatOf objectToString sample = .ok lines ∧
    List.Forall₂ (IsMessageOf objectToString sample) sample.data.keys lines

/-- A value whose text is a field. -/
def Printable (objectToString : List UInt8 → String) : Value → Prop
  | .null => False
  | .string s => Unbroken s
  | .long _ => True
  | .double _ => True
  | .object serialized => Unbroken (objectToString serialized)

/-- No data item lacks a value, and no part of a message has a blank or a
line end in it. -/
def Sendable (objectToString : List UInt8 → String) (sample : Sample) : Prop :=
  ∀ key value, sample.data.lookup key = some value →
    (Unbroken sample.platformIdentifier ∧ Unbroken sample.sensorType ∧ Unbroken key) ∧
    Printable objectToString value

instance (objectToString : List UInt8 → String) (value : Value) : Decidable (Printable objectToString value) :=
  match value with
  | .null => .isFalse id
  | .string s => inferInstanceAs (Decidable (Unbroken s))
  | .long _ => .isTrue trivial
  | .double _ => .isTrue trivial
  | .object serialized => inferInstanceAs (Decidable (Unbroken (objectToString serialized)))

theorem sendable_entries_iff (objectToString : List UInt8 → String) (sample : Sample) :
    Sendable objectToString sample ↔ ∀ item ∈ sample.data.entries,
      (Unbroken sample.platformIdentifier ∧ Unbroken sample.sensorType ∧ Unbroken item.1) ∧
      Printable objectToString item.2 := by
  refine ⟨fun h item hitem => ?_, fun h key value hvalue => ?_⟩
  · exact h item.1 item.2 (AList.mem_lookup_iff.2 hitem)
  · exact h ⟨key, value⟩ (AList.mem_lookup_iff.1 hvalue)

instance (objectToString : List UInt8 → String) (sample : Sample) :
    Decidable (Sendable objectToString sample) :=
  decidable_of_iff _ (sendable_entries_iff objectToString sample).symm

theorem printable_iff (objectToString : List UInt8 → String) (value : Value) :
    Printable objectToString value ↔
      ∃ text, value.text objectToString = some text ∧ Unbroken text := by
  cases value with
  | null => simp [Printable, Value.text]
  | string s => simp [Printable, Value.text]
  | long n => simp [Printable, Value.text, unbroken_repr]
  | double d => simp [Printable, Value.text, Double.unbroken_toString]
  | object serialized => simp [Printable, Value.text]

theorem unbroken_pathOf (sample : Sample) (key : String) : Unbroken (pathOf sample key) ↔
    Unbroken sample.platformIdentifier ∧ Unbroken sample.sensorType ∧ Unbroken key := by
  have hdot : Unbroken GRAPHITE_PATH_DELIMITER := by decide
  unfold pathOf
  simp only [unbroken_append, hdot, and_true]
  rw [and_assoc]

/-- One data item: its message is one exactly when its parts are fields. -/
theorem message_iff (objectToString : List UInt8 → String) (sample : Sample) {key : String} {value : Value}
    (hv : sample.data.lookup key = some value) :
    (∃ line, graphiteFormatOfItem objectToString sample key = .ok line ∧
      IsMessageOf objectToString sample key line) ↔
    (Unbroken sample.platformIdentifier ∧ Unbroken sample.sensorType ∧ Unbroken key) ∧
      Printable objectToString value := by
  rw [printable_iff, ← unbroken_pathOf]
  have htime : Unbroken (sample.timestamp.millis.tdiv 1000).repr := unbroken_repr _
  unfold graphiteFormatOfItem valueOf IsMessageOf
  rw [hv, Option.bind_some]
  cases htext : value.text objectToString with
  | none =>
    refine ⟨fun h => ?_, fun h => ?_⟩
    · obtain ⟨line, hline, -⟩ := h
      cases hline
    · obtain ⟨-, text, htext, -⟩ := h
      cases htext
  | some text =>
    have hfields := fields_join_iff (pathOf sample key) text (sample.timestamp.millis.tdiv 1000).repr
    refine ⟨fun h => ?_, fun h => ?_⟩
    · obtain ⟨line, hline, value, hvalue, hmessage⟩ := h
      cases hline
      cases hvalue
      obtain ⟨hpath, hvalue, -⟩ := hfields.1 hmessage
      exact ⟨hpath, text, rfl, hvalue⟩
    · obtain ⟨hpath, value, hvalue, hunbroken⟩ := h
      cases hvalue
      exact ⟨_, rfl, text, rfl, hfields.2 ⟨hpath, hunbroken, htime⟩⟩

/-- The three fields of each message of a sample. -/
def messagesOf (objectToString : List UInt8 → String) (sample : Sample) : List (List String) :=
  sample.data.keys.map fun key => [pathOf sample key,
    ((sample.data.lookup key).bind (Value.text objectToString)).getD "", (sample.timestamp.millis.tdiv 1000).repr]

/-- The payload of a sample that can be sent: lines with these fields. -/
theorem payload_of_sendable {objectToString : List UInt8 → String} {sample : Sample}
    (h : Sendable objectToString sample) {lines : List String}
    (hlines : graphiteFormatOf objectToString sample = .ok lines) :
    (∀ line ∈ lines, SingleLine line) ∧ lines.map fields = messagesOf objectToString sample := by
  have hmessage : List.Forall₂ (IsMessageOf objectToString sample) sample.data.keys lines := by
    have hpayload := mapM_eq_ok.1 hlines
    rw [List.forall₂_iff_zip] at hpayload ⊢
    refine ⟨hpayload.1, fun {key line} hzip => ?_⟩
    obtain ⟨value, hv⟩ := Dict.exists_lookup (List.of_mem_zip hzip).1
    obtain ⟨line', hline', hmessage⟩ := (message_iff objectToString sample hv).2 (h key value hv)
    rw [hpayload.2 hzip] at hline'
    cases hline'
    exact hmessage
  refine ⟨fun line hline => ?_, forall₂_map_eq hmessage fun key line hline => ?_⟩
  · obtain ⟨key, -, -, -, hsingle, -⟩ := forall₂_mem_right hmessage hline
    exact hsingle
  · obtain ⟨value, hvalue, -, hfields⟩ := hline
    rw [hfields, hvalue, Option.getD_some]

/-- **The payload.** For every sample, the receiver's payload is one message
of three fields for each data item if and only if none of them is null and
neither platform, sensor type, keys nor values have a blank or line end. -/
theorem payload_wellFormed_iff (objectToString : List UInt8 → String) (sample : Sample) :
    WellFormed objectToString sample ↔ Sendable objectToString sample := by
  have hall : WellFormed objectToString sample ↔ ∀ key ∈ sample.data.keys, ∃ line,
      graphiteFormatOfItem objectToString sample key = .ok line ∧
        IsMessageOf objectToString sample key line := by
    unfold WellFormed graphiteFormatOf
    rw [← exists_forall₂]
    exact exists_congr fun lines => by rw [mapM_eq_ok, forall₂_conj_iff]
  rw [hall]
  unfold Sendable
  constructor
  · intro h key value hv
    have hkey : key ∈ sample.data.keys := Dict.mem_of_lookup hv
    exact (message_iff objectToString sample hv).1 (h key hkey)
  · intro h key hkey
    obtain ⟨value, hv⟩ := Dict.exists_lookup hkey
    exact (message_iff objectToString sample hv).2 (h key value hv)

/-- What an XPath to an element leaves in a sample. -/
def elementSample : Sample :=
  (Sample.transferSample ⟨0, 1⟩ ⟨0, "UTC"⟩ "node" "myDonutSensor").addItem "pastries/donuts/total" .null

theorem elementSample_not_sent : elementSample.isError = false ∧
    ¬ WellFormed (fun _ => "") elementSample := by
  refine ⟨rfl, fun h => ?_⟩
  obtain ⟨lines, hlines, -⟩ := h
  cases hlines

/-! ## The paths -/

/-- The second path is read with more of the text in its platform, or in its
platform and sensor type, than the first. -/
def ShiftsPath (s : Sample) (k : String) (s' : Sample) (k' : String) : Prop :=
  (k = k' ∧ Shifts GRAPHITE_PATH_DELIMITER s.platformIdentifier s.sensorType s'.platformIdentifier
    s'.sensorType) ∨
  Shifts GRAPHITE_PATH_DELIMITER (s.platformIdentifier ++ GRAPHITE_PATH_DELIMITER ++ s.sensorType) k
    (s'.platformIdentifier ++ GRAPHITE_PATH_DELIMITER ++ s'.sensorType) k'

theorem pathOf_eq_iff (s s' : Sample) (k k' : String) : pathOf s k = pathOf s' k' ↔
    (s.platformIdentifier, s.sensorType, k) = (s'.platformIdentifier, s'.sensorType, k') ∨
      ShiftsPath s k s' k' ∨ ShiftsPath s' k' s k := by
  have hdot : GRAPHITE_PATH_DELIMITER.toList = ['.'] := rfl
  unfold pathOf ShiftsPath
  rw [join_eq_iff hdot, join_eq_iff hdot, Prod.mk.injEq, Prod.mk.injEq]
  constructor
  · intro h
    obtain ⟨⟨hp, ht⟩ | hshift | hshift, hk⟩ | hshift | hshift := h
    · exact .inl ⟨hp, ht, hk⟩
    · exact .inr (.inl (.inl ⟨hk, hshift⟩))
    · exact .inr (.inr (.inl ⟨hk.symm, hshift⟩))
    · exact .inr (.inl (.inr hshift))
    · exact .inr (.inr (.inr hshift))
  · intro h
    obtain ⟨hp, ht, hk⟩ | (⟨hk, hshift⟩ | hshift) | ⟨hk, hshift⟩ | hshift := h
    · exact .inl ⟨.inl ⟨hp, ht⟩, hk⟩
    · exact .inl ⟨.inr (.inl hshift), hk⟩
    · exact .inr (.inl hshift)
    · exact .inl ⟨.inr (.inr hshift), hk.symm⟩
    · exact .inr (.inr hshift)

/-- **Metrics of their own.** Two different measurements go to different
metrics if and only if neither of them shifts into the other at a dot. -/
theorem paths_differ_iff (s s' : Sample) (k k' : String)
    (h : (s.platformIdentifier, s.sensorType, k) ≠ (s'.platformIdentifier, s'.sensorType, k')) :
    pathOf s k ≠ pathOf s' k' ↔ ¬ ShiftsPath s k s' k' ∧ ¬ ShiftsPath s' k' s k := by
  rw [Ne, pathOf_eq_iff, or_iff_right h, not_or]

/-- A sample of the platform and sensor type. -/
def sampleOf (platformIdentifier sensorType : String) : Sample :=
  Sample.transferSample ⟨0, 1⟩ ⟨0, "UTC"⟩ platformIdentifier sensorType

theorem twoKeys_paths_differ :
    pathOf (sampleOf "myPlatform" "mySensor") "myKey1" ≠ pathOf (sampleOf "myPlatform" "mySensor") "myKey2" ↔
      ¬ ShiftsPath (sampleOf "myPlatform" "mySensor") "myKey1" (sampleOf "myPlatform" "mySensor") "myKey2" ∧
      ¬ ShiftsPath (sampleOf "myPlatform" "mySensor") "myKey2" (sampleOf "myPlatform" "mySensor") "myKey1" :=
  paths_differ_iff _ _ _ _ (by decide)

/-- The load of the host `pi.home`, and that of a source `home.systemStats` of the host `pi`. -/
theorem hostName_merges : ("pi.home", "systemStats", "load") ≠ ("pi", "home.systemStats", "load") ∧
    pathOf (sampleOf "pi.home" "systemStats") "load" = pathOf (sampleOf "pi" "home.systemStats") "load" := by
  decide

end GraphiteSampleReceiver
end SensorSamplor
