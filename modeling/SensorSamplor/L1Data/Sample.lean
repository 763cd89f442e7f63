import SensorSamplor.Core.Dict
import SensorSamplor.Core.JavaDouble
import SensorSamplor.Core.JavaText

/-!
# Samples

The data every component exchanges: a `TransferSample` with its id, time
stamp, platform identifier, sensor type and data items, or an `ErrorSample`,
which is a `TransferSample` of a subclass that receivers tell apart with
`instanceof`. `SamplePatternChecker` filters samples by two regular
expressions.

`mirrors M/F.java:a-b` names lines of `F.java`, given below
`sensorsamplor.M/src/main/java/ch/retorte/sensorsamplor/`.

Outside the sources, and so parameters here: how Joda-Time prints a time
stamp (`SampleDateFormatter`), how json-simple prints an object, and which
texts a compiled regular expression matches as a whole (`Pattern`).
Platform identifiers and sensor types are never null.
-/
namespace SensorSamplor

open SensorSamplor.Core SensorSamplor.Core.JavaText

/-- `java.util.UUID`: the two longs it is made of. -/
structure UUID where
  mostSigBits : BitVec 64
  leastSigBits : BitVec 64
  deriving DecidableEq

/-- `UUID.toString`: 32 hexadecimal digits in groups of 8, 4, 4, 4 and 12. -/
def UUID.toString (u : UUID) : String :=
  let mostSigBits := u.mostSigBits.toNat
  let leastSigBits := u.leastSigBits.toNat
  String.ofList (hexDigits 8 (mostSigBits / 2 ^ 32) ++ '-' :: hexDigits 4 (mostSigBits / 2 ^ 16) ++
    '-' :: hexDigits 4 mostSigBits ++ '-' :: hexDigits 4 (leastSigBits / 2 ^ 48) ++
    '-' :: hexDigits 12 leastSigBits)

/-- The text tells ids apart. -/
theorem UUID.toString_injective : Function.Injective UUID.toString := by
  intro u v h
  have hlist := String.ofList_injective h
  simp only [List.append_assoc, List.cons_append] at hlist
  obtain ⟨h₁, hlist⟩ := List.append_inj hlist (by simp)
  obtain ⟨h₂, hlist⟩ := List.append_inj (List.tail_eq_of_cons_eq hlist) (by simp)
  obtain ⟨h₃, hlist⟩ := List.append_inj (List.tail_eq_of_cons_eq hlist) (by simp)
  obtain ⟨h₄, hlist⟩ := List.append_inj (List.tail_eq_of_cons_eq hlist) (by simp)
  have h₅ := List.tail_eq_of_cons_eq hlist
  have n₁ := hexDigits_inj h₁
  have n₂ := hexDigits_inj h₂
  have n₃ := hexDigits_inj h₃
  have n₄ := hexDigits_inj h₄
  have n₅ := hexDigits_inj h₅
  have hmost : u.mostSigBits = v.mostSigBits := by
    apply BitVec.eq_of_toNat_eq
    have hu := u.mostSigBits.isLt
    have hv := v.mostSigBits.isLt
    omega
  have hleast : u.leastSigBits = v.leastSigBits := by
    apply BitVec.eq_of_toNat_eq
    have hu := u.leastSigBits.isLt
    have hv := v.leastSigBits.isLt
    omega
  cases u
  cases v
  simp_all

/-- Joda's `DateTime`: compared by its milliseconds, printed in its zone. -/
structure DateTime where
  millis : Int
  zone : String
  deriving DecidableEq

/-- The `Serializable` values of a sample: the sensors' own, and any other
object by its serialized form. -/
inductive Value where
  | null
  | string (s : String)
  | long (n : Int)
  | double (d : Double)
  | object (serialized : List UInt8)
  deriving DecidableEq

/-- The class of a sample object: `ErrorSample` or not. -/
inductive SampleClass where
  | transferSample
  | errorSample
  deriving DecidableEq

/-- mirrors base/sensor/Sample.java:12-41, base/sensor/TransferSample.java:22-36 -/
structure Sample where
  id : UUID
  timestamp : DateTime
  platformIdentifier : String
  sensorType : String
  data : Dict String Value
  cls : SampleClass
  deriving DecidableEq

namespace Sample

/-- The platform and sensor type a sample comes from. -/
def node (s : Sample) : String × String := (s.platformIdentifier, s.sensorType)

/-- `sample instanceof ErrorSample`. -/
def isError (s : Sample) : Bool := decide (s.cls = .errorSample)

/-- mirrors base/sensor/TransferSample.java:28-36; `uuid` and `now` are what
`randomUUID()` and the clock gave. -/
def transferSample (uuid : UUID) (now : DateTime) (platformIdentifier sensorType : String) : Sample :=
  ⟨uuid, now, platformIdentifier, sensorType, ∅, .transferSample⟩

/-- mirrors base/sensor/TransferSample.java:38-41 -/
def addItem (s : Sample) (key : String) (value : Value) : Sample :=
  { s with data := s.data.insert key value }

def ERROR_MESSAGE_KEY : String := "message"

/-- A Java reference to a string as a data value. -/
def ofNullable : Option String → Value
  | none => .null
  | some s => .string s

/-- mirrors base/sensor/ErrorSample.java:8-13 -/
def errorSample (uuid : UUID) (now : DateTime) (platformIdentifier sensorType : String)
    (message : Option String) : Sample :=
  { (transferSample uuid now platformIdentifier sensorType).addItem ERROR_MESSAGE_KEY
      (ofNullable message) with cls := .errorSample }

end Sample

/-! ## Printing -/

/-- mirrors base/utils/SampleDateFormatter.java:10-24: the two time stamp
formats, as Joda-Time prints them. -/
structure SampleDateFormatter where
  format : DateTime → String
  formatForJson : DateTime → String

abbrev JSONObject (ν : Type) := Dict String ν

abbrev JSONArray (ν : Type) := List ν

def FIELD_DELIMITER : String := " -- "

/-- mirrors base/sensor/TransferSample.java:48-50 -/
def formatSample (F : SampleDateFormatter) (s : Sample) : String :=
  F.format s.timestamp ++ FIELD_DELIMITER ++ s.platformIdentifier ++ FIELD_DELIMITER ++ s.sensorType ++
    FIELD_DELIMITER ++ s.id.toString ++ FIELD_DELIMITER

/-- mirrors base/sensor/TransferSample.java:52-58 -/
def formatData (toJSONString : JSONObject Value → String) (data : Dict String Value) : String :=
  toJSONString (Dict.build (fun v => v) data)

/-- mirrors base/sensor/TransferSample.java:43-46 -/
def Sample.toString (F : SampleDateFormatter) (toJSONString : JSONObject Value → String)
    (s : Sample) : String :=
  formatSample F s ++ formatData toJSONString s.data

/-! ## Filtering -/

/-- A compiled `java.util.regex.Pattern`: the texts it matches as a whole. -/
abbrev Pattern := String → Bool

/-- mirrors base/sensor/SamplePatternChecker.java:10-25 -/
structure SamplePatternChecker where
  sensorPattern : Pattern
  platformPattern : Pattern

/-- mirrors base/sensor/SamplePatternChecker.java:27-42 -/
def SamplePatternChecker.matches (c : SamplePatternChecker) (s : Sample) : Bool :=
  c.sensorPattern s.sensorType && c.platformPattern s.platformIdentifier

end SensorSamplor
