import SensorSamplor.L1Data.Sample
import SensorSamplor.L1Data.Throwable

/-!
# The temperature and humidity sensor

`measure` reads the native library up to five times, until a read succeeds
and is not too far off the last reported one, caches the reading and reports
it corrected and rounded. What the library returns is a sequence of
`Reading`s, one for each call; its values are finite numbers, each made of
two bytes (`sensorsamplor.sensor.temperature/src/main/c/pi_dht_read.c:147-151`).

The source keeps the two cached values in two fields and dereferences the
second when the first is set. Both are set together, which is a field of the
model's sensor (`cached`), so that the dereference never meets a null.
-/
namespace SensorSamplor

open SensorSamplor.Core

/-- What one call of `pi_dht_read` returns and writes. -/
structure Reading where
  returnCode : Int
  temperature : ℚ
  humidity : ℚ
  deriving DecidableEq

/-- mirrors sensor.temperature/sensor/temperature/am2302/Am2302SensorStatusCode.java:6-12 -/
inductive Am2302SensorStatusCode where
  | DHT_ERROR_TIMEOUT
  | DHT_ERROR_CHECKSUM
  | DHT_ERROR_ARGUMENT
  | DHT_ERROR_GPIO
  | DHT_SUCCESS
  deriving DecidableEq

namespace Am2302SensorStatusCode

def values : List Am2302SensorStatusCode :=
  [.DHT_ERROR_TIMEOUT, .DHT_ERROR_CHECKSUM, .DHT_ERROR_ARGUMENT, DHT_ERROR_GPIO, .DHT_SUCCESS]

def code : Am2302SensorStatusCode → Int
  | .DHT_ERROR_TIMEOUT => -1
  | .DHT_ERROR_CHECKSUM => -2
  | .DHT_ERROR_ARGUMENT => -3
  | DHT_ERROR_GPIO => -4
  | .DHT_SUCCESS => 0

def message : Am2302SensorStatusCode → Option String
  | .DHT_ERROR_TIMEOUT => some "Sensor timeout."
  | .DHT_ERROR_CHECKSUM => some "Checksum error."
  | .DHT_ERROR_ARGUMENT => some "Wrong arguments provided."
  | DHT_ERROR_GPIO => some "Sensor not properly wired."
  | .DHT_SUCCESS => none

/-- mirrors sensor.temperature/sensor/temperature/am2302/Am2302SensorStatusCode.java:30-37 -/
def valueOfStatus (status : Int) : Option Am2302SensorStatusCode :=
  values.find? fun c => decide (c.code = status)

/-- mirrors sensor.temperature/sensor/temperature/am2302/Am2302SensorStatusCode.java:39-45 -/
def messageOfStatus (status : Int) : Option String := (valueOfStatus status).bind message

end Am2302SensorStatusCode

open Am2302SensorStatusCode

/-- mirrors sensor.temperature/sensor/temperature/am2302/Am2302Sensor.java:37-51 -/
structure Am2302Sensor (P : Type) where
  platformIdentifier : P
  pin : Int
  temperatureCorrection : Double
  humidityCorrection : Double
  temperature : ℚ
  humidity : ℚ
  temperatureCache : Option ℚ
  humidityCache : Option ℚ
  returnCode : Int
  triesSoFar : Nat
  /-- both values are cached, or none -/
  cached : temperatureCache.isSome = humidityCache.isSome

namespace Am2302Sensor

def IDENTIFIER : String := "temperature"

def RETRIES_IN_ERROR_CASE : Nat := 4

def ALLOWED_TEMPERATURE_VARIATION : ℚ := 5

def ALLOWED_HUMIDITY_VARIATION : ℚ := 10

/-- mirrors sensor.temperature/sensor/temperature/am2302/Am2302Sensor.java:66-74, for a
library that can be loaded -/
def new {P : Type} (platformIdentifier : P) (pin : Int) (temperatureCorrection humidityCorrection : Double) :
    Am2302Sensor P :=
  ⟨platformIdentifier, pin, temperatureCorrection, humidityCorrection, 0, 0, none, none, 0, 0, rfl⟩

variable {P : Type}

/-- mirrors sensor.temperature/sensor/temperature/am2302/Am2302Sensor.java:110-112 -/
def hasTriesLeft (s : Am2302Sensor P) : Bool := decide (s.triesSoFar ≤ RETRIES_IN_ERROR_CASE)

/-- mirrors sensor.temperature/sensor/temperature/am2302/Am2302Sensor.java:114-116 -/
def measurementNotSuccessful (s : Am2302Sensor P) : Bool :=
  decide (s.returnCode ≠ DHT_SUCCESS.code)

/-- mirrors sensor.temperature/sensor/temperature/am2302/Am2302Sensor.java:134-137 -/
def distanceOf (d1 d2 : ℚ) : ℚ := |d1 - d2|

/-- mirrors sensor.temperature/sensor/temperature/am2302/Am2302Sensor.java:118-132 -/
def tooFarOff (s : Am2302Sensor P) : Bool :=
  match s.temperatureCache, s.humidityCache with
  | some temperatureCache, some humidityCache =>
    decide (ALLOWED_TEMPERATURE_VARIATION < distanceOf temperatureCache s.temperature) ||
      decide (ALLOWED_HUMIDITY_VARIATION < distanceOf humidityCache s.humidity)
  | _, _ => false

/-- One round of the loop: a call of the library. -/
def read (s : Am2302Sensor P) (reading : Reading) : Am2302Sensor P :=
  { s with triesSoFar := s.triesSoFar + 1, returnCode := reading.returnCode,
           temperature := reading.temperature, humidity := reading.humidity }

/-- The loop of `measureWithRetries`, where `reads i` is what the library
returns at call `i` (from 0) of this measurement; no more than `fuel` rounds. -/
def retry (reads : Nat → Reading) : Nat → Am2302Sensor P → Am2302Sensor P
  | 0, s => s
  | fuel + 1, s =>
    if (s.measurementNotSuccessful || s.tooFarOff) && s.hasTriesLeft then
      retry reads fuel (s.read (reads s.triesSoFar))
    else s

/-- mirrors sensor.temperature/sensor/temperature/am2302/Am2302Sensor.java:93-108.
`hasTriesLeft` ends the loop after five rounds (`retry_fuel`). -/
def measureWithRetries (reads : Nat → Reading) (s : Am2302Sensor P) : Am2302Sensor P :=
  retry reads (RETRIES_IN_ERROR_CASE + 2) { s with returnCode := -1, triesSoFar := 0 }

/-- mirrors sensor.temperature/sensor/temperature/am2302/Am2302Sensor.java:139-142 -/
def cacheMeasurements (s : Am2302Sensor P) : Am2302Sensor P :=
  { s with temperatureCache := some s.temperature, humidityCache := some s.humidity, cached := rfl }

/-- mirrors sensor.temperature/sensor/temperature/am2302/Am2302Sensor.java:148-158 -/
def toOneDigitDouble (value : Double) : Except Throwable Value :=
  match value.toOneDigit with
  | some q => .ok (.double (.finite q))
  | none => .error .numberFormatException

/-- The sample of a successful read, corrected and rounded; `uuid` and `now` are the sample's.
mirrors sensor.temperature/sensor/temperature/am2302/Am2302Sensor.java:88-90 -/
def toSample (uuid : UUID) (now : DateTime) (s : Am2302Sensor String) : Except Throwable Sample := do
  let temperature ← toOneDigitDouble ((Double.finite s.temperature).add s.temperatureCorrection)
  let humidity ← toOneDigitDouble ((Double.finite s.humidity).add s.humidityCorrection)
  return ((Sample.transferSample uuid now s.platformIdentifier IDENTIFIER).addItem "temperature"
    temperature).addItem "humidity" humidity

/-- mirrors sensor.temperature/sensor/temperature/am2302/Am2302Sensor.java:76-91 -/
def measure (uuid : UUID) (now : DateTime) (reads : Nat → Reading) (s : Am2302Sensor String) :
    Except Throwable Sample × Am2302Sensor String :=
  let s := s.measureWithRetries reads
  if s.measurementNotSuccessful then
    (.error (.sensorException s.platformIdentifier IDENTIFIER (messageOfStatus s.returnCode)), s)
  else (s.cacheMeasurements.toSample uuid now, s.cacheMeasurements)

/-! ## What the loop keeps -/

/-- The settings of a sensor, which no measurement changes. -/
def settings (s : Am2302Sensor P) : P × Int × Double × Double :=
  (s.platformIdentifier, s.pin, s.temperatureCorrection, s.humidityCorrection)

@[simp] theorem settings_cacheMeasurements (s : Am2302Sensor P) :
    s.cacheMeasurements.settings = s.settings := rfl

theorem settings_retry (reads : Nat → Reading) (fuel : Nat) (s : Am2302Sensor P) :
    (retry reads fuel s).settings = s.settings := by
  induction fuel generalizing s with
  | zero => rfl
  | succ fuel ih =>
    simp only [retry]
    split
    · rw [ih]; rfl
    · rfl

theorem settings_measureWithRetries (reads : Nat → Reading) (s : Am2302Sensor P) :
    (s.measureWithRetries reads).settings = s.settings := by
  unfold measureWithRetries
  rw [settings_retry]; rfl

/-- With a round of fuel for each try that is left, more fuel changes nothing. -/
theorem retry_fuel (reads : Nat → Reading) {fuel : Nat} {s : Am2302Sensor P}
    (h : RETRIES_IN_ERROR_CASE + 2 ≤ s.triesSoFar + fuel) (more : Nat) :
    retry reads (fuel + more) s = retry reads fuel s := by
  induction fuel generalizing s with
  | zero =>
    have hout : s.hasTriesLeft = false := by
      unfold hasTriesLeft
      exact decide_eq_false (by omega)
    cases more with
    | zero => rfl
    | succ more =>
      rw [Nat.zero_add]
      simp only [retry, hout, Bool.and_false, Bool.false_eq_true, if_false]
  | succ fuel ih =>
    rw [Nat.add_right_comm]
    simp only [retry]
    split
    · exact ih (by simp only [read]; omega)
    · rfl

theorem toOneDigitDouble_ok {d : Double} (h : d.isFinite = true) : ∃ v, toOneDigitDouble d = .ok v := by
  obtain ⟨q, hq⟩ := Option.isSome_iff_exists.1 (d.toOneDigit_isSome.trans h)
  exact ⟨.double (.finite q), by simp only [toOneDigitDouble, hq]⟩

theorem toOneDigitDouble_error {d : Double} (h : d.isFinite = false) :
    toOneDigitDouble d = .error .numberFormatException := by
  have hq : d.toOneDigit = none := by
    rw [← Option.not_isSome_iff_eq_none, d.toOneDigit_isSome, h]
    decide
  simp only [toOneDigitDouble, hq]

/-! ## What a measurement ends with -/

theorem toSample_finite {s : Am2302Sensor String} (ht : s.temperatureCorrection.isFinite = true)
    (hh : s.humidityCorrection.isFinite = true) (uuid : UUID) (now : DateTime) :
    ∃ sample, s.toSample uuid now = .ok sample ∧ sample.platformIdentifier = s.platformIdentifier := by
  obtain ⟨t, ht⟩ := toOneDigitDouble_ok ((Double.isFinite_add_finite s.temperature _).trans ht)
  obtain ⟨h, hh⟩ := toOneDigitDouble_ok ((Double.isFinite_add_finite s.humidity _).trans hh)
  unfold toSample
  rw [ht, hh]
  exact ⟨_, rfl, rfl⟩

theorem toSample_not_finite {s : Am2302Sensor String}
    (h : ¬ (s.temperatureCorrection.isFinite = true ∧ s.humidityCorrection.isFinite = true)) (uuid : UUID)
    (now : DateTime) : s.toSample uuid now = .error .numberFormatException := by
  unfold toSample
  cases ht : s.temperatureCorrection.isFinite with
  | false => rw [toOneDigitDouble_error ((Double.isFinite_add_finite _ _).trans ht)]; rfl
  | true =>
    have hh : s.humidityCorrection.isFinite = false := by simpa [ht] using h
    obtain ⟨t, ht⟩ := toOneDigitDouble_ok ((Double.isFinite_add_finite s.temperature _).trans ht)
    rw [ht, toOneDigitDouble_error ((Double.isFinite_add_finite _ _).trans hh)]
    rfl

/-- What a measurement gives and leaves, by the outcome of its last read. -/
theorem measure_cases (uuid : UUID) (now : DateTime) (reads : Nat → Reading) (s : Am2302Sensor String) :
    ((s.measureWithRetries reads).measurementNotSuccessful = true ∧
      s.measure uuid now reads = (.error (.sensorException s.platformIdentifier IDENTIFIER
        (messageOfStatus (s.measureWithRetries reads).returnCode)), s.measureWithRetries reads)) ∨
    ((s.measureWithRetries reads).measurementNotSuccessful = false ∧
      s.measure uuid now reads = ((s.measureWithRetries reads).cacheMeasurements.toSample uuid now,
        (s.measureWithRetries reads).cacheMeasurements)) := by
  have hp : (s.measureWithRetries reads).platformIdentifier = s.platformIdentifier :=
    congrArg Prod.fst (settings_measureWithRetries reads s)
  cases h : (s.measureWithRetries reads).measurementNotSuccessful with
  | true => exact .inl ⟨rfl, by simp only [measure, h, if_true, hp]⟩
  | false => exact .inr ⟨rfl, by simp only [measure, h, Bool.false_eq_true, if_false]⟩

theorem settings_measure (uuid : UUID) (now : DateTime) (reads : Nat → Reading) (s : Am2302Sensor String) :
    (s.measure uuid now reads).2.settings = s.settings := by
  rcases s.measure_cases uuid now reads with ⟨-, h⟩ | ⟨-, h⟩
  · rw [h]
    exact settings_measureWithRetries reads s
  · rw [h, settings_cacheMeasurements]
    exact settings_measureWithRetries reads s

/-- With finite corrections a measurement ends with a sample of its platform
or a `SensorException` for it. -/
theorem measure_finite {s : Am2302Sensor String} (ht : s.temperatureCorrection.isFinite = true)
    (hh : s.humidityCorrection.isFinite = true) (uuid : UUID) (now : DateTime) (reads : Nat → Reading) :
    (∃ sample, (s.measure uuid now reads).1 = .ok sample ∧
      sample.platformIdentifier = s.platformIdentifier) ∨
    ∃ message, (s.measure uuid now reads).1 =
      .error (.sensorException s.platformIdentifier IDENTIFIER message) := by
  have hset := settings_measureWithRetries reads s
  simp only [settings, Prod.mk.injEq] at hset
  obtain ⟨hp, -, hts, hhs⟩ := hset
  rw [← hts] at ht
  rw [← hhs] at hh
  rcases s.measure_cases uuid now reads with ⟨-, h⟩ | ⟨-, h⟩
  · right
    exact ⟨_, by rw [h]⟩
  · left
    rw [h, ← hp]
    exact toSample_finite ht hh uuid now

/-- Once the library has succeeded, and keeps succeeding, the loop ends in success. -/
theorem returnCode_retry {reads : Nat → Reading} (h : ∀ i, (reads i).returnCode = DHT_SUCCESS.code)
    (fuel : Nat) {s : Am2302Sensor P} (hs : s.returnCode = DHT_SUCCESS.code) :
    (retry reads fuel s).returnCode = DHT_SUCCESS.code := by
  induction fuel generalizing s with
  | zero => exact hs
  | succ fuel ih =>
    simp only [retry]
    split
    · exact ih (h _)
    · exact hs

theorem measureWithRetries_successful {reads : Nat → Reading}
    (h : ∀ i, (reads i).returnCode = DHT_SUCCESS.code) (s : Am2302Sensor P) :
    (s.measureWithRetries reads).measurementNotSuccessful = false := by
  -- there is always a first read
  have hfirst : s.measureWithRetries reads = retry reads (RETRIES_IN_ERROR_CASE + 1)
    (({ s with returnCode := -1, triesSoFar := 0 } : Am2302Sensor P).read (reads 0)) := rfl
  have hcode : (s.measureWithRetries reads).returnCode = DHT_SUCCESS.code := by
    rw [hfirst]
    exact returnCode_retry h _ (h 0)
  simp [measurementNotSuccessful, hcode]

/-- A correction that is no finite number makes every successful measurement
end with a `NumberFormatException`. -/
theorem measure_not_finite {s : Am2302Sensor String}
    (hs : ¬ (s.temperatureCorrection.isFinite = true ∧ s.humidityCorrection.isFinite = true)) (uuid : UUID)
    (now : DateTime) {reads : Nat → Reading} (h : ∀ i, (reads i).returnCode = DHT_SUCCESS.code) :
    (s.measure uuid now reads).1 = .error .numberFormatException := by
  have hset := settings_measureWithRetries reads s
  simp only [settings, Prod.mk.injEq] at hset
  obtain ⟨-, -, hts, hhs⟩ := hset
  rw [← hts, ← hhs] at hs
  rcases s.measure_cases uuid now reads with ⟨hfail, -⟩ | ⟨-, hm⟩
  · rw [measureWithRetries_successful h] at hfail
    cases hfail
  · rw [hm]
    exact toSample_not_finite hs uuid now

end Am2302Sensor
end SensorSamplor
