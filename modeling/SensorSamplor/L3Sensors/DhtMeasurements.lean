import SensorSamplor.L3Sensors.Am2302Runs
import SensorSamplor.L3Sensors.DhtFrames

/-!
# Measurements over the line

The temperature and humidity sensor with its library: `driverReads` are the
readings of `measure` as the driver makes them, each from the levels of the
line at that call.

`measure_line`, for the pins 0 to 31: the sample of a measurement has the
tenths of the frame that the last line it read carries, plus the
corrections, exactly, also where Java rounds the sums (`rounded`); and
without a frame the exception says what was wrong with the line.
-/
namespace SensorSamplor.Am2302Sensor

open SensorSamplor.Core PiDhtRead

def SENSOR_TYPE : Int := 22

/-- A call of the library: what it returns and leaves in the memory of the two
values, and the process.
mirrors sensor.temperature/sensor/temperature/am2302/Am2302Sensor.java:102 -/
def libraryCall (pin : Fin 32) (hw : Hardware) (memory : Reading) (m : Machine) : Reading × Machine :=
  let r := pi_dht_read SENSOR_TYPE pin (some memory.humidity) (some memory.temperature) hw m
  (⟨r.returnCode, r.temperature.getD 0, r.humidity.getD 0⟩, r.machine)

/-- The memory and the process before call `i`, which meets `hws i`. -/
def beforeCall (pin : Fin 32) (hws : Nat → Hardware) (start : Reading × Machine) : Nat → Reading × Machine
  | 0 => start
  | i + 1 => libraryCall pin (hws i) (beforeCall pin hws start i).1 (beforeCall pin hws start i).2

/-- What the calls return. -/
def driverReads (pin : Fin 32) (hws : Nat → Hardware) (start : Reading × Machine) (i : Nat) : Reading :=
  (beforeCall pin hws start (i + 1)).1

/-- The pins are mapped at the start, or at a call up to `i`. -/
def Reached (hws : Nat → Hardware) (start : Reading × Machine) (i : Nat) : Prop :=
  start.2.gpio.mapped = true ∨ ∃ j, j ≤ i ∧ (hws j).devMem = .mapped

/-! ## Calls of the library -/

/-- The reading has the values of the frame. -/
structure ReadingOf (f : Frame) (r : Reading) : Prop where
  returnCode : r.returnCode = 0
  temperature : |r.temperature - f.tenths / 10| < 1 / 40
  humidity : |r.humidity - f.humidity / 10| < 1 / 40

theorem gpio_libraryCall (pin : Fin 32) (hw : Hardware) (memory : Reading) (m : Machine) :
    (libraryCall pin hw memory m).2.gpio.mapped = true ↔ Reaches hw m := by
  unfold libraryCall
  rcases pi_dht_read_reaches SENSOR_TYPE pin memory.humidity memory.temperature hw m with
    ⟨hnot, hread⟩ | ⟨hreach, gpio, hmapped, hread⟩
  · rw [hread]
    exact ⟨fun h => .inl h, fun h => absurd h hnot⟩
  · rw [hread]
    dsimp only
    rw [machine_readData]
    exact ⟨fun _ => hreach, fun _ => hmapped⟩

/-- Once the pins are mapped they stay so. -/
theorem reaches_beforeCall (pin : Fin 32) (hws : Nat → Hardware) (start : Reading × Machine) (i : Nat) :
    Reaches (hws i) (beforeCall pin hws start i).2 ↔ Reached hws start i := by
  unfold Reaches Reached
  induction i with
  | zero =>
    refine or_congr Iff.rfl ⟨fun h => ⟨0, le_refl 0, h⟩, ?_⟩
    rintro ⟨j, hj, h⟩
    obtain rfl := Nat.le_zero.1 hj
    exact h
  | succ i ih =>
    have hmapped : (beforeCall pin hws start (i + 1)).2.gpio.mapped = true ↔ _ :=
      (gpio_libraryCall pin (hws i) (beforeCall pin hws start i).1 (beforeCall pin hws start i).2).trans ih
    rw [hmapped, or_assoc]
    refine or_congr Iff.rfl ⟨?_, ?_⟩
    · rintro (⟨j, hj, h⟩ | h)
      · exact ⟨j, by omega, h⟩
      · exact ⟨i + 1, le_refl _, h⟩
    · rintro ⟨j, hj, h⟩
      rcases Nat.lt_or_ge j (i + 1) with hlt | hge
      · exact .inl ⟨j, by omega, h⟩
      · obtain rfl := Nat.le_antisymm hj hge
        exact .inr h

/-- What a call of the library gives, by what it meets. -/
structure Gives (pin : Fin 32) (hw : Hardware) (reached : Prop) (r : Reading) : Prop where
  frame : reached → ∀ f, Carries (line pin hw) f → ReadingOf f r
  checksum : reached → (¬ ∃ f, Carries (line pin hw) f) → (∃ pulses, Answers (line pin hw) pulses) →
    r.returnCode = DHT_ERROR_CHECKSUM
  timeout : reached → (¬ ∃ pulses, Answers (line pin hw) pulses) → r.returnCode = DHT_ERROR_TIMEOUT
  wiring : ¬ reached → r.returnCode = DHT_ERROR_GPIO

theorem libraryCall_gives (pin : Fin 32) (hw : Hardware) (memory : Reading) (m : Machine) :
    Gives pin hw (Reaches hw m) (libraryCall pin hw memory m).1 := by
  unfold libraryCall
  rcases pi_dht_read_reaches DHT22 pin memory.humidity memory.temperature hw m with
    ⟨hnot, hread⟩ | ⟨hreach, gpio, -, hread⟩
  · rw [show SENSOR_TYPE = DHT22 from rfl, hread]
    exact ⟨fun h => absurd h hnot, fun h => absurd h hnot, fun h => absurd h hnot, fun _ => rfl⟩
  · rw [show SENSOR_TYPE = DHT22 from rfl, hread]
    refine ⟨fun _ f hf => ?_, fun _ hnone hanswers => ?_, fun _ hnone => ?_, fun h => absurd hreach h⟩
    · rw [readData_carries hf]
      exact ⟨rfl, f.values_near.2, f.values_near.1⟩
    · rcases readData_cases (line pin hw) ⟨gpio, .max⟩ with ⟨f, hf, -⟩ | ⟨-, -, h⟩ | ⟨hnot, -⟩
      · exact absurd ⟨f, hf⟩ hnone
      · rw [h]
      · exact absurd hanswers hnot
    · rcases readData_cases (line pin hw) ⟨gpio, .max⟩ with ⟨f, ⟨pulses, h, -⟩, -⟩ | ⟨-, h, -⟩ | ⟨-, h⟩
      · exact absurd ⟨pulses, h⟩ hnone
      · exact absurd h hnone
      · rw [h]

theorem driverReads_gives (pin : Fin 32) (hws : Nat → Hardware) (start : Reading × Machine) (i : Nat) :
    Gives pin (hws i) (Reached hws start i) (driverReads pin hws start i) := by
  rw [← reaches_beforeCall pin hws start i]
  exact libraryCall_gives pin (hws i) _ _

/-! ## Measurements -/

/-- The sample of the frame: its tenths, and those of the corrections. -/
def sampleOf (platformIdentifier : String) (temperatureTenths humidityTenths : Int) (m : Call) (f : Frame) :
    Sample :=
  ((Sample.transferSample m.uuid m.now platformIdentifier IDENTIFIER).addItem "temperature"
    (.double (.finite ((f.tenths + temperatureTenths : Int) / 10)))).addItem "humidity"
    (.double (.finite ((f.humidity + humidityTenths : Int) / 10)))

/-- A correction that is nearly a number of tenths, and not so large that a
`double` can no longer tell these. -/
structure NearTenths (correction : ℚ) (tenths : Int) : Prop where
  near : |correction - tenths / 10| < 1 / 50
  bound : |correction| ≤ 1000000

/-- What is near to the sum of two values near to tenths is rounded to the sum of these. -/
theorem oneDigit_add {sum value correction r : ℚ} {n k : Int} (h : Double.OneDigit sum r)
    (hsum : |sum - (value + correction)| ≤ 1 / 1000) (hvalue : |value - n / 10| < 1 / 40)
    (hcorrection : NearTenths correction k) : r = ((n + k : Int) : ℚ) / 10 := by
  refine h.eq_tenths ?_
  have hsum := abs_le.1 hsum
  have hvalue := abs_lt.1 hvalue
  have hnear := abs_lt.1 hcorrection.near
  push_cast
  rw [abs_lt]
  constructor <;> linarith

/-- The sum of a value of the driver and a correction, as a `double`. -/
theorem abs_nearestDouble_add {value correction : ℚ} {n k : Int} (hn : |n| < 2 ^ 16)
    (hvalue : |value - n / 10| < 1 / 40) (hcorrection : NearTenths correction k) :
    |Double.nearestDouble (value + correction) - (value + correction)| ≤ 1 / 1000 := by
  have hn : |(n : ℚ)| < 2 ^ 16 := by exact_mod_cast hn
  have hlt : |value + correction| < 2 ^ (20 : ℤ) := by
    have hn := abs_lt.1 hn
    have hvalue := abs_lt.1 hvalue
    have hbound := abs_le.1 hcorrection.bound
    rw [abs_lt]
    constructor <;> norm_num at hn ⊢ <;> linarith
  have hsmall : (2 : ℚ) ^ ((20 : ℤ) - 54) ≤ 1 / 1000 := by norm_num
  exact (Double.abs_nearestDouble_sub_le (by decide) hlt).trans hsmall

/-- The one digit of the sum that Java computes, rounded to a `double`. -/
theorem toOneDigitDouble_rounded {value correction : ℚ} {n k : Int} (hn : |n| < 2 ^ 16)
    (hvalue : |value - n / 10| < 1 / 40) (hcorrection : NearTenths correction k) :
    toOneDigitDouble (.finite (Double.nearestDouble (value + correction))) =
      .ok (.double (.finite (((n + k : Int) : ℚ) / 10))) := by
  obtain ⟨r, hr, hdigit⟩ := Double.toOneDigit_oneDigit (Double.nearestDouble (value + correction))
  rw [← oneDigit_add hdigit (abs_nearestDouble_add hn hvalue hcorrection) hvalue hcorrection]
  simp only [toOneDigitDouble, hr]

theorem abs_tenths_lt (f : Frame) : |f.tenths| < 2 ^ 16 ∧ |(f.humidity : Int)| < 2 ^ 16 := by
  have ht := f.temperature_lt
  have hh := f.humidity_lt
  rw [abs_lt, abs_lt, Frame.tenths]
  split <;> omega

theorem ReadingOf.humidity_near {f : Frame} {r : Reading} (h : ReadingOf f r) :
    |r.humidity - ((f.humidity : Int) : ℚ) / 10| < 1 / 40 := by
  rw [Int.cast_natCast]
  exact h.humidity

theorem isSampleOf_frame {platformIdentifier : String} {temperatureCorrection humidityCorrection : ℚ}
    {temperatureTenths humidityTenths : Int} (ht : NearTenths temperatureCorrection temperatureTenths)
    (hh : NearTenths humidityCorrection humidityTenths) {m : Call} {f : Frame} {r : Reading}
    (hr : ReadingOf f r) {sample : Sample}
    (h : IsSampleOf platformIdentifier temperatureCorrection humidityCorrection m r sample) :
    sample = sampleOf platformIdentifier temperatureTenths humidityTenths m f := by
  obtain ⟨temperature, humidity, htemperature, hhumidity, rfl⟩ := h
  have hexact : ∀ sum : ℚ, |sum - sum| ≤ 1 / 1000 := fun sum => by norm_num
  rw [sampleOf, oneDigit_add htemperature (hexact _) hr.temperature ht,
    oneDigit_add hhumidity (hexact _) hr.humidity_near hh]

/-- The exception of a measurement that failed has the message of its last read. -/
theorem call_failed {s : Am2302Sensor String} {m : Call} (h : (s.lastRead m).returnCode ≠ 0) :
    (s.call m).1 = .error (.sensorException s.platformIdentifier IDENTIFIER
      (Am2302SensorStatusCode.messageOfStatus (s.lastRead m).returnCode)) := by
  obtain ⟨-, hlast, -⟩ := measureWithRetries_takes m.reads s
  rw [← triesSoFar_call] at hlast
  have hcode : (s.measureWithRetries m.reads).returnCode = (s.lastRead m).returnCode := hlast.1
  rcases s.measure_cases m.uuid m.now m.reads with ⟨-, hm⟩ | ⟨hok, -⟩
  · rw [← hcode]
    exact congrArg Prod.fst hm
  · rw [← hcode] at h
    exact absurd h (of_decide_eq_false hok)

/-- What a measurement makes of the lines that its reads meet: it ends with the
`k`-th of them, counted from 1. The sums of the model are exact; `rounded` says
that those of Java have the same digits. -/
structure MeasuresLine (platformIdentifier : String) (pin : Fin 32) (temperatureTenths humidityTenths : Int)
    (temperatureCorrection humidityCorrection : ℚ) (hws : Nat → Hardware) (start : Reading × Machine)
    (s : Am2302Sensor String) (m : Call) (k : Nat) : Prop where
  takes : Takes s m.reads k
  frame : Reached hws start (k - 1) → ∀ f, Carries (line pin (hws (k - 1))) f →
    (s.call m).1 = .ok (sampleOf platformIdentifier temperatureTenths humidityTenths m f)
  rounded : Reached hws start (k - 1) → ∀ f, Carries (line pin (hws (k - 1))) f →
    toOneDigitDouble (.finite (Double.nearestDouble ((s.lastRead m).temperature + temperatureCorrection))) =
      .ok (.double (.finite ((f.tenths + temperatureTenths : Int) / 10))) ∧
    toOneDigitDouble (.finite (Double.nearestDouble ((s.lastRead m).humidity + humidityCorrection))) =
      .ok (.double (.finite ((f.humidity + humidityTenths : Int) / 10)))
  checksum : Reached hws start (k - 1) → (¬ ∃ f, Carries (line pin (hws (k - 1))) f) →
    (∃ pulses, Answers (line pin (hws (k - 1))) pulses) →
    (s.call m).1 = .error (.sensorException platformIdentifier IDENTIFIER (some "Checksum error."))
  timeout : Reached hws start (k - 1) → (¬ ∃ pulses, Answers (line pin (hws (k - 1))) pulses) →
    (s.call m).1 = .error (.sensorException platformIdentifier IDENTIFIER (some "Sensor timeout."))
  wiring : ¬ Reached hws start (k - 1) →
    (s.call m).1 = .error (.sensorException platformIdentifier IDENTIFIER (some "Sensor not properly wired."))

/-- **From the levels of the line to the sample.** For every sensor, whatever it
has cached, every sequence of levels that its reads meet, and corrections of
up to a million that are nearly tenths: the measurement takes the reads it
should, and ends with exactly the tenths of the frame on the last line, or
says that there was no right sum, no answer or no way to the pins. -/
theorem measure_line {s : Am2302Sensor String} {platformIdentifier : String} (pin : Fin 32)
    {temperatureCorrection humidityCorrection : ℚ} (hs : s.settings =
      (platformIdentifier, (pin.val : Int), .finite temperatureCorrection, .finite humidityCorrection))
    (temperatureTenths humidityTenths : Int) (ht : NearTenths temperatureCorrection temperatureTenths)
    (hh : NearTenths humidityCorrection humidityTenths) (hws : Nat → Hardware) (start : Reading × Machine)
    (uuid : UUID) (now : DateTime) :
    let m : Call := ⟨uuid, now, driverReads pin hws start⟩
    MeasuresLine platformIdentifier pin temperatureTenths humidityTenths temperatureCorrection
      humidityCorrection hws start s m (s.call m).2.triesSoFar := by
  intro m
  have hmeasured := call_measured hs m
  have hgives := driverReads_gives pin hws start ((s.call m).2.triesSoFar - 1)
  have hp : s.platformIdentifier = platformIdentifier := congrArg Prod.fst hs
  -- the last read fails with this code
  have hfails : ∀ code : Int, code ≠ 0 → (s.lastRead m).returnCode = code → (s.call m).1 =
      .error (.sensorException platformIdentifier IDENTIFIER (Am2302SensorStatusCode.messageOfStatus code)) := by
    intro code hcode hlast
    have hcall := call_failed (s := s) (m := m) (by rwa [hlast])
    rwa [hlast, hp] at hcall
  refine ⟨hmeasured.takes, fun hreached f hf => ?_, fun hreached f hf => ?_, fun hreached hnone hanswers => ?_,
    fun hreached hnone => ?_, fun hnot => ?_⟩
  · have hreading : ReadingOf f (s.lastRead m) := hgives.frame hreached f hf
    obtain ⟨⟨sample, hcall, hsample⟩, -⟩ := hmeasured.success hreading.returnCode
    rw [hcall, isSampleOf_frame ht hh hreading hsample]
  · have hreading : ReadingOf f (s.lastRead m) := hgives.frame hreached f hf
    obtain ⟨htenths, hhumidity⟩ := abs_tenths_lt f
    exact ⟨toOneDigitDouble_rounded htenths hreading.temperature ht,
      toOneDigitDouble_rounded hhumidity hreading.humidity_near hh⟩
  · exact hfails DHT_ERROR_CHECKSUM (by decide) (hgives.checksum hreached hnone hanswers)
  · exact hfails DHT_ERROR_TIMEOUT (by decide) (hgives.timeout hreached hnone)
  · exact hfails (-4) (by decide) (hgives.wiring hnot)

/-- A sensor that corrects by a tenth of a degree and by minus two percent reads `frost`. -/
theorem frost_measured :
    let s := new "attic" 4 (.finite (3602879701896397 / 2 ^ 55)) (.finite (-2))
    let m : Call := ⟨⟨1, 2⟩, ⟨0, "UTC"⟩, driverReads 4 (fun _ => sender 4 (pulsesOf frost)) (⟨0, 0, 0⟩, idle)⟩
    (s.call m).1 = .ok (sampleOf "attic" 1 (-20) m frost) := by
  intro s m
  have hmeasures := measure_line (s := s) 4 rfl 1 (-20) ⟨by norm_num [abs_lt], by norm_num [abs_le]⟩
    ⟨by norm_num [abs_lt], by norm_num [abs_le]⟩ (fun _ => sender 4 (pulsesOf frost)) (⟨0, 0, 0⟩, idle)
    ⟨1, 2⟩ ⟨0, "UTC"⟩
  refine hmeasures.frame (.inr ⟨0, Nat.zero_le _, rfl⟩) frost ?_
  exact carries_of_sends (answers_sender 4 (length_pulsesOf frost) (pulsesOf_counts frost))
    (sends_of_pulsesOf (low_pulsesOf frost) fun _ _ => rfl)

end SensorSamplor.Am2302Sensor
