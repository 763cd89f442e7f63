import SensorSamplor.L3Sensors.Am2302Sensor
import SensorSamplor.L3Sensors.HttpXmlSensor
import SensorSamplor.L3Sensors.PiMmio

/-!
# Sensors and their invocation

The four kinds of sensor and one run of a `SensorRunner`: it sends the
measured sample, or an `ErrorSample` for a `SensorException`; any other
exception leaves the thread, and nothing is sent.

The native library does not check the pin. For one whose register is not in
the mapped page it writes to some other address, and where no memory of the
process is there, the process ends in the middle of the run (`Sensor.faults`).

`Measurement` is everything a run takes from outside: ids and time stamps of
new samples, the native library and the memory around its page, the random
numbers, the system's figures, HTTP and XPath. `SensorBus.send` only starts a
thread and does not throw.
-/
namespace SensorSamplor

open SensorSamplor.Core

/-- A sensor object; `P` is the type of its reference to a platform identifier. -/
inductive Sensor (P : Type) where
  | am2302 (s : Am2302Sensor P)
  /-- sensor.temperature/sensor/temperature/dummy/DummyTemperatureSensor.java -/
  | dummyTemperature (platformIdentifier : P)
  /-- sensor.systemstats/sensor/systemstats/SystemStatsSensor.java -/
  | systemStats (platformIdentifier : P)
  | httpXml (s : HttpXmlSensor P)

namespace Sensor

def SYSTEM_STATS_IDENTIFIER : String := "systemStats"

/-- What one run of a sensor meets. -/
structure Measurement (D : Type) where
  uuid : UUID
  now : DateTime
  errorUuid : UUID
  errorNow : DateTime
  /-- what the calls of the library return that do return -/
  reads : Nat → Reading
  /-- the library can map the registers of the pins -/
  pinsMapped : Bool
  /-- the process has memory of its own at this word, counted from the start of the page -/
  ownsWord : Int → Bool
  nextDouble : ℚ
  randomTemperature : ℚ
  randomHumidity : ℚ
  getSystemLoadAverage : Double
  usedMemory : Int
  http : HttpXml D

variable {D : Type}

/-- mirrors sensor.temperature/sensor/temperature/dummy/DummyTemperatureSensor.java:30-41 -/
def measureDummy (m : Measurement D) (platformIdentifier : String) : Except Throwable Sample :=
  if m.nextDouble < 1 / 10 then
    .error (.sensorException platformIdentifier "dummy" (some "Dummy sensor error."))
  else
    .ok (((Sample.transferSample m.uuid m.now platformIdentifier Am2302Sensor.IDENTIFIER).addItem
      "temperature" (.double (.finite m.randomTemperature))).addItem
      "humidity" (.double (.finite m.randomHumidity)))

/-- mirrors sensor.systemstats/sensor/systemstats/SystemStatsSensor.java:27-35 -/
def measureSystemStats (m : Measurement D) (platformIdentifier : String) : Sample :=
  ((Sample.transferSample m.uuid m.now platformIdentifier SYSTEM_STATS_IDENTIFIER).addItem
    "load" (.double m.getSystemLoadAverage)).addItem "usedMemory" (.long m.usedMemory)

/-- `sensor.measure()`, and the sensor afterwards. -/
def measure (m : Measurement D) : Sensor String → Except Throwable Sample × Sensor String
  | .am2302 s =>
    let (result, s) := s.measure m.uuid m.now m.reads
    (result, .am2302 s)
  | .dummyTemperature p => (measureDummy m p, .dummyTemperature p)
  | .systemStats p => (.ok (measureSystemStats m p), .systemStats p)
  | .httpXml s => (s.measure m.http m.uuid m.now, .httpXml s)

/-- The process ends at the library's first access to the register of the pin.
mirrors sensorsamplor.sensor.temperature/src/main/c/pi_mmio.h:37-47 -/
def faults (m : Measurement D) : Sensor String → Bool
  | .am2302 s => m.pinsMapped && !(decide (PiMmio.InPage s.pin) || m.ownsWord (PiMmio.register s.pin))
  | _ => false

/-- The register of the sensor's pin is one of the mapped page. -/
def PinInPage : Sensor String → Prop
  | .am2302 s => PiMmio.InPage s.pin
  | _ => True

end Sensor

/-- What a run of a `SensorRunner` does. -/
structure SensorRun where
  sent : List Sample
  /-- the exception that leaves the thread -/
  uncaught : Option Throwable
  sensor : Sensor String

variable {D : Type}

/-- mirrors base/invoker/SensorInvoker.java:68-77,103-116 -/
def invokeSensor (m : Sensor.Measurement D) (sensor : Sensor String) : SensorRun :=
  match sensor.measure m with
  | (.ok sample, sensor) => ⟨[sample], none, sensor⟩
  | (.error (.sensorException platformIdentifier sensorType message), sensor) =>
    ⟨[Sample.errorSample m.errorUuid m.errorNow platformIdentifier sensorType message], none, sensor⟩
  | (.error e, sensor) => ⟨[], some e, sensor⟩

/-- `none` when the process ends in the run.
mirrors base/invoker/SensorInvoker.java:98-101 -/
def runSensor (m : Sensor.Measurement D) (sensor : Sensor String) : Option SensorRun :=
  if sensor.faults m then none else some (invokeSensor m sensor)

/-- A sensor after a sequence of runs. -/
def afterRuns (sensor : Sensor String) (ms : List (Sensor.Measurement D)) : Sensor String :=
  ms.foldl (fun s m => (invokeSensor m s).sensor) sensor

/-- The run has sent exactly one sample, with the given platform identifier: what
was measured, or an `ErrorSample` for a `SensorException`; no other exception
has left `measure`. -/
def SensorRun.Reports (run : SensorRun) (platformIdentifier : String) (measured : Except Throwable Sample) :
    Prop :=
  run.uncaught = none ∧
  ∃ sample, run.sent = [sample] ∧ sample.platformIdentifier = platformIdentifier ∧
    (measured = .ok sample ∨ sample.isError = true ∧
      ∃ p t message, measured = .error (.sensorException p t message))

/-- A run comes to its end and reports. -/
def ReportsOnce (platformIdentifier : String) (m : Sensor.Measurement D) (sensor : Sensor String) : Prop :=
  ∃ run, runSensor m sensor = some run ∧ run.Reports platformIdentifier (sensor.measure m).1

@[simp] theorem invokeSensor_sensor (m : Sensor.Measurement D) (sensor : Sensor String) :
    (invokeSensor m sensor).sensor = (sensor.measure m).2 := by
  unfold invokeSensor
  split <;> rename_i h <;> rw [h]

theorem afterRuns_cons (sensor : Sensor String) (m : Sensor.Measurement D) (ms : List (Sensor.Measurement D)) :
    afterRuns sensor (m :: ms) = afterRuns (sensor.measure m).2 ms := by
  show afterRuns (invokeSensor m sensor).sensor ms = _
  rw [invokeSensor_sensor]

theorem reportsOnce_iff_returns {platformIdentifier : String} {m : Sensor.Measurement D} {sensor : Sensor String} :
    ReportsOnce platformIdentifier m sensor ↔
      sensor.faults m = false ∧ (invokeSensor m sensor).Reports platformIdentifier (sensor.measure m).1 := by
  unfold ReportsOnce runSensor
  cases sensor.faults m <;> simp

/-- An invocation reports when the sensor measures a sample of its platform or
throws a `SensorException` for its platform. -/
theorem invokeSensor_reports_iff {platformIdentifier : String} {m : Sensor.Measurement D}
    {sensor : Sensor String} :
    (invokeSensor m sensor).Reports platformIdentifier (sensor.measure m).1 ↔
      (∃ sample, (sensor.measure m).1 = .ok sample ∧ sample.platformIdentifier = platformIdentifier) ∨
      ∃ t message, (sensor.measure m).1 = .error (.sensorException platformIdentifier t message) := by
  unfold SensorRun.Reports invokeSensor
  obtain ⟨result, sensor'⟩ := sensor.measure m
  cases result with
  | ok sample => simp
  | error e =>
    cases e with
    | sensorException p t message =>
      refine ⟨fun h => ?_, fun h => ?_⟩
      · obtain ⟨-, sample, hsent, hp, -⟩ := h
        obtain rfl := List.singleton_inj.1 hsent
        exact .inr ⟨t, message, by rw [← hp]; rfl⟩
      · obtain ⟨sample, h, -⟩ | ⟨t', message', h⟩ := h
        · cases h
        · cases h
          exact ⟨rfl, _, rfl, rfl, .inr ⟨rfl, _, _, _, rfl⟩⟩
    | _ => simp

end SensorSamplor
