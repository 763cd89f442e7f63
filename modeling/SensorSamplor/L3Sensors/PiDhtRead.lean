import Mathlib.Algebra.Group.Action.Defs
import Mathlib.Algebra.Order.BigOperators.Group.List
import SensorSamplor.Core.BitWords
import SensorSamplor.Core.NearestFloat
import SensorSamplor.Core.Signal
import SensorSamplor.L3Sensors.PiMmio

/-!
# The driver of the temperature and humidity sensor

`pi_dht_read` wakes the sensor, measures the 41 pulses that it answers with,
tells the bits of five bytes by the length of the high parts, and checks
their sum. The levels of the line are what word 13 of the GPIO registers
holds at one read after the other.

`calls_safe`: whatever the line does, a call for one of the pins 0 to 31
reads it a bounded number of times, leaves the pin an input and the other
pins as they were, and does not keep the priority it has raised.

Left out are the pauses, which change nothing that is modelled. A pulse of
the model is a pair of the source's `pulseCounts`. No count exceeds 32000, so
that no sum of the 32 bit counters wraps around.
-/
namespace SensorSamplor

open SensorSamplor.Core PiMmio

/-- `SCHED_OTHER` with priority 0, and `SCHED_FIFO` with the highest one. -/
inductive Priority where
  | default
  | max
  deriving DecidableEq

/-- The process that calls the driver. -/
structure Machine where
  gpio : Gpio
  priority : Priority

/-- What a call meets: `/dev/mem`, and word 13 at each read of the pin. -/
structure Hardware where
  devMem : DevMem
  levels : Nat → BitVec 32

namespace PiDhtRead

def DHT_MAXCOUNT : Nat := 32000

def DHT_PULSES : Nat := 41

def DHT_ERROR_TIMEOUT : Int := -1

def DHT_ERROR_CHECKSUM : Int := -2

def DHT_ERROR_ARGUMENT : Int := -3

def DHT_ERROR_GPIO : Int := -4

def DHT_SUCCESS : Int := 0

def DHT11 : Int := 11

def DHT22 : Int := 22

/-- mirrors sensorsamplor.sensor.temperature/src/main/c/common_dht_read.c:52-58 -/
def set_max_priority (m : Machine) : Machine := { m with priority := .max }

/-- mirrors sensorsamplor.sensor.temperature/src/main/c/common_dht_read.c:60-66 -/
def set_default_priority (m : Machine) : Machine := { m with priority := .default }

/-- The level of the pin at each read. -/
def line (pin : Fin 32) (hw : Hardware) : Signal := fun i => decide (pi_mmio_input (hw.levels i) pin ≠ 0#32)

/-- `none` is a timeout.
mirrors sensorsamplor.sensor.temperature/src/main/c/pi_dht_read.c:79-108 -/
def pulseCounts (line : Signal) : Option (List Pulse) := line.answer DHT_MAXCOUNT DHT_PULSES

/-- mirrors sensorsamplor.sensor.temperature/src/main/c/pi_dht_read.c:115-121 -/
def threshold (pulses : List Pulse) : Nat := ((pulses.drop 1).map (·.low)).sum / (DHT_PULSES - 1)

/-- The first pulse is not a bit. A long high part is a one.
mirrors sensorsamplor.sensor.temperature/src/main/c/pi_dht_read.c:125-132 -/
def bitsOf (pulses : List Pulse) : List Bool :=
  (pulses.drop 1).map fun p => decide (threshold pulses ≤ p.high)

/-- Bit `k` is the next one of byte `k / 8`.
mirrors sensorsamplor.sensor.temperature/src/main/c/pi_dht_read.c:124-133 -/
def dataOf (pulses : List Pulse) : List (BitVec 8) := BitWords.collect 5 (bitsOf pulses)

/-- `data[i]`. -/
def byte (data : List (BitVec 8)) (i : Nat) : BitVec 8 := data.getD i 0

/-- mirrors sensorsamplor.sensor.temperature/src/main/c/pi_dht_read.c:141 -/
def sumMatches (data : List (BitVec 8)) : Bool :=
  decide ((byte data 4).toNat =
    ((byte data 0).toNat + (byte data 1).toNat + (byte data 2).toNat + (byte data 3).toNat) &&& 0xFF)

/-- `*humidity` and `*temperature` of the bytes.
mirrors sensorsamplor.sensor.temperature/src/main/c/pi_dht_read.c:142-154 -/
def valuesOf (type : Int) (data : List (BitVec 8)) : ℚ × ℚ :=
  if type = DHT11 then ((byte data 0).toNat, (byte data 2).toNat)
  else if type = DHT22 then
    let humidity := Double.nearestFloat (((byte data 0).toNat * 256 + (byte data 1).toNat : ℕ) / 10)
    let temperature := Double.nearestFloat (((byte data 2 &&& 0x7F#8).toNat * 256 + (byte data 3).toNat : ℕ) / 10)
    (humidity, if byte data 2 &&& 0x80#8 ≠ 0#8 then temperature * -1 else temperature)
  else (0, 0)

/-- What a call returns, `*humidity` and `*temperature` after it, and the
process. A pointer that is null has no value. -/
structure Result where
  returnCode : Int
  humidity : Option ℚ
  temperature : Option ℚ
  machine : Machine

/-- From the pin set to an input on.
mirrors sensorsamplor.sensor.temperature/src/main/c/pi_dht_read.c:79-158 -/
def readData (type : Int) (line : Signal) (m : Machine) : Result :=
  match pulseCounts line with
  | none => ⟨DHT_ERROR_TIMEOUT, some 0, some 0, set_default_priority m⟩
  | some pulses =>
    let m := set_default_priority m
    let data := dataOf pulses
    if sumMatches data then
      let (humidity, temperature) := valuesOf type data
      ⟨DHT_SUCCESS, some humidity, some temperature, m⟩
    else ⟨DHT_ERROR_CHECKSUM, some 0, some 0, m⟩

/-- mirrors sensorsamplor.sensor.temperature/src/main/c/pi_dht_read.c:38-158 -/
def pi_dht_read (type : Int) (pin : Fin 32) (humidity temperature : Option ℚ) (hw : Hardware) (m : Machine) :
    Result :=
  match humidity, temperature with
  | some _, some _ =>
    let (code, gpio) := pi_mmio_init hw.devMem m.gpio
    if code < 0 then ⟨ DHT_ERROR_GPIO, some 0, some 0, { m with gpio := gpio }⟩
    else
      let m := set_max_priority { m with gpio := pi_mmio_set_output gpio pin }
      let gpio := pi_mmio_set_low (pi_mmio_set_high m.gpio pin) pin
      readData type (line pin hw) { m with gpio := pi_mmio_set_input gpio pin }
  | _, _ => ⟨DHT_ERROR_ARGUMENT, humidity, temperature, m⟩

/-- The line answers with pulses that the driver measures. -/
abbrev Answers (line : Signal) (pulses : List Pulse) : Prop := line.Answers DHT_MAXCOUNT DHT_PULSES pulses

/-- A sum of counts, and their average. -/
theorem sum_bounds {counts : List Nat} {n low high : Nat} (hlength : counts.length = n)
    (h : ∀ c ∈ counts, low ≤ c ∧ c ≤ high) : n * low ≤ counts.sum ∧ counts.sum ≤ n * high := by
  have hle := List.sum_le_card_nsmul counts high fun c hc => (h c hc).2
  have hge := List.card_nsmul_le_sum counts low fun c hc => (h c hc).1
  rw [smul_eq_mul, hlength] at hle hge
  exact ⟨hge, hle⟩

/-! ## What a call leaves -/

/-- What a call ends with, by how far it comes. -/
theorem pi_dht_read_cases (type : Int) (pin : Fin 32) (humidity temperature : Option ℚ) (hw : Hardware)
    (m : Machine) :
    ((humidity = none ∨ temperature = none) ∧
      pi_dht_read type pin humidity temperature hw m = ⟨DHT_ERROR_ARGUMENT, humidity, temperature, m⟩) ∨
    (m.gpio.mapped = false ∧ hw.devMem ≠ .mapped ∧
      pi_dht_read type pin humidity temperature hw m = ⟨ DHT_ERROR_GPIO, some 0, some 0, m⟩) ∨
    ((m.gpio.mapped = true ∨ hw.devMem = .mapped) ∧ ∃ gpio,
      (∀ q, gpio.mode q = if q = pin then 0#3 else m.gpio.mode q) ∧ gpio.mapped = true ∧
      pi_dht_read type pin humidity temperature hw m = readData type (line pin hw) ⟨gpio, .max⟩) := by
  cases humidity with
  | none => exact .inl ⟨.inl rfl, rfl⟩
  | some h =>
    cases temperature with
    | none => exact .inl ⟨.inr rfl, rfl⟩
    | some t =>
      right
      have hmodes : ∀ (g : Gpio) (q : Fin 32), (pi_mmio_set_input (pi_mmio_set_low (pi_mmio_set_high
          (pi_mmio_set_output g pin) pin) pin) pin).mode q = if q = pin then 0#3 else g.mode q := by
        intro g q
        rw [mode_set_input, mode_set_low, mode_set_high, mode_set_output]
        split <;> rfl
      cases hmapped : m.gpio.mapped with
      | true =>
        refine .inr ⟨.inl rfl, _, hmodes m.gpio, hmapped, ?_⟩
        simp [pi_dht_read, pi_mmio_init, hmapped, MMIO_SUCCESS, set_max_priority]
      | false =>
        cases hdev : hw.devMem with
        | mapped =>
          refine .inr ⟨.inr rfl, _, hmodes { m.gpio with mapped := true }, rfl, ?_⟩
          simp [pi_dht_read, pi_mmio_init, hmapped, hdev, MMIO_SUCCESS, set_max_priority]
        | notOpened =>
          refine .inl ⟨rfl, nofun, ?_⟩
          simp [pi_dht_read, pi_mmio_init, hmapped, hdev, MMIO_ERROR_DEVMEM]
        | notMapped =>
          refine .inl ⟨rfl, nofun, ?_⟩
          simp [pi_dht_read, pi_mmio_init, hmapped, hdev, MMIO_ERROR_MMAP]

/-- Whether the pulses come in time or not, the priority is the default one after them. -/
theorem machine_readData (type : Int) (line : Signal) (m : Machine) :
    (readData type line m).machine = set_default_priority m := by
  unfold readData
  split
  · rfl
  · dsimp only
    split <;> rfl

/-- The arguments of a call, and what it meets. -/
structure Call where
  type : Int
  pin : Fin 32
  humidity : Option ℚ
  temperature : Option ℚ
  hardware : Hardware

def call (m : Machine) (c : Call) : Result := pi_dht_read c.type c.pin c.humidity c.temperature c.hardware m

/-- The process after a sequence of calls. -/
def callAll (m : Machine) (cs : List Call) : Machine := cs.foldl (fun m c => (call m c).machine) m

/-- What a call may change of the process. -/
structure Restores (m : Machine) (pin : Fin 32) (m' : Machine) : Prop where
  priority : m.priority = .default → m'.priority = .default
  others : ∀ q, q ≠ pin → m'.gpio.mode q = m.gpio.mode q
  own : m'.gpio.mode pin = m.gpio.mode pin ∨ m'.gpio.mode pin = 0#3

theorem call_restores (m : Machine) (c : Call) : Restores m c.pin (call m c).machine := by
  unfold call
  rcases pi_dht_read_cases c.type c.pin c.humidity c.temperature c.hardware m with
    ⟨-, h⟩ | ⟨-, -, h⟩ | ⟨-, gpio, hmodes, -, h⟩
  · rw [h]
    exact ⟨id, fun _ _ => rfl, .inl rfl⟩
  · rw [h]
    exact ⟨id, fun _ _ => rfl, .inl rfl⟩
  · rw [h, machine_readData]
    refine ⟨fun _ => rfl, fun q hq => ?_, .inr ?_⟩
    · exact (hmodes q).trans (if_neg hq)
    · exact (hmodes c.pin).trans (if_pos rfl)

/-- Two lines that a call cannot tell apart. -/
def SameReads (hw hw' : Hardware) : Prop :=
  hw.devMem = hw'.devMem ∧ ∀ j, j < (2 * DHT_PULSES + 1) * DHT_MAXCOUNT → hw.levels j = hw'.levels j

theorem readData_congr (type : Int) {line line' : Signal} (m : Machine)
    (h : pulseCounts line = pulseCounts line') :
    readData type line m = readData type line' m := by
  unfold readData
  rw [h]

theorem call_congr (m : Machine) (c : Call) {hw : Hardware} (h : SameReads c.hardware hw) :
    call m c = call m { c with hardware := hw } := by
  obtain ⟨hdev, hlevels⟩ := h
  have hpulses : pulseCounts (line c.pin c.hardware) = pulseCounts (line c.pin hw) := by
    refine Signal.answer_congr fun j hj => ?_
    unfold line
    rw [hlevels j hj]
  unfold call pi_dht_read
  dsimp only
  rw [hdev]
  split
  · split
    · rfl
    · exact readData_congr c.type _ hpulses
  · rfl

/-- **A call leaves no trace.** After any sequence of calls, whatever lines and
arguments they meet and however they end, the priority is the default one
again and every pin is what it was, or an input when it is one of theirs;
and no call depends on more than 83 times 32000 reads of its line. -/
theorem calls_safe (m : Machine) (cs : List Call) :
    (m.priority = .default → (callAll m cs).priority = .default) ∧
    (∀ q, (callAll m cs).gpio.mode q = m.gpio.mode q ∨
      (callAll m cs).gpio.mode q = 0#3 ∧ ∃ c ∈ cs, c.pin = q) ∧
    ∀ c ∈ cs, ∀ m hw, SameReads c.hardware hw → call m c = call m { c with hardware := hw } := by
  refine ⟨?_, ?_, fun c _ m hw => call_congr m c⟩
  · intro hdefault
    induction cs generalizing m with
    | nil => exact hdefault
    | cons c cs ih => exact ih _ ((call_restores m c).priority hdefault)
  · intro q
    induction cs generalizing m with
    | nil => exact .inl rfl
    | cons c cs ih =>
      have hstep := call_restores m c
      rcases ih (call m c).machine with hsame | ⟨hinput, c', hc', hpin⟩
      · by_cases hq : q = c.pin
        · subst hq
          rcases hstep.own with hown | hown
          · exact .inl (hsame.trans hown)
          · exact .inr ⟨hsame.trans hown, c, List.mem_cons_self, rfl⟩
        · exact .inl (hsame.trans (hstep.others q hq))
      · exact .inr ⟨hinput, c', List.mem_cons_of_mem c hc', hpin⟩

end PiDhtRead
end SensorSamplor
