import SensorSamplor.L3Sensors.Am2302Sensor

/-!
# Runs of the temperature and humidity sensor

What the loop of `measureWithRetries` does with any sequence of readings,
and what follows for any sequence of measurements of one sensor.

* `retry_takes`: from a reading on, the loop goes on to the first one that
  is accepted, but not beyond the fifth.
* `call_measured`: one measurement, from any state of the cache.
* `measurements_spec`: the cache along a run, and when a reading that is far
  off is reported.

The loop compares what the native call left in the shared buffers; it runs
at least once, so these are never the readings of an earlier measurement
(`Holds`).
-/
namespace SensorSamplor.Am2302Sensor

open SensorSamplor.Core

variable {P : Type}

/-- The reading is a success and, when values are cached, within the allowed
variation of them. -/
def Accepted (s : Am2302Sensor P) (r : Reading) : Prop :=
  r.returnCode = 0 ∧ ∀ temperature humidity, s.temperatureCache = some temperature →
    s.humidityCache = some humidity → |r.temperature - temperature| ≤ 5 ∧ |r.humidity - humidity| ≤ 10

/-- `k` is the number of reads that a measurement takes: up to the first
accepted one, five at most. Read `i` is what call `i - 1` returns. -/
structure Takes (s : Am2302Sensor P) (reads : Nat → Reading) (k : Nat) : Prop where
  atLeastOne : 1 ≤ k
  atMostFive : k ≤ 5
  before : ∀ i, 1 ≤ i → i < k → ¬ Accepted s (reads (i - 1))
  last : k < 5 → Accepted s (reads (k - 1))

/-- The state is that after a call that returned the reading. -/
def Holds (s : Am2302Sensor P) (r : Reading) : Prop :=
  s.returnCode = r.returnCode ∧ s.temperature = r.temperature ∧ s.humidity = r.humidity

/-- The caches of two states are the same. -/
def SameCache (s s' : Am2302Sensor P) : Prop :=
  s'.temperatureCache = s.temperatureCache ∧ s'.humidityCache = s.humidityCache

theorem SameCache.accepted {s s' : Am2302Sensor P} (h : SameCache s s') (r : Reading) :
    Accepted s' r ↔ Accepted s r := by
  unfold Accepted
  rw [h.1, h.2]

theorem tooFarOff_eq_false {s : Am2302Sensor P} : s.tooFarOff = false ↔
    ∀ temperature humidity, s.temperatureCache = some temperature → s.humidityCache = some humidity →
      |s.temperature - temperature| ≤ 5 ∧ |s.humidity - humidity| ≤ 10 := by
  unfold tooFarOff
  have hcached := s.cached
  cases ht : s.temperatureCache with
  | none => simp
  | some temperature =>
    cases hh : s.humidityCache with
    | none =>
      rw [ht, hh] at hcached
      cases hcached
    | some humidity =>
      show (decide (_ < _) || decide (_ < _)) = false ↔ _
      rw [Bool.or_eq_false_iff, decide_eq_false_iff_not, decide_eq_false_iff_not, not_lt, not_lt]
      unfold distanceOf
      rw [abs_sub_comm temperature, abs_sub_comm humidity]
      refine ⟨fun h t h' ht hh => ?_, fun h => h temperature humidity rfl rfl⟩
      cases ht
      cases hh
      exact h

/-- The loop ends at a reading that is accepted. -/
theorem pending_eq_false {s : Am2302Sensor P} {r : Reading} (h : Holds s r) :
    (s.measurementNotSuccessful || s.tooFarOff) = false ↔ Accepted s r := by
  obtain ⟨hcode, ht, hh⟩ := h
  have hsuccess : s.measurementNotSuccessful = false ↔ r.returnCode = 0 := by
    unfold measurementNotSuccessful
    rw [decide_eq_false_iff_not, not_not, hcode]
    rfl
  rw [Bool.or_eq_false_iff, hsuccess, tooFarOff_eq_false, ht, hh]
  rfl

/-- What the loop leaves, from a state that holds a reading. -/
structure Retried (reads : Nat → Reading) (s s' : Am2302Sensor P) : Prop where
  tries : s.triesSoFar ≤ s'.triesSoFar ∧ s'.triesSoFar ≤ 5
  holds : Holds s' (reads (s'.triesSoFar - 1))
  cache : SameCache s s'
  before : ∀ i, s.triesSoFar ≤ i → i < s'.triesSoFar → ¬ Accepted s (reads (i - 1))
  last : s'.triesSoFar < 5 → Accepted s (reads (s'.triesSoFar - 1))

theorem retry_takes {reads : Nat → Reading} (fuel : Nat) {s : Am2302Sensor P} (hone : 1 ≤ s.triesSoFar)
    (hfive : s.triesSoFar ≤ 5) (hfuel : 5 ≤ s.triesSoFar + fuel)
    (hholds : Holds s (reads (s.triesSoFar - 1))) : Retried reads s (retry reads fuel s) := by
  induction fuel generalizing s with
  | zero =>
    have hi : s.triesSoFar = 5 := by omega
    simp only [retry]
    exact ⟨⟨le_refl _, hfive⟩, hholds, ⟨rfl, rfl⟩, fun i h₁ h₂ => by omega, fun h => by omega⟩
  | succ fuel ih =>
    simp only [retry]
    split
    · -- one more read
      rename_i hgo
      obtain ⟨hpending, hleft⟩ := (Bool.and_eq_true _ _).mp hgo
      have hnot : ¬ Accepted s (reads (s.triesSoFar - 1)) := by
        intro ha
        rw [(pending_eq_false hholds).2 ha] at hpending
        cases hpending
      have hfour : s.triesSoFar ≤ 4 := of_decide_eq_true hleft
      have hread : (s.read (reads s.triesSoFar)).triesSoFar = s.triesSoFar + 1 := rfl
      have h := ih (s := s.read (reads s.triesSoFar)) (by omega) (by omega) (by omega) ⟨rfl, rfl, rfl⟩
      refine ⟨⟨by have := h.tries.1; omega, h.tries.2⟩, h.holds, h.cache, fun i h₁ h₂ => ?_, h.last⟩
      rcases Nat.eq_or_lt_of_le h₁ with rfl | hlt
      · exact hnot
      · exact h.before i (by omega) h₂
    · -- the reading is accepted, or it is the fifth
      rename_i hstop
      refine ⟨⟨le_refl _, hfive⟩, hholds, ⟨rfl, rfl⟩, fun i h₁ h₂ => by omega, fun hlt => ?_⟩
      have hleft : s.hasTriesLeft = true := decide_eq_true (show s.triesSoFar ≤ 4 by omega)
      rw [hleft, Bool.and_true, Bool.not_eq_true] at hstop
      exact (pending_eq_false hholds).1 hstop

/-- The loop of a measurement: the reads it takes, and what they leave. -/
theorem measureWithRetries_takes (reads : Nat → Reading) (s : Am2302Sensor P) :
    Takes s reads (s.measureWithRetries reads).triesSoFar ∧
    Holds (s.measureWithRetries reads) (reads ((s.measureWithRetries reads).triesSoFar - 1)) ∧
    SameCache s (s.measureWithRetries reads) := by
  -- the return code is set to a failure before the loop, so there is a first read
  have hfirst : s.measureWithRetries reads = retry reads (RETRIES_IN_ERROR_CASE + 1)
    (({ s with returnCode := -1, triesSoFar := 0 } : Am2302Sensor P).read (reads 0)) := rfl
  have h := retry_takes (RETRIES_IN_ERROR_CASE + 1) (s := ({ s with returnCode := -1, triesSoFar := 0 } :
    Am2302Sensor P).read (reads 0)) (le_refl 1) (show 1 ≤ 5 by decide) (show 5 ≤ 1 + 5 by decide)
    ⟨rfl, rfl, rfl⟩
  rw [← hfirst] at h
  exact ⟨⟨h.tries.1, h.tries.2, h.before, h.last⟩, h.holds, h.cache⟩

/-! ## One measurement -/

/-- What a call of `measure()` meets. -/
structure Call where
  uuid : UUID
  now : DateTime
  reads : Nat → Reading

/-- The result of a call and the sensor afterwards. -/
def call (s : Am2302Sensor String) (m : Call) : Except Throwable Sample × Am2302Sensor String :=
  s.measure m.uuid m.now m.reads

/-- The read that a call ends with. -/
def lastRead (s : Am2302Sensor String) (m : Call) : Reading := m.reads ((s.call m).2.triesSoFar - 1)

/-- The sample of a reading: both values corrected, then to one decimal digit. -/
def IsSampleOf (platformIdentifier : String) (temperatureCorrection humidityCorrection : ℚ) (m : Call)
    (r : Reading) (sample : Sample) : Prop :=
  ∃ t h, Double.OneDigit (r.temperature + temperatureCorrection) t ∧
    Double.OneDigit (r.humidity + humidityCorrection) h ∧
    sample = ((Sample.transferSample m.uuid m.now platformIdentifier IDENTIFIER).addItem
      "temperature" (.double (.finite t))).addItem "humidity" (.double (.finite h))

/-- What a call does: as many reads as it takes, and then its sample and the
new cache, or a `SensorException` and the old one. `triesSoFar` counts the
calls of the library, since `read` is the only one that makes one. -/
structure Measured (platformIdentifier : String) (temperatureCorrection humidityCorrection : ℚ)
    (s : Am2302Sensor String) (m : Call) : Prop where
  takes : Takes s m.reads (s.call m).2.triesSoFar
  success : (s.lastRead m).returnCode = 0 →
    (∃ sample, (s.call m).1 = .ok sample ∧
      IsSampleOf platformIdentifier temperatureCorrection humidityCorrection m (s.lastRead m) sample) ∧
    (s.call m).2.temperatureCache = some (s.lastRead m).temperature ∧
    (s.call m).2.humidityCache = some (s.lastRead m).humidity
  failure : (s.lastRead m).returnCode ≠ 0 →
    (∃ message, (s.call m).1 = .error (.sensorException platformIdentifier IDENTIFIER message)) ∧
    SameCache s (s.call m).2

theorem toSample_oneDigit {s : Am2302Sensor String} {temperatureCorrection humidityCorrection : ℚ}
    (ht : s.temperatureCorrection = .finite temperatureCorrection)
    (hh : s.humidityCorrection = .finite humidityCorrection) {m : Call} {r : Reading} (hr : Holds s r) :
    ∃ sample, s.toSample m.uuid m.now = .ok sample ∧
      IsSampleOf s.platformIdentifier temperatureCorrection humidityCorrection m r sample := by
  obtain ⟨t, ht₁, ht₂⟩ := Double.toOneDigit_oneDigit (r.temperature + temperatureCorrection)
  obtain ⟨h, hh₁, hh₂⟩ := Double.toOneDigit_oneDigit (r.humidity + humidityCorrection)
  have htemperature : toOneDigitDouble ((Double.finite s.temperature).add s.temperatureCorrection) =
      .ok (.double (.finite t)) := by
    rw [ht, hr.2.1]
    simp only [Double.add, toOneDigitDouble, ht₁]
  have hhumidity : toOneDigitDouble ((Double.finite s.humidity).add s.humidityCorrection) =
      .ok (.double (.finite h)) := by
    rw [hh, hr.2.2]
    simp only [Double.add, toOneDigitDouble, hh₁]
  refine ⟨_, ?_, t, h, ht₂, hh₂, rfl⟩
  unfold toSample
  rw [htemperature, hhumidity]
  rfl

theorem triesSoFar_call (s : Am2302Sensor String) (m : Call) :
    (s.call m).2.triesSoFar = (s.measureWithRetries m.reads).triesSoFar := by
  unfold call
  rcases s.measure_cases m.uuid m.now m.reads with ⟨-, hm⟩ | ⟨-, hm⟩
  · rw [hm]
  · rw [hm]
    rfl

theorem call_measured {s : Am2302Sensor String} {platformIdentifier : String} {pin : Int}
    {temperatureCorrection humidityCorrection : ℚ} (hs : s.settings =
      (platformIdentifier, pin, .finite temperatureCorrection, .finite humidityCorrection)) (m : Call) :
    Measured platformIdentifier temperatureCorrection humidityCorrection s m := by
  obtain ⟨htakes, hlast, hcache⟩ := measureWithRetries_takes m.reads s
  rw [← triesSoFar_call] at htakes hlast
  have hholds : Holds (s.measureWithRetries m.reads) (s.lastRead m) := hlast
  have hset := (settings_measureWithRetries m.reads s).trans hs
  simp only [settings, Prod.mk.injEq] at hset
  obtain ⟨hp, -, ht, hh⟩ := hset
  rcases s.measure_cases m.uuid m.now m.reads with ⟨hfail, hm⟩ | ⟨hok, hm⟩
  · -- the last read failed
    have hcall : s.call m = _ := hm
    have hcode : (s.lastRead m).returnCode ≠ 0 := by
      rw [← hholds.1]
      exact of_decide_eq_true hfail
    refine ⟨htakes, fun h => absurd h hcode, fun _ => ⟨?_, ?_⟩⟩
    · rw [hcall, show s.platformIdentifier = platformIdentifier from congrArg Prod.fst hs]
      exact ⟨_, rfl⟩
    · rw [hcall]
      exact hcache
  · -- the last read succeeded
    have hcall : s.call m = _ := hm
    have hcode : (s.lastRead m).returnCode = 0 := by
      rw [← hholds.1]
      exact not_not.1 (of_decide_eq_false hok)
    have hsample := toSample_oneDigit (s := (s.measureWithRetries m.reads).cacheMeasurements) (m := m) ht hh hholds
    refine ⟨htakes, fun _ => ⟨?_, ?_, ?_⟩, fun h => absurd hcode h⟩
    · rw [hcall]
      rwa [show (s.measureWithRetries m.reads).cacheMeasurements.platformIdentifier = platformIdentifier
        from hp] at hsample
    · rw [← hholds.2.1, hcall]
      rfl
    · rw [← hholds.2.2, hcall]
      rfl

/-! ## Runs -/

/-- The sensor after a sequence of calls. -/
def callAll (s : Am2302Sensor String) (ms : List Call) : Am2302Sensor String :=
  ms.foldl (fun s m => (s.call m).2) s

/-- The reading whose sample a call returns, if it returns one. -/
def returned (s : Am2302Sensor String) (m : Call) : Option Reading :=
  match (s.call m).1 with
  | .ok _ => some (s.lastRead m)
  | .error _ => none

/-- The readings whose samples a sequence of calls returns, in order. -/
def returnedAll (s : Am2302Sensor String) : List Call → List Reading
  | [] => []
  | m :: ms => (s.returned m).toList ++ (s.call m).2.returnedAll ms

/-- The reading is outside the allowed variation of an earlier one. -/
def FarOff (earlier r : Reading) : Prop :=
  5 < |r.temperature - earlier.temperature| ∨ 10 < |r.humidity - earlier.humidity|

theorem returned_eq {platformIdentifier : String} {temperatureCorrection humidityCorrection : ℚ}
    {s : Am2302Sensor String} {m : Call}
    (h : Measured platformIdentifier temperatureCorrection humidityCorrection s m) :
    s.returned m = if (s.lastRead m).returnCode = 0 then some (s.lastRead m) else none := by
  unfold returned
  by_cases hcode : (s.lastRead m).returnCode = 0
  · obtain ⟨⟨sample, hok, -⟩, -⟩ := h.success hcode
    rw [hok, if_pos hcode]
  · obtain ⟨⟨message, herror⟩, -⟩ := h.failure hcode
    rw [herror, if_neg hcode]

/-- A call caches the values it returns, and keeps the cache if it returns none. -/
theorem cache_call {platformIdentifier : String} {temperatureCorrection humidityCorrection : ℚ}
    {s : Am2302Sensor String} {m : Call}
    (h : Measured platformIdentifier temperatureCorrection humidityCorrection s m) :
    (s.call m).2.temperatureCache = ((s.returned m).map (·.temperature)).or s.temperatureCache ∧
    (s.call m).2.humidityCache = ((s.returned m).map (·.humidity)).or s.humidityCache := by
  rw [returned_eq h]
  by_cases hcode : (s.lastRead m).returnCode = 0
  · rw [if_pos hcode]
    exact (h.success hcode).2
  · rw [if_neg hcode]
    exact (h.failure hcode).2

theorem settings_callAll (s : Am2302Sensor String) (ms : List Call) :
    (s.callAll ms).settings = s.settings := by
  induction ms generalizing s with
  | nil => rfl
  | cons m ms ih => exact (ih (s.call m).2).trans (settings_measure m.uuid m.now m.reads s)

/-- Along a run the caches are the raw values of the last returned reading. -/
theorem cache_callAll {s : Am2302Sensor String} {platformIdentifier : String} {pin : Int}
    {temperatureCorrection humidityCorrection : ℚ} (hs : s.settings =
      (platformIdentifier, pin, .finite temperatureCorrection, .finite humidityCorrection)) (ms : List Call) :
    (s.callAll ms).temperatureCache =
      ((s.returnedAll ms).getLast?.map (·.temperature)).or s.temperatureCache ∧
    (s.callAll ms).humidityCache = ((s.returnedAll ms).getLast?.map (·.humidity)).or s.humidityCache := by
  induction ms generalizing s with
  | nil => exact ⟨rfl, rfl⟩
  | cons m ms ih =>
    have hs' : (s.call m).2.settings = _ := (settings_measure m.uuid m.now m.reads s).trans hs
    obtain ⟨ht, hh⟩ := cache_call (call_measured hs m)
    obtain ⟨iht, ihh⟩ := ih hs'
    have hlast : (s.returnedAll (m :: ms)).getLast? =
        ((s.call m).2.returnedAll ms).getLast?.or (s.returned m) := by
      rw [returnedAll, List.getLast?_append]
      cases s.returned m <;> rfl
    have hall : s.callAll (m :: ms) = (s.call m).2.callAll ms := rfl
    rw [hall, hlast, iht, ihh, ht, hh]
    cases ((s.call m).2.returnedAll ms).getLast? with
    | none => exact ⟨rfl, rfl⟩
    | some r => exact ⟨rfl, rfl⟩

/-- **Retries, outliers and the cache.** For every sequence of calls of a new
sensor and of readings, and every call after it: the caches hold the raw
values of the last returned reading, or nothing; the call takes the reads it
should and returns, caches or throws what it should; and a reading far off
the last returned one is returned only from the fifth read. -/
theorem measurements_spec (platformIdentifier : String) (pin : Int)
    (temperatureCorrection humidityCorrection : ℚ) (ms : List Call) (m : Call) :
    let s₀ := new platformIdentifier pin (.finite temperatureCorrection) (.finite humidityCorrection)
    let s := s₀.callAll ms
    (s.temperatureCache = (s₀.returnedAll ms).getLast?.map (·.temperature) ∧
      s.humidityCache = (s₀.returnedAll ms).getLast?.map (·.humidity)) ∧
    Measured platformIdentifier temperatureCorrection humidityCorrection s m ∧
    ∀ earlier r, (s₀.returnedAll ms).getLast? = some earlier → s.returned m = some r →
      FarOff earlier r → (s.call m).2.triesSoFar = 5 := by
  intro s₀ s
  have hnew : s₀.settings =
      (platformIdentifier, pin, .finite temperatureCorrection, .finite humidityCorrection) := rfl
  have hcache := cache_callAll hnew ms
  have hsettings : s.settings =
      (platformIdentifier, pin, .finite temperatureCorrection, .finite humidityCorrection) :=
    (settings_callAll s₀ ms).trans hnew
  have hmeasured := call_measured hsettings m
  simp only [show s₀.temperatureCache = none from rfl, show s₀.humidityCache = none from rfl,
    Option.or_none] at hcache
  refine ⟨hcache, hmeasured, fun earlier r hearlier hr hfar => ?_⟩
  by_contra hne
  have hfive := hmeasured.takes.atMostFive
  have haccepted : Accepted s (s.lastRead m) := hmeasured.takes.last (by omega)
  obtain ⟨hcode, hnear⟩ := haccepted
  have hlast : s.lastRead m = r := by
    rw [returned_eq hmeasured, if_pos hcode] at hr
    exact Option.some.inj hr
  rw [hearlier] at hcache
  obtain ⟨ht, hh⟩ := hnear _ _ hcache.1 hcache.2
  rw [← hlast] at hfar
  rcases hfar with hfar | hfar
  · exact absurd ht (not_le.2 hfar)
  · exact absurd hh (not_le.2 hfar)

end SensorSamplor.Am2302Sensor
