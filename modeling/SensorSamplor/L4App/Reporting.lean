import SensorSamplor.L4App.Factories

/-!
# What the sensors of the factories report

A sensor run only handles a `SensorException`. `Sound` says which sensors
throw no other exception: corrections of the temperature sensor have to be
finite numbers, and the HTTP/XML sensor needs a source, since the handler in
`measureWith` asks the source for its name. `PinInPage` says which ones the
native library can read without a fault. A factory accepts settings that lead
to none of these (`reports_every_run_iff`).
-/
namespace SensorSamplor

open SensorSamplor.Core SensorSamplor.Core.JavaText

namespace Sensor

/-- Settings with which no measurement throws anything but a `SensorException`. -/
def Sound : Sensor String → Prop
  | .am2302 s => s.temperatureCorrection.isFinite = true ∧ s.humidityCorrection.isFinite = true
  | .dummyTemperature _ => True
  | .systemStats _ => True
  | .httpXml s => s.source.isSome = true

/-- The platform identifier a sensor was created for. -/
def platformIdentifier : Sensor String → String
  | .am2302 s => s.platformIdentifier
  | .dummyTemperature p => p
  | .systemStats p => p
  | .httpXml s => s.platformIdentifier

variable {D : Type}

/-- A run that reads zeros from the library, which maps a page with no memory
around it, and fetches nothing. -/
def quiet : Measurement D where
  uuid := ⟨0, 0⟩
  now := ⟨0, "UTC"⟩
  errorUuid := ⟨0, 1⟩
  errorNow := ⟨0, "UTC"⟩
  reads _ := ⟨Am2302SensorStatusCode.DHT_SUCCESS.code, 0, 0⟩
  pinsMapped := true
  ownsWord _ := false
  nextDouble := 1 / 2
  randomTemperature := 20
  randomHumidity := 50
  getSystemLoadAverage := .finite 0
  usedMemory := 0
  http := ⟨fun url => .error (some url), fun _ _ => .ok []⟩

/-! ## One run -/

/-- A sound sensor reports in every run that comes to its end, for its own platform. -/
theorem Sound.reports {sensor : Sensor String} (h : sensor.Sound) (m : Measurement D) :
    (invokeSensor m sensor).Reports sensor.platformIdentifier (sensor.measure m).1 := by
  rw [invokeSensor_reports_iff]
  cases sensor with
  | am2302 s =>
    rcases Am2302Sensor.measure_finite h.1 h.2 m.uuid m.now m.reads with ⟨sample, hs, hp⟩ | ⟨message, he⟩
    · exact .inl ⟨sample, hs, hp⟩
    · exact .inr ⟨_, message, he⟩
  | dummyTemperature p =>
    show (∃ sample, measureDummy m p = .ok sample ∧ _) ∨ ∃ t message, measureDummy m p = _
    unfold measureDummy
    split
    · exact .inr ⟨_, _, rfl⟩
    · exact .inl ⟨_, rfl, rfl⟩
  | systemStats p => exact .inl ⟨_, rfl, rfl⟩
  | httpXml s =>
    obtain ⟨source, hsource⟩ := Option.isSome_iff_exists.1 h
    show (∃ sample, s.measure m.http m.uuid m.now = .ok sample ∧ _) ∨
      ∃ t message, s.measure m.http m.uuid m.now = _
    unfold HttpXmlSensor.measure
    rw [hsource]
    cases hf : HttpXmlSensor.fetchAndEvaluate m.http m.uuid m.now s.platformIdentifier source with
    | ok sample =>
      exact .inl ⟨sample, by simp only [hf], congrArg Prod.fst (HttpXmlSensor.node_fetchAndEvaluate hf)⟩
    | error message => exact .inr ⟨_, message, by simp only [hf]; rfl⟩

/-- A sensor that is not sound reports nothing when the library reads zeros. -/
theorem Sound.of_reports {p : String} {sensor : Sensor String}
    (h : (invokeSensor (quiet (D := D)) sensor).Reports p (sensor.measure (quiet (D := D))).1) : sensor.Sound := by
  rw [invokeSensor_reports_iff] at h
  cases sensor with
  | am2302 s =>
    by_contra hs
    have he : (Sensor.measure (quiet (D := D)) (.am2302 s)).1 = .error .numberFormatException :=
      Am2302Sensor.measure_not_finite hs _ _ fun _ => rfl
    rw [he] at h
    rcases h with ⟨_, h, -⟩ | ⟨_, _, h⟩ <;> cases h
  | dummyTemperature p => trivial
  | systemStats p => trivial
  | httpXml s =>
    obtain ⟨p', source⟩ := s
    cases source with
    | some source => rfl
    | none => rcases h with ⟨_, h, -⟩ | ⟨_, _, h⟩ <;> cases h

theorem PinInPage.not_faults {sensor : Sensor String} (h : sensor.PinInPage) (m : Measurement D) :
    sensor.faults m = false := by
  cases sensor with
  | am2302 s =>
    have hpage : decide (PiMmio.InPage s.pin) = true := decide_eq_true h
    simp [faults, hpage]
  | dummyTemperature p => rfl
  | systemStats p => rfl
  | httpXml s => rfl

/-- Out of the page the process ends, where it has no other memory. -/
theorem PinInPage.of_not_faults {sensor : Sensor String} (h : sensor.faults (quiet (D := D)) = false) :
    sensor.PinInPage := by
  cases sensor with
  | am2302 s =>
    show PiMmio.InPage s.pin
    simpa [faults, quiet] using h
  | dummyTemperature p => trivial
  | systemStats p => trivial
  | httpXml s => trivial

/-! ## Every run -/

/-- A measurement changes nothing that a sensor was created with. -/
theorem measure_settings (m : Measurement D) (sensor : Sensor String) :
    ((sensor.measure m).2.Sound ↔ sensor.Sound) ∧ ((sensor.measure m).2.PinInPage ↔ sensor.PinInPage) ∧
      (sensor.measure m).2.platformIdentifier = sensor.platformIdentifier := by
  cases sensor with
  | am2302 s =>
    have hset := Am2302Sensor.settings_measure m.uuid m.now m.reads s
    simp only [Am2302Sensor.settings, Prod.mk.injEq] at hset
    obtain ⟨hp, hpin, ht, hh⟩ := hset
    have hsound : (s.measure m.uuid m.now m.reads).2.temperatureCorrection.isFinite = true ∧
        (s.measure m.uuid m.now m.reads).2.humidityCorrection.isFinite = true ↔
        s.temperatureCorrection.isFinite = true ∧ s.humidityCorrection.isFinite = true := by rw [ht, hh]
    have hpage : PiMmio.InPage (s.measure m.uuid m.now m.reads).2.pin ↔ PiMmio.InPage s.pin := by rw [hpin]
    exact ⟨hsound, hpage, hp⟩
  | dummyTemperature p => exact ⟨Iff.rfl, Iff.rfl, rfl⟩
  | systemStats p => exact ⟨Iff.rfl, Iff.rfl, rfl⟩
  | httpXml s => exact ⟨Iff.rfl, Iff.rfl, rfl⟩

/-- No run changes what a sensor was created with. -/
theorem afterRuns_settings (ms : List (Measurement D)) (sensor : Sensor String) :
    ((afterRuns sensor ms).Sound ↔ sensor.Sound) ∧ ((afterRuns sensor ms).PinInPage ↔ sensor.PinInPage) ∧
      (afterRuns sensor ms).platformIdentifier = sensor.platformIdentifier := by
  induction ms generalizing sensor with
  | nil => exact ⟨Iff.rfl, Iff.rfl, rfl⟩
  | cons m ms ih =>
    obtain ⟨hsound, hpin, hp⟩ := ih (sensor.measure m).2
    obtain ⟨hsound', hpin', hp'⟩ := measure_settings m sensor
    rw [afterRuns_cons]
    exact ⟨hsound.trans hsound', hpin.trans hpin', hp.trans hp'⟩

/-- A sensor reports once in each of its runs exactly when it is sound and its
pin is in the page. -/
theorem sound_iff_reports {D : Type} (sensor : Sensor String) :
    (∀ (ms : List (Measurement D)) (m : Measurement D),
      ReportsOnce sensor.platformIdentifier m (afterRuns sensor ms)) ↔ sensor.Sound ∧ sensor.PinInPage := by
  constructor
  · intro h
    obtain ⟨hreturns, hreports⟩ := reportsOnce_iff_returns.1 (h [] quiet)
    exact ⟨Sound.of_reports hreports, PinInPage.of_not_faults hreturns⟩
  · intro ⟨hsound, hpage⟩ ms m
    obtain ⟨hsound', hpage', hp⟩ := afterRuns_settings ms sensor
    refine reportsOnce_iff_returns.2 ⟨(hpage'.2 hpage).not_faults m, ?_⟩
    rw [← hp]
    exact (hsound'.2 hsound).reports m

end Sensor

/-! ## The sensors that factories create -/

/-- A correction that is missing, or a finite number. -/
def FiniteCorrection (setting : Option String) : Prop :=
  MissingOr setting fun value => ∃ q, Double.valueOf value = some (.finite q)

/-- A pin that is missing, or between -9 and 10239. -/
def ReachablePin (setting : Option String) : Prop :=
  MissingOr setting fun value => ∃ pin, parseInt value = some pin ∧ -10 < pin ∧ pin < 10240

/-- What the settings of the temperature sensor have to be. -/
structure SoundTemperatureSettings (setting : String → Option String) : Prop where
  pin : ReachablePin (setting TemperatureHumiditySensorFactory.GPIO_DATA_PIN)
  temperature : FiniteCorrection (setting TemperatureHumiditySensorFactory.TEMPERATURE_CORRECTION)
  humidity : FiniteCorrection (setting TemperatureHumiditySensorFactory.HUMIDITY_CORRECTION)

/-- Settings with which the sensors of a factory report in every run: with the
native library, a pin in the page and finite corrections; for the HTTP/XML
sensor, a source. -/
def SoundSettings (env : Environment) (configuration : Configuration) (identifier : String) : Prop :=
  (identifier = Am2302Sensor.IDENTIFIER → env.libraryFound = true →
    SoundTemperatureSettings (configuration.lookup ·)) ∧
  (identifier = HttpXmlSensor.IDENTIFIER → HttpXmlSensorFactory.SOURCE ∈ configuration)

theorem reachablePin_iff {configuration : Configuration} {key : String} {pin : Int}
    (h : ifConfigured configuration key integerValueOf 0 = .ok pin) :
    PiMmio.InPage pin ↔ ReachablePin (configuration.lookup key) := by
  rw [PiMmio.inPage_iff]
  unfold ifConfigured integerValueOf at h
  unfold ReachablePin MissingOr
  cases hkey : configuration.lookup key with
  | none =>
    rw [hkey] at h
    cases h
    exact iff_of_true (by decide) fun _ hv => by cases hv
  | some value =>
    simp only [hkey, Option.some.injEq, forall_eq'] at h ⊢
    cases hn : parseInt value with
    | none => rw [hn] at h; cases h
    | some n =>
      rw [hn] at h
      cases h
      simp

theorem finiteCorrection_iff {configuration : Configuration} {key : String} {d : Double}
    (h : ifConfigured configuration key doubleValueOf (.finite 0) = .ok d) :
    d.isFinite = true ↔ FiniteCorrection (configuration.lookup key) := by
  unfold ifConfigured doubleValueOf at h
  unfold FiniteCorrection MissingOr
  cases hkey : configuration.lookup key with
  | none =>
    rw [hkey] at h
    cases h
    exact iff_of_true rfl fun _ hv => by cases hv
  | some value =>
    simp only [hkey, Option.some.injEq, forall_eq'] at h ⊢
    cases hd : Double.valueOf value with
    | none => rw [hd] at h; cases h
    | some d' =>
      rw [hd] at h
      cases h
      cases d <;> simp [Double.isFinite]

theorem source_iff {env : Environment} {configuration : Configuration} {source : Option HttpXmlSensorSource}
    (h : HttpXmlSensorFactory.setConfigurationValues env configuration none = .ok source) :
    source.isSome = true ↔ HttpXmlSensorFactory.SOURCE ∈ configuration := by
  rw [← AList.lookup_isSome]
  unfold HttpXmlSensorFactory.setConfigurationValues ifConfigured at h
  cases hkey : configuration.lookup HttpXmlSensorFactory.SOURCE with
  | none =>
    rw [hkey] at h
    cases h
    exact Iff.rfl
  | some value =>
    rw [hkey] at h
    obtain ⟨s, -, rfl⟩ := map_eq_ok.1 h
    exact Iff.rfl

theorem createSensorFor_sound {env : Environment} {platformIdentifier : String} {configuration : Configuration}
    {f : TemperatureHumiditySensorFactory.State}
    (h : TemperatureHumiditySensorFactory.setConfigurationValues configuration ⟨0, .finite 0, .finite 0⟩ = .ok f) :
    ((TemperatureHumiditySensorFactory.createSensorFor env platformIdentifier f).Sound ∧
      (TemperatureHumiditySensorFactory.createSensorFor env platformIdentifier f).PinInPage) ↔
      (env.libraryFound = true → SoundTemperatureSettings (configuration.lookup ·)) := by
  obtain ⟨hpin, ht, hh⟩ := TemperatureHumiditySensorFactory.setConfigurationValues_eq_ok.1 h
  have hsettings : SoundTemperatureSettings (configuration.lookup ·) ↔
      PiMmio.InPage f.gpioPin ∧ f.temperatureCorrection.isFinite = true ∧
        f.humidityCorrection.isFinite = true := by
    rw [reachablePin_iff hpin, finiteCorrection_iff ht, finiteCorrection_iff hh]
    exact ⟨fun h => ⟨h.pin, h.temperature, h.humidity⟩, fun ⟨hp, ht, hh⟩ => ⟨hp, ht, hh⟩⟩
  rw [hsettings]
  unfold TemperatureHumiditySensorFactory.createSensorFor
  cases env.libraryFound with
  | true => exact ⟨fun ⟨hsound, hpage⟩ _ => ⟨hpage, hsound⟩, fun h => ⟨(h rfl).2, (h rfl).1⟩⟩
  | false => exact iff_of_true ⟨trivial, trivial⟩ (fun h => by cases h)

theorem createSensorFor_platformIdentifier (env : Environment) (platformIdentifier : String)
    (f : TemperatureHumiditySensorFactory.State) :
    (TemperatureHumiditySensorFactory.createSensorFor env platformIdentifier f).platformIdentifier =
      platformIdentifier := by
  unfold TemperatureHumiditySensorFactory.createSensorFor
  split <;> rfl

/-- The sensor that a configured factory creates. -/
theorem created_sound {env : Environment} {platformIdentifier : String} {f : Factory (Sensor String)}
    (hf : f ∈ sensorFactories env platformIdentifier) {configuration : Configuration} {state : f.State}
    (hstate : f.setConfigurationValues configuration f.new = .ok state) {sensor : Sensor String}
    (hcreate : f.create state = .ok sensor) :
    (sensor.Sound ∧ sensor.PinInPage ↔ SoundSettings env configuration f.getIdentifier) ∧
      sensor.platformIdentifier = platformIdentifier := by
  have htx : Am2302Sensor.IDENTIFIER ≠ HttpXmlSensor.IDENTIFIER := by decide
  have hst : Sensor.SYSTEM_STATS_IDENTIFIER ≠ Am2302Sensor.IDENTIFIER := by decide
  have hsx : Sensor.SYSTEM_STATS_IDENTIFIER ≠ HttpXmlSensor.IDENTIFIER := by decide
  simp only [sensorFactories, List.mem_cons, List.not_mem_nil, or_false] at hf
  rcases hf with rfl | rfl | rfl
  · cases hcreate
    refine ⟨?_, createSensorFor_platformIdentifier env platformIdentifier state⟩
    rw [createSensorFor_sound hstate]
    exact ⟨fun h => ⟨fun _ => h, fun hid => absurd hid htx⟩, fun h => h.1 rfl⟩
  · cases hcreate
    exact ⟨iff_of_true ⟨trivial, trivial⟩ ⟨fun hid => absurd hid hst, fun hid => absurd hid hsx⟩, rfl⟩
  · cases hcreate
    refine ⟨⟨fun h => ⟨fun hid => absurd hid htx.symm, fun _ => (source_iff hstate).1 h.1⟩,
      fun h => ⟨?_, trivial⟩⟩, rfl⟩
    exact (source_iff hstate).2 (h.2 rfl)

/-- **Which sensors report every time.** A sensor that a factory creates from
settings it accepts sends, in each of its runs, exactly one sample with the
platform identifier of the node, the measured one or an `ErrorSample`,
exactly when the settings are sound: for the temperature sensor with the
native library, a pin whose register is in the mapped page and corrections
that are finite numbers; for the HTTP/XML sensor, a source. -/
theorem reports_every_run_iff {D : Type} {env : Environment} {platformIdentifier : String}
    {f : Factory (Sensor String)} (hf : f ∈ sensorFactories env platformIdentifier)
    {configuration : Configuration} {state : f.State}
    (hstate : f.setConfigurationValues configuration f.new = .ok state) {sensor : Sensor String}
    (hcreate : f.create state = .ok sensor) :
    (∀ (ms : List (Sensor.Measurement D)) (m : Sensor.Measurement D),
      ReportsOnce platformIdentifier m (afterRuns sensor ms)) ↔
      SoundSettings env configuration f.getIdentifier := by
  obtain ⟨hsound, hp⟩ := created_sound hf hstate hcreate
  rw [← hsound, ← hp]
  exact Sensor.sound_iff_reports sensor

/-- A Raspberry Pi with the sensor library. -/
def raspberryPi : Environment := { linux with libraryFound := true }

def correctedSettings : Configuration :=
  ((∅ : Configuration).insert TemperatureHumiditySensorFactory.GPIO_DATA_PIN "4").insert
    TemperatureHumiditySensorFactory.TEMPERATURE_CORRECTION "-0.8"

/-- The sensor with pin 4 and a correction of -0.8 reports, also in its second run. -/
theorem correctedSensor_reports :
    ReportsOnce "node" (Sensor.quiet (D := Unit))
      (afterRuns (.am2302 (Am2302Sensor.new "node" 4 (.finite (-4 / 5)) (.finite 0)))
        [Sensor.quiet (D := Unit)]) := by
  have hcorrection : Double.valueOf "-0.8" = some (.finite (-4 / 5)) := by decide +kernel
  have hlookup : correctedSettings.lookup TemperatureHumiditySensorFactory.TEMPERATURE_CORRECTION =
      some "-0.8" := rfl
  have hstate : TemperatureHumiditySensorFactory.setConfigurationValues correctedSettings
      ⟨0, .finite 0, .finite 0⟩ = .ok ⟨4, .finite (-4 / 5), .finite 0⟩ := by
    refine TemperatureHumiditySensorFactory.setConfigurationValues_eq_ok.2 ⟨rfl, ?_, rfl⟩
    simp only [ifConfigured, hlookup, doubleValueOf, hcorrection]
  refine (reports_every_run_iff (f := TemperatureHumiditySensorFactory.factory raspberryPi "node") (.head _)
    hstate rfl).2 ⟨fun _ _ => ⟨?_, ?_, ?_⟩, fun hid => absurd hid (by decide)⟩ [Sensor.quiet] Sensor.quiet
  · have hpin : correctedSettings.lookup TemperatureHumiditySensorFactory.GPIO_DATA_PIN = some "4" := rfl
    rw [hpin]
    exact fun value hvalue => ⟨4, by rw [← Option.some.inj hvalue]; rfl, by decide⟩
  · rw [hlookup]
    exact fun value hvalue => ⟨-4 / 5, by rw [← Option.some.inj hvalue]; exact hcorrection⟩
  · exact fun value hvalue => by cases hvalue

/-- Without a source the HTTP/XML sensor is created, but its runs send nothing. -/
theorem missing_source_silent :
    ∃ sensor, (HttpXmlSensorFactory.factory linux "node").setConfigurationValues ∅ none = .ok none ∧
      (HttpXmlSensorFactory.factory linux "node").create none = .ok sensor ∧
      ¬ ReportsOnce "node" (Sensor.quiet (D := Unit)) sensor := by
  refine ⟨.httpXml ⟨"node", none⟩, rfl, rfl, fun h => ?_⟩
  have huncaught : some Throwable.nullPointerException = none := (reportsOnce_iff_returns.1 h).2.1
  cases huncaught

end SensorSamplor
