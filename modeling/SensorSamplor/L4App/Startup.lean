import SensorSamplor.L4App.Factories

/-!
# Loading the receivers and sensors of a node

A starting node loads its receivers and then its sensors. Every factory is
configured, the inactive ones too, so the settings of a plugin that is not
active can stop the node. `inactive_settings_iff` says for which pairs of
property sets, apart only in settings of inactive plugins, the outcome is
the same; the shipped configuration is in no such pair with one that starts.
-/
namespace SensorSamplor

open SensorSamplor.Core SensorSamplor.Core.JavaText

/-! ## The application's own properties -/

namespace ConfigurationProperties

def SENSOR_PLATFORM_IDENTIFIER : String := "sensorsamplor.sensor_platform_identifier"

def ACTIVE_SENSORS : String := "sensorsamplor.active_sensors"

def ACTIVE_RECEIVERS : String := "sensorsamplor.active_receivers"

/-- mirrors app/configuration/ConfigurationProperties.java:6-30 -/
def keys : List String :=
  [SENSOR_PLATFORM_IDENTIFIER, ACTIVE_SENSORS, ACTIVE_RECEIVERS, "sensorsamplor.receiver_sensor_type_pattern",
   "sensorsamplor.receiver_platform_identifier_pattern", "sensorsamplor.measurement_cron_expression",
   "sensorsamplor.bus.name", "sensorsamplor.bus.username", "sensorsamplor.bus.password",
   "sensorsamplor.bus.interfaces", "sensorsamplor.bus.remote_members"]

end ConfigurationProperties

open ConfigurationProperties

/-- mirrors app/SensorSamplor.java:193-195 -/
def getSensorPlatformIdentifier (properties : Properties) : Option String :=
  getStringProperty properties SENSOR_PLATFORM_IDENTIFIER

/-- mirrors app/SensorSamplor.java:217-219 -/
def getActiveSensors (properties : Properties) : Option (List String) :=
  getStringListProperty properties ACTIVE_SENSORS

/-- mirrors app/SensorSamplor.java:221-223 -/
def getActiveReceivers (properties : Properties) : Option (List String) :=
  getStringListProperty properties ACTIVE_RECEIVERS

/-! ## Loading -/

/-- mirrors app/SensorSamplor.java:79-99 -/
def loadSensors (env : Environment) (properties : Properties) : Except Throwable (List (Sensor (Option String))) :=
  load properties (getActiveSensors properties) (sensorFactories env (getSensorPlatformIdentifier properties))

/-- mirrors app/SensorSamplor.java:111-132 -/
def loadReceivers (env : Environment) (properties : Properties) : Except Throwable (List Receiver) :=
  load properties (getActiveReceivers properties) (receiverFactories env)

/-- The receivers and sensors of a starting node. The receiver manager, made
between the two, reads the application's own properties only.
mirrors app/SensorSamplor.java:53-55 -/
def loadPlugins (env : Environment) (properties : Properties) :
    Except Throwable (List Receiver × List (Sensor (Option String))) := do
  let receivers ← loadReceivers env properties
  let sensors ← loadSensors env properties
  return (receivers, sensors)

/-! ## Property sets that differ in settings of inactive plugins -/

/-- A configuration key of an active sensor or receiver. -/
def ActiveKey (env : Environment) (properties : Properties) (key : String) : Prop :=
  (∃ f ∈ sensorFactories env (getSensorPlatformIdentifier properties),
    IsActive (getActiveSensors properties) f.getIdentifier ∧ key ∈ f.getConfigurationKeys) ∨
  ∃ f ∈ receiverFactories env,
    IsActive (getActiveReceivers properties) f.getIdentifier ∧ key ∈ f.getConfigurationKeys

/-- A configuration key of a sensor or receiver that is not active. -/
def InactiveKey (env : Environment) (properties : Properties) (key : String) : Prop :=
  (∃ f ∈ sensorFactories env (getSensorPlatformIdentifier properties),
    ¬ IsActive (getActiveSensors properties) f.getIdentifier ∧ key ∈ f.getConfigurationKeys) ∨
  ∃ f ∈ receiverFactories env,
    ¬ IsActive (getActiveReceivers properties) f.getIdentifier ∧ key ∈ f.getConfigurationKeys

/-- The property sets agree on all keys but those that only inactive plugins use. -/
def AgreeExceptInactive (env : Environment) (p p' : Properties) : Prop :=
  ∀ key, p key = p' key ∨
    (InactiveKey env p key ∧ ¬ ActiveKey env p key ∧ key ∉ ConfigurationProperties.keys)

theorem AgreeExceptInactive.of_keys {env : Environment} {p p' : Properties} (h : AgreeExceptInactive env p p')
    {key : String} (hkey : key ∈ ConfigurationProperties.keys) : p key = p' key :=
  (h key).resolve_right fun hin => hin.2.2 hkey

theorem AgreeExceptInactive.of_active {env : Environment} {p p' : Properties} (h : AgreeExceptInactive env p p')
    {key : String} (hkey : ActiveKey env p key) : p key = p' key :=
  (h key).resolve_right fun hin => hin.2.1 hkey

theorem AgreeExceptInactive.getActiveSensors_eq {env : Environment} {p p' : Properties}
    (h : AgreeExceptInactive env p p') : getActiveSensors p' = getActiveSensors p := by
  unfold getActiveSensors getStringListProperty getStringProperty
  rw [h.of_keys (by simp [keys])]

theorem AgreeExceptInactive.getActiveReceivers_eq {env : Environment} {p p' : Properties}
    (h : AgreeExceptInactive env p p') : getActiveReceivers p' = getActiveReceivers p := by
  unfold getActiveReceivers getStringListProperty getStringProperty
  rw [h.of_keys (by simp [keys])]

theorem AgreeExceptInactive.getSensorPlatformIdentifier_eq {env : Environment} {p p' : Properties}
    (h : AgreeExceptInactive env p p') : getSensorPlatformIdentifier p' = getSensorPlatformIdentifier p := by
  unfold getSensorPlatformIdentifier getStringProperty
  rw [h.of_keys (by simp [keys])]

/-! ## What the plugins refuse -/

/-- The sensors fail to load by what active plugins read: the list of active
sensors is missing, or a setting of an active sensor is unreadable. -/
def SensorsFailAnyway (env : Environment) (p : Properties) : Prop :=
  getActiveSensors p = none ∨
  (IsActive (getActiveSensors p) Am2302Sensor.IDENTIFIER ∧ ¬ TemperatureHumiditySensorFactory.Readable p) ∨
  (IsActive (getActiveSensors p) HttpXmlSensor.IDENTIFIER ∧ ¬ HttpXmlSensorFactory.Readable env p)

/-- The receivers fail to load by what active plugins read. -/
def ReceiversFailAnyway (env : Environment) (p : Properties) : Prop :=
  getActiveReceivers p = none ∨
  (IsActive (getActiveReceivers p) FileSampleReceiverFactory.IDENTIFIER ∧
    ¬ FileSampleReceiverFactory.Creatable env p) ∨
  (IsActive (getActiveReceivers p) JsonExporterSampleReceiverFactory.IDENTIFIER ∧
    ¬ (JsonExporterSampleReceiverFactory.Readable p ∧ JsonExporterSampleReceiverFactory.Creatable env p)) ∨
  (IsActive (getActiveReceivers p) GraphiteSampleReceiverFactory.IDENTIFIER ∧
    ¬ GraphiteSampleReceiverFactory.Readable p)

/-- Every setting of an inactive sensor is missing or readable. -/
def InactiveSensorsReadable (env : Environment) (p : Properties) : Prop :=
  (¬ IsActive (getActiveSensors p) Am2302Sensor.IDENTIFIER → TemperatureHumiditySensorFactory.Readable p) ∧
  (¬ IsActive (getActiveSensors p) HttpXmlSensor.IDENTIFIER → HttpXmlSensorFactory.Readable env p)

/-- Every setting of an inactive receiver is missing or readable. -/
def InactiveReceiversReadable (p : Properties) : Prop :=
  (¬ IsActive (getActiveReceivers p) JsonExporterSampleReceiverFactory.IDENTIFIER →
    JsonExporterSampleReceiverFactory.Readable p) ∧
  (¬ IsActive (getActiveReceivers p) GraphiteSampleReceiverFactory.IDENTIFIER →
    GraphiteSampleReceiverFactory.Readable p)

theorem failsAnyway_sensors {env : Environment} {p : Properties} {platformIdentifier : Option String} :
    FailsAnyway p (getActiveSensors p) (sensorFactories env platformIdentifier) ↔ SensorsFailAnyway env p := by
  unfold FailsAnyway SensorsFailAnyway sensorFactories
  simp only [List.exists_mem_cons_iff, List.not_mem_nil, false_and, exists_false, or_false,
    TemperatureHumiditySensorFactory.builds_iff, HttpXmlSensorFactory.builds_iff,
    SystemStatsSensorFactory.builds, not_true, and_false, false_or]
  exact Iff.rfl

theorem failsAnyway_receivers {env : Environment} {p : Properties} :
    FailsAnyway p (getActiveReceivers p) (receiverFactories env) ↔ ReceiversFailAnyway env p := by
  unfold FailsAnyway ReceiversFailAnyway receiverFactories
  simp only [List.exists_mem_cons_iff, List.not_mem_nil, false_and, exists_false, or_false,
    FileSampleReceiverFactory.builds_iff, JsonExporterSampleReceiverFactory.builds_iff,
    GraphiteSampleReceiverFactory.builds_iff, ConsolePrintSampleReceiverFactory.builds, not_true,
    and_false, false_or]
  exact Iff.rfl

theorem inactiveAccepted_sensors {env : Environment} {p : Properties} {platformIdentifier : Option String} :
    InactiveAccepted p (getActiveSensors p) (sensorFactories env platformIdentifier) ↔
      InactiveSensorsReadable env p := by
  have hstats : Accepts p (SystemStatsSensorFactory.factory platformIdentifier) := ⟨(), rfl⟩
  unfold InactiveAccepted InactiveSensorsReadable sensorFactories
  simp only [List.forall_mem_cons, List.not_mem_nil, false_imp_iff, implies_true, and_true,
    TemperatureHumiditySensorFactory.accepts_iff, HttpXmlSensorFactory.accepts_iff, hstats, true_and]
  exact Iff.rfl

theorem inactiveAccepted_receivers {env : Environment} {p : Properties} :
    InactiveAccepted p (getActiveReceivers p) (receiverFactories env) ↔ InactiveReceiversReadable p := by
  have hconsole : Accepts p ConsolePrintSampleReceiverFactory.factory := ⟨(), rfl⟩
  unfold InactiveAccepted InactiveReceiversReadable receiverFactories
  simp only [List.forall_mem_cons, List.not_mem_nil, false_imp_iff, implies_true, and_true, hconsole,
    FileSampleReceiverFactory.accepts, JsonExporterSampleReceiverFactory.accepts_iff,
    GraphiteSampleReceiverFactory.accepts_iff, true_and]
  exact Iff.rfl

/-! ## The same outcome for two property sets -/

/-- The active sensors can be created, and are `sensors`. -/
def ActiveSensors (env : Environment) (p : Properties) (sensors : List (Sensor (Option String))) : Prop :=
  ActiveBuild p (getActiveSensors p) (sensorFactories env (getSensorPlatformIdentifier p)) sensors

/-- The active receivers can be created, and are `receivers`. -/
def ActiveReceivers (env : Environment) (p : Properties) (receivers : List Receiver) : Prop :=
  ActiveBuild p (getActiveReceivers p) (receiverFactories env) receivers

theorem loadSensors_ok_iff {env : Environment} {p : Properties} {sensors : List (Sensor (Option String))} :
    loadSensors env p = .ok sensors ↔ InactiveSensorsReadable env p ∧ ActiveSensors env p sensors := by
  unfold loadSensors ActiveSensors
  rw [load_ok_iff_activeBuild (by simp [sensorFactories]), inactiveAccepted_sensors]

theorem loadReceivers_ok_iff {env : Environment} {p : Properties} {receivers : List Receiver} :
    loadReceivers env p = .ok receivers ↔ InactiveReceiversReadable p ∧ ActiveReceivers env p receivers := by
  unfold loadReceivers ActiveReceivers
  rw [load_ok_iff_activeBuild (by simp [receiverFactories]), inactiveAccepted_receivers]

theorem loadPlugins_ok_iff {env : Environment} {p : Properties}
    {plugins : List Receiver × List (Sensor (Option String))} :
    loadPlugins env p = .ok plugins ↔ (InactiveReceiversReadable p ∧ InactiveSensorsReadable env p) ∧
      ActiveReceivers env p plugins.1 ∧ ActiveSensors env p plugins.2 := by
  unfold loadPlugins
  simp only [bind_eq_ok, loadReceivers_ok_iff, loadSensors_ok_iff]
  refine ⟨fun ⟨rs, ⟨hir, har⟩, ss, ⟨his, has⟩, h⟩ => ?_, fun ⟨⟨hir, his⟩, har, has⟩ =>
    ⟨_, ⟨hir, har⟩, _, ⟨his, has⟩, rfl⟩⟩
  cases h
  exact ⟨⟨hir, his⟩, har, has⟩

theorem AgreeExceptInactive.sensorKeys {env : Environment} {p p' : Properties} (h : AgreeExceptInactive env p p') :
    ∀ f ∈ sensorFactories env (getSensorPlatformIdentifier p), IsActive (getActiveSensors p) f.getIdentifier →
      ∀ k ∈ f.getConfigurationKeys, p k = p' k :=
  fun f hf hact _ hk => h.of_active (.inl ⟨f, hf, hact, hk⟩)

theorem AgreeExceptInactive.receiverKeys {env : Environment} {p p' : Properties}
    (h : AgreeExceptInactive env p p') :
    ∀ f ∈ receiverFactories env, IsActive (getActiveReceivers p) f.getIdentifier →
      ∀ k ∈ f.getConfigurationKeys, p k = p' k :=
  fun f hf hact _ hk => h.of_active (.inr ⟨f, hf, hact, hk⟩)

theorem AgreeExceptInactive.activeSensors {env : Environment} {p p' : Properties}
    (h : AgreeExceptInactive env p p') (sensors : List (Sensor (Option String))) :
    ActiveSensors env p' sensors ↔ ActiveSensors env p sensors := by
  unfold ActiveSensors
  rw [h.getActiveSensors_eq, h.getSensorPlatformIdentifier_eq]
  exact (activeBuild_congr h.sensorKeys).symm

theorem AgreeExceptInactive.activeReceivers {env : Environment} {p p' : Properties}
    (h : AgreeExceptInactive env p p') (receivers : List Receiver) :
    ActiveReceivers env p' receivers ↔ ActiveReceivers env p receivers := by
  unfold ActiveReceivers
  rw [h.getActiveReceivers_eq]
  exact (activeBuild_congr h.receiverKeys).symm

theorem exists_activeSensors {env : Environment} {p : Properties} :
    (∃ sensors, ActiveSensors env p sensors) ↔ ¬ SensorsFailAnyway env p :=
  exists_activeBuild.trans (not_congr failsAnyway_sensors)

theorem exists_activeReceivers {env : Environment} {p : Properties} :
    (∃ receivers, ActiveReceivers env p receivers) ↔ ¬ ReceiversFailAnyway env p :=
  exists_activeBuild.trans (not_congr failsAnyway_receivers)

/-- **Settings of inactive plugins.** Let two property sets differ in keys of
inactive plugins only. Loading the receivers, loading the sensors, and both
together have the same outcome for both sets exactly when they fail for both
because of what active plugins read, or the settings of the inactive plugins
are readable in both sets, or in neither. -/
theorem inactive_settings_iff {env : Environment} {p p' : Properties} (h : AgreeExceptInactive env p p') :
    (SameOutcome (loadReceivers env p) (loadReceivers env p') ↔
      ReceiversFailAnyway env p ∨ (InactiveReceiversReadable p ↔ InactiveReceiversReadable p')) ∧
    (SameOutcome (loadSensors env p) (loadSensors env p') ↔
      SensorsFailAnyway env p ∨ (InactiveSensorsReadable env p ↔ InactiveSensorsReadable env p')) ∧
    (SameOutcome (loadPlugins env p) (loadPlugins env p') ↔
      (ReceiversFailAnyway env p ∨ SensorsFailAnyway env p) ∨
      (InactiveReceiversReadable p ∧ InactiveSensorsReadable env p ↔
        InactiveReceiversReadable p' ∧ InactiveSensorsReadable env p')) := by
  refine ⟨?_, ?_, ?_⟩
  · have hreadable : InactiveAccepted p' (getActiveReceivers p) (receiverFactories env) ↔
        InactiveReceiversReadable p' := h.getActiveReceivers_eq ▸ inactiveAccepted_receivers
    rw [loadReceivers, loadReceivers, h.getActiveReceivers_eq,
      sameOutcome_load_iff (by simp [receiverFactories]) h.receiverKeys, failsAnyway_receivers,
      inactiveAccepted_receivers, hreadable]
  · have hreadable : InactiveAccepted p' (getActiveSensors p)
        (sensorFactories env (getSensorPlatformIdentifier p)) ↔ InactiveSensorsReadable env p' :=
      h.getActiveSensors_eq ▸ inactiveAccepted_sensors
    rw [loadSensors, loadSensors, h.getActiveSensors_eq, h.getSensorPlatformIdentifier_eq,
      sameOutcome_load_iff (by simp [sensorFactories]) h.sensorKeys, failsAnyway_sensors,
      inactiveAccepted_sensors, hreadable]
  · rw [sameOutcome_iff_of_gates (fun _ => loadPlugins_ok_iff) (fun plugins =>
      loadPlugins_ok_iff.trans (and_congr_right' (and_congr (h.activeReceivers plugins.1)
        (h.activeSensors plugins.2))))]
    simp only [Prod.exists, exists_and_left, exists_and_right, exists_activeReceivers,
      exists_activeSensors, not_and_or, not_not]

/-! ## The configuration as shipped -/

/-- mirrors sensorsamplor.app/src/dist/conf/sensor-samplor.properties:7-75 -/
def shippedItems : List (String × String) :=
  [("sensorsamplor.sensor_platform_identifier", "myRaspberryPi"),
   ("sensorsamplor.active_sensors", "temperature, systemStats"),
   ("sensorsamplor.active_receivers", "console, logfile, json"),
   ("sensorsamplor.receiver_sensor_type_pattern", ".*"),
   ("sensorsamplor.receiver_platform_identifier_pattern", ".*"),
   ("sensorsamplor.measurement_cron_expression", "0 * * * * ?"),
   ("sensorsamplor.bus.name", "SensorSamplorBus"),
   ("sensorsamplor.bus.username", "myUsername"),
   ("sensorsamplor.bus.password", "myPassword"),
   ("sensorsamplor.bus.interfaces", "10.100.10.*, 192.168.1.*, 127.0.0.*"),
   ("sensorsamplor.bus.remote_members", ""),
   ("sensorsamplor.sensor.temperature.gpio_data_pin", "4"),
   ("sensorsamplor.sensor.temperature.correctionValue.temperature", "0"),
   ("sensorsamplor.sensor.temperature.correctionValue.humidity", "0"),
   ("sensorsamplor.receiver.logfile.logging_directory", "/var/log/sensor-samplor/"),
   ("sensorsamplor.receiver.json.output_file", "/var/log/sensor-samplor/export.json"),
   ("sensorsamplor.receiver.json.maximum_entries_per_sensor", "1024"),
   ("sensorsamplor.receiver.graphite.carbon.server.url", ""),
   ("sensorsamplor.receiver.graphite.carbon.server.port", ""),
   ("sensorsamplor.receiver.graphite.carbon.server.username", ""),
   ("sensorsamplor.receiver.graphite.carbon.server.password", ""),
   ("sensorsamplor.sensor.httpxml.source", "")]

def shipped : Properties := fun key => shippedItems.lookup key

/-- The shipped configuration with another source of the HTTP/XML sensor. -/
def shippedWithSource (source : Option String) : Properties := fun key =>
  if key = HttpXmlSensorFactory.SOURCE then source else shipped key

theorem shippedWithSource_activeSensors (source : Option String) :
    getActiveSensors (shippedWithSource source) = some ["temperature", "systemStats"] := rfl

theorem shippedWithSource_activeReceivers (source : Option String) :
    getActiveReceivers (shippedWithSource source) = some ["console", "logfile", "json"] := rfl

theorem shipped_eq : shipped = shippedWithSource (some "") := by
  funext key
  unfold shippedWithSource
  split
  · next h => rw [h]; rfl
  · rfl

/-- No other plugin reads the source of the HTTP/XML sensor. -/
theorem activeKey_source {env : Environment} {p : Properties} :
    ActiveKey env p HttpXmlSensorFactory.SOURCE ↔ IsActive (getActiveSensors p) HttpXmlSensor.IDENTIFIER := by
  unfold ActiveKey sensorFactories receiverFactories
  simp only [List.exists_mem_cons_iff, List.not_mem_nil, false_and, exists_false, or_false]
  refine ⟨fun h => ?_, fun h => .inl (.inr (.inr ⟨h, List.mem_singleton_self _⟩))⟩
  rcases h with (⟨-, h⟩ | ⟨-, h⟩ | ⟨h, -⟩) | ⟨-, h⟩ | ⟨-, h⟩ | ⟨-, h⟩ | ⟨-, h⟩
  · exact absurd h (show HttpXmlSensorFactory.SOURCE ∉ [_, _, _] by decide)
  · exact absurd h List.not_mem_nil
  · exact h
  · exact absurd h List.not_mem_nil
  · exact absurd h (show HttpXmlSensorFactory.SOURCE ∉ [_] by decide)
  · exact absurd h (show HttpXmlSensorFactory.SOURCE ∉ [_, _, _, _] by decide)
  · exact absurd h (show HttpXmlSensorFactory.SOURCE ∉ [_, _, _, _] by decide)

theorem shippedWithSource_agree (source source' : Option String) :
    AgreeExceptInactive linux (shippedWithSource source) (shippedWithSource source') := by
  intro key
  by_cases hkey : key = HttpXmlSensorFactory.SOURCE
  · subst hkey
    have hinactive : ¬ IsActive (getActiveSensors (shippedWithSource source)) HttpXmlSensor.IDENTIFIER := by
      rw [IsActive, shippedWithSource_activeSensors]
      decide
    refine .inr ⟨.inl ⟨HttpXmlSensorFactory.factory linux _, .tail _ (.tail _ (.head _)), hinactive,
      List.mem_singleton_self _⟩, activeKey_source.not.2 hinactive, by decide⟩
  · left
    unfold shippedWithSource
    rw [if_neg hkey, if_neg hkey]

theorem shippedWithSource_receivers (source : Option String) :
    InactiveReceiversReadable (shippedWithSource source) := by
  have hport : shippedWithSource source GraphiteSampleReceiverFactory.GRAPHITE_CARBON_SERVER_PORT = some "" := rfl
  have hjson : IsActive (getActiveReceivers (shippedWithSource source))
      JsonExporterSampleReceiverFactory.IDENTIFIER := by
    rw [IsActive, shippedWithSource_activeReceivers]
    decide
  refine ⟨fun h => absurd hjson h, fun _ value hvalue => ?_⟩
  rw [hport] at hvalue
  exact .inl (Option.some.inj hvalue).symm

theorem shippedWithSource_sensors {source : Option String}
    (h : MissingOr source fun source => ∃ name url xPaths, splitLimit ';' 3 source = [name, url, xPaths] ∧
      linux.malformedURL url = none) : InactiveSensorsReadable linux (shippedWithSource source) := by
  have htemperature : IsActive (getActiveSensors (shippedWithSource source)) Am2302Sensor.IDENTIFIER := by
    rw [IsActive, shippedWithSource_activeSensors]
    decide
  have hsource : shippedWithSource source HttpXmlSensorFactory.SOURCE = source := if_pos rfl
  refine ⟨fun hin => absurd htemperature hin, fun _ => ?_⟩
  rw [HttpXmlSensorFactory.Readable, hsource]
  exact h

/-- With the documented example as its source, or without one, the node starts alike. -/
theorem donutSource_sameOutcome :
    SameOutcome
      (loadPlugins linux (shippedWithSource (some
        "myDonutSensor;http://api.doughnuts.com/location/3;pastries/donuts/total;pastries/donuts/eaten")))
      (loadPlugins linux (shippedWithSource none)) := by
  refine (inactive_settings_iff (shippedWithSource_agree _ _)).2.2.2 (.inr (iff_of_true ?_ ?_))
  · refine ⟨shippedWithSource_receivers _, shippedWithSource_sensors fun source hsource => ?_⟩
    obtain rfl := Option.some.inj hsource
    exact ⟨"myDonutSensor", "http://api.doughnuts.com/location/3",
      "pastries/donuts/total;pastries/donuts/eaten", by decide, by decide⟩
  · refine ⟨shippedWithSource_receivers _, shippedWithSource_sensors fun source hsource => ?_⟩
    cases hsource

/-- The shipped configuration stops the node: its empty source is parsed,
though the sensor is not active. -/
theorem shipped_source_stops_node : AgreeExceptInactive linux shipped (shippedWithSource none) ∧
    ¬ SameOutcome (loadPlugins linux shipped) (loadPlugins linux (shippedWithSource none)) := by
  have hfails : loadPlugins linux shipped = .error .arrayIndexOutOfBoundsException := rfl
  obtain ⟨plugins, hok⟩ : ∃ plugins, loadPlugins linux (shippedWithSource none) = .ok plugins := ⟨_, rfl⟩
  refine ⟨?_, ?_⟩
  · rw [shipped_eq]
    exact shippedWithSource_agree _ _
  · rw [hfails, hok]
    exact id

end SensorSamplor
