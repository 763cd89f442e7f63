import SensorSamplor.L3Receivers.GraphiteSampleReceiver
import SensorSamplor.L3Receivers.JsonExporterSampleReceiver
import SensorSamplor.L3Receivers.FileSampleReceiver
import SensorSamplor.L3Sensors.SensorInvoker
import SensorSamplor.L4App.Plugins

/-!
# The sensor and receiver factories

The three sensor factories and the four receiver factories: their
configuration keys, what each makes of its settings, and what it creates.
Each parses its values with its own parser, and an exception of the parser
leaves `setConfigurationValues`.

The platform decides which URLs and regular expressions are well formed,
which directories can be made, and whether the sensor's native library can
be loaded (`Environment`). `P` is the type of references to a platform
identifier.
-/
namespace SensorSamplor

open SensorSamplor.Core SensorSamplor.Core.JavaText

structure Environment where
  files : FileEnvironment
  /-- `new URL(spec)`: the text of the `MalformedURLException`, if it throws one -/
  malformedURL : String → Option String
  /-- `Pattern.compile(regex)`; `none` is a `PatternSyntaxException` -/
  compilePattern : String → Option Pattern
  /-- `Native.loadLibrary("PiDht")` finds the library -/
  libraryFound : Bool

/-- A Unix host without the sensor library; texts and URLs as far as the
shipped configuration has them. -/
def linux : Environment where
  files := ⟨"/", "\n", fun file => file, fun _ => "1970-01-01", fun _ => true⟩
  malformedURL url :=
    if "http://".toList <+: url.toList then none
    else some ("java.net.MalformedURLException: no protocol: " ++ url)
  compilePattern regex :=
    if regex = ".*" then some fun text => decide ('\n' ∉ text.toList ∧ '\r' ∉ text.toList) else none
  libraryFound := false

/-! ## Reading a setting -/

/-- `if (configuration.containsKey(key)) field = parse(configuration.get(key))` -/
def ifConfigured {α : Type} (configuration : Configuration) (key : String)
    (parse : String → Except Throwable α) (field : α) : Except Throwable α :=
  match configuration.lookup key with
  | some value => parse value
  | none => .ok field

/-- `Integer.valueOf(value)`. -/
def integerValueOf (value : String) : Except Throwable Int :=
  match parseInt value with
  | some n => .ok n
  | none => .error .numberFormatException

/-- `Double.valueOf(value)`. -/
def doubleValueOf (value : String) : Except Throwable Double :=
  match Double.valueOf value with
  | some d => .ok d
  | none => .error .numberFormatException

/-- A setting that is missing, or `ok`. -/
def MissingOr (setting : Option String) (ok : String → Prop) : Prop := ∀ value, setting = some value → ok value

theorem ifConfigured_ok_iff {α : Type} {configuration : Configuration} {key : String}
    {parse : String → Except Throwable α} {field : α} {ok : String → Prop}
    (hparse : ∀ value, (∃ v, parse value = .ok v) ↔ ok value) :
    (∃ v, ifConfigured configuration key parse field = .ok v) ↔ MissingOr (configuration.lookup key) ok := by
  unfold ifConfigured MissingOr
  cases configuration.lookup key <;> simp [hparse]

theorem integerValueOf_ok_iff (value : String) :
    (∃ n, integerValueOf value = .ok n) ↔ (parseInt value).isSome = true := by
  unfold integerValueOf
  cases parseInt value <;> simp

theorem doubleValueOf_ok_iff (value : String) :
    (∃ d, doubleValueOf value = .ok d) ↔ (Double.valueOf value).isSome = true := by
  unfold doubleValueOf
  cases Double.valueOf value <;> simp

@[simp] theorem ifConfigured_some (configuration : Configuration) (key : String) (field : Option String) :
    ifConfigured configuration key (fun value => .ok (some value)) field =
      .ok ((configuration.lookup key).or field) := by
  unfold ifConfigured
  cases configuration.lookup key <;> rfl

/-! ## Sensors -/

variable {P : Type}

namespace TemperatureHumiditySensorFactory

def GPIO_DATA_PIN : String := "sensorsamplor.sensor.temperature.gpio_data_pin"

def TEMPERATURE_CORRECTION : String := "sensorsamplor.sensor.temperature.correctionValue.temperature"

def HUMIDITY_CORRECTION : String := "sensorsamplor.sensor.temperature.correctionValue.humidity"

structure State where
  gpioPin : Int
  temperatureCorrection : Double
  humidityCorrection : Double

/-- mirrors sensor.temperature/sensor/temperature/TemperatureHumiditySensorFactory.java:33-40 -/
def createSensorFor (env : Environment) (platformIdentifier : P) (f : State) : Sensor P :=
  if env.libraryFound then
    .am2302 (Am2302Sensor.new platformIdentifier f.gpioPin f.temperatureCorrection f.humidityCorrection)
  else .dummyTemperature platformIdentifier

/-- mirrors sensor.temperature/sensor/temperature/TemperatureHumiditySensorFactory.java:56-67 -/
def setConfigurationValues (configuration : Configuration) (f : State) : Except Throwable State := do
  let gpioPin ← ifConfigured configuration GPIO_DATA_PIN integerValueOf f.gpioPin
  let temperatureCorrection ←
    ifConfigured configuration TEMPERATURE_CORRECTION doubleValueOf f.temperatureCorrection
  let humidityCorrection ← ifConfigured configuration HUMIDITY_CORRECTION doubleValueOf f.humidityCorrection
  return ⟨gpioPin, temperatureCorrection, humidityCorrection⟩

/-- mirrors sensor.temperature/sensor/temperature/TemperatureHumiditySensorFactory.java:18-68 -/
def factory (env : Environment) (platformIdentifier : P) : Factory (Sensor P) where
  State := State
  new := ⟨0, .finite 0, .finite 0⟩
  getIdentifier := Am2302Sensor.IDENTIFIER
  getConfigurationKeys := [GPIO_DATA_PIN, TEMPERATURE_CORRECTION, HUMIDITY_CORRECTION]
  setConfigurationValues := setConfigurationValues
  create f := .ok (createSensorFor env platformIdentifier f)

/-- The settings that the factory can read. -/
def Readable (setting : String → Option String) : Prop :=
  MissingOr (setting GPIO_DATA_PIN) (fun value => (parseInt value).isSome = true) ∧
  MissingOr (setting TEMPERATURE_CORRECTION) (fun value => (Double.valueOf value).isSome = true) ∧
  MissingOr (setting HUMIDITY_CORRECTION) (fun value => (Double.valueOf value).isSome = true)

theorem setConfigurationValues_eq_ok {configuration : Configuration} {f f' : State} :
    setConfigurationValues configuration f = .ok f' ↔
      ifConfigured configuration GPIO_DATA_PIN integerValueOf f.gpioPin = .ok f'.gpioPin ∧
      ifConfigured configuration TEMPERATURE_CORRECTION doubleValueOf f.temperatureCorrection =
        .ok f'.temperatureCorrection ∧
      ifConfigured configuration HUMIDITY_CORRECTION doubleValueOf f.humidityCorrection =
        .ok f'.humidityCorrection := by
  unfold setConfigurationValues
  simp only [bind_eq_ok]
  refine ⟨fun ⟨pin, hpin, t, ht, h, hh, heq⟩ => ?_, fun ⟨hpin, ht, hh⟩ => ⟨_, hpin, _, ht, _, hh, rfl⟩⟩
  cases heq
  exact ⟨hpin, ht, hh⟩

theorem readable_iff {configuration : Configuration} {f : State} :
    (∃ f', setConfigurationValues configuration f = .ok f') ↔ Readable configuration.lookup := by
  unfold Readable
  rw [← ifConfigured_ok_iff integerValueOf_ok_iff, ← ifConfigured_ok_iff doubleValueOf_ok_iff,
    ← ifConfigured_ok_iff doubleValueOf_ok_iff]
  simp only [setConfigurationValues_eq_ok]
  exact ⟨fun ⟨f', hpin, ht, hh⟩ => ⟨⟨_, hpin⟩, ⟨_, ht⟩, ⟨_, hh⟩⟩,
    fun ⟨⟨pin, hpin⟩, ⟨t, ht⟩, ⟨h, hh⟩⟩ => ⟨⟨pin, t, h⟩, hpin, ht, hh⟩⟩

theorem accepts_iff {env : Environment} {platformIdentifier : P} {properties : Properties} :
    Accepts properties (factory env platformIdentifier) ↔ Readable properties := by
  refine readable_iff.trans ?_
  simp [Readable, factory, lookup_getConfigurationItemsFor]

theorem builds_iff {env : Environment} {platformIdentifier : P} {properties : Properties} :
    (∃ s, Builds properties (factory env platformIdentifier) s) ↔ Readable properties :=
  (builds_iff_accepts fun _ => ⟨_, rfl⟩).trans accepts_iff

end TemperatureHumiditySensorFactory

namespace SystemStatsSensorFactory

/-- mirrors sensor.systemstats/sensor/systemstats/SystemStatsSensorFactory.java:14-35 -/
def factory (platformIdentifier : P) : Factory (Sensor P) where
  State := Unit
  new := ()
  getIdentifier := Sensor.SYSTEM_STATS_IDENTIFIER
  getConfigurationKeys := []
  setConfigurationValues _ f := .ok f
  create _ := .ok (.systemStats platformIdentifier)

theorem builds (properties : Properties) (platformIdentifier : P) :
    ∃ s, Builds properties (factory platformIdentifier) s := ⟨_, (), rfl, rfl⟩

end SystemStatsSensorFactory

/-- mirrors sensor.httpxml/sensor/httpxml/HttpXmlSensorSource.java:21-31 -/
def HttpXmlSensorSource.new (env : Environment) (name url : String) (xPaths : List String) :
    Except Throwable HttpXmlSensorSource :=
  match env.malformedURL url with
  | some exception => .error (.runtimeException exception)
  | none => .ok ⟨name, url, xPaths⟩

namespace HttpXmlSensorFactory

def SOURCE : String := "sensorsamplor.sensor.httpxml.source"

/-- mirrors sensor.httpxml/sensor/httpxml/HttpXmlSensorFactory.java:46-52 -/
def parseSourceOf (env : Environment) (source : String) : Except Throwable HttpXmlSensorSource :=
  match splitLimit ';' 3 source with
  | [name, url, xPaths] => HttpXmlSensorSource.new env name url (split ';' xPaths)
  | _ => .error .arrayIndexOutOfBoundsException

/-- mirrors sensor.httpxml/sensor/httpxml/HttpXmlSensorFactory.java:35-44; the state is the
field `source`. -/
def setConfigurationValues (env : Environment) (configuration : Configuration)
    (source : Option HttpXmlSensorSource) : Except Throwable (Option HttpXmlSensorSource) :=
  ifConfigured configuration SOURCE (fun value => (parseSourceOf env value).map some) source

/-- mirrors sensor.httpxml/sensor/httpxml/HttpXmlSensorFactory.java:17-58 -/
def factory (env : Environment) (platformIdentifier : P) : Factory (Sensor P) where
  State := Option HttpXmlSensorSource
  new := none
  getIdentifier := HttpXmlSensor.IDENTIFIER
  getConfigurationKeys := [SOURCE]
  setConfigurationValues := setConfigurationValues env
  create source := .ok (.httpXml ⟨platformIdentifier, source⟩)

/-- The settings that the factory can read: no source, or one of three parts
with a URL. -/
def Readable (env : Environment) (setting : String → Option String) : Prop :=
  MissingOr (setting SOURCE) fun source =>
    ∃ name url xPaths, splitLimit ';' 3 source = [name, url, xPaths] ∧ env.malformedURL url = none

theorem parseSourceOf_ok_iff {env : Environment} (source : String) :
    (∃ s, (parseSourceOf env source).map some = .ok s) ↔
      ∃ name url xPaths, splitLimit ';' 3 source = [name, url, xPaths] ∧ env.malformedURL url = none := by
  unfold parseSourceOf
  split
  · next name url xPaths h =>
    rw [h]
    unfold HttpXmlSensorSource.new
    cases hurl : env.malformedURL url with
    | none => exact iff_of_true ⟨_, rfl⟩ ⟨name, url, xPaths, rfl, hurl⟩
    | some exception =>
      refine iff_of_false (fun ⟨_, h⟩ => by cases h) (fun ⟨_, _, _, h, hnone⟩ => ?_)
      cases h
      rw [hurl] at hnone
      cases hnone
  · next hne =>
    exact iff_of_false (fun ⟨_, h⟩ => by cases h) fun ⟨_, _, _, h, _⟩ => hne _ _ _ h

theorem readable_iff {env : Environment} {configuration : Configuration} {source : Option HttpXmlSensorSource} :
    (∃ source', setConfigurationValues env configuration source = .ok source') ↔
      Readable env configuration.lookup :=
  ifConfigured_ok_iff parseSourceOf_ok_iff

theorem accepts_iff {env : Environment} {platformIdentifier : P} {properties : Properties} :
    Accepts properties (factory env platformIdentifier) ↔ Readable env properties := by
  refine readable_iff.trans ?_
  simp [Readable, factory, lookup_getConfigurationItemsFor]

theorem builds_iff {env : Environment} {platformIdentifier : P} {properties : Properties} :
    (∃ s, Builds properties (factory env platformIdentifier) s) ↔ Readable env properties :=
  (builds_iff_accepts fun _ => ⟨_, rfl⟩).trans accepts_iff

end HttpXmlSensorFactory

/-! ## Receivers -/

/-- A receiver object. The JSON exporter's constructor also replaces the
collection that all exporters share. -/
inductive Receiver where
  | console
  | logfile (r : FileSampleReceiver)
  | json (outputFile : Option String) (samplePatternChecker : SamplePatternChecker)
      (sampleCollection : SampleCollection)
  | graphite (r : GraphiteSampleReceiver)

namespace ConsolePrintSampleReceiverFactory

def IDENTIFIER : String := "console"

/-- mirrors receiver.console/receiver/console/ConsolePrintSampleReceiverFactory.java:15-36 -/
def factory : Factory Receiver where
  State := Unit
  new := ()
  getIdentifier := IDENTIFIER
  getConfigurationKeys := []
  setConfigurationValues _ f := .ok f
  create _ := .ok .console

theorem builds (properties : Properties) : ∃ o, Builds properties factory o := ⟨.console, (), rfl, rfl⟩

end ConsolePrintSampleReceiverFactory

namespace FileSampleReceiverFactory

def IDENTIFIER : String := "logfile"

def LOGGING_DIRECTORY : String := "sensorsamplor.receiver.logfile.logging_directory"

/-- mirrors receiver.file/receiver/file/FileSampleReceiverFactory.java:21-24 -/
def createReceiver (env : Environment) : Option String → Except Throwable Receiver
  | none => .error .nullPointerException
  | some logFilePath => (FileSampleReceiver.new env.files logFilePath).map .logfile

/-- mirrors receiver.file/receiver/file/FileSampleReceiverFactory.java:36-41; the state is the
field `logFilePath`. -/
def setConfigurationValues (configuration : Configuration) (logFilePath : Option String) :
    Except Throwable (Option String) :=
  ifConfigured configuration LOGGING_DIRECTORY (fun value => .ok (some value)) logFilePath

/-- mirrors receiver.file/receiver/file/FileSampleReceiverFactory.java:15-42 -/
def factory (env : Environment) : Factory Receiver where
  State := Option String
  new := none
  getIdentifier := IDENTIFIER
  getConfigurationKeys := [LOGGING_DIRECTORY]
  setConfigurationValues := setConfigurationValues
  create := createReceiver env

theorem accepts {env : Environment} (properties : Properties) : Accepts properties (factory env) :=
  ⟨_, ifConfigured_some _ _ _⟩

/-- The directory is configured and exists, or can be made. -/
def Creatable (env : Environment) (setting : String → Option String) : Prop :=
  ∃ path, setting LOGGING_DIRECTORY = some path ∧
    env.files.existsOrMkdirs (FileSampleReceiver.checkForTrailingDelimiter env.files path) = true

theorem createReceiver_ok_iff {env : Environment} {logFilePath : Option String} :
    (∃ r, createReceiver env logFilePath = .ok r) ↔ ∃ path, logFilePath = some path ∧
      env.files.existsOrMkdirs (FileSampleReceiver.checkForTrailingDelimiter env.files path) = true := by
  cases logFilePath with
  | none => simp [createReceiver]
  | some path =>
    simp only [createReceiver, FileSampleReceiver.new, map_eq_ok, Option.some.injEq, exists_eq_left']
    split
    · next h => exact iff_of_true ⟨_, _, rfl, rfl⟩ h
    · next h => exact iff_of_false (fun ⟨_, _, h, _⟩ => by cases h) h

theorem builds_iff {env : Environment} {properties : Properties} :
    (∃ r, Builds properties (factory env) r) ↔ Creatable env properties := by
  have state : setConfigurationValues (getConfigurationItemsFor properties [LOGGING_DIRECTORY]) none =
      .ok (properties LOGGING_DIRECTORY) := by
    simp [setConfigurationValues, lookup_getConfigurationItemsFor]
  show (∃ r, ∃ path, setConfigurationValues (getConfigurationItemsFor properties [LOGGING_DIRECTORY]) none =
    .ok path ∧ createReceiver env path = .ok r) ↔ _
  rw [Creatable, ← createReceiver_ok_iff, state]
  simp only [Except.ok.injEq, exists_eq_left']

end FileSampleReceiverFactory

/-- `Pattern.compile` on a reference that may be null. -/
def compile (env : Environment) : Option String → Except Throwable Pattern
  | none => .error .nullPointerException
  | some regex =>
    match env.compilePattern regex with
    | some pattern => .ok pattern
    | none => .error .patternSyntaxException

/-- mirrors base/sensor/SamplePatternChecker.java:18-25 -/
def SamplePatternChecker.new (env : Environment) (sensorPatternString platformPatternString : Option String) :
    Except Throwable SamplePatternChecker := do
  let sensorPattern ← compile env sensorPatternString
  let platformPattern ← compile env platformPatternString
  return ⟨sensorPattern, platformPattern⟩

namespace JsonExporterSampleReceiverFactory

def IDENTIFIER : String := "json"

def OUTPUT_FILE : String := "sensorsamplor.receiver.json.output_file"

def MAXIMUM_EXPORT_ENTRIES_PER_SENSOR : String := "sensorsamplor.receiver.json.maximum_entries_per_sensor"

def RECEIVER_SENSOR_TYPE_PATTERN : String := "sensorsamplor.receiver_sensor_type_pattern"

def RECEIVER_PLATFORM_IDENTIFIER_PATTERN : String := "sensorsamplor.receiver_platform_identifier_pattern"

structure State where
  outputFile : Option String
  maximumEntriesPerSensor : Int
  sensorPatternString : Option String
  platformPatternString : Option String

/-- mirrors receiver.jsonexporter/receiver/exporter/JsonExporterSampleReceiverFactory.java:27-30,
receiver.jsonexporter/receiver/exporter/JsonExporterSampleReceiver.java:42-52 -/
def createReceiver (env : Environment) (f : State) : Except Throwable Receiver := do
  let samplePatternChecker ← SamplePatternChecker.new env f.sensorPatternString f.platformPatternString
  return .json f.outputFile samplePatternChecker (SampleCollection.new f.maximumEntriesPerSensor)

/-- mirrors receiver.jsonexporter/receiver/exporter/JsonExporterSampleReceiverFactory.java:42-56 -/
def setConfigurationValues (configuration : Configuration) (f : State) : Except Throwable State := do
  let outputFile ← ifConfigured configuration OUTPUT_FILE (fun value => .ok (some value)) f.outputFile
  let maximumEntriesPerSensor ←
    ifConfigured configuration MAXIMUM_EXPORT_ENTRIES_PER_SENSOR integerValueOf f.maximumEntriesPerSensor
  let sensorPatternString ←
    ifConfigured configuration RECEIVER_SENSOR_TYPE_PATTERN (fun value => .ok (some value)) f.sensorPatternString
  let platformPatternString ← ifConfigured configuration RECEIVER_PLATFORM_IDENTIFIER_PATTERN
    (fun value => .ok (some value)) f.platformPatternString
  return ⟨outputFile, maximumEntriesPerSensor, sensorPatternString, platformPatternString⟩

def new : State := ⟨none, 256, none, none⟩

/-- mirrors receiver.jsonexporter/receiver/exporter/JsonExporterSampleReceiverFactory.java:15-62 -/
def factory (env : Environment) : Factory Receiver where
  State := State
  new := new
  getIdentifier := IDENTIFIER
  getConfigurationKeys := [OUTPUT_FILE, MAXIMUM_EXPORT_ENTRIES_PER_SENSOR, RECEIVER_SENSOR_TYPE_PATTERN,
    RECEIVER_PLATFORM_IDENTIFIER_PATTERN]
  setConfigurationValues := setConfigurationValues
  create := createReceiver env

/-- The settings that the factory can read. -/
def Readable (setting : String → Option String) : Prop :=
  MissingOr (setting MAXIMUM_EXPORT_ENTRIES_PER_SENSOR) fun value => (parseInt value).isSome = true

/-- Both patterns are configured, as regular expressions. -/
def Creatable (env : Environment) (setting : String → Option String) : Prop :=
  (∃ regex, setting RECEIVER_SENSOR_TYPE_PATTERN = some regex ∧ (env.compilePattern regex).isSome = true) ∧
  ∃ regex, setting RECEIVER_PLATFORM_IDENTIFIER_PATTERN = some regex ∧
    (env.compilePattern regex).isSome = true

theorem setConfigurationValues_eq_ok {configuration : Configuration} {f : State} :
    setConfigurationValues configuration new = .ok f ↔
      ifConfigured configuration MAXIMUM_EXPORT_ENTRIES_PER_SENSOR integerValueOf 256 =
        .ok f.maximumEntriesPerSensor ∧
      f.outputFile = configuration.lookup OUTPUT_FILE ∧
      f.sensorPatternString = configuration.lookup RECEIVER_SENSOR_TYPE_PATTERN ∧
      f.platformPatternString = configuration.lookup RECEIVER_PLATFORM_IDENTIFIER_PATTERN := by
  unfold setConfigurationValues
  simp only [bind_eq_ok, ifConfigured_some, new, Option.or_none, Except.ok.injEq, exists_eq_left']
  refine ⟨fun ⟨n, hn, heq⟩ => ?_, fun ⟨hn, ho, hs, hp⟩ => ⟨_, hn, ?_⟩⟩
  · cases heq
    exact ⟨hn, rfl, rfl, rfl⟩
  · rw [← ho, ← hs, ← hp]
    rfl

theorem readable_iff {configuration : Configuration} :
    (∃ f, setConfigurationValues configuration new = .ok f) ↔ Readable configuration.lookup := by
  unfold Readable
  rw [← ifConfigured_ok_iff integerValueOf_ok_iff]
  simp only [setConfigurationValues_eq_ok]
  exact ⟨fun ⟨f, hn, _⟩ => ⟨_, hn⟩, fun ⟨n, hn⟩ => ⟨⟨_, n, _, _⟩, hn, rfl, rfl, rfl⟩⟩

theorem accepts_iff {env : Environment} {properties : Properties} :
    Accepts properties (factory env) ↔ Readable properties := by
  refine readable_iff.trans ?_
  simp [Readable, factory, lookup_getConfigurationItemsFor]

theorem compile_ok_iff {env : Environment} {string : Option String} :
    (∃ pattern, compile env string = .ok pattern) ↔
      ∃ regex, string = some regex ∧ (env.compilePattern regex).isSome = true := by
  cases string with
  | none => simp [compile]
  | some regex => cases h : env.compilePattern regex <;> simp [compile, h]

theorem createReceiver_ok_iff {env : Environment} {f : State} :
    (∃ r, createReceiver env f = .ok r) ↔
      (∃ pattern, compile env f.sensorPatternString = .ok pattern) ∧
      ∃ pattern, compile env f.platformPatternString = .ok pattern := by
  unfold createReceiver SamplePatternChecker.new
  simp only [bind_eq_ok]
  exact ⟨fun ⟨_, _, ⟨s, hs, p, hp, _⟩, _⟩ => ⟨⟨s, hs⟩, ⟨p, hp⟩⟩,
    fun ⟨⟨s, hs⟩, ⟨p, hp⟩⟩ => ⟨_, _, ⟨s, hs, p, hp, rfl⟩, rfl⟩⟩

theorem builds_iff {env : Environment} {properties : Properties} :
    (∃ r, Builds properties (factory env) r) ↔ Readable properties ∧ Creatable env properties := by
  have lookup : ∀ k ∈ (factory env).getConfigurationKeys,
      (getConfigurationItemsFor properties (factory env).getConfigurationKeys).lookup k = properties k :=
    fun k hk => by rw [lookup_getConfigurationItemsFor, if_pos hk]
  have hsensor := lookup RECEIVER_SENSOR_TYPE_PATTERN (by simp [factory])
  have hplatform := lookup RECEIVER_PLATFORM_IDENTIFIER_PATTERN (by simp [factory])
  have haccepts : Accepts properties (factory env) ↔ Readable properties := accepts_iff
  rw [← haccepts, Creatable, ← hsensor, ← hplatform, ← compile_ok_iff, ← compile_ok_iff]
  show (∃ r, ∃ f, setConfigurationValues _ new = .ok f ∧ createReceiver env f = .ok r) ↔
    (∃ f, setConfigurationValues _ new = .ok f) ∧ _
  refine ⟨fun ⟨r, f, hf, hr⟩ => ⟨⟨f, hf⟩, ?_⟩, fun ⟨⟨f, hf⟩, hc⟩ => ?_⟩
  · obtain ⟨-, -, hs, hp⟩ := setConfigurationValues_eq_ok.1 hf
    have h := createReceiver_ok_iff.1 ⟨r, hr⟩
    rw [hs, hp] at h
    exact h
  · obtain ⟨-, -, hs, hp⟩ := setConfigurationValues_eq_ok.1 hf
    rw [← hs, ← hp] at hc
    obtain ⟨r, hr⟩ := createReceiver_ok_iff.2 hc
    exact ⟨r, f, hf, hr⟩

end JsonExporterSampleReceiverFactory

namespace GraphiteSampleReceiverFactory

def IDENTIFIER : String := "graphite"

def GRAPHITE_CARBON_SERVER_URL : String := "sensorsamplor.receiver.graphite.carbon.server.url"

def GRAPHITE_CARBON_SERVER_PORT : String := "sensorsamplor.receiver.graphite.carbon.server.port"

def GRAPHITE_CARBON_SERVER_USERNAME : String := "sensorsamplor.receiver.graphite.carbon.server.username"

def GRAPHITE_CARBON_SERVER_PASSWORD : String := "sensorsamplor.receiver.graphite.carbon.server.password"

/-- mirrors receiver.graphite/receiver/graphite/GraphiteSampleReceiverFactory.java:42-56. The
factory's fields are those of the receiver it creates; only the port is left
alone when its text is empty. -/
def setConfigurationValues (configuration : Configuration) (f : GraphiteSampleReceiver) :
    Except Throwable GraphiteSampleReceiver := do
  let carbonServerUrl ←
    ifConfigured configuration GRAPHITE_CARBON_SERVER_URL (fun value => .ok (some value)) f.carbonServerUrl
  let carbonServerPort ← ifConfigured configuration GRAPHITE_CARBON_SERVER_PORT
    (fun value => if value = "" then .ok f.carbonServerPort else integerValueOf value) f.carbonServerPort
  let carbonServerUsername ← ifConfigured configuration GRAPHITE_CARBON_SERVER_USERNAME
    (fun value => .ok (some value)) f.carbonServerUsername
  let carbonServerPassword ← ifConfigured configuration GRAPHITE_CARBON_SERVER_PASSWORD
    (fun value => .ok (some value)) f.carbonServerPassword
  return ⟨carbonServerUrl, carbonServerPort, carbonServerUsername, carbonServerPassword⟩

/-- mirrors receiver.graphite/receiver/graphite/GraphiteSampleReceiverFactory.java:15-62 -/
def factory : Factory Receiver where
  State := GraphiteSampleReceiver
  new := ⟨none, 2003, none, none⟩
  getIdentifier := IDENTIFIER
  getConfigurationKeys := [GRAPHITE_CARBON_SERVER_URL, GRAPHITE_CARBON_SERVER_PORT,
    GRAPHITE_CARBON_SERVER_USERNAME, GRAPHITE_CARBON_SERVER_PASSWORD]
  setConfigurationValues := setConfigurationValues
  create f := .ok (.graphite f)

/-- The settings that the factory can read. -/
def Readable (setting : String → Option String) : Prop :=
  MissingOr (setting GRAPHITE_CARBON_SERVER_PORT) fun value => value = "" ∨ (parseInt value).isSome = true

theorem readable_iff {configuration : Configuration} :
    (∃ f, setConfigurationValues configuration factory.new = .ok f) ↔ Readable configuration.lookup := by
  have port : ∀ value, (∃ n, (if value = "" then .ok 2003 else integerValueOf value) = .ok n) ↔
      value = "" ∨ (parseInt value).isSome = true := by
    intro value
    rw [← integerValueOf_ok_iff]
    by_cases h : value = "" <;> simp [h]
  rw [Readable, ← ifConfigured_ok_iff port]
  unfold setConfigurationValues
  simp only [bind_eq_ok, ifConfigured_some, Except.ok.injEq, exists_eq_left']
  exact ⟨fun ⟨_, n, hn, _⟩ => ⟨n, hn⟩, fun ⟨n, hn⟩ => ⟨_, n, hn, rfl⟩⟩

theorem accepts_iff {properties : Properties} : Accepts properties factory ↔ Readable properties := by
  refine readable_iff.trans ?_
  simp [Readable, factory, lookup_getConfigurationItemsFor]

theorem builds_iff {properties : Properties} :
    (∃ r, Builds properties factory r) ↔ Readable properties :=
  (builds_iff_accepts fun _ => ⟨_, rfl⟩).trans accepts_iff

end GraphiteSampleReceiverFactory

/-! ## The factories of the application -/

/-- mirrors app/SensorSamplor.java:91-94; the platform identifier is that of the sensors to create. -/
def sensorFactories (env : Environment) (platformIdentifier : P) : List (Factory (Sensor P)) :=
  [TemperatureHumiditySensorFactory.factory env platformIdentifier,
   SystemStatsSensorFactory.factory platformIdentifier,
   HttpXmlSensorFactory.factory env platformIdentifier]

/-- mirrors app/SensorSamplor.java:123-127 -/
def receiverFactories (env : Environment) : List (Factory Receiver) :=
  [ConsolePrintSampleReceiverFactory.factory, FileSampleReceiverFactory.factory env,
   JsonExporterSampleReceiverFactory.factory env, GraphiteSampleReceiverFactory.factory]

end SensorSamplor
