import SensorSamplor.L1Data.Sample
import SensorSamplor.L1Data.Throwable
import SensorSamplor.L3Receivers.SampleReceiverManager

/-!
# The log file receiver

Every sample becomes one line, appended to a file named by the sample's
kind, sensor type and date. The file is created when `exists` does not find
it. A file system is the list of the texts appended to each existing file.
-/
namespace SensorSamplor

open SensorSamplor.Core

/-- The platform: `File.separator`, `line.separator`, the names that
`getAbsolutePath` gives, how Joda-Time prints a date, and which directories
exist or can be made by `mkdirs`. -/
structure FileEnvironment where
  separator : String
  LINE_SEPARATOR : String
  getAbsolutePath : String → String
  dateFormatter : DateTime → String
  existsOrMkdirs : String → Bool

/-- mirrors receiver.file/receiver/file/FileSampleReceiver.java:34-36 -/
structure FileSampleReceiver where
  logFilePath : String
  deriving DecidableEq

namespace FileSampleReceiver

def LOG_FILE_PREFIX : String := "sensor.log"

def ERROR_LOG_FILE_PREFIX : String := "error.log"

def PART_DELIMITER : String := "."

/-- mirrors receiver.file/receiver/file/FileSampleReceiver.java:54-60 -/
def checkForTrailingDelimiter (env : FileEnvironment) (logFilePath : String) : String :=
  if env.separator.toList <:+ logFilePath.toList then logFilePath else logFilePath ++ env.separator

/-- mirrors receiver.file/receiver/file/FileSampleReceiver.java:38-52 -/
def new (env : FileEnvironment) (logFilePath : String) : Except Throwable FileSampleReceiver :=
  let logFilePath := checkForTrailingDelimiter env logFilePath
  if env.existsOrMkdirs logFilePath then .ok ⟨logFilePath⟩
  else .error (.runtimeException ("Was not able to create log file path: " ++ logFilePath))

/-- mirrors receiver.file/receiver/file/FileSampleReceiver.java:111-113 -/
def getFileNameFor (env : FileEnvironment) (kind sensorType : String) (date : DateTime) : String :=
  kind ++ PART_DELIMITER ++ sensorType ++ PART_DELIMITER ++ env.dateFormatter date

/-- The prefix of the two entry points.
mirrors receiver.file/receiver/file/FileSampleReceiver.java:72-78 -/
def prefixOf : ReceiverMethod → String
  | .processSample => LOG_FILE_PREFIX
  | .processError => ERROR_LOG_FILE_PREFIX

/-- mirrors receiver.file/receiver/file/FileSampleReceiver.java:95-96 -/
def logFile (env : FileEnvironment) (r : FileSampleReceiver) (method : ReceiverMethod)
    (sample : Sample) : String :=
  r.logFilePath ++ getFileNameFor env (prefixOf method) sample.sensorType sample.timestamp

/-- mirrors receiver.file/receiver/file/FileSampleReceiver.java:107-109 -/
def line (env : FileEnvironment) (F : SampleDateFormatter) (toJSONString : JSONObject Value → String)
    (sample : Sample) : String :=
  sample.toString F toJSONString ++ env.LINE_SEPARATOR

/-- Existing files by path, and what was appended to each. -/
abbrev FileSystem := Dict String (List String)

/-- What was appended to a file; nothing when there is no file. -/
def content (fs : FileSystem) (file : String) : List String := (fs.lookup file).getD []

/-- `logFile.createNewFile()`, with its result. -/
def createNewFile (fs : FileSystem) (file : String) : Bool × FileSystem :=
  if file ∈ fs then (false, fs) else (true, fs.insert file [])

/-- `Files.append(text, file, UTF_8)`. -/
def append (fs : FileSystem) (file text : String) : FileSystem :=
  fs.insert file (content fs file ++ [text])

/-- The exception when a file was not created.
mirrors receiver.file/receiver/file/FileSampleReceiver.java:99-102 -/
def notCreated (env : FileEnvironment) (file : String) : Throwable :=
  .runtimeException ("Was not able to create log file: " ++ env.getAbsolutePath file)

@[simp] theorem content_append_self (fs : FileSystem) (file text : String) :
    content (append fs file text) file = content fs file ++ [text] := by
  simp [content, append]

theorem content_append_ne {fs : FileSystem} {file other : String} (text : String) (h : other ≠ file) :
    content (append fs file text) other = content fs other := by
  simp [content, append, AList.lookup_insert_ne h]

theorem content_insert_nil {fs : FileSystem} {file : String} (h : file ∉ fs) (other : String) :
    content (fs.insert file []) other = content fs other := by
  unfold content
  by_cases ho : other = file
  · subst ho; simp [AList.lookup_eq_none.2 h]
  · rw [AList.lookup_insert_ne ho]

theorem mem_append {fs : FileSystem} {file other text : String} :
    other ∈ append fs file text ↔ other = file ∨ other ∈ fs := AList.mem_insert _

end FileSampleReceiver
end SensorSamplor
