/-!
# Exceptions

The Java exceptions that the modelled code throws, with their messages
where the code sets them or hands them on. A message may be null.
-/
namespace SensorSamplor

inductive Throwable where
  | nullPointerException
  | arrayIndexOutOfBoundsException
  | numberFormatException
  | patternSyntaxException
  | runtimeException (message : String)
  /-- base/sensor/SensorException.java:3-22 -/
  | sensorException (platformIdentifier sensorType : String) (message : Option String)
  deriving DecidableEq

end SensorSamplor
