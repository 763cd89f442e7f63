import SensorSamplor.L1Data.Sample

/-!
# Dispatching samples to receivers

`processSample` starts one `ReceiverRunner` thread for each entry of the
receiver list when the sample matches the configured patterns; the thread
calls `processError` for an `ErrorSample` and `processSample` for any other
sample. `R` is the type of the receiver objects.
-/
namespace SensorSamplor

variable {R : Type}

/-- mirrors base/receiver/SampleReceiverManager.java:19-34 -/
structure SampleReceiverManager (R : Type) where
  receivers : List R
  samplePatternChecker : SamplePatternChecker

/-- mirrors base/receiver/SampleReceiverManager.java:54-62 -/
structure ReceiverRunner (R : Type) where
  sample : Sample
  receiver : R

inductive ReceiverMethod where
  | processSample
  | processError
  deriving DecidableEq

/-- One call of a receiver: the method and its two arguments. -/
structure ReceiverCall (R : Type) where
  receiver : R
  method : ReceiverMethod
  sampleBuffer : List Sample
  sample : Sample

/-- The threads started for a sample.
mirrors base/receiver/SampleReceiverManager.java:46-52 -/
def SampleReceiverManager.processSample (mgr : SampleReceiverManager R) (sample : Sample) :
    List (ReceiverRunner R) :=
  if mgr.samplePatternChecker.matches sample then
    mgr.receivers.map fun receiver => ⟨sample, receiver⟩
  else []

/-- mirrors base/receiver/SampleReceiverManager.java:69-79 -/
def ReceiverRunner.invokeSampleReceiver (sampleBuffer : List Sample) (runner : ReceiverRunner R) :
    ReceiverCall R :=
  if runner.sample.isError then ⟨runner.receiver, .processError, sampleBuffer, runner.sample⟩
  else ⟨runner.receiver, .processSample, sampleBuffer, runner.sample⟩

@[simp] theorem invokeSampleReceiver_receiver (b : List Sample) (r : ReceiverRunner R) :
    (r.invokeSampleReceiver b).receiver = r.receiver := by
  unfold ReceiverRunner.invokeSampleReceiver; split <;> rfl

@[simp] theorem invokeSampleReceiver_sample (b : List Sample) (r : ReceiverRunner R) :
    (r.invokeSampleReceiver b).sample = r.sample := by
  unfold ReceiverRunner.invokeSampleReceiver; split <;> rfl

theorem invokeSampleReceiver_method (b : List Sample) (r : ReceiverRunner R) :
    (r.invokeSampleReceiver b).method = .processSample ↔ r.sample.isError = false := by
  unfold ReceiverRunner.invokeSampleReceiver
  cases r.sample.isError with
  | true => exact iff_of_false ReceiverMethod.noConfusion Bool.noConfusion
  | false => exact iff_of_true rfl rfl

@[simp] theorem invokeSampleReceiver_sampleBuffer (b : List Sample) (r : ReceiverRunner R) :
    (r.invokeSampleReceiver b).sampleBuffer = b := by
  unfold ReceiverRunner.invokeSampleReceiver
  split <;> rfl

variable [DecidableEq R]

/-- How many of a sample's threads call `r`: one for each time `r` stands in
the receiver list, if the sample matches. -/
def SampleReceiverManager.due (mgr : SampleReceiverManager R) (r : R) (x : Sample) : Nat :=
  if mgr.samplePatternChecker.matches x then mgr.receivers.count r else 0

theorem countP_processSample (mgr : SampleReceiverManager R) (r : R) (x s : Sample) :
    (mgr.processSample s).countP (fun t => decide (t.receiver = r ∧ t.sample = x)) =
      if s = x then mgr.due r x else 0 := by
  unfold SampleReceiverManager.processSample SampleReceiverManager.due
  by_cases hs : s = x
  · subst hs
    split
    · rw [if_pos rfl, List.countP_map, List.count]
      exact List.countP_congr (by simp)
    · simp
  · split <;> simp [List.countP_map, hs, Function.comp_def]

end SensorSamplor
