import SensorSamplor.Core.Threads
import SensorSamplor.L2Bus.DistributedMap
import SensorSamplor.L3Receivers.SampleReceiverManager

/-!
# From `send` to the receivers, in any order of steps

One node: `send` starts a `SampleSender` thread, whose one step is
`DistributedMap.put`; the put raises an event, whose handling starts the
receiver threads of `SampleReceiverManager`, each of which makes one
receiver call. Nothing orders these steps: any pending sender, event or
receiver thread may be next (`step`).

Assumed of Hazelcast: a put of an absent key raises one `entryAdded` event
and a put of a present key one `entryUpdated` event, each with the sample
put. `put` does not throw.

The places a sample can be in (waiting senders, undelivered events, waiting
receiver threads, calls made) are counted in `Balanced`: what was called
and what is still owed adds up to what was sent, at every step. From it,
`delivered_once`: no receiver is called twice for a sample or for a sample
that does not match, and when no step is pending every receiver has been
called for every matching sample.
-/
namespace SensorSamplor

open SensorSamplor.Core

/-- What Hazelcast calls the entry listener with. -/
inductive EntryEvent where
  | entryAdded (value : Sample)
  | entryUpdated (value : Sample)
  deriving DecidableEq

def EntryEvent.value : EntryEvent → Sample
  | .entryAdded v => v
  | .entryUpdated v => v

/-- The event a put of `t` raises. -/
def EntryEvent.ofPut (m : DistributedMap) (t : Sample) : EntryEvent :=
  if createKeyOf t ∈ m.map then .entryUpdated t else .entryAdded t

@[simp] theorem EntryEvent.value_ofPut (m : DistributedMap) (t : Sample) :
    (EntryEvent.ofPut m t).value = t := by
  unfold EntryEvent.ofPut; split <;> rfl

/-- mirrors base/bus/HazelcastSensorBus.java:146-151 -/
def entryAdded {α : Type} (sampleAdded : Sample → α) (value : Sample) : α := sampleAdded value

/-- mirrors base/bus/HazelcastSensorBus.java:153-156 -/
def entryUpdated {α : Type} (sampleAdded : Sample → α) (value : Sample) : α :=
  entryAdded sampleAdded value

/-- The registered listener on an event.
mirrors base/bus/HazelcastSensorBus.java:118-128,142-156 -/
def EntryEvent.handle {α : Type} (sampleAdded : Sample → α) : EntryEvent → α
  | .entryAdded v => SensorSamplor.entryAdded sampleAdded v
  | .entryUpdated v => SensorSamplor.entryUpdated sampleAdded v

theorem EntryEvent.handle_eq {α : Type} (f : Sample → α) (e : EntryEvent) : e.handle f = f e.value := by
  cases e <;> rfl

namespace Delivery

variable {R : Type}

structure State (R : Type) where
  distributedMap : DistributedMap
  /-- started `SampleSender` threads that have not put their sample yet -/
  senders : List Sample
  /-- raised events that no listener has handled yet -/
  events : List EntryEvent
  /-- started `ReceiverRunner` threads that have not called their receiver yet -/
  runners : List (ReceiverRunner R)
  calls : List (ReceiverCall R)
  /-- ghost: the arguments of `send`, in order -/
  sent : List Sample
  /-- ghost: the samples put, in order -/
  puts : List Sample

def init (m : DistributedMap) : State R := ⟨m, [], [], [], [], [], []⟩

inductive Step where
  | send (sample : Sample)
  | put (i : Nat)
  | event (i : Nat)
  | receive (i : Nat)
  deriving DecidableEq

/-- mirrors base/bus/HazelcastSensorBus.java:92-116 (`send`, `put`), 118-156
(`event`), base/receiver/SampleReceiverManager.java:36-80 (`event`, `receive`) -/
def step (mgr : SampleReceiverManager R) (st : State R) : Step → Option (State R)
  | .send s => some { st with senders := st.senders ++ [s], sent := st.sent ++ [s] }
  | .put i => (takeAt st.senders i).map fun (s, rest) =>
      { st with senders := rest, distributedMap := st.distributedMap.put s,
                events := st.events ++ [.ofPut st.distributedMap s], puts := st.puts ++ [s] }
  | .event i => (takeAt st.events i).map fun (e, rest) =>
      { st with events := rest, runners := st.runners ++ e.handle mgr.processSample }
  | .receive i => (takeAt st.runners i).map fun (r, rest) =>
      { st with runners := rest,
                calls := st.calls ++ [r.invokeSampleReceiver st.distributedMap.getCurrentEntries] }

def lts (mgr : SampleReceiverManager R) (m : DistributedMap) : LTS (State R) Step :=
  LTS.ofFn (· = init m) (step mgr)

/-- No step is pending: only `send` can be next. -/
def State.Idle (mgr : SampleReceiverManager R) (st : State R) : Prop :=
  ∀ l st', step mgr st l = some st' → ∃ s, l = .send s

/-- What one step changes, whatever the listener and the receivers are. -/
theorem step_cases {mgr : SampleReceiverManager R} {st st' : State R} {l : Step}
    (h : step mgr st l = some st') :
    (∃ s, l = .send s ∧ st' = { st with senders := st.senders ++ [s], sent := st.sent ++ [s] }) ∨
    (∃ i s rest, l = .put i ∧ takeAt st.senders i = some (s, rest) ∧ st' =
      { st with senders := rest, distributedMap := st.distributedMap.put s,
                events := st.events ++ [.ofPut st.distributedMap s], puts := st.puts ++ [s] }) ∨
    (∃ i e rest, l = .event i ∧ takeAt st.events i = some (e, rest) ∧ st' =
      { st with events := rest, runners := st.runners ++ mgr.processSample e.value }) ∨
    (∃ i r rest, l = .receive i ∧ takeAt st.runners i = some (r, rest) ∧ st' =
      { st with runners := rest,
                calls := st.calls ++ [r.invokeSampleReceiver st.distributedMap.getCurrentEntries] }) := by
  cases l with
  | send s => simp only [step, Option.some.injEq] at h; exact .inl ⟨s, rfl, h.symm⟩
  | put i =>
    simp only [step, Option.map_eq_some_iff, Prod.exists] at h
    obtain ⟨s, rest, ht, rfl⟩ := h
    exact .inr (.inl ⟨i, s, rest, rfl, ht, rfl⟩)
  | event i =>
    simp only [step, Option.map_eq_some_iff, Prod.exists, EntryEvent.handle_eq] at h
    obtain ⟨e, rest, ht, rfl⟩ := h
    exact .inr (.inr (.inl ⟨i, e, rest, rfl, ht, rfl⟩))
  | receive i =>
    simp only [step, Option.map_eq_some_iff, Prod.exists] at h
    obtain ⟨r, rest, ht, rfl⟩ := h
    exact .inr (.inr (.inr ⟨i, r, rest, rfl, ht, rfl⟩))

theorem idle_iff {mgr : SampleReceiverManager R} {st : State R} :
    st.Idle mgr ↔ st.senders = [] ∧ st.events = [] ∧ st.runners = [] := by
  refine ⟨fun h => ?_, fun h l st' hs => ?_⟩
  · have stuck : ∀ l, (∀ s, l ≠ Step.send s) → step mgr st l = none := by
      intro l hl
      cases hs : step mgr st l with
      | none => rfl
      | some st' => obtain ⟨s, rfl⟩ := h l st' hs; exact absurd rfl (hl s)
    have hp := stuck (.put 0) fun _ => Step.noConfusion
    have he := stuck (.event 0) fun _ => Step.noConfusion
    have hr := stuck (.receive 0) fun _ => Step.noConfusion
    simp only [step, Option.map_eq_none_iff, takeAt_zero_eq_none] at hp he hr
    exact ⟨hp, he, hr⟩
  · obtain ⟨h₁, h₂, h₃⟩ := h
    obtain ⟨s, rfl, -⟩ | ⟨i, s, rest, rfl, ht, -⟩ | ⟨i, e, rest, rfl, ht, -⟩ | ⟨i, r, rest, rfl, ht, -⟩ :=
      step_cases hs
    · exact ⟨s, rfl⟩
    · rw [h₁] at ht; cases ht
    · rw [h₂] at ht; cases ht
    · rw [h₃] at ht; cases ht

/-! ## Counting -/

variable [DecidableEq R]

/-- Calls of receiver `r` made for sample `x`. -/
def State.called (st : State R) (r : R) (x : Sample) : Nat :=
  st.calls.countP fun c => decide (c.receiver = r ∧ c.sample = x)

/-- Receiver threads waiting to call `r` for `x`. -/
def State.waiting (st : State R) (r : R) (x : Sample) : Nat :=
  st.runners.countP fun t => decide (t.receiver = r ∧ t.sample = x)

/-- Senders and events that still carry `x`. -/
def State.carried (st : State R) (x : Sample) : Nat :=
  st.senders.countP (fun s => decide (s = x)) + st.events.countP (fun e => decide (e.value = x))

/-- The calls made and the calls still owed are the calls due for what was sent. -/
def Balanced (mgr : SampleReceiverManager R) (st : State R) : Prop :=
  ∀ r x, st.called r x + st.waiting r x + st.carried x * mgr.due r x =
    st.sent.countP (fun s => decide (s = x)) * mgr.due r x

theorem balanced_step {mgr : SampleReceiverManager R} {st st' : State R} {l : Step}
    (hb : Balanced mgr st) (h : step mgr st l = some st') : Balanced mgr st' := by
  intro r x
  have hrx := hb r x
  obtain ⟨s, -, rfl⟩ | ⟨i, s, rest, -, ht, rfl⟩ | ⟨i, e, rest, -, ht, rfl⟩ | ⟨i, t, rest, -, ht, rfl⟩ :=
    step_cases h
  · simp only [State.called, State.waiting, State.carried, List.countP_append,
      List.countP_singleton, Nat.add_mul] at hrx ⊢
    omega
  · have hc := countP_takeAt (fun s => decide (s = x)) ht
    have hcarried : State.carried { st with
        senders := rest, distributedMap := st.distributedMap.put s,
        events := st.events ++ [.ofPut st.distributedMap s], puts := st.puts ++ [s] } x =
        st.carried x := by
      simp only [State.carried, List.countP_append, List.countP_singleton, EntryEvent.value_ofPut, hc]
      omega
    rw [hcarried]
    exact hrx
  · have hc := countP_takeAt (fun e => decide (e.value = x)) ht
    have hn := countP_processSample mgr r x e.value
    simp only [State.called, State.waiting, State.carried, List.countP_append, hc, hn,
      decide_eq_true_eq, Nat.add_mul] at hrx ⊢
    by_cases hx : e.value = x
    · simp only [hx, if_true] at hrx ⊢; omega
    · simp only [hx, if_false] at hrx ⊢; omega
  · have hc := countP_takeAt (fun t => decide (t.receiver = r ∧ t.sample = x)) ht
    simp only [State.called, State.waiting, State.carried, List.countP_append, List.countP_singleton,
      invokeSampleReceiver_receiver, invokeSampleReceiver_sample, hc] at hrx ⊢
    omega

theorem balanced_inductive (mgr : SampleReceiverManager R) (m : DistributedMap) :
    (lts mgr m).Inductive (Balanced mgr) where
  init := by
    rintro st rfl r x
    simp [State.called, State.waiting, State.carried, init]
  step := fun _ _ _ hb h => balanced_step hb h

/-! ## Exactly once -/

/-- Every sent sample that matches both patterns is processed once by every
receiver, and no other sample is: by an object that stands in the receiver
list `n` times `n` times, so once where the objects are distinct. -/
structure DeliveredOnce (mgr : SampleReceiverManager R) (st : State R) : Prop where
  atMost : ∀ x ∈ st.sent, ∀ r, st.called r x ≤ mgr.receivers.count r
  onlyMatching : ∀ x, mgr.samplePatternChecker.matches x = false → ∀ r, st.called r x = 0
  whenIdle : st.Idle mgr → ∀ x ∈ st.sent, mgr.samplePatternChecker.matches x = true →
    ∀ r, st.called r x = mgr.receivers.count r
  distinct : mgr.receivers.Nodup → ∀ x ∈ st.sent, ∀ r ∈ mgr.receivers, st.called r x ≤ 1 ∧
    (st.Idle mgr → mgr.samplePatternChecker.matches x = true → st.called r x = 1)

theorem countP_sent {sent : List Sample} (hd : (sent.map (·.id)).Nodup) {x : Sample} (hx : x ∈ sent) :
    sent.countP (fun s => decide (s = x)) = 1 := by
  have := List.count_eq_one_of_mem (hd.of_map _) hx
  rw [List.count] at this
  rw [← this]
  exact List.countP_congr (by simp)

theorem deliveredOnce_of_balanced {mgr : SampleReceiverManager R} {st : State R}
    (hb : Balanced mgr st) (hd : (st.sent.map (·.id)).Nodup) : DeliveredOnce mgr st := by
  have le : ∀ x ∈ st.sent, ∀ r, st.called r x ≤ mgr.receivers.count r := by
    intro x hx r
    have := hb r x
    rw [countP_sent hd hx, Nat.one_mul] at this
    have hdue : mgr.due r x ≤ mgr.receivers.count r := by
      unfold SampleReceiverManager.due; split <;> omega
    omega
  have eq : st.Idle mgr → ∀ x ∈ st.sent, mgr.samplePatternChecker.matches x = true →
      ∀ r, st.called r x = mgr.receivers.count r := by
    intro hi x hx hm r
    obtain ⟨h₁, h₂, h₃⟩ := idle_iff.1 hi
    have := hb r x
    rw [countP_sent hd hx] at this
    simpa [State.waiting, State.carried, h₁, h₂, h₃, SampleReceiverManager.due, hm] using this
  refine ⟨le, ?_, eq, ?_⟩
  · intro x hx r
    have := hb r x
    simp only [SampleReceiverManager.due, hx, Bool.false_eq_true, if_false, Nat.mul_zero] at this
    omega
  · intro hn x hx r hr
    have h₁ := List.count_eq_one_of_mem hn hr
    exact ⟨h₁ ▸ le x hx r, fun hi hm => h₁ ▸ eq hi x hx hm r⟩

/-- **Exactly once.** In every reachable state, for any receivers, patterns
and initial map contents. -/
theorem delivered_once (mgr : SampleReceiverManager R) (m : DistributedMap) (st : State R)
    (hr : (lts mgr m).Reachable st) (hd : (st.sent.map (·.id)).Nodup) : DeliveredOnce mgr st :=
  deliveredOnce_of_balanced ((balanced_inductive mgr m).reachable st hr) hd

/-- Two samples under one key, the later one put first, to two receivers
that take every sample. -/
def crossedPuts : List Step :=
  [.send (.transferSample ⟨0, 1⟩ ⟨0, "UTC"⟩ "node" "temperature"),
   .send (.transferSample ⟨0, 2⟩ ⟨1, "UTC"⟩ "node" "temperature"),
   .put 1, .put 0, .event 1, .event 0, .receive 3, .receive 0, .receive 0, .receive 0]

def bothReceivers : SampleReceiverManager Bool := ⟨[true, false], ⟨fun _ => true, fun _ => true⟩⟩

theorem crossedPuts_delivered_once : ∃ st, (lts bothReceivers .empty).Run (init .empty) crossedPuts st ∧
    st.Idle bothReceivers ∧ DeliveredOnce bothReceivers st :=
  have run : (lts bothReceivers .empty).Run (init .empty) crossedPuts _ := LTS.run_of_exec rfl
  ⟨_, run, idle_iff.2 ⟨rfl, rfl, rfl⟩,
    delivered_once bothReceivers .empty _ ⟨_, _, rfl, run⟩ (by decide)⟩

end Delivery
end SensorSamplor
