import SensorSamplor.L5Concurrency.Exporter

/-!
# The monitors of the JSON exporter

The calls of `Exporter` in the steps of the code. Two monitors order them:
that of the receiver, which the import of the buffer and the conditional
export hold from end to end, and that of its collection, which `addSample`
and `toJSON` hold and which is taken inside the other one or alone. Between
two steps of a thread any other thread may run, samples are added while the
file is written, and time passes.

`live`: at most one thread is inside each monitor, no interleaving of any
calls gets stuck, and every one ends. That the steps of `Exporter` say what
these interleavings can do is `MonitorsRefine`.

The receiver is entered again by methods it calls on itself; a thread that
holds the monitor passes. Inside a method of the collection nothing can be
seen from outside, so it takes effect in the step that leaves it.
-/
namespace SensorSamplor.Monitors

open SensorSamplor.Core JsonExporterSampleReceiver Exporter

/-- Where a thread is in `processSample`. `since` is the time that the check
of the clock read, `shown` the collection that `toJSON` printed. -/
inductive PC where
  | entering
  | checkingFirstRun
  | importing (rest : List Sample)
  | adding
  | awaiting
  | checkingTime
  | exporting (since : Int)
  | writing (since : Int) (shown : SampleCollection) (json : String)
  | stamping (since : Int) (shown : SampleCollection)
  | returned

/-- `entered`: inside a method of the collection. -/
structure Thread where
  call : Call
  pc : PC
  entered : Bool

/-- The state of `Exporter`, and which thread holds which monitor. -/
structure Shared where
  state : Exporter.Shared
  receiverMonitor : Option Nat
  collectionMonitor : Option Nat

/-- How `Files.write` ends; when it fails it leaves any file or none. -/
inductive FileWrite where
  | success
  | failure (file : Option String)

structure Env where
  elapsed : Nat
  write : FileWrite

def Shared.tick (g : Shared) (elapsed : Nat) : Shared := { g with state := g.state.tick elapsed }

/-- A thread waits for a monitor until it is free. -/
def Shared.enterReceiver (g : Shared) (i : Nat) : Option Shared :=
  if g.receiverMonitor = none then some { g with receiverMonitor := some i } else none

def Shared.leaveReceiver (g : Shared) : Shared := { g with receiverMonitor := none }

/-- A method of the collection: it is entered, and then takes effect. -/
def inCollection (i : Nat) (g : Shared) (t : Thread) (run : Option (Shared × Thread)) :
    Option (Shared × Thread) :=
  if t.entered then run.map fun next =>
    ({ next.1 with collectionMonitor := none }, { next.2 with entered := false })
  else if g.collectionMonitor = none then some ({ g with collectionMonitor := some i }, { t with entered := true })
  else none

def Shared.withState (g : Shared) (state : Exporter.Shared) : Shared := { g with state := state }

def Shared.withCollection (g : Shared) (c : SampleCollection) : Shared :=
  g.withState { g.state with statics := { g.state.statics with sampleCollection := c } }

def Shared.withAdded (g : Shared) (sample : Sample) : Shared :=
  g.withState { g.state with added := g.state.added ++ [sample] }

section
variable (r : JsonExporterSampleReceiver) (F : SampleDateFormatter)
  (toJSONString : JSONObject (JSONObject (JSONObject (JSONArray (JSONObject Value)))) → String)

/-- The filter is evaluated outside the collection; `next` is what follows.
mirrors receiver.jsonexporter/receiver/exporter/JsonExporterSampleReceiver.java:71-77 -/
def addToCollection (i : Nat) (g : Shared) (t : Thread) (sample : Sample) (next : Shared → Shared × Thread) :
    Option (Shared × Thread) :=
  if r.accepts sample then
    inCollection i g t <| match g.state.statics.sampleCollection.addSample sample with
      | .error _ => none
      | .ok c => some (next (g.withCollection c))
  else some (next g)

/-- mirrors receiver.jsonexporter/receiver/exporter/JsonExporterSampleReceiver.java:54-121 -/
def body (i : Nat) (g : Shared) (t : Thread) (env : Env) : Option (Shared × Thread) :=
  let g := g.tick env.elapsed
  match t.pc with
  | .entering => (g.enterReceiver i).map fun g => (g, { t with pc := .checkingFirstRun })
  | .checkingFirstRun =>
    if g.state.statics.firstRun then some (g, { t with pc := .importing t.call.sampleBuffer })
    else some (g.leaveReceiver, { t with pc := .adding })
  | .importing (s :: rest) => addToCollection r i g t s fun g => (g, { t with pc := .importing rest })
  | .importing [] =>
    let state := { g.state with
      statics := { g.state.statics with firstRun := false }, imported := g.state.imported ++ [i] }
    some ((g.withState state).leaveReceiver, { t with pc := .adding })
  | .adding => addToCollection r i g t t.call.sample fun g =>
      (g.withAdded t.call.sample, { t with pc := .awaiting })
  | .awaiting => (g.enterReceiver i).map fun g => (g, { t with pc := .checkingTime })
  | .checkingTime =>
    if enoughTimeHasPassed g.state.statics g.state.world then
      some (g, { t with pc := .exporting g.state.world.now })
    else some (g.leaveReceiver, { t with pc := .returned })
  | .exporting since =>
    let shown := g.state.statics.sampleCollection
    inCollection i g t (some (g, { t with pc := .writing since shown (shown.toJSON F toJSONString) }))
  | .writing since shown json =>
    match env.write with
    | .success =>
      let world := { g.state.world with file := some json }
      some (g.withState { g.state with world := world }, { t with pc := .stamping since shown })
    | .failure file =>
      let world := { g.state.world with file := file }
      some ((g.withState { g.state with world := world }).leaveReceiver, { t with pc := .returned })
  | .stamping _ shown =>
    let state := { g.state with
      statics := { g.state.statics with lastExport := g.state.world.now },
      exported := g.state.exported ++ [shown] }
    some ((g.withState state).leaveReceiver, { t with pc := .returned })
  | .returned => none

/-- A new receiver with the limit `n` and one started thread for each call. -/
def init (n : Int) (calls : List Call) (st : Pool Shared Thread) : Prop :=
  st.threads = calls.map (⟨·, .entering, false⟩) ∧ st.shared.receiverMonitor = none ∧
    st.shared.collectionMonitor = none ∧ st.shared.state.statics.firstRun = true ∧
    st.shared.state.statics.sampleCollection = .new n ∧ st.shared.state.imported = [] ∧
    st.shared.state.added = [] ∧ st.shared.state.exported = []

def lts (n : Int) (calls : List Call) : LTS (Pool Shared Thread) (Nat × Env) :=
  Pool.interleave (init n calls) (body r F toJSONString)

end

variable {r : JsonExporterSampleReceiver} {F : SampleDateFormatter}
  {toJSONString : JSONObject (JSONObject (JSONObject (JSONArray (JSONObject Value)))) → String} {n : Int}
  {calls : List Call}

/-! ## One step -/

/-- The thread is at a call of a method of the collection. -/
def Thread.atCall (r : JsonExporterSampleReceiver) (t : Thread) : Bool :=
  match t.pc with
  | .importing (s :: _) => r.accepts s
  | .adding => r.accepts t.call.sample
  | .exporting _ => true
  | _ => false

/-- Back from the collection, if the thread was in it. -/
def Shared.back (g : Shared) (t : Thread) : Shared :=
  if t.entered then { g with collectionMonitor := none } else g

@[simp] theorem Shared.back_state (g : Shared) (t : Thread) : (g.back t).state = g.state := by
  unfold Shared.back; split <;> rfl

@[simp] theorem Shared.back_receiverMonitor (g : Shared) (t : Thread) :
    (g.back t).receiverMonitor = g.receiverMonitor := by
  unfold Shared.back; split <;> rfl

/-- The steps of a call, by its place in the method. -/
inductive CallStep (r : JsonExporterSampleReceiver) (F : SampleDateFormatter)
    (toJSONString : JSONObject (JSONObject (JSONObject (JSONArray (JSONObject Value)))) → String) (i : Nat)
    (g : Shared) (t : Thread) : Shared → Thread → Prop
  | enter (hpc : t.pc = .entering) (hfree : g.receiverMonitor = none) :
      CallStep r F toJSONString i g t { g with receiverMonitor := some i } { t with pc := .checkingFirstRun }
  | firstRun (hpc : t.pc = .checkingFirstRun) (hfirst : g.state.statics.firstRun = true) :
      CallStep r F toJSONString i g t g { t with pc := .importing t.call.sampleBuffer }
  | laterRun (hpc : t.pc = .checkingFirstRun) (hfirst : g.state.statics.firstRun = false) :
      CallStep r F toJSONString i g t g.leaveReceiver { t with pc := .adding }
  | enterCollection (hcalls : t.atCall r = true) (hout : t.entered = false) (hfree : g.collectionMonitor = none) :
      CallStep r F toJSONString i g t { g with collectionMonitor := some i } { t with entered := true }
  | importOne (s : Sample) (rest : List Sample) (c : SampleCollection) (hpc : t.pc = .importing (s :: rest))
      (hentered : t.entered = true ∨ r.accepts s = false)
      (hadd : r.addToCollection g.state.statics.sampleCollection s = .ok c) :
      CallStep r F toJSONString i g t ((g.withCollection c).back t)
        { t with pc := .importing rest, entered := false }
  | imported (hpc : t.pc = .importing []) :
      CallStep r F toJSONString i g t
        (g.withState { g.state with
          statics := { g.state.statics with firstRun := false },
          imported := g.state.imported ++ [i] }).leaveReceiver
        { t with pc := .adding }
  | add (c : SampleCollection) (hpc : t.pc = .adding)
      (hentered : t.entered = true ∨ r.accepts t.call.sample = false)
      (hadd : r.addToCollection g.state.statics.sampleCollection t.call.sample = .ok c) :
      CallStep r F toJSONString i g t (((g.withCollection c).withAdded t.call.sample).back t)
        { t with pc := .awaiting, entered := false }
  | await (hpc : t.pc = .awaiting) (hfree : g.receiverMonitor = none) :
      CallStep r F toJSONString i g t { g with receiverMonitor := some i } { t with pc := .checkingTime }
  | notYet (hpc : t.pc = .checkingTime) (htime : enoughTimeHasPassed g.state.statics g.state.world = false) :
      CallStep r F toJSONString i g t g.leaveReceiver { t with pc := .returned }
  | due (hpc : t.pc = .checkingTime) (htime : enoughTimeHasPassed g.state.statics g.state.world = true) :
      CallStep r F toJSONString i g t g { t with pc := .exporting g.state.world.now }
  | print (since : Int) (hpc : t.pc = .exporting since) (hentered : t.entered = true) :
      CallStep r F toJSONString i g t { g with collectionMonitor := none }
        { t with
          pc := .writing since g.state.statics.sampleCollection
            (g.state.statics.sampleCollection.toJSON F toJSONString),
          entered := false }
  | written (since : Int) (shown : SampleCollection) (json : String) (hpc : t.pc = .writing since shown json) :
      CallStep r F toJSONString i g t
        (g.withState { g.state with world := { g.state.world with file := some json } })
        { t with pc := .stamping since shown }
  | notWritten (since : Int) (shown : SampleCollection) (json : String) (file : Option String)
      (hpc : t.pc = .writing since shown json) :
      CallStep r F toJSONString i g t
        (g.withState { g.state with world := { g.state.world with file := file } }).leaveReceiver
        { t with pc := .returned }
  | stamp (since : Int) (shown : SampleCollection) (hpc : t.pc = .stamping since shown) :
      CallStep r F toJSONString i g t
        (g.withState { g.state with
          statics := { g.state.statics with lastExport := g.state.world.now },
          exported := g.state.exported ++ [shown] }).leaveReceiver
        { t with pc := .returned }

theorem inCollection_cases {i : Nat} {g g' : Shared} {t t' : Thread} {run : Option (Shared × Thread)}
    (h : inCollection i g t run = some (g', t')) :
    (t.entered = true ∧ ∃ g₁ t₁, run = some (g₁, t₁) ∧ g' = { g₁ with collectionMonitor := none } ∧
      t' = { t₁ with entered := false }) ∨
    (t.entered = false ∧ g.collectionMonitor = none ∧ g' = { g with collectionMonitor := some i } ∧
      t' = { t with entered := true }) := by
  unfold inCollection at h
  split at h
  · rename_i hentered
    obtain ⟨⟨g₁, t₁⟩, hrun, heq⟩ := Option.map_eq_some_iff.1 h
    obtain ⟨rfl, rfl⟩ := Prod.mk.inj heq
    exact .inl ⟨hentered, g₁, t₁, hrun, rfl, rfl⟩
  · rename_i hentered
    split at h
    · rename_i hfree
      obtain ⟨rfl, rfl⟩ := Prod.mk.inj (Option.some.inj h)
      exact .inr ⟨Bool.eq_false_iff.2 hentered, hfree, rfl, rfl⟩
    · cases h

/-- The sample is added, or left out by the filter, unless the thread has only
entered the collection. -/
theorem addToCollection_cases {i : Nat} {g g' : Shared} {t t' : Thread} {sample : Sample}
    {next : Shared → Shared × Thread} (h : addToCollection r i g t sample next = some (g', t'))
    (hcall : t.atCall r = r.accepts sample) (hentered : t.entered = true → t.atCall r = true)
    (hnext : ∀ g, (next g).2.entered = t.entered) :
    (t.atCall r = true ∧ t.entered = false ∧ g.collectionMonitor = none ∧
      g' = { g with collectionMonitor := some i } ∧ t' = { t with entered := true }) ∨
    ∃ c, (t.entered = true ∨ r.accepts sample = false) ∧
      r.addToCollection g.state.statics.sampleCollection sample = .ok c ∧
      g' = (next (g.withCollection c)).1.back t ∧ t' = { (next (g.withCollection c)).2 with entered := false } := by
  unfold addToCollection at h
  rw [addToCollection_eq]
  split at h
  · rename_i haccepts
    rcases inCollection_cases h with ⟨hin, g₁, t₁, hrun, rfl, rfl⟩ | ⟨hout, hfree, rfl, rfl⟩
    · split at hrun
      · cases hrun
      · rename_i c hc
        rw [Option.some.injEq] at hrun
        exact .inr ⟨c, .inl hin, by rw [if_pos haccepts, hc], by rw [hrun, Shared.back, if_pos hin], by rw [hrun]⟩
    · exact .inl ⟨hcall.trans haccepts, hout, hfree, rfl, rfl⟩
  · rename_i haccepts
    have hout : t.entered = false := Bool.eq_false_iff.2 fun hin => haccepts (hcall ▸ hentered hin)
    have hsame : (next g).2.entered = false := (hnext g).trans hout
    rw [Option.some.injEq] at h
    refine .inr ⟨g.state.statics.sampleCollection, .inr (Bool.eq_false_iff.2 haccepts), by rw [if_neg haccepts], ?_, ?_⟩
    · rw [Shared.back, if_neg (by simp [hout])]
      exact (congrArg Prod.fst h).symm
    · show t' = { (next g).2 with entered := false }
      rw [← hsame, h]

theorem body_cases {i : Nat} {g g' : Shared} {t t' : Thread} {env : Env}
    (h : body r F toJSONString i g t env = some (g', t')) (hentered : t.entered = true → t.atCall r = true) :
    CallStep r F toJSONString i (g.tick env.elapsed) t g' t' := by
  unfold body at h
  generalize g.tick env.elapsed = g at h ⊢
  dsimp only at h
  split at h
  · rename_i hpc
    unfold Shared.enterReceiver at h
    split at h
    · cases h; exact .enter hpc ‹_›
    · cases h
  · rename_i hpc
    split at h
    · cases h; exact .firstRun hpc ‹_›
    · cases h; exact .laterRun hpc (Bool.eq_false_iff.2 ‹_›)
  · rename_i s rest hpc
    rcases addToCollection_cases h (by rw [Thread.atCall, hpc]) hentered (fun _ => rfl) with
      ⟨hcall, hout, hfree, rfl, rfl⟩ | ⟨c, hin, hadd, rfl, rfl⟩
    · exact .enterCollection hcall hout hfree
    · exact .importOne s rest c hpc hin hadd
  · rename_i hpc
    cases h
    exact .imported hpc
  · rename_i hpc
    rcases addToCollection_cases h (by rw [Thread.atCall, hpc]) hentered (fun _ => rfl) with
      ⟨hcall, hout, hfree, rfl, rfl⟩ | ⟨c, hin, hadd, rfl, rfl⟩
    · exact .enterCollection hcall hout hfree
    · exact .add c hpc hin hadd
  · rename_i hpc
    unfold Shared.enterReceiver at h
    split at h
    · cases h; exact .await hpc ‹_›
    · cases h
  · rename_i hpc
    split at h
    · cases h; exact .due hpc ‹_›
    · cases h; exact .notYet hpc (Bool.eq_false_iff.2 ‹_›)
  · rename_i since hpc
    rcases inCollection_cases h with ⟨hin, g₁, t₁, hrun, rfl, rfl⟩ | ⟨hout, hfree, rfl, rfl⟩
    · cases hrun
      exact .print since hpc hin
    · exact .enterCollection (by rw [Thread.atCall, hpc]) hout hfree
  · rename_i since shown json hpc
    split at h
    · cases h; exact .written since shown json hpc
    · cases h; exact .notWritten since shown json _ hpc
  · rename_i since shown hpc
    cases h
    exact .stamp since shown hpc
  · cases h

/-! ## Who is inside -/

/-- The thread holds the receiver's monitor. -/
def PC.holds : PC → Bool
  | .entering => false
  | .adding => false
  | .awaiting => false
  | .returned => false
  | _ => true

/-- The thread has not left the import of the buffer. -/
def PC.early : PC → Bool
  | .entering => true
  | .checkingFirstRun => true
  | .importing _ => true
  | _ => false

structure Inv (r : JsonExporterSampleReceiver) (n : Int) (calls : List Call) (st : Pool Shared Thread) : Prop where
  threads : st.threads.map (·.call) = calls
  receiver : Held st.shared.receiverMonitor st.threads fun t => t.pc.holds
  collection : Held st.shared.collectionMonitor st.threads (·.entered)
  atCall : ∀ t ∈ st.threads, t.entered = true → t.atCall r = true
  first : st.shared.state.statics.firstRun = true → ∀ t ∈ st.threads, t.pc.early = true
  importing : ∀ t ∈ st.threads, ∀ rest, t.pc = .importing rest → st.shared.state.statics.firstRun = true
  limit : st.shared.state.statics.sampleCollection.maximumEntriesPerSensor = n

theorem limit_addToCollection {c c' : SampleCollection} {s : Sample} (h : r.addToCollection c s = .ok c') :
    c'.maximumEntriesPerSensor = c.maximumEntriesPerSensor := by
  rw [addToCollection_eq] at h
  split at h
  · exact (SampleCollection.addSample_ok h).limit
  · cases h
    rfl

theorem moves_back (i : Nat) (g : Shared) {t t' : Thread} (h : t'.entered = false) :
    Moves i Thread.entered t t' g.collectionMonitor (g.back t).collectionMonitor := by
  unfold Shared.back
  split
  · exact .leave _ ‹_› h
  · exact .stay _ (h.trans (Bool.eq_false_iff.2 ‹_›).symm)

/-- What a step may do to the monitors and to the first run. -/
structure Keeps (r : JsonExporterSampleReceiver) (i : Nat) (g g' : Shared) (t t' : Thread) : Prop where
  call : t'.call = t.call
  receiver : Moves i (fun t : Thread => t.pc.holds) t t' g.receiverMonitor g'.receiverMonitor
  collection : Moves i Thread.entered t t' g.collectionMonitor g'.collectionMonitor
  atCall : t'.entered = true → t'.atCall r = true
  early : g'.state.statics.firstRun = true → g.state.statics.firstRun = true ∧
    (t.pc.early = true → t'.pc.early = true)
  first : g'.state.statics.firstRun = g.state.statics.firstRun ∨ t.pc.holds = true ∧ t'.pc.early = false
  importing : ∀ rest, t'.pc = .importing rest → g.state.statics.firstRun = true ∨ ∃ rest', t.pc = .importing rest'
  limit : g'.state.statics.sampleCollection.maximumEntriesPerSensor =
    g.state.statics.sampleCollection.maximumEntriesPerSensor

theorem CallStep.keeps {i : Nat} {g g' : Shared} {t t' : Thread}
    (hs : CallStep r F toJSONString i g t g' t') (hentered : t.entered = true → t.atCall r = true) :
    Keeps r i g g' t t' := by
  -- a thread that is not at a call of the collection is not inside it
  have outside : t.atCall r = false → ∀ {P : Prop}, t.entered = true → P := fun hno _ hin =>
    absurd (hno.symm.trans (hentered hin)) (by decide)
  have late : ∀ {P : Prop}, t.pc.early = false → t.pc.early = true → P := fun hno hyes =>
    absurd (hno.symm.trans hyes) (by decide)
  cases hs with
  | enter hpc hfree =>
    exact ⟨rfl, hfree ▸ .enter rfl, .stay _ rfl, outside (by rw [Thread.atCall, hpc]),
      fun hf => ⟨hf, fun _ => rfl⟩, .inl rfl, nofun, rfl⟩
  | firstRun hpc hfirst =>
    exact ⟨rfl, .stay _ (by simp [hpc, PC.holds]), .stay _ rfl, outside (by rw [Thread.atCall, hpc]),
      fun hf => ⟨hf, fun _ => rfl⟩, .inl rfl, fun _ _ => .inl hfirst, rfl⟩
  | laterRun hpc hfirst =>
    refine ⟨rfl, .leave _ (by simp [hpc, PC.holds]) rfl, .stay _ rfl, outside (by rw [Thread.atCall, hpc]),
      fun hf => ?_, .inl rfl, nofun, rfl⟩
    cases hfirst.symm.trans hf
  | enterCollection hcalls hout hfree =>
    exact ⟨rfl, .stay _ rfl, hfree ▸ .enter rfl, fun _ => hcalls, fun hf => ⟨hf, id⟩, .inl rfl,
      fun rest hpc => .inr ⟨rest, hpc⟩, rfl⟩
  | importOne s rest c hpc hin hadd =>
    refine ⟨rfl, ?_, ?_, nofun, fun hf => ⟨?_, fun _ => rfl⟩, .inl ?_, fun _ _ => .inr ⟨_, hpc⟩, ?_⟩
    · rw [Shared.back_receiverMonitor]
      exact .stay _ (by simp [hpc, PC.holds])
    · exact moves_back i (g.withCollection c) rfl
    · rwa [Shared.back_state] at hf
    · rw [Shared.back_state]
      rfl
    · rw [Shared.back_state]
      exact limit_addToCollection hadd
  | imported hpc =>
    exact ⟨rfl, .leave _ (by simp [hpc, PC.holds]) rfl, .stay _ rfl, outside (by rw [Thread.atCall, hpc]), nofun,
      .inr ⟨by simp [hpc, PC.holds], rfl⟩, nofun, rfl⟩
  | add c hpc hin hadd =>
    refine ⟨rfl, ?_, ?_, nofun, fun hf => ⟨?_, late (by rw [hpc]; rfl)⟩, .inl ?_, nofun, ?_⟩
    · rw [Shared.back_receiverMonitor]
      exact .stay _ (by simp [hpc, PC.holds])
    · exact moves_back i ((g.withCollection c).withAdded t.call.sample) rfl
    · rwa [Shared.back_state] at hf
    · rw [Shared.back_state]
      rfl
    · rw [Shared.back_state]
      exact limit_addToCollection hadd
  | await hpc hfree =>
    exact ⟨rfl, hfree ▸ .enter rfl, .stay _ rfl, outside (by rw [Thread.atCall, hpc]),
      fun hf => ⟨hf, late (by rw [hpc]; rfl)⟩, .inl rfl, nofun, rfl⟩
  | notYet hpc htime =>
    exact ⟨rfl, .leave _ (by simp [hpc, PC.holds]) rfl, .stay _ rfl, outside (by rw [Thread.atCall, hpc]),
      fun hf => ⟨hf, late (by rw [hpc]; rfl)⟩, .inl rfl, nofun, rfl⟩
  | due hpc htime =>
    exact ⟨rfl, .stay _ (by simp [hpc, PC.holds]), .stay _ rfl, outside (by rw [Thread.atCall, hpc]),
      fun hf => ⟨hf, late (by rw [hpc]; rfl)⟩, .inl rfl, nofun, rfl⟩
  | print since hpc hin =>
    exact ⟨rfl, .stay _ (by simp [hpc, PC.holds]), .leave _ hin rfl, nofun,
      fun hf => ⟨hf, late (by rw [hpc]; rfl)⟩, .inl rfl, nofun, rfl⟩
  | written since shown json hpc =>
    exact ⟨rfl, .stay _ (by simp [hpc, PC.holds]), .stay _ rfl, outside (by rw [Thread.atCall, hpc]),
      fun hf => ⟨hf, late (by rw [hpc]; rfl)⟩, .inl rfl, nofun, rfl⟩
  | notWritten since shown json file hpc =>
    exact ⟨rfl, .leave _ (by simp [hpc, PC.holds]) rfl, .stay _ rfl, outside (by rw [Thread.atCall, hpc]),
      fun hf => ⟨hf, late (by rw [hpc]; rfl)⟩, .inl rfl, nofun, rfl⟩
  | stamp since shown hpc =>
    exact ⟨rfl, .leave _ (by simp [hpc, PC.holds]) rfl, .stay _ rfl, outside (by rw [Thread.atCall, hpc]),
      fun hf => ⟨hf, late (by rw [hpc]; rfl)⟩, .inl rfl, nofun, rfl⟩

theorem inv_start {st : Pool Shared Thread} (h : init n calls st) : Inv r n calls st := by
  obtain ⟨ht, hreceiver, hcollection, hfirst, hnew, -, -, -⟩ := h
  have hthread : ∀ t ∈ st.threads, t.pc = .entering ∧ t.entered = false := by
    intro t hmem
    rw [ht] at hmem
    obtain ⟨call, -, rfl⟩ := List.mem_map.1 hmem
    exact ⟨rfl, rfl⟩
  have hat := fun (i : Nat) (t : Thread) (hi : st.threads[i]? = some t) => hthread t (List.mem_of_getElem? hi)
  refine ⟨?_, ⟨fun i t hi => ?_, ?_⟩, ⟨fun i t hi => ?_, ?_⟩, fun t hmem hin => ?_, fun _ t hmem => ?_,
    fun t hmem rest hpc => ?_, by rw [hnew]; rfl⟩
  · rw [ht, List.map_map]
    exact List.map_id' calls
  · rw [(hat i t hi).1, hreceiver]
    simp [PC.holds]
  · rw [hreceiver]
    exact nofun
  · rw [(hat i t hi).2, hcollection]
    simp
  · rw [hcollection]
    exact nofun
  · rw [(hthread t hmem).2] at hin
    cases hin
  · rw [(hthread t hmem).1]
    rfl
  · rw [(hthread t hmem).1] at hpc
    cases hpc

theorem inv_step {st : Pool Shared Thread} {i : Nat} {t t' : Thread} {g' : Shared} {elapsed : Nat}
    (h : Inv r n calls st) (ht : st.threads[i]? = some t)
    (hs : CallStep r F toJSONString i (st.shared.tick elapsed) t g' t') :
    Inv r n calls ⟨g', st.threads.set i t'⟩ := by
  have hmem := List.mem_of_getElem? ht
  obtain ⟨hcall, hreceiver, hcollection, hat, hearly, hfirst, himporting, hlimit⟩ := hs.keeps (h.atCall t hmem)
  refine ⟨?_, h.receiver.set ht hreceiver, h.collection.set ht hcollection, fun u hu => ?_, fun hf u hu => ?_,
    fun u hu rest hpc => ?_, hlimit.trans h.limit⟩
  · rw [← h.threads]
    exact map_set_of_eq _ ht t' hcall
  · rcases List.mem_or_eq_of_mem_set hu with hu | rfl
    · exact h.atCall u hu
    · exact hat
  · obtain ⟨hfirstRun, hstays⟩ := hearly hf
    rcases List.mem_or_eq_of_mem_set hu with hu | rfl
    · exact h.first hfirstRun u hu
    · exact hstays (h.first hfirstRun t hmem)
  · obtain ⟨j, hj⟩ := List.getElem?_of_mem hu
    -- the thread that ends the first run does not import any more, and no other one can be at it
    rcases getElem?_set_cases hj with ⟨-, rfl⟩ | ⟨hne, hj⟩
    · have hbefore : st.shared.state.statics.firstRun = true := by
        rcases himporting rest hpc with hf | ⟨rest', hrest'⟩
        · exact hf
        · exact h.importing t hmem rest' hrest'
      rcases hfirst with hsame | ⟨-, hnot⟩
      · exact hsame.trans hbefore
      · rw [hpc] at hnot
        cases hnot
    · have hbefore := h.importing u (List.mem_of_getElem? hj) rest hpc
      rcases hfirst with hsame | ⟨hholds, -⟩
      · exact hsame.trans hbefore
      · exact absurd (h.receiver.unique hj ht (by rw [hpc]; rfl) hholds) hne

theorem inv_inductive : (lts r F toJSONString n calls).Inductive (Inv r n calls) :=
  Pool.inductive_of_body (fun _ => inv_start) fun _ _ _ t _ _ h ht hb =>
    inv_step h ht (body_cases hb (h.atCall t (List.mem_of_getElem? ht)))

/-! ## Every run ends, and none is stuck -/

/-- All calls have returned. -/
def AllReturned (st : Pool Shared Thread) : Prop := ∀ t ∈ st.threads, t.pc = .returned

/-- The steps a thread has left at most, to come in and to get on. -/
def Thread.left (t : Thread) : Nat :=
  (match t.pc with
  | .entering => 2 * t.call.sampleBuffer.length + 12
  | .checkingFirstRun => 2 * t.call.sampleBuffer.length + 11
  | .importing rest => 2 * rest.length + 10
  | .adding => 9
  | .awaiting => 7
  | .checkingTime => 6
  | .exporting _ => 5
  | .writing _ _ _ => 3
  | .stamping _ _ => 2
  | .returned => 1) - if t.entered then 1 else 0

theorem CallStep.left_lt {i : Nat} {g g' : Shared} {t t' : Thread}
    (hs : CallStep r F toJSONString i g t g' t') : t'.left < t.left := by
  cases hs with
  | enter hpc _ => simp only [Thread.left, hpc]; split <;> omega
  | firstRun hpc _ => simp only [Thread.left, hpc]; split <;> omega
  | laterRun hpc _ => simp only [Thread.left, hpc]; split <;> omega
  | enterCollection _ hout _ =>
    simp only [Thread.left, hout, if_true, Bool.false_eq_true, if_false]
    split <;> omega
  | importOne s rest c hpc _ _ =>
    simp only [Thread.left, hpc, List.length_cons, Bool.false_eq_true, if_false]
    split <;> omega
  | imported hpc => simp only [Thread.left, hpc, List.length_nil]; split <;> omega
  | add c hpc _ _ => simp only [Thread.left, hpc, Bool.false_eq_true, if_false]; split <;> omega
  | await hpc _ => simp only [Thread.left, hpc]; split <;> omega
  | notYet hpc _ => simp only [Thread.left, hpc]; split <;> omega
  | due hpc _ => simp only [Thread.left, hpc]; split <;> omega
  | print since hpc _ => simp only [Thread.left, hpc, Bool.false_eq_true, if_false]; split <;> omega
  | written since shown json hpc => simp only [Thread.left, hpc]; split <;> omega
  | notWritten since shown json file hpc => simp only [Thread.left, hpc]; split <;> omega
  | stamp since shown hpc => simp only [Thread.left, hpc]; split <;> omega

variable (r F toJSONString) in
/-- A thread can go on unless it has returned or waits for a monitor. -/
theorem goes_on (i : Nat) {g : Shared} {t : Thread}
    (hlimit : 1 ≤ g.state.statics.sampleCollection.maximumEntriesPerSensor) (hpc : t.pc ≠ .returned)
    (hreceiver : t.pc.holds = true ∨ t.pc = .adding ∨ g.receiverMonitor = none)
    (hcollection : t.entered = true ∨ g.collectionMonitor = none) :
    ∃ next, body r F toJSONString i g t ⟨0, .success⟩ = some next := by
  have inside : ∀ run : Option (Shared × Thread), run ≠ none →
      ∃ next, inCollection i (g.tick 0) t run = some next := by
    intro run hrun
    obtain ⟨next, rfl⟩ := Option.ne_none_iff_exists'.1 hrun
    unfold inCollection
    rcases hcollection with hin | hfree
    · rw [if_pos hin]
      exact ⟨_, rfl⟩
    · split
      · exact ⟨_, rfl⟩
      · exact ⟨_, if_pos hfree⟩
  have adds : ∀ (s : Sample) (k : Shared → Shared × Thread),
      ∃ next, addToCollection r i (g.tick 0) t s k = some next := by
    intro s k
    unfold addToCollection
    split
    · refine inside _ ?_
      have hends : SampleCollection.Terminates g.state.statics.sampleCollection.maximumEntriesPerSensor s :=
        .inl hlimit
      obtain ⟨c, hc, -⟩ := SampleCollection.addSample_spec hends
      have hc' : (g.tick 0).state.statics.sampleCollection.addSample s = .ok c := hc
      rw [hc']
      exact Option.some_ne_none _
    · exact ⟨_, rfl⟩
  have enters : t.pc.holds = false → t.pc ≠ .adding → ∃ g', (g.tick 0).enterReceiver i = some g' := by
    intro hout hadd
    rcases hreceiver with hin | h | hfree
    · cases hout.symm.trans hin
    · exact absurd h hadd
    · exact ⟨_, if_pos hfree⟩
  unfold body
  dsimp only
  cases h : t.pc with
  | entering =>
    obtain ⟨g', hg'⟩ := enters (by rw [h]; rfl) (by rw [h]; exact PC.noConfusion)
    exact ⟨_, by rw [hg']; rfl⟩
  | checkingFirstRun =>
    dsimp only
    split
    · exact ⟨_, rfl⟩
    · exact ⟨_, rfl⟩
  | importing rest =>
    cases rest with
    | nil => exact ⟨_, rfl⟩
    | cons s rest => exact adds s _
  | adding => exact adds _ _
  | awaiting =>
    obtain ⟨g', hg'⟩ := enters (by rw [h]; rfl) (by rw [h]; exact PC.noConfusion)
    exact ⟨_, by rw [hg']; rfl⟩
  | checkingTime =>
    dsimp only
    split
    · exact ⟨_, rfl⟩
    · exact ⟨_, rfl⟩
  | exporting since => exact inside _ (Option.some_ne_none _)
  | writing since shown json => exact ⟨_, rfl⟩
  | stamping since shown => exact ⟨_, rfl⟩
  | returned => exact absurd h hpc

/-- The owner of the receiver's monitor goes on, or that of the collection's
does; where nobody is inside, anyone does. -/
theorem Inv.returned {st : Pool Shared Thread} (h : Inv r n calls st) (hn : 1 ≤ n)
    (hq : (lts r F toJSONString n calls).Quiescent st) : AllReturned st := by
  have hstuck := Pool.quiescent_iff.1 hq
  have stops : ∀ {i : Nat} {t : Thread}, st.threads[i]? = some t → t.pc ≠ .returned →
      (t.pc.holds = true ∨ t.pc = .adding ∨ st.shared.receiverMonitor = none) →
      (t.entered = true ∨ st.shared.collectionMonitor = none) → False := by
    intro i t ht hpc hreceiver hcollection
    obtain ⟨next, hnext⟩ := goes_on r F toJSONString i
      (by rw [h.limit]; exact hn) hpc hreceiver hcollection
    rw [hstuck i t _ ht] at hnext
    cases hnext
  -- nobody is in the collection: its owner holds the receiver or is adding, so it would go on
  have hcollection : st.shared.collectionMonitor = none := by
    by_contra hne
    obtain ⟨i, hi⟩ := Option.ne_none_iff_exists'.1 hne
    obtain ⟨t, ht⟩ := h.collection.owner i hi
    have hin : t.entered = true := (h.collection.inside_iff i t ht).2 hi
    have hat := h.atCall t (List.mem_of_getElem? ht) hin
    unfold Thread.atCall at hat
    have hpc : t.pc ≠ .returned ∧ (t.pc.holds = true ∨ t.pc = .adding) := by
      cases hpc : t.pc <;> rw [hpc] at hat <;> simp_all [PC.holds]
    exact stops ht hpc.1 (hpc.2.imp_right .inl) (.inl hin)
  have hreceiver : st.shared.receiverMonitor = none := by
    by_contra hne
    obtain ⟨i, hi⟩ := Option.ne_none_iff_exists'.1 hne
    obtain ⟨t, ht⟩ := h.receiver.owner i hi
    have hin : t.pc.holds = true := (h.receiver.inside_iff i t ht).2 hi
    exact stops ht (fun hpc => by rw [hpc] at hin; cases hin) (.inl hin) (.inr hcollection)
  intro t hmem
  obtain ⟨i, ht⟩ := List.getElem?_of_mem hmem
  by_contra hpc
  exact stops ht hpc (.inr (.inr hreceiver)) (.inr hcollection)

/-- The steps that all threads have left. -/
def left (st : Pool Shared Thread) : Nat := (st.threads.map Thread.left).sum

theorem left_lt {st st' : Pool Shared Thread} {l : Nat × Env} (h : Inv r n calls st)
    (hs : (lts r F toJSONString n calls).step st l st') : left st' < left st := by
  obtain ⟨t, g', t', ht, hb, rfl⟩ := Pool.step_iff.1 hs
  have hsum := sum_map_set Thread.left ht t'
  have hlt := (body_cases hb (h.atCall t (List.mem_of_getElem? ht))).left_lt
  unfold left
  dsimp only
  omega

/-- A state that the invariant holds of, and the steps that lead to such states. -/
theorem run_inv {st st' : Pool Shared Thread} {ls : List (Nat × Env)} (h : Inv r n calls st)
    (hr : (lts r F toJSONString n calls).Run st ls st') :
    Inv r n calls st' ∧ ls.length + left st' ≤ left st := by
  refine hr.concat_induction (P := fun ls st' => Inv r n calls st' ∧ ls.length + left st' ≤ left st) ?_ ?_
  · exact ⟨h, by simp⟩
  · intro ls l s s' _ hs ih
    have hlt := left_lt ih.1 hs
    refine ⟨inv_inductive.step s l s' ih.1 hs, ?_⟩
    rw [List.length_append, List.length_singleton]
    omega

/-- **Any number of calls, their steps interleaved in any way: at most one
thread is inside each of the two monitors, no state in which a call has not
returned is stuck, and a run has at most twelve steps a call and two for each
sample of its buffer.** -/
theorem live (hn : 1 ≤ n) {st st' : Pool Shared Thread} {ls : List (Nat × Env)} (h₀ : init n calls st)
    (hr : (lts r F toJSONString n calls).Run st ls st') :
    (∀ (i j : Nat) (t u : Thread), st'.threads[i]? = some t → st'.threads[j]? = some u →
      (t.pc.holds = true ∧ u.pc.holds = true ∨ t.entered = true ∧ u.entered = true) → i = j) ∧
    ((lts r F toJSONString n calls).Quiescent st' ↔ AllReturned st') ∧
    ls.length ≤ (calls.map fun call => 2 * call.sampleBuffer.length + 12).sum := by
  obtain ⟨hinv, hlen⟩ := run_inv (inv_start (r := r) h₀) hr
  refine ⟨fun i j t u ht hu hboth => ?_, ⟨hinv.returned hn, fun hreturned => ?_⟩, ?_⟩
  · rcases hboth with ⟨hti, huj⟩ | ⟨hti, huj⟩
    · exact hinv.receiver.unique ht hu hti huj
    · exact hinv.collection.unique ht hu hti huj
  · refine Pool.quiescent_iff.2 fun i t env ht => ?_
    unfold body
    dsimp only
    rw [hreturned t (List.mem_of_getElem? ht)]
  · have hleft : left st = (calls.map fun call => 2 * call.sampleBuffer.length + 12).sum := by
      unfold left
      rw [h₀.1, List.map_map]
      rfl
    omega

def startedThreads : Pool Shared Thread :=
  ⟨⟨⟨⟨0, true, .new 5⟩, ⟨0, none⟩, [], [], []⟩, none, none⟩, twoCalls.map (⟨·, .entering, false⟩)⟩

/-- The second call adds its sample while the first one writes the file. -/
def addedWhileWriting : List (Nat × Env) :=
  (List.replicate 8 0 ++ [1, 1, 0]).map (·, ⟨0, .success⟩) ++ [(0, ⟨20000, .success⟩)] ++
    [0, 0, 1, 1, 0, 0, 1, 1].map (·, ⟨5, .success⟩)

theorem addedWhileWriting_run : ∃ st',
    (lts everything ⟨fun _ => "", fun _ => ""⟩ (fun _ => "{}") 5 twoCalls).Run startedThreads addedWhileWriting st' ∧
    AllReturned st' ∧ st'.shared.state.added = twoCalls.map (·.sample) ∧ st'.shared.state.exported.length = 1 := by
  have run : (lts everything ⟨fun _ => "", fun _ => ""⟩ (fun _ => "{}") 5 twoCalls).Run startedThreads
    addedWhileWriting _ := LTS.run_of_exec rfl
  refine ⟨_, run, fun t ht => ?_, rfl, rfl⟩
  have hends : t ∈ twoCalls.map fun call => (⟨call, .returned, false⟩ : Thread) := ht
  obtain ⟨call, -, rfl⟩ := List.mem_map.1 hends
  rfl

theorem addedWhileWriting_live : ∃ st',
    (lts everything ⟨fun _ => "", fun _ => ""⟩ (fun _ => "{}") 5 twoCalls).Run startedThreads addedWhileWriting st' ∧
    (lts everything ⟨fun _ => "", fun _ => ""⟩ (fun _ => "{}") 5 twoCalls).Quiescent st' := by
  obtain ⟨st', hrun, hreturned, -, -⟩ := addedWhileWriting_run
  exact ⟨st', hrun, (live (by decide) ⟨rfl, rfl, rfl, rfl, rfl, rfl, rfl, rfl⟩ hrun).2.1.2 hreturned⟩

end SensorSamplor.Monitors
