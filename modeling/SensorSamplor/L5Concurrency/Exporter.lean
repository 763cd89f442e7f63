import Mathlib.Algebra.BigOperators.Group.Multiset.Basic
import SensorSamplor.Core.Threads
import SensorSamplor.L3Receivers.JsonExporterSampleReceiver

/-!
# Concurrent deliveries to the JSON exporter

Any number of `processSample` calls on one `JsonExporterSampleReceiver`,
each on its own thread, in three atomic steps: the import of its buffer if
it is the first run, the adding of its sample, the conditional export. A
step in which `addSample` faults is not taken.

Ghost fields record which calls imported their buffer, the samples in the
order in which the threads added them, and the collections that were
exported. `deliveries_sequential`: every interleaving leaves what one
sequential run leaves, over one imported buffer and then the delivered
samples in some order.
-/
namespace SensorSamplor.Exporter

open SensorSamplor.Core JsonExporterSampleReceiver

/-- The arguments of one `processSample` call. -/
structure Call where
  sampleBuffer : List Sample
  sample : Sample

/-- Where a thread is in `processSample`. -/
inductive PC where
  | importing
  | adding
  | exporting
  | returned
  deriving DecidableEq

structure Thread where
  call : Call
  pc : PC

structure Shared where
  statics : Statics
  world : World
  /-- ghost: the calls whose buffer was imported -/
  imported : List Nat
  /-- ghost: the delivered samples in the order of `addToCollection` -/
  added : List Sample
  /-- ghost: the collections that were exported -/
  exported : List SampleCollection

/-- What a thread meets in a step: the time that has passed, and how a write ends. -/
structure Env where
  elapsed : Nat
  write : Write

def Shared.tick (g : Shared) (elapsed : Nat) : Shared :=
  { g with world := { g.world with now := g.world.now + elapsed } }

variable (r : JsonExporterSampleReceiver) (F : SampleDateFormatter)
  (toJSONString : JSONObject (JSONObject (JSONObject (JSONArray (JSONObject Value)))) → String)

/-- The collection that a step of `conditionallyCreateExport` exports. -/
def exportedBy (st : Statics) (w : World) : Write → List SampleCollection
  | .success _ => if enoughTimeHasPassed st w then [st.sampleCollection] else []
  | .failure _ _ => []

/-- mirrors receiver.jsonexporter/receiver/exporter/JsonExporterSampleReceiver.java:54-59 -/
def body (i : Nat) (g : Shared) (t : Thread) (env : Env) : Option (Shared × Thread) :=
  let g := g.tick env.elapsed
  match t.pc with
  | .importing =>
    match r.importCompleteBufferIfFirstRun g.statics t.call.sampleBuffer with
    | .error _ => none
    | .ok st => some ({ g with
        statics := st, imported := if g.statics.firstRun then g.imported ++ [i] else g.imported },
        { t with pc := .adding })
  | .adding =>
    match r.addToCollection g.statics.sampleCollection t.call.sample with
    | .error _ => none
    | .ok c => some ({ g with
        statics := { g.statics with sampleCollection := c }, added := g.added ++ [t.call.sample] },
        { t with pc := .exporting })
  | .exporting =>
    let (st, w) := conditionallyCreateExport F toJSONString g.statics g.world env.write
    some ({ g with statics := st, world := w, exported := g.exported ++ exportedBy g.statics g.world env.write },
      { t with pc := .returned })
  | .returned => none

/-- A new receiver with the limit `n` and one started thread for each call. -/
def init (n : Int) (calls : List Call) (st : Pool Shared Thread) : Prop :=
  st.threads = calls.map (⟨·, .importing⟩) ∧ st.shared.statics.firstRun = true ∧
    st.shared.statics.sampleCollection = .new n ∧ st.shared.imported = [] ∧ st.shared.added = [] ∧
    st.shared.exported = []

def lts (n : Int) (calls : List Call) : LTS (Pool Shared Thread) (Nat × Env) :=
  Pool.interleave (init n calls) (body r F toJSONString)

/-- What a step does, by the place of its thread. -/
theorem body_cases {r : JsonExporterSampleReceiver} {F : SampleDateFormatter}
    {toJSONString : JSONObject (JSONObject (JSONObject (JSONArray (JSONObject Value)))) → String} {i : Nat}
    {g g' : Shared} {t t' : Thread} {env : Env} (h : body r F toJSONString i g t env = some (g', t')) :
    (t.pc = .importing ∧ g.statics.firstRun = true ∧ t' = { t with pc := .adding } ∧
      ∃ c, t.call.sampleBuffer.foldlM r.addToCollection g.statics.sampleCollection = .ok c ∧
        g' = { g.tick env.elapsed with
          statics := { g.statics with sampleCollection := c, firstRun := false },
          imported := g.imported ++ [i] }) ∨
    (t.pc = .importing ∧ g.statics.firstRun = false ∧ t' = { t with pc := .adding } ∧
      g' = g.tick env.elapsed) ∨
    (t.pc = .adding ∧ t' = { t with pc := .exporting } ∧
      ∃ c, r.addToCollection g.statics.sampleCollection t.call.sample = .ok c ∧
        g' = { g.tick env.elapsed with
          statics := { g.statics with sampleCollection := c }, added := g.added ++ [t.call.sample] }) ∨
    (t.pc = .exporting ∧ t' = { t with pc := .returned } ∧
      ∃ last w, g' = { g with
        statics := { g.statics with lastExport := last }, world := w,
        exported := g.exported ++ exportedBy g.statics (g.tick env.elapsed).world env.write }) := by
  unfold body at h
  cases hpc : t.pc with
  | importing =>
    cases hf : g.statics.firstRun with
    | true =>
      simp only [hpc, Shared.tick, importCompleteBufferIfFirstRun, hf, if_true] at h
      cases hfold : t.call.sampleBuffer.foldlM r.addToCollection g.statics.sampleCollection with
      | error f => rw [hfold] at h; cases h
      | ok c =>
        rw [hfold] at h
        simp only [Except.map, Option.some.injEq, Prod.mk.injEq] at h
        exact .inl ⟨rfl, rfl, h.2.symm, c, rfl, h.1.symm⟩
    | false =>
      simp only [hpc, Shared.tick, importCompleteBufferIfFirstRun, hf, Bool.false_eq_true, if_false,
        Option.some.injEq, Prod.mk.injEq] at h
      exact .inr (.inl ⟨rfl, rfl, h.2.symm, h.1.symm⟩)
  | adding =>
    simp only [hpc, Shared.tick] at h
    cases hadd : r.addToCollection g.statics.sampleCollection t.call.sample with
    | error f => rw [hadd] at h; cases h
    | ok c =>
      simp only [hadd, Option.some.injEq, Prod.mk.injEq] at h
      exact .inr (.inr (.inl ⟨rfl, h.2.symm, c, rfl, h.1.symm⟩))
  | exporting =>
    simp only [hpc, Option.some.injEq, Prod.mk.injEq] at h
    have hstatics : ∃ last, (conditionallyCreateExport F toJSONString (g.tick env.elapsed).statics
        (g.tick env.elapsed).world env.write).1 = { g.statics with lastExport := last } := by
      rcases conditionallyCreateExport_cases F toJSONString (g.tick env.elapsed).statics
        (g.tick env.elapsed).world env.write with ⟨-, h⟩ | ⟨-, millis, -, h⟩ | ⟨-, millis, file, -, h⟩
      all_goals
        rw [h]
        exact ⟨_, rfl⟩
    obtain ⟨last, hlast⟩ := hstatics
    rw [hlast] at h
    exact .inr (.inr (.inr ⟨rfl, h.2.symm, last, _, h.1.symm⟩))
  | returned => rw [hpc] at h; cases h

/-! ## The invariant -/

/-- A collection that the accepted ones of the samples `xs` make. -/
def Shows (n : Int) (xs : List Sample) (c : SampleCollection) : Prop :=
  (SampleCollection.new n).addAll (xs.filter r.accepts) = .ok c

/-- The sample that a thread has added. -/
def Thread.contribution (t : Thread) : Multiset Sample :=
  match t.pc with
  | .importing => 0
  | .adding => 0
  | .exporting => {t.call.sample}
  | .returned => {t.call.sample}

/-- No thread has imported, or one has and the collection shows its buffer
and the samples added since. -/
def Imported (n : Int) (calls : List Call) (st : Pool Shared Thread) : Prop :=
  if st.shared.statics.firstRun then
    st.shared.imported = [] ∧ st.shared.added = [] ∧ st.shared.statics.sampleCollection = .new n ∧
      ∀ t ∈ st.threads, t.pc = .importing
  else ∃ j call, calls[j]? = some call ∧ st.shared.imported = [j] ∧
    Shows r n (call.sampleBuffer ++ st.shared.added) st.shared.statics.sampleCollection

/-- The samples that the calls bring. -/
def Brought (calls : List Call) (s : Sample) : Prop :=
  ∃ call ∈ calls, s ∈ call.sampleBuffer ∨ s = call.sample

structure Inv (n : Int) (calls : List Call) (st : Pool Shared Thread) : Prop where
  threads : st.threads.map (·.call) = calls
  imported : Imported r n calls st
  added : (st.shared.added : Multiset Sample) = (st.threads.map Thread.contribution).sum
  brought : ∀ s ∈ st.shared.added, Brought calls s
  exported : ∀ c ∈ st.shared.exported, ∃ xs, (∀ s ∈ xs, Brought calls s) ∧ Shows r n xs c

variable {r F toJSONString} {n : Int} {calls : List Call}

theorem inv_init {st : Pool Shared Thread} (h : init n calls st) : Inv r n calls st := by
  obtain ⟨ht, hf, hc, hi, ha, he⟩ := h
  refine ⟨?_, ?_, ?_, ?_, ?_⟩
  · rw [ht, List.map_map]; exact List.map_id' calls
  · unfold Imported
    rw [if_pos hf]
    refine ⟨hi, ha, hc, fun t hmem => ?_⟩
    rw [ht] at hmem
    obtain ⟨call, -, rfl⟩ := List.mem_map.1 hmem
    rfl
  · have hzero : ∀ cs : List Call, ((cs.map (⟨·, .importing⟩)).map Thread.contribution).sum = 0 := by
      intro cs
      induction cs with
      | nil => rfl
      | cons c cs ih => rw [List.map_cons, List.map_cons, List.sum_cons, ih]; rfl
    rw [ha, ht, hzero]; rfl
  · rw [ha]; exact fun s hs => absurd hs List.not_mem_nil
  · rw [he]; exact fun c hc => absurd hc List.not_mem_nil

/-- Whatever is shown so far was brought by the calls. -/
theorem Inv.shown {st : Pool Shared Thread} (h : Inv r n calls st) :
    ∃ xs, (∀ s ∈ xs, Brought calls s) ∧ Shows r n xs st.shared.statics.sampleCollection := by
  have himp := h.imported
  unfold Imported at himp
  split at himp
  · exact ⟨[], fun s hs => absurd hs List.not_mem_nil, by rw [himp.2.2.1]; rfl⟩
  · obtain ⟨j, call, hj, -, hshows⟩ := himp
    refine ⟨_, fun s hs => ?_, hshows⟩
    rcases List.mem_append.1 hs with hs | hs
    · exact ⟨call, List.mem_of_getElem? hj, .inl hs⟩
    · exact h.brought s hs

theorem calls_getElem {st : Pool Shared Thread} (h : Inv r n calls st) {i : Nat} {t : Thread}
    (ht : st.threads[i]? = some t) : calls[i]? = some t.call := by
  rw [← h.threads, List.getElem?_map, ht]; rfl

theorem Inv.threads_set {st : Pool Shared Thread} (h : Inv r n calls st) {i : Nat} {t : Thread}
    (ht : st.threads[i]? = some t) (pc : PC) :
    (st.threads.set i { t with pc := pc }).map (·.call) = calls := by
  have hset : (st.threads.set i { t with pc := pc }).map (·.call) = st.threads.map (·.call) :=
    map_set_of_eq (·.call) ht { t with pc := pc } rfl
  rw [hset, h.threads]

/-- The first run is over once a thread has left its import. -/
theorem Inv.later {st : Pool Shared Thread} (h : Inv r n calls st) {i : Nat} {t : Thread}
    (ht : st.threads[i]? = some t) (hpc : t.pc ≠ .importing) :
    st.shared.statics.firstRun = false ∧ ∃ j call, calls[j]? = some call ∧ st.shared.imported = [j] ∧
      Shows r n (call.sampleBuffer ++ st.shared.added) st.shared.statics.sampleCollection := by
  have himp := h.imported
  unfold Imported at himp
  split at himp
  · exact absurd (himp.2.2.2 t (List.mem_of_getElem? ht)) hpc
  · rename_i hf
    exact ⟨Bool.eq_false_iff.2 hf, himp⟩

theorem shows_append {xs : List Sample} {c c' : SampleCollection} {s : Sample} (h : Shows r n xs c)
    (hc : r.addToCollection c s = .ok c') : Shows r n (xs ++ [s]) c' := by
  unfold Shows at h ⊢
  rw [addToCollection_eq] at hc
  rw [List.filter_append]
  by_cases hs : r.accepts s = true
  · rw [if_pos hs] at hc
    rw [List.filter_cons_of_pos hs, List.filter_nil, SampleCollection.addAll_concat, h]
    exact hc
  · rw [if_neg hs, Except.ok.injEq] at hc
    rw [List.filter_cons_of_neg hs, List.filter_nil, List.append_nil, h, hc]

theorem Thread.contribution_zero {t : Thread} (h : t.pc = .importing ∨ t.pc = .adding) :
    t.contribution = 0 := by
  unfold Thread.contribution
  rcases h with h | h <;> rw [h]

theorem Thread.contribution_sample {t : Thread} (h : t.pc = .exporting ∨ t.pc = .returned) :
    t.contribution = {t.call.sample} := by
  unfold Thread.contribution
  rcases h with h | h <;> rw [h]

theorem inv_step {st : Pool Shared Thread} {i : Nat} {env : Env} {t t' : Thread} {g' : Shared}
    (h : Inv r n calls st) (ht : st.threads[i]? = some t)
    (hb : body r F toJSONString i st.shared t env = some (g', t')) :
    Inv r n calls ⟨g', st.threads.set i t'⟩ := by
  have hmem := calls_getElem h ht
  have hsum := sum_map_set Thread.contribution ht t'
  rcases body_cases hb with ⟨hpc, hf, rfl, c, hfold, rfl⟩ | ⟨hpc, hf, rfl, rfl⟩ |
    ⟨hpc, rfl, c, hadd, rfl⟩ | ⟨hpc, rfl, last, w, rfl⟩
  · -- the first import
    have himp := h.imported
    unfold Imported at himp
    rw [if_pos hf] at himp
    obtain ⟨hi, ha, hc, -⟩ := himp
    refine ⟨h.threads_set ht _, ?_, ?_, h.brought, h.exported⟩
    · refine ⟨i, t.call, hmem, by rw [hi]; rfl, ?_⟩
      show Shows r n (t.call.sampleBuffer ++ st.shared.added) c
      rw [ha, List.append_nil, Shows, ← foldlM_addToCollection, ← hc]
      exact hfold
    · rw [Thread.contribution_zero (.inl hpc), Thread.contribution_zero (.inr rfl)] at hsum
      rw [add_zero, add_zero] at hsum
      exact h.added.trans hsum.symm
  · -- an import that finds the first run done
    refine ⟨h.threads_set ht _, ?_, ?_, h.brought, h.exported⟩
    · have himp := h.imported
      unfold Imported at himp ⊢
      rw [hf] at himp
      show if st.shared.statics.firstRun then _ else _
      rw [hf]
      exact himp
    · rw [Thread.contribution_zero (.inl hpc), Thread.contribution_zero (.inr rfl)] at hsum
      rw [add_zero, add_zero] at hsum
      exact h.added.trans hsum.symm
  · -- the adding of the thread's sample
    obtain ⟨hf, j, call, hj, hi, hshows⟩ := h.later ht (by rw [hpc]; exact PC.noConfusion)
    refine ⟨h.threads_set ht _, ?_, ?_, ?_, h.exported⟩
    · unfold Imported
      show if st.shared.statics.firstRun then _ else _
      rw [hf]
      refine ⟨j, call, hj, hi, ?_⟩
      show Shows r n (call.sampleBuffer ++ (st.shared.added ++ [t.call.sample])) c
      rw [← List.append_assoc]
      exact shows_append hshows hadd
    · rw [Thread.contribution_zero (.inr hpc), Thread.contribution_sample (.inl rfl), add_zero,
        ← h.added] at hsum
      rw [hsum]
      show (↑(st.shared.added ++ [t.call.sample]) : Multiset Sample) = _
      rw [← Multiset.coe_add, Multiset.coe_singleton]
    · intro s hs
      rcases List.mem_append.1 hs with hs | hs
      · exact h.brought s hs
      · exact ⟨t.call, List.mem_of_getElem? hmem, .inr (List.mem_singleton.1 hs)⟩
  · -- the export
    obtain ⟨hf, himp⟩ := h.later ht (by rw [hpc]; exact PC.noConfusion)
    refine ⟨h.threads_set ht _, ?_, ?_, h.brought, ?_⟩
    · unfold Imported
      show if st.shared.statics.firstRun then _ else _
      rw [hf]
      exact himp
    · rw [Thread.contribution_sample (.inl hpc), Thread.contribution_sample (.inr rfl)] at hsum
      exact h.added.trans (add_right_cancel hsum).symm
    · intro c hc
      rcases List.mem_append.1 hc with hc | hc
      · exact h.exported c hc
      · have heq : c = st.shared.statics.sampleCollection := by
          unfold exportedBy at hc
          split at hc
          · split at hc
            · exact List.mem_singleton.1 hc
            · cases hc
          · cases hc
        rw [heq]
        exact h.shown

theorem inv_inductive : (lts r F toJSONString n calls).Inductive (Inv r n calls) :=
  Pool.inductive_of_body (fun _ => inv_init) fun _ _ _ _ _ _ => inv_step

/-! ## One sequential run -/

/-- All calls have returned. -/
def AllReturned (st : Pool Shared Thread) : Prop := ∀ t ∈ st.threads, t.pc = .returned

/-- What the calls leave is what one sequential run leaves: the accepted
samples of one call's buffer in order, then those of the delivered samples
in some order. -/
structure Sequential (r : JsonExporterSampleReceiver) (F : SampleDateFormatter) (n : Int)
    (calls : List Call) (st : Pool Shared Thread) : Prop where
  /-- no buffer is imported twice, and one is before any sample is added -/
  imports : st.shared.imported.length ≤ 1
  first : st.shared.added ≠ [] → ∃ j call, calls[j]? = some call ∧ st.shared.imported = [j] ∧
    Shows r n (call.sampleBuffer ++ st.shared.added) st.shared.statics.sampleCollection
  /-- after all calls -/
  finished : AllReturned st → st.shared.added.Perm (calls.map (·.sample)) ∧
    (calls = [] → st.shared.statics.sampleCollection = .new n) ∧
    (calls ≠ [] → ∃ j call, calls[j]? = some call ∧ st.shared.imported = [j] ∧
      Shows r n (call.sampleBuffer ++ st.shared.added) st.shared.statics.sampleCollection)
  /-- no error and nothing foreign is in the collection or was exported -/
  clean : ∀ c, c = st.shared.statics.sampleCollection ∨ c ∈ st.shared.exported →
    ∃ xs, (∀ s ∈ xs, Brought calls s) ∧ Clean r F xs c

theorem Shows.clean {xs : List Sample} {c : SampleCollection} (h : Shows r n xs c)
    (F : SampleDateFormatter) : Clean r F (xs.filter r.accepts) c :=
  clean_of_after F (SampleCollection.after_of_addAll h) fun _ hs => (List.mem_filter.1 hs).2

theorem sum_contribution_returned {ts : List Thread} (h : ∀ t ∈ ts, t.pc = .returned) :
    (ts.map Thread.contribution).sum = ((ts.map fun t => t.call.sample : List Sample) : Multiset Sample) := by
  induction ts with
  | nil => rfl
  | cons t ts ih =>
    rw [List.map_cons, List.sum_cons, ih fun u hu => h u (List.mem_cons_of_mem t hu),
      Thread.contribution_sample (.inr (h t List.mem_cons_self)), List.map_cons, ← Multiset.cons_coe,
      Multiset.singleton_add]

theorem Inv.sequential {st : Pool Shared Thread} (h : Inv r n calls st) (F : SampleDateFormatter) :
    Sequential r F n calls st := by
  have himp := h.imported
  unfold Imported at himp
  refine ⟨?_, fun hadd => ?_, fun hret => ⟨?_, fun hnil => ?_, fun hne => ?_⟩, fun c hc => ?_⟩
  · split at himp
    · rw [himp.1]; exact Nat.zero_le _
    · obtain ⟨j, call, -, hi, -⟩ := himp
      rw [hi]; exact le_rfl
  · split at himp
    · exact absurd himp.2.1 hadd
    · exact himp
  · have hperm : st.shared.added.Perm (st.threads.map fun t => t.call.sample) :=
      Multiset.coe_eq_coe.1 (h.added.trans (sum_contribution_returned hret))
    rw [← h.threads, List.map_map]
    exact hperm
  · split at himp
    · exact himp.2.2.1
    · obtain ⟨j, call, hj, -, -⟩ := himp
      rw [hnil] at hj; cases hj
  · split at himp
    · obtain ⟨t, ht⟩ := List.exists_mem_of_ne_nil st.threads fun hnil => hne (by rw [← h.threads, hnil]; rfl)
      have h₁ := himp.2.2.2 t ht
      rw [hret t ht] at h₁; cases h₁
    · exact himp
  · obtain ⟨xs, hxs, hshows⟩ : ∃ xs, (∀ s ∈ xs, Brought calls s) ∧ Shows r n xs c := by
      rcases hc with rfl | hc
      · exact h.shown
      · exact h.exported c hc
    exact ⟨_, fun s hs => hxs s (List.mem_of_mem_filter hs), hshows.clean F⟩

/-- **One sequential run.** Any calls, buffers, patterns and limit, in every
state that any interleaving reaches. -/
theorem deliveries_sequential (r : JsonExporterSampleReceiver) (F : SampleDateFormatter)
    (toJSONString : JSONObject (JSONObject (JSONObject (JSONArray (JSONObject Value)))) → String)
    (n : Int) (calls : List Call) (st : Pool Shared Thread)
    (h : (lts r F toJSONString n calls).Reachable st) : Sequential r F n calls st :=
  Inv.sequential (inv_inductive.reachable st h) F

/-- Two deliveries, the first with a buffer of one error and one sample. -/
def twoCalls : List Call :=
  [⟨[.errorSample ⟨0, 1⟩ ⟨0, "UTC"⟩ "node" "load" none,
     (Sample.transferSample ⟨0, 2⟩ ⟨0, "UTC"⟩ "node" "load").addItem "a" (.long 1)],
    (Sample.transferSample ⟨0, 3⟩ ⟨1, "UTC"⟩ "node" "load").addItem "a" (.long 2)⟩,
   ⟨[], (Sample.transferSample ⟨0, 4⟩ ⟨2, "UTC"⟩ "node" "load").addItem "a" (.long 3)⟩]

def everything : JsonExporterSampleReceiver := ⟨"out.json", ⟨fun _ => true, fun _ => true⟩⟩

/-- The second call adds its sample before the first one. -/
def overtaking : List (Nat × Env) :=
  [(0, ⟨0, .success 1⟩), (1, ⟨20000, .success 1⟩), (1, ⟨0, .success 1⟩), (0, ⟨0, .success 1⟩),
   (0, ⟨0, .success 1⟩), (1, ⟨0, .success 1⟩)]

def started : Pool Shared Thread :=
  ⟨⟨⟨0, true, .new 5⟩, ⟨0, none⟩, [], [], []⟩, twoCalls.map (⟨·, .importing⟩)⟩

theorem overtaking_sequential : ∃ st,
    (lts everything ⟨fun _ => "", fun _ => ""⟩ (fun _ => "{}") 5 twoCalls).Run started overtaking st ∧
    AllReturned st ∧ Sequential everything ⟨fun _ => "", fun _ => ""⟩ 5 twoCalls st :=
  have run : (lts everything ⟨fun _ => "", fun _ => ""⟩ (fun _ => "{}") 5 twoCalls).Run started
    overtaking _ := LTS.run_of_exec rfl
  ⟨_, run, by unfold AllReturned; decide, deliveries_sequential everything _ (fun _ => "{}") 5 twoCalls _
    ⟨started, _, ⟨rfl, rfl, rfl, rfl, rfl, rfl⟩, run⟩⟩

end SensorSamplor.Exporter
