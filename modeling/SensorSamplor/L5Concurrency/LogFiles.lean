import Mathlib.Algebra.BigOperators.Group.Multiset.Basic
import SensorSamplor.Core.Threads
import SensorSamplor.L3Receivers.FileSampleReceiver

/-!
# Concurrent calls of the log file receiver

Any number of `processSample` and `processError` calls on one
`FileSampleReceiver`, each on its own thread, in the three steps of the file
system: `exists`, `createNewFile` when the file was not there, `append`.
There is no I/O error.

A thread that finds the file absent and then finds it created by another
thread gives up with an exception, and its line is lost. `lossless_iff`: no
interleaving loses a line exactly when no two calls share a file that does
not exist yet.
-/
namespace SensorSamplor.LogFiles

open SensorSamplor.Core FileSampleReceiver

/-- A call of one of the two entry points. -/
structure Call where
  method : ReceiverMethod
  sample : Sample
  deriving DecidableEq

inductive PC where
  | checking
  | creating
  | appending
  | returned
  | threw (e : Throwable)
  deriving DecidableEq

structure Thread where
  call : Call
  pc : PC
  deriving DecidableEq

section
variable (env : FileEnvironment) (F : SampleDateFormatter) (toJSONString : JSONObject Value → String)
  (r : FileSampleReceiver)

def Call.file (call : Call) : String := logFile env r call.method call.sample

def Call.line (call : Call) : String := FileSampleReceiver.line env F toJSONString call.sample

/-- mirrors receiver.file/receiver/file/FileSampleReceiver.java:62-113 -/
def body (_ : Nat) (fs : FileSystem) (t : Thread) (_ : Unit) : Option (FileSystem × Thread) :=
  let file := t.call.file env r
  match t.pc with
  | .checking => some (fs, { t with pc := if file ∈ fs then .appending else .creating })
  | .creating =>
    let (fileCreated, fs) := createNewFile fs file
    some (fs, { t with pc := if fileCreated then .appending else .threw (notCreated env file) })
  | .appending => some (append fs file (t.call.line env F toJSONString), { t with pc := .returned })
  | .returned => none
  | .threw _ => none

/-- One started thread for each call. -/
def start (fs : FileSystem) (calls : List Call) : Pool FileSystem Thread :=
  ⟨fs, calls.map (⟨·, .checking⟩)⟩

def lts (fs : FileSystem) (calls : List Call) : LTS (Pool FileSystem Thread) (Nat × Unit) :=
  Pool.interleave (· = start fs calls) (body env F toJSONString r)

/-- The lines of the calls with a given file. -/
def linesFor (calls : List Call) (file : String) : List String :=
  (calls.filter fun c => decide (c.file env r = file)).map (·.line env F toJSONString)

/-- No interleaving loses a line: no thread throws, a run ends after at most
three steps of each thread, and then every call has returned and every file
has got exactly the lines of its calls. -/
structure Lossless (fs : FileSystem) (calls : List Call) : Prop where
  noThrow : ∀ st, (lts env F toJSONString r fs calls).Reachable st →
    ∀ t ∈ st.threads, ∀ e, t.pc ≠ .threw e
  bounded : ∀ ls st, (lts env F toJSONString r fs calls).Run (start fs calls) ls st →
    ls.length ≤ 3 * calls.length
  lines : ∀ st, (lts env F toJSONString r fs calls).Reachable st →
    (lts env F toJSONString r fs calls).Quiescent st →
    (∀ t ∈ st.threads, t.pc = .returned) ∧
    ∀ file, (content st.shared file).Perm (content fs file ++ linesFor env F toJSONString r calls file)

/-- No two calls share a file that does not exist yet. -/
def NoSharedNewFile (fs : FileSystem) (calls : List Call) : Prop :=
  calls.Pairwise fun a b => a.file env r = b.file env r → a.file env r ∈ fs

end

variable {env : FileEnvironment} {F : SampleDateFormatter} {toJSONString : JSONObject Value → String}
  {r : FileSampleReceiver} {fs₀ : FileSystem} {calls : List Call}

/-! ## One step -/

/-- What a step does, by the place of its thread. -/
theorem body_cases {i : Nat} {fs fs' : FileSystem} {t t' : Thread} {a : Unit}
    (h : body env F toJSONString r i fs t a = some (fs', t')) :
    (t.pc = .checking ∧ t.call.file env r ∈ fs ∧ fs' = fs ∧ t' = { t with pc := .appending }) ∨
    (t.pc = .checking ∧ t.call.file env r ∉ fs ∧ fs' = fs ∧ t' = { t with pc := .creating }) ∨
    (t.pc = .creating ∧ t.call.file env r ∉ fs ∧ fs' = fs.insert (t.call.file env r) [] ∧
      t' = { t with pc := .appending }) ∨
    (t.pc = .creating ∧ t.call.file env r ∈ fs ∧ fs' = fs ∧
      t' = { t with pc := .threw (notCreated env (t.call.file env r)) }) ∨
    (t.pc = .appending ∧ fs' = append fs (t.call.file env r) (t.call.line env F toJSONString) ∧
      t' = { t with pc := .returned }) := by
  unfold body createNewFile at h
  cases hpc : t.pc with
  | checking =>
    simp only [hpc, Option.some.injEq, Prod.mk.injEq] at h
    by_cases hm : t.call.file env r ∈ fs
    · rw [if_pos hm] at h; exact .inl ⟨rfl, hm, h.1.symm, h.2.symm⟩
    · rw [if_neg hm] at h; exact .inr (.inl ⟨rfl, hm, h.1.symm, h.2.symm⟩)
  | creating =>
    simp only [hpc] at h
    by_cases hm : t.call.file env r ∈ fs
    · simp only [if_pos hm, Bool.false_eq_true, if_false, Option.some.injEq, Prod.mk.injEq] at h
      exact .inr (.inr (.inr (.inl ⟨rfl, hm, h.1.symm, h.2.symm⟩)))
    · simp only [if_neg hm, if_true, Option.some.injEq, Prod.mk.injEq] at h
      exact .inr (.inr (.inl ⟨rfl, hm, h.1.symm, h.2.symm⟩))
  | appending =>
    simp only [hpc, Option.some.injEq, Prod.mk.injEq] at h
    exact .inr (.inr (.inr (.inr ⟨rfl, h.1.symm, h.2.symm⟩)))
  | returned => rw [hpc] at h; cases h
  | threw e => rw [hpc] at h; cases h

/-- The steps a thread has left at most. -/
def PC.left : PC → Nat
  | .checking => 3
  | .creating => 2
  | .appending => 1
  | .returned => 0
  | .threw _ => 0

theorem left_decreases {i : Nat} {fs fs' : FileSystem} {t t' : Thread} {a : Unit}
    (h : body env F toJSONString r i fs t a = some (fs', t')) : t'.pc.left < t.pc.left := by
  rcases body_cases h with ⟨hpc, -, -, rfl⟩ | ⟨hpc, -, -, rfl⟩ | ⟨hpc, -, -, rfl⟩ | ⟨hpc, -, -, rfl⟩ |
    ⟨hpc, -, rfl⟩ <;> rw [hpc] <;> simp [PC.left]

theorem run_bounded {ls : List (Nat × Unit)} {st : Pool FileSystem Thread}
    (hr : (lts env F toJSONString r fs₀ calls).Run (start fs₀ calls) ls st) :
    ls.length ≤ 3 * calls.length := by
  have hlen := hr.length_le (μ := fun st => (st.threads.map fun t => t.pc.left).sum) (by
    intro st l st' hs
    obtain ⟨t, fs', t', ht, hb, rfl⟩ := Pool.step_iff.1 hs
    have hlt := left_decreases hb
    have hsum := sum_map_set (fun t => t.pc.left) ht t'
    show ((st.threads.set l.1 t').map fun t => t.pc.left).sum < _
    omega)
  have hstart : ((start fs₀ calls).threads.map fun t => t.pc.left).sum = 3 * calls.length := by
    simp [start, Function.comp_def, PC.left, Nat.mul_comm]
  omega

/-! ## No line is lost when no new file is shared -/

/-- The line that a thread has appended to a file. -/
def Thread.contribution (env : FileEnvironment) (F : SampleDateFormatter)
    (toJSONString : JSONObject Value → String) (r : FileSampleReceiver) (file : String) (t : Thread) :
    Multiset String :=
  if t.pc = .returned ∧ t.call.file env r = file then {t.call.line env F toJSONString} else 0

structure Inv (env : FileEnvironment) (F : SampleDateFormatter) (toJSONString : JSONObject Value → String)
    (r : FileSampleReceiver) (fs₀ : FileSystem) (calls : List Call) (st : Pool FileSystem Thread) :
    Prop where
  threads : st.threads.map (·.call) = calls
  kept : ∀ file ∈ fs₀, file ∈ st.shared
  creating : ∀ (j : Nat) (t : Thread), st.threads[j]? = some t → t.pc = .creating → t.call.file env r ∉ st.shared
  opened : ∀ (j : Nat) (t : Thread), st.threads[j]? = some t → t.pc = .appending → t.call.file env r ∈ st.shared
  noThrow : ∀ (j : Nat) (t : Thread), st.threads[j]? = some t → ∀ e, t.pc ≠ .threw e
  lines : ∀ file, (content st.shared file : Multiset String) =
    content fs₀ file + (st.threads.map (Thread.contribution env F toJSONString r file)).sum

theorem Inv.threads_set {st : Pool FileSystem Thread} (h : Inv env F toJSONString r fs₀ calls st)
    {i : Nat} {t : Thread} (ht : st.threads[i]? = some t) (pc : PC) :
    (st.threads.set i { t with pc := pc }).map (·.call) = calls := by
  have hset : (st.threads.set i { t with pc := pc }).map (·.call) = st.threads.map (·.call) :=
    map_set_of_eq (·.call) ht { t with pc := pc } rfl
  rw [hset, h.threads]

theorem Inv.call_eq {st : Pool FileSystem Thread} (h : Inv env F toJSONString r fs₀ calls st) {i : Nat}
    {t : Thread} (ht : st.threads[i]? = some t) : calls[i]? = some t.call := by
  rw [← h.threads, List.getElem?_map, ht]; rfl

/-- A step of a thread that has not appended yet, and does not, adds no line. -/
theorem Inv.lines_set {st : Pool FileSystem Thread} (h : Inv env F toJSONString r fs₀ calls st)
    {i : Nat} {t : Thread} (ht : st.threads[i]? = some t) (hpc : t.pc ≠ .returned) {pc : PC}
    (hpc' : pc ≠ .returned) (file : String) : (content st.shared file : Multiset String) =
      content fs₀ file +
        ((st.threads.set i { t with pc := pc }).map (Thread.contribution env F toJSONString r file)).sum := by
  have hsum := sum_map_set (Thread.contribution env F toJSONString r file) ht { t with pc := pc }
  have h₁ : t.contribution env F toJSONString r file = 0 := if_neg fun hn => hpc hn.1
  have h₂ : Thread.contribution env F toJSONString r file { t with pc := pc } = 0 :=
    if_neg fun hn => hpc' hn.1
  rw [h₁, h₂, add_zero, add_zero] at hsum
  rw [hsum]
  exact h.lines file

theorem noShared_index (h : NoSharedNewFile env r fs₀ calls) {i j : Nat} {a b : Call} (hij : i ≠ j)
    (ha : calls[i]? = some a) (hb : calls[j]? = some b) (hf : a.file env r = b.file env r) :
    a.file env r ∈ fs₀ := by
  obtain ⟨hi, rfl⟩ := List.getElem?_eq_some_iff.1 ha
  obtain ⟨hj, rfl⟩ := List.getElem?_eq_some_iff.1 hb
  rcases lt_or_gt_of_ne hij with hlt | hgt
  · exact List.pairwise_iff_getElem.1 h i j hi hj hlt hf
  · exact hf ▸ List.pairwise_iff_getElem.1 h j i hj hi hgt hf.symm

theorem inv_start : Inv env F toJSONString r fs₀ calls (start fs₀ calls) := by
  have hpc : ∀ (j : Nat) (t : Thread), (start fs₀ calls).threads[j]? = some t → t.pc = .checking := by
    intro j t ht
    simp only [start, List.getElem?_map, Option.map_eq_some_iff] at ht
    obtain ⟨call, -, rfl⟩ := ht
    rfl
  refine ⟨?_, fun _ h => h, ?_, ?_, ?_, fun file => ?_⟩
  · simp only [start, List.map_map]; exact List.map_id' calls
  · intro j t ht hc; rw [hpc j t ht] at hc; cases hc
  · intro j t ht hc; rw [hpc j t ht] at hc; cases hc
  · intro j t ht e hc; rw [hpc j t ht] at hc; cases hc
  · have hzero : ((start fs₀ calls).threads.map (Thread.contribution env F toJSONString r file)).sum = 0 := by
      apply List.sum_eq_zero
      intro m hm
      obtain ⟨t, ht, rfl⟩ := List.mem_map.1 hm
      obtain ⟨j, hj⟩ := List.mem_iff_getElem?.1 ht
      refine if_neg fun hn => ?_
      rw [hpc j t hj] at hn
      cases hn.1
    rw [hzero, add_zero]; rfl

theorem inv_step (hno : NoSharedNewFile env r fs₀ calls) {st : Pool FileSystem Thread} {i : Nat} {a : Unit}
    {t t' : Thread} {fs' : FileSystem} (h : Inv env F toJSONString r fs₀ calls st)
    (ht : st.threads[i]? = some t) (hb : body env F toJSONString r i st.shared t a = some (fs', t')) :
    Inv env F toJSONString r fs₀ calls ⟨fs', st.threads.set i t'⟩ := by
  rcases body_cases hb with ⟨hpc, hm, rfl, rfl⟩ | ⟨hpc, hm, rfl, rfl⟩ | ⟨hpc, hm, rfl, rfl⟩ |
    ⟨hpc, hm, rfl, rfl⟩ | ⟨hpc, rfl, rfl⟩
  · -- `exists` finds the file
    refine ⟨h.threads_set ht _, h.kept, fun j u hu hc => ?_, fun j u hu hc => ?_, fun j u hu e hc => ?_,
      h.lines_set ht (by rw [hpc]; exact PC.noConfusion) PC.noConfusion⟩ <;>
      rcases getElem?_set_cases hu with ⟨rfl, rfl⟩ | ⟨-, hu⟩
    · cases hc
    · exact h.creating j u hu hc
    · exact hm
    · exact h.opened j u hu hc
    · cases hc
    · exact h.noThrow j u hu e hc
  · -- `exists` finds no file
    refine ⟨h.threads_set ht _, h.kept, fun j u hu hc => ?_, fun j u hu hc => ?_, fun j u hu e hc => ?_,
      h.lines_set ht (by rw [hpc]; exact PC.noConfusion) PC.noConfusion⟩ <;>
      rcases getElem?_set_cases hu with ⟨rfl, rfl⟩ | ⟨-, hu⟩
    · exact hm
    · exact h.creating j u hu hc
    · cases hc
    · exact h.opened j u hu hc
    · cases hc
    · exact h.noThrow j u hu e hc
  · -- the file is created: nobody else is about to create it
    refine ⟨h.threads_set ht _, fun f hf => (AList.mem_insert _).2 (.inr (h.kept f hf)),
      fun j u hu hc => ?_, fun j u hu hc => ?_, fun j u hu e hc => ?_, fun file => ?_⟩
    · rcases getElem?_set_cases hu with ⟨rfl, rfl⟩ | ⟨hne, hu⟩
      · cases hc
      · intro hin
        rcases (AList.mem_insert _).1 hin with heq | hin
        · have hold := noShared_index hno (Ne.symm hne) (h.call_eq ht) (h.call_eq hu) heq.symm
          exact hm (h.kept _ hold)
        · exact h.creating j u hu hc hin
    · rcases getElem?_set_cases hu with ⟨rfl, rfl⟩ | ⟨-, hu⟩
      · exact (AList.mem_insert _).2 (.inl rfl)
      · exact (AList.mem_insert _).2 (.inr (h.opened j u hu hc))
    · rcases getElem?_set_cases hu with ⟨rfl, rfl⟩ | ⟨-, hu⟩
      · cases hc
      · exact h.noThrow j u hu e hc
    · show (content (st.shared.insert _ []) file : Multiset String) = _
      rw [content_insert_nil hm]
      exact h.lines_set ht (by rw [hpc]; exact PC.noConfusion) PC.noConfusion file
  · -- the file was created in between: excluded
    exact absurd hm (h.creating i t ht hpc)
  · -- the line is appended
    refine ⟨h.threads_set ht _, fun f hf => mem_append.2 (.inr (h.kept f hf)),
      fun j u hu hc => ?_, fun j u hu hc => ?_, fun j u hu e hc => ?_, fun file => ?_⟩
    · rcases getElem?_set_cases hu with ⟨rfl, rfl⟩ | ⟨-, hu⟩
      · cases hc
      · intro hin
        rcases mem_append.1 hin with heq | hin
        · exact h.creating j u hu hc (heq ▸ h.opened i t ht hpc)
        · exact h.creating j u hu hc hin
    · rcases getElem?_set_cases hu with ⟨rfl, rfl⟩ | ⟨-, hu⟩
      · cases hc
      · exact mem_append.2 (.inr (h.opened j u hu hc))
    · rcases getElem?_set_cases hu with ⟨rfl, rfl⟩ | ⟨-, hu⟩
      · cases hc
      · exact h.noThrow j u hu e hc
    · have hsum := sum_map_set (Thread.contribution env F toJSONString r file) ht { t with pc := .returned }
      have h₁ : t.contribution env F toJSONString r file = 0 :=
        if_neg fun hn => by rw [hpc] at hn; cases hn.1
      rw [h₁, add_zero] at hsum
      show (content (append st.shared (t.call.file env r) (t.call.line env F toJSONString)) file :
        Multiset String) = _
      by_cases hf : t.call.file env r = file
      · have h₂ : Thread.contribution env F toJSONString r file { t with pc := .returned } =
            {t.call.line env F toJSONString} := if_pos ⟨rfl, hf⟩
        rw [hsum, h₂, ← add_assoc, ← h.lines file, ← hf, content_append_self, ← Multiset.coe_add,
          Multiset.coe_singleton]
      · have h₂ : Thread.contribution env F toJSONString r file { t with pc := .returned } = 0 :=
          if_neg fun hn => hf hn.2
        rw [hsum, h₂, add_zero, ← h.lines file, content_append_ne _ (Ne.symm hf)]

theorem inv_inductive (hno : NoSharedNewFile env r fs₀ calls) :
    (lts env F toJSONString r fs₀ calls).Inductive (Inv env F toJSONString r fs₀ calls) :=
  Pool.inductive_of_body (fun _ h => h ▸ inv_start) fun _ _ _ _ _ _ => inv_step hno

theorem sum_contribution_returned {ts : List Thread} (h : ∀ t ∈ ts, t.pc = .returned) (file : String) :
    (ts.map (Thread.contribution env F toJSONString r file)).sum =
      (linesFor env F toJSONString r (ts.map (·.call)) file : Multiset String) := by
  induction ts with
  | nil => rfl
  | cons t ts ih =>
    rw [List.map_cons, List.sum_cons, ih fun u hu => h u (List.mem_cons_of_mem t hu)]
    unfold linesFor Thread.contribution
    rw [List.map_cons, List.filter_cons]
    by_cases hf : t.call.file env r = file
    · rw [if_pos ⟨h t List.mem_cons_self, hf⟩, if_pos (decide_eq_true hf), List.map_cons,
        ← Multiset.cons_coe, Multiset.singleton_add]
    · rw [if_neg fun hn => hf hn.2, if_neg (by simpa using hf), zero_add]

theorem lossless_of_noShared (hno : NoSharedNewFile env r fs₀ calls) :
    Lossless env F toJSONString r fs₀ calls := by
  refine ⟨fun st hr t ht e hc => ?_, fun ls st hr => run_bounded hr, fun st hr hq => ?_⟩
  · have h := (inv_inductive hno).reachable st hr
    obtain ⟨j, hj⟩ := List.mem_iff_getElem?.1 ht
    exact h.noThrow j t hj e hc
  · have h := (inv_inductive hno).reachable st hr
    have hret : ∀ t ∈ st.threads, t.pc = .returned := by
      intro t ht
      obtain ⟨j, hj⟩ := List.mem_iff_getElem?.1 ht
      have hstuck := Pool.quiescent_iff.1 hq j t () hj
      unfold body at hstuck
      cases hpc : t.pc with
      | returned => rfl
      | threw e => exact absurd hpc (h.noThrow j t hj e)
      | checking => rw [hpc] at hstuck; cases hstuck
      | creating => rw [hpc] at hstuck; cases hstuck
      | appending => rw [hpc] at hstuck; cases hstuck
    refine ⟨hret, fun file => Multiset.coe_eq_coe.1 ?_⟩
    rw [h.lines file, sum_contribution_returned hret, h.threads, Multiset.coe_add]

/-! ## A shared new file loses a line -/

/-- Both threads find the file absent, one creates it, the other gives up. -/
theorem shared_throws (F : SampleDateFormatter) (toJSONString : JSONObject Value → String)
    {i j : Nat} {a b : Call} (hij : i ≠ j) (ha : calls[i]? = some a)
    (hb : calls[j]? = some b) (hf : a.file env r = b.file env r) (hm : a.file env r ∉ fs₀) :
    ∃ st, (lts env F toJSONString r fs₀ calls).Reachable st ∧
      ∃ t ∈ st.threads, t.pc = .threw (notCreated env (b.file env r)) := by
  have thread : ∀ (k : Nat) (c : Call), calls[k]? = some c →
      (start fs₀ calls).threads[k]? = some ⟨c, .checking⟩ := by
    intro k c hk
    simp [start, hk]
  have hmb : b.file env r ∉ fs₀ := hf ▸ hm
  let ts₁ := (start fs₀ calls).threads.set i ⟨a, .creating⟩
  let ts₂ := ts₁.set j ⟨b, .creating⟩
  let ts₃ := ts₂.set i ⟨a, .appending⟩
  let ts₄ := ts₃.set j ⟨b, .threw (notCreated env (b.file env r))⟩
  let fs₁ := fs₀.insert (a.file env r) []
  have h₁ : ts₁[j]? = some ⟨b, .checking⟩ := by
    rw [List.getElem?_set_ne hij]; exact thread j b hb
  have hlen : i < ts₁.length := by
    rw [List.length_set]; exact (List.getElem?_eq_some_iff.1 (thread i a ha)).1
  have hlen' : j < ts₁.length := (List.getElem?_eq_some_iff.1 h₁).1
  have h₂ : ts₂[i]? = some ⟨a, .creating⟩ := by
    rw [List.getElem?_set_ne (Ne.symm hij), List.getElem?_set_self (by rw [List.length_set] at hlen; exact hlen)]
  have h₃ : ts₃[j]? = some ⟨b, .creating⟩ := by
    rw [List.getElem?_set_ne hij, List.getElem?_set_self hlen']
  have s₁ : (lts env F toJSONString r fs₀ calls).step (start fs₀ calls) (i, ()) ⟨fs₀, ts₁⟩ :=
    Pool.step_iff.2 ⟨_, fs₀, ⟨a, .creating⟩, thread i a ha, by simp [body, start, hm], rfl⟩
  have s₂ : (lts env F toJSONString r fs₀ calls).step ⟨fs₀, ts₁⟩ (j, ()) ⟨fs₀, ts₂⟩ :=
    Pool.step_iff.2 ⟨_, fs₀, ⟨b, .creating⟩, h₁, by simp [body, hmb], rfl⟩
  have s₃ : (lts env F toJSONString r fs₀ calls).step ⟨fs₀, ts₂⟩ (i, ()) ⟨fs₁, ts₃⟩ :=
    Pool.step_iff.2 ⟨_, fs₁, ⟨a, .appending⟩, h₂, by simp [body, createNewFile, hm, fs₁], rfl⟩
  have s₄ : (lts env F toJSONString r fs₀ calls).step ⟨fs₁, ts₃⟩ (j, ()) ⟨fs₁, ts₄⟩ :=
    Pool.step_iff.2 ⟨_, fs₁, ⟨b, .threw (notCreated env (b.file env r))⟩, h₃,
      by simp [body, createNewFile, fs₁, hf], rfl⟩
  refine ⟨_, ⟨_, _, rfl, .cons s₁ (.cons s₂ (.cons s₃ (.single s₄)))⟩,
    ⟨b, .threw (notCreated env (b.file env r))⟩, ?_, rfl⟩
  exact List.mem_of_getElem? (List.getElem?_set_self (by simpa [ts₃, ts₂] using hlen'))

/-- **No line is lost, exactly when no new file is shared.** -/
theorem lossless_iff (env : FileEnvironment) (F : SampleDateFormatter)
    (toJSONString : JSONObject Value → String) (r : FileSampleReceiver) (fs : FileSystem)
    (calls : List Call) :
    Lossless env F toJSONString r fs calls ↔ NoSharedNewFile env r fs calls := by
  refine ⟨fun h => List.pairwise_iff_getElem.2 fun i j hi hj hij hf => ?_, lossless_of_noShared⟩
  by_contra hm
  obtain ⟨st, hr, t, ht, hpc⟩ := shared_throws F toJSONString (Nat.ne_of_lt hij)
    (List.getElem?_eq_getElem hi) (List.getElem?_eq_getElem hj) hf hm
  exact h.noThrow st hr t ht _ hpc

/-- The first two readings of a day. -/
def firstOfTheDay : List Call :=
  [⟨.processSample, .transferSample ⟨0, 1⟩ ⟨0, "UTC"⟩ "node" "temperature"⟩,
   ⟨.processSample, .transferSample ⟨0, 2⟩ ⟨0, "UTC"⟩ "other" "temperature"⟩]

def unix : FileEnvironment :=
  ⟨"/", "\n", fun file => file, fun _ => "1970-01-01", fun _ => true⟩

def logFiles : FileSampleReceiver := ⟨"log/"⟩

/-- Both calls see that there is no file yet; one of them throws. -/
theorem firstOfTheDay_lossy :
    ¬ Lossless unix ⟨fun _ => "", fun _ => ""⟩ (fun _ => "{}") logFiles ∅ firstOfTheDay := by
  intro h
  have hthrows : ∃ st, (lts unix ⟨fun _ => "", fun _ => ""⟩ (fun _ => "{}") logFiles ∅
      firstOfTheDay).Reachable st ∧ ∃ t ∈ st.threads,
        t.pc = .threw (notCreated unix (firstOfTheDay[1].file unix logFiles)) :=
    shared_throws _ _ (show 0 ≠ 1 by decide) (show _ = some firstOfTheDay[0] from rfl) rfl (by decide)
      (by decide)
  obtain ⟨st, hr, t, ht, hpc⟩ := hthrows
  exact h.noThrow st hr t ht _ hpc

end SensorSamplor.LogFiles
