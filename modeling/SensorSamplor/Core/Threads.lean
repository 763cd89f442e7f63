import Mathlib.Algebra.BigOperators.Group.List.Basic
import Mathlib.Data.List.Perm.Basic
import SensorSamplor.Core.LTS

/-!
# Pending steps and thread pools

Two ways in which an interleaving is modelled.

* **Pending steps** (threads, messages) that are created and used up: a list
  from which any element may be taken next (`takeAt`). Counting is kept:
  `countP_takeAt`.
* **A fixed pool of threads** over a shared state: `interleave` runs one
  atomic step of any thread at a time. `inductive_of_body` reduces an
  invariant of all interleavings to one step of one thread;
  `sum_map_set` is the step rule of a quantity summed over the threads.

A monitor is held by at most one thread (`Held`): `Held.set` is the step
rule, `Held.unique` what it is good for.
-/
namespace SensorSamplor.Core

/-! ## Pending steps -/

section Pending
variable {α : Type*}

/-- Take the `i`-th pending element out. -/
def takeAt (l : List α) (i : Nat) : Option (α × List α) := l[i]?.map fun a => (a, l.eraseIdx i)

theorem takeAt_perm {l l' : List α} {i : Nat} {a : α} (h : takeAt l i = some (a, l')) :
    (a :: l').Perm l := by
  simp only [takeAt, Option.map_eq_some_iff, Prod.mk.injEq] at h
  obtain ⟨b, hb, rfl, rfl⟩ := h
  obtain ⟨hi, rfl⟩ := List.getElem?_eq_some_iff.1 hb
  exact List.getElem_cons_eraseIdx_perm hi

theorem countP_takeAt (p : α → Bool) {l l' : List α} {i : Nat} {a : α}
    (h : takeAt l i = some (a, l')) : l.countP p = l'.countP p + if p a then 1 else 0 := by
  rw [← (takeAt_perm h).countP_eq p, List.countP_cons]

/-- What can be taken out of a list can be taken out of a reordered one. -/
theorem takeAt_of_perm {l l' r : List α} {i : Nat} {a : α} (h : takeAt l i = some (a, l')) (hp : l.Perm r) :
    ∃ j r', takeAt r j = some (a, r') ∧ l'.Perm r' := by
  have hl := takeAt_perm h
  obtain ⟨j, hj, rfl⟩ := List.getElem_of_mem (hp.subset (hl.subset List.mem_cons_self))
  refine ⟨j, r.eraseIdx j, by simp [takeAt, List.getElem?_eq_getElem hj], ?_⟩
  exact (hl.trans (hp.trans (List.getElem_cons_eraseIdx_perm hj).symm)).cons_inv

theorem takeAt_zero_eq_none {l : List α} : takeAt l 0 = none ↔ l = [] := by
  cases l <;> simp [takeAt]

end Pending

/-! ## Thread pools -/

/-- A shared state and the local states of the threads. -/
structure Pool (G T : Type*) where
  shared : G
  threads : List T

namespace Pool

variable {G T A : Type*}

/-- Thread `i`'s atomic step, with the choice `a` of its environment. -/
def step (body : Nat → G → T → A → Option (G × T)) (st : Pool G T) (l : Nat × A) :
    Option (Pool G T) :=
  match st.threads[l.1]? with
  | none => none
  | some t => (body l.1 st.shared t l.2).map fun r => ⟨r.1, st.threads.set l.1 r.2⟩

/-- One atomic step of any thread at a time. -/
def interleave (init : Pool G T → Prop) (body : Nat → G → T → A → Option (G × T)) :
    LTS (Pool G T) (Nat × A) := LTS.ofFn init (step body)

variable {init : Pool G T → Prop} {body : Nat → G → T → A → Option (G × T)}

theorem step_iff {st st' : Pool G T} {l : Nat × A} :
    (interleave init body).step st l st' ↔ ∃ t g' t', st.threads[l.1]? = some t ∧
      body l.1 st.shared t l.2 = some (g', t') ∧ st' = ⟨g', st.threads.set l.1 t'⟩ := by
  simp only [interleave, LTS.ofFn, step]
  cases h : st.threads[l.1]? with
  | none => simp
  | some t =>
    simp only [Option.map_eq_some_iff, Prod.exists, Option.some.injEq]
    refine ⟨fun h => ?_, fun h => ?_⟩
    · obtain ⟨g', t', hb, he⟩ := h
      exact ⟨t, g', t', rfl, hb, he.symm⟩
    · obtain ⟨_, g', t', rfl, hb, he⟩ := h
      exact ⟨g', t', hb, he.symm⟩

/-- An invariant of every interleaving, from one step of one thread. -/
theorem inductive_of_body {I : Pool G T → Prop} (h₀ : ∀ st, init st → I st)
    (hb : ∀ st i a t g' t', I st → st.threads[i]? = some t → body i st.shared t a = some (g', t') →
      I ⟨g', st.threads.set i t'⟩) : (interleave init body).Inductive I where
  init := h₀
  step := by
    intro st l st' hI hs
    obtain ⟨t, g', t', ht, hbody, rfl⟩ := step_iff.1 hs
    exact hb st l.1 l.2 t g' t' hI ht hbody

theorem quiescent_iff {st : Pool G T} : (interleave init body).Quiescent st ↔
    ∀ i t a, st.threads[i]? = some t → body i st.shared t a = none := by
  constructor
  · intro h i t a ht
    cases hb : body i st.shared t a with
    | none => rfl
    | some r => exact absurd (step_iff.2 ⟨t, r.1, r.2, ht, hb, rfl⟩) (h (i, a) _)
  · intro h l st' hs
    obtain ⟨t, g', t', ht, hb, -⟩ := step_iff.1 hs
    rw [h l.1 t l.2 ht] at hb
    cases hb

end Pool

/-- A thread after a step of thread `i` is that thread or an old one. -/
theorem getElem?_set_cases {T : Type*} {ts : List T} {i j : Nat} {t' u : T}
    (h : (ts.set i t')[j]? = some u) : (j = i ∧ u = t') ∨ (j ≠ i ∧ ts[j]? = some u) := by
  by_cases hij : j = i
  · subst hij
    rw [List.getElem?_set] at h
    simp only [if_true] at h
    split at h
    · exact .inl ⟨rfl, (Option.some.inj h).symm⟩
    · cases h
  · rw [List.getElem?_set_ne (Ne.symm hij)] at h
    exact .inr ⟨hij, h⟩

/-- A thread after a new one is started is an old one or the new one. -/
theorem getElem?_concat_cases {T : Type*} {ts : List T} {i : Nat} {t u : T} (h : (ts ++ [t])[i]? = some u) :
    ts[i]? = some u ∨ (i = ts.length ∧ u = t) := by
  rw [List.getElem?_append] at h
  split at h
  · exact .inl h
  · rename_i hi
    have hlt : i - ts.length < [t].length := (List.getElem?_eq_some_iff.1 h).1
    rw [List.length_singleton] at hlt
    have hlen : i = ts.length := by omega
    rw [hlen, Nat.sub_self] at h
    exact .inr ⟨hlen, (Option.some.inj h).symm⟩

namespace Pool

variable {G T A : Type*} {init : Pool G T → Prop} {body : Nat → G → T → A → Option (G × T)}

/-- One thread `i` after the other runs from `t` to `f i t`. `I ks` holds of the
shared state when the threads `ks` are left. -/
theorem run_each {K : Type*} (key : K → Nat) {I : List K → G → Prop} {P : K → T → Prop} {f : Nat → T → T}
    (hrun : ∀ k ks (st : Pool G T) t, I (k :: ks) st.shared → st.threads[key k]? = some t → P k t →
      ∃ ls g', (interleave init body).Run st ls ⟨g', st.threads.set (key k) (f (key k) t)⟩ ∧ I ks g')
    {ks : List K} {s : Pool G T} (hnodup : (ks.map key).Nodup) (hI : I ks s.shared)
    (hP : ∀ k ∈ ks, ∃ t, s.threads[key k]? = some t ∧ P k t) :
    ∃ ls s', (interleave init body).Run s ls s' ∧ I [] s'.shared ∧
      ∀ j : Nat, s'.threads[j]? = s.threads[j]?.map fun t => if j ∈ ks.map key then f j t else t := by
  induction ks generalizing s with
  | nil =>
    refine ⟨[], s, .nil s, hI, fun j => ?_⟩
    simp
  | cons k ks ih =>
    rw [List.map_cons, List.nodup_cons] at hnodup
    obtain ⟨t, ht, hPt⟩ := hP k List.mem_cons_self
    obtain ⟨ls, g', hfirst, hI'⟩ := hrun k ks s t hI ht hPt
    have hrest : ∀ k' ∈ ks, ∃ t', (s.threads.set (key k) (f (key k) t))[key k']? = some t' ∧ P k' t' := by
      intro k' hk'
      have hne : key k ≠ key k' := fun heq => hnodup.1 (heq ▸ List.mem_map_of_mem hk')
      rw [List.getElem?_set_ne hne]
      exact hP k' (List.mem_cons_of_mem k hk')
    obtain ⟨ls', s', hlater, hend, hthreads⟩ := ih (s := ⟨g', _⟩) hnodup.2 hI' hrest
    refine ⟨ls ++ ls', s', hfirst.append hlater, hend, fun j => ?_⟩
    rw [hthreads]
    dsimp only
    by_cases hj : key k = j
    · subst hj
      rw [List.getElem?_set_self (List.getElem?_eq_some_iff.1 ht).1, ht, Option.map_some, Option.map_some,
        if_neg hnodup.1, if_pos (by simp)]
    · have hmem : j ∈ (k :: ks).map key ↔ j ∈ ks.map key := by
        rw [List.map_cons, List.mem_cons]
        exact or_iff_right (Ne.symm hj)
      rw [List.getElem?_set_ne hj]
      simp only [hmem]

end Pool

/-- What a thread keeps in its step, all threads keep. -/
theorem map_set_of_eq {T M : Type*} (f : T → M) {ts : List T} {i : Nat} {t : T} (h : ts[i]? = some t)
    (t' : T) (he : f t' = f t) : (ts.set i t').map f = ts.map f := by
  induction ts generalizing i with
  | nil => rfl
  | cons x ts ih =>
    cases i with
    | zero =>
      simp only [List.getElem?_cons_zero, Option.some.injEq] at h
      rw [List.set_cons_zero, List.map_cons, List.map_cons, he, h]
    | succ i =>
      rw [List.set_cons_succ, List.map_cons, List.map_cons, ih (by simpa using h)]

/-- A sum over the threads when one of them changes. -/
theorem sum_map_set {T M : Type*} [AddCommMonoid M] (w : T → M) {ts : List T} {i : Nat} {t : T}
    (h : ts[i]? = some t) (t' : T) :
    ((ts.set i t').map w).sum + w t = (ts.map w).sum + w t' := by
  induction ts generalizing i with
  | nil => simp at h
  | cons x ts ih =>
    cases i with
    | zero =>
      simp only [List.getElem?_cons_zero, Option.some.injEq] at h
      subst h
      simp only [List.set_cons_zero, List.map_cons, List.sum_cons]
      rw [add_right_comm, add_comm (w t') (w x), add_right_comm]
    | succ i =>
      have := ih (by simpa using h)
      simp only [List.set_cons_succ, List.map_cons, List.sum_cons]
      rw [add_assoc, this, add_assoc]

/-- What the threads hold together, when one of them changes. -/
theorem flatMap_set {α β : Type*} (f : α → List β) {l : List α} {i : Nat} {a : α} (h : l[i]? = some a)
    (b : α) : (f a ++ (l.set i b).flatMap f).Perm (f b ++ l.flatMap f) := by
  induction l generalizing i with
  | nil => cases h
  | cons x l ih =>
    cases i with
    | zero =>
      simp only [List.getElem?_cons_zero, Option.some.injEq] at h
      subst h
      simp only [List.set_cons_zero, List.flatMap_cons]
      exact List.perm_append_comm_assoc ..
    | succ i =>
      simp only [List.set_cons_succ, List.flatMap_cons]
      refine (List.perm_append_comm_assoc ..).trans ?_
      exact ((ih (by simpa using h)).append_left (f x)).trans (List.perm_append_comm_assoc ..)

/-- When one thread appends to what it holds. -/
theorem flatMap_set_append {α β : Type*} (f : α → List β) {l : List α} {i : Nat} {a b : α} (h : l[i]? = some a)
    {added : List β} (hb : f b = f a ++ added) : (l.flatMap f ++ added).Perm ((l.set i b).flatMap f) := by
  have hp := flatMap_set f h b
  rw [hb, List.append_assoc] at hp
  exact List.perm_append_comm.trans ((List.perm_append_left_iff _).1 hp).symm

/-! ## Monitors -/

section Monitors
variable {T : Type*} {inside : T → Bool} {ts : List T} {m m' : Option Nat}

/-- `m` says which thread is inside, if there is one. -/
structure Held (m : Option Nat) (ts : List T) (inside : T → Bool) : Prop where
  inside_iff : ∀ (i : Nat) (t : T), ts[i]? = some t → (inside t = true ↔ m = some i)
  owner : ∀ i : Nat, m = some i → ∃ t, ts[i]? = some t

/-- What a step of thread `i` may do to a monitor. -/
inductive Moves (i : Nat) (inside : T → Bool) (t t' : T) : Option Nat → Option Nat → Prop
  | stay (m : Option Nat) (h : inside t' = inside t) : Moves i inside t t' m m
  | enter (h : inside t' = true) : Moves i inside t t' none (some i)
  | leave (m : Option Nat) (h : inside t = true) (h' : inside t' = false) : Moves i inside t t' m none

theorem Held.set (h : Held m ts inside) {i : Nat} {t t' : T} (ht : ts[i]? = some t)
    (hm : Moves i inside t t' m m') : Held m' (ts.set i t') inside := by
  have hnew : (ts.set i t')[i]? = some t' := by
    rw [List.getElem?_set_self (List.getElem?_eq_some_iff.1 ht).1]
  cases hm with
  | stay _ hsame =>
    refine ⟨fun j u hu => ?_, fun j hj => ?_⟩
    · rcases getElem?_set_cases hu with ⟨rfl, rfl⟩ | ⟨-, hu⟩
      · rw [hsame]
        exact h.inside_iff j t ht
      · exact h.inside_iff j u hu
    · by_cases hij : i = j
      · exact ⟨t', hij ▸ hnew⟩
      · rw [List.getElem?_set_ne hij]
        exact h.owner j hj
  | enter hin =>
    refine ⟨fun j u hu => ?_, fun j hj => ⟨t', Option.some.inj hj ▸ hnew⟩⟩
    rcases getElem?_set_cases hu with ⟨rfl, rfl⟩ | ⟨hne, hu⟩
    · exact iff_of_true hin rfl
    · refine iff_of_false (fun hinside => ?_) fun hj => hne (Option.some.inj hj).symm
      cases (h.inside_iff j u hu).1 hinside
  | leave _ hin hout =>
    refine ⟨fun j u hu => ?_, fun j hj => by cases hj⟩
    rcases getElem?_set_cases hu with ⟨rfl, rfl⟩ | ⟨hne, hu⟩
    · simp [hout]
    · refine iff_of_false (fun hinside => hne ?_) (by simp)
      have hi := (h.inside_iff i t ht).1 hin
      have hj := (h.inside_iff j u hu).1 hinside
      exact Option.some.inj (hj.symm.trans hi)

theorem Held.unique (h : Held m ts inside) {i j : Nat} {t u : T} (ht : ts[i]? = some t) (hu : ts[j]? = some u)
    (hti : inside t = true) (huj : inside u = true) : i = j :=
  Option.some.inj (((h.inside_iff i t ht).1 hti).symm.trans ((h.inside_iff j u hu).1 huj))

end Monitors

end SensorSamplor.Core
