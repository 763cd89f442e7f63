import Mathlib.Data.List.Forall2

/-!
# Outcomes of computations that may fail

When a sequence of fallible computations completes (`mapM_eq_ok`), and when
two computations have the same outcome: both complete with the same result,
or both fail (`SameOutcome`).
-/
namespace SensorSamplor.Core

universe u

variable {ε α β : Type} {γ : Type u}

theorem bind_eq_ok {x : Except ε α} {f : α → Except ε β} {b : β} :
    x >>= f = .ok b ↔ ∃ a, x = .ok a ∧ f a = .ok b := by
  cases x with
  | error e =>
    refine ⟨fun h => ?_, fun ⟨_, h, _⟩ => ?_⟩
    · cases h
    · cases h
  | ok a =>
    refine ⟨fun h => ⟨a, rfl, h⟩, fun ⟨_, ha, h⟩ => ?_⟩
    cases ha
    exact h

theorem map_eq_ok {x : Except ε α} {f : α → β} {b : β} :
    x.map f = .ok b ↔ ∃ a, x = .ok a ∧ f a = b := by
  cases x <;> simp [Except.map]

/-- A loop of fallible computations completes when each of them does. -/
theorem mapM_eq_ok {f : γ → Except ε β} {xs : List γ} {ys : List β} :
    xs.mapM f = .ok ys ↔ List.Forall₂ (fun x y => f x = .ok y) xs ys := by
  induction xs generalizing ys with
  | nil =>
    rw [List.mapM_nil, List.forall₂_nil_left_iff]
    exact ⟨fun h => by cases h; rfl, fun h => by rw [h]; rfl⟩
  | cons x xs ih =>
    simp only [List.mapM_cons, bind_eq_ok, List.forall₂_cons_left_iff, ih]
    refine ⟨fun ⟨y, hy, zs, hzs, h⟩ => ?_, fun ⟨y, zs, hy, hzs, h⟩ => ?_⟩
    · cases h
      exact ⟨y, zs, hy, hzs, rfl⟩
    · exact ⟨y, hy, zs, hzs, by rw [h]; rfl⟩

theorem exists_forall₂ {R : γ → β → Prop} {xs : List γ} :
    (∃ ys, List.Forall₂ R xs ys) ↔ ∀ x ∈ xs, ∃ y, R x y := by
  induction xs with
  | nil => simp
  | cons x xs ih =>
    rw [List.forall_mem_cons, ← ih]
    refine ⟨fun ⟨ys, h⟩ => ?_, fun ⟨⟨y, hy⟩, ys, hys⟩ => ⟨y :: ys, .cons hy hys⟩⟩
    obtain ⟨y, ys', hy, hys, -⟩ := List.forall₂_cons_left_iff.1 h
    exact ⟨⟨y, hy⟩, ys', hys⟩

theorem mapM_eq_error {f : γ → Except ε β} {xs : List γ} {e : ε} (h : xs.mapM f = .error e) :
    ∃ x ∈ xs, f x = .error e := by
  induction xs with
  | nil => cases h
  | cons x xs ih =>
    rw [List.mapM_cons] at h
    cases hx : f x with
    | error e' =>
      rw [hx] at h
      cases h
      exact ⟨x, List.mem_cons_self, hx⟩
    | ok y =>
      cases hxs : xs.mapM f with
      | error e' =>
        rw [hx, hxs] at h
        cases h
        obtain ⟨x', hx', he⟩ := ih hxs
        exact ⟨x', List.mem_cons_of_mem x hx', he⟩
      | ok ys => rw [hx, hxs] at h; cases h

/-- Each of the first ones has a partner. -/
theorem forall₂_mem_left {R : γ → β → Prop} {xs : List γ} {ys : List β} (h : List.Forall₂ R xs ys) {x : γ}
    (hx : x ∈ xs) : ∃ y ∈ ys, R x y := by
  induction h with
  | nil => cases hx
  | @cons x' y' xs ys hR _ ih =>
    rcases List.mem_cons.1 hx with rfl | hx
    · exact ⟨y', List.mem_cons_self, hR⟩
    · obtain ⟨y, hy, hxy⟩ := ih hx
      exact ⟨y, List.mem_cons_of_mem y' hy, hxy⟩

theorem forall₂_mem_right {R : γ → β → Prop} {xs : List γ} {ys : List β} (h : List.Forall₂ R xs ys) {y : β}
    (hy : y ∈ ys) : ∃ x ∈ xs, R x y := by
  induction h with
  | nil => cases hy
  | @cons x' y' xs ys hR _ ih =>
    rcases List.mem_cons.1 hy with rfl | hy
    · exact ⟨x', List.mem_cons_self, hR⟩
    · obtain ⟨x, hx, hxy⟩ := ih hy
      exact ⟨x, List.mem_cons_of_mem x' hx, hxy⟩

/-- Partners with equal names: the same names in the same order. -/
theorem forall₂_map_eq {δ : Type*} {R : γ → β → Prop} {f : γ → δ} {g : β → δ} {xs : List γ} {ys : List β}
    (h : List.Forall₂ R xs ys) (hR : ∀ x y, R x y → g y = f x) : ys.map g = xs.map f := by
  induction h with
  | nil => rfl
  | cons hxy _ ih => rw [List.map_cons, List.map_cons, hR _ _ hxy, ih]

theorem forall₂_congr_mem {R S : γ → β → Prop} {xs : List γ} {ys : List β}
    (h : ∀ x ∈ xs, ∀ y, R x y ↔ S x y) : List.Forall₂ R xs ys ↔ List.Forall₂ S xs ys := by
  rw [List.forall₂_iff_zip, List.forall₂_iff_zip]
  refine and_congr_right' ⟨fun hR x y hxy => ?_, fun hS x y hxy => ?_⟩
  · exact (h x (List.of_mem_zip hxy).1 y).1 (hR hxy)
  · exact (h x (List.of_mem_zip hxy).1 y).2 (hS hxy)

theorem forall₂_conj_iff {R S : γ → β → Prop} {xs : List γ} {ys : List β} :
    List.Forall₂ (fun x y => R x y ∧ S x y) xs ys ↔ List.Forall₂ R xs ys ∧ List.Forall₂ S xs ys := by
  simp only [List.forall₂_iff_zip]
  refine ⟨fun h => ?_, fun h => ?_⟩
  · exact ⟨⟨h.1, fun hxy => (h.2 hxy).1⟩, h.1, fun hxy => (h.2 hxy).2⟩
  · exact ⟨h.1.1, fun hxy => ⟨h.1.2 hxy, h.2.2 hxy⟩⟩

/-- A loop that keeps what its rounds made and stops at the first failure. -/
def untilError (f : γ → Except ε β) : List γ → List β × Option ε
  | [] => ([], none)
  | x :: xs =>
    match f x with
    | .error e => ([], some e)
    | .ok y => (y :: (untilError f xs).1, (untilError f xs).2)

/-- What is kept comes from the rounds before the first one that fails. -/
theorem untilError_spec (f : γ → Except ε β) (xs : List γ) : ∃ done rest, xs = done ++ rest ∧
    List.Forall₂ (fun x y => f x = .ok y) done (untilError f xs).1 ∧
    (rest = [] ∧ (untilError f xs).2 = none ∨
      ∃ x rest' e, rest = x :: rest' ∧ f x = .error e ∧ (untilError f xs).2 = some e) := by
  induction xs with
  | nil => exact ⟨[], [], rfl, .nil, .inl ⟨rfl, rfl⟩⟩
  | cons x xs ih =>
    unfold untilError
    cases hx : f x with
    | error e => exact ⟨[], x :: xs, rfl, .nil, .inr ⟨x, xs, e, rfl, hx, rfl⟩⟩
    | ok y =>
      obtain ⟨done, rest, rfl, hdone, hrest⟩ := ih
      exact ⟨x :: done, rest, rfl, .cons hx hdone, hrest⟩

/-- Both complete with the same result, or both fail. -/
def SameOutcome : Except ε α → Except ε α → Prop
  | .ok a, .ok a' => a = a'
  | .error _, .error _ => True
  | _, _ => False

theorem sameOutcome_iff {r r' : Except ε α} : SameOutcome r r' ↔ ∀ a, r = .ok a ↔ r' = .ok a := by
  cases r with
  | error e =>
    cases r' with
    | error e' => simp [SameOutcome]
    | ok a' => simp [SameOutcome]
  | ok a =>
    cases r' with
    | error e' => simp [SameOutcome]
    | ok a' =>
      simp only [SameOutcome, Except.ok.injEq]
      exact ⟨fun h b => by rw [h], fun h => ((h a').2 rfl)⟩

/-- Two computations with the same results that wait for different gates
differ only in the gates, unless there is no result at all. -/
theorem sameOutcome_iff_of_gates {r r' : Except ε α} {gate gate' : Prop} {result : α → Prop}
    (h : ∀ a, r = .ok a ↔ gate ∧ result a) (h' : ∀ a, r' = .ok a ↔ gate' ∧ result a) :
    SameOutcome r r' ↔ (¬ ∃ a, result a) ∨ (gate ↔ gate') := by
  simp only [sameOutcome_iff, h, h', and_congr_left_iff]
  by_cases hr : ∃ a, result a
  · obtain ⟨a, ha⟩ := hr
    exact ⟨fun hg => .inr (hg a ha), fun hg b _ => hg.resolve_left (fun hn => hn ⟨a, ha⟩)⟩
  · exact ⟨fun _ => .inl hr, fun _ a ha => absurd ⟨a, ha⟩ hr⟩

end SensorSamplor.Core
