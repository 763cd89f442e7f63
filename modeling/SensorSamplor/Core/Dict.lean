import Mathlib.Data.List.AList
import Mathlib.Data.List.Dedup

/-!
# Finite maps as the JDK's `Map` is used

`Dict κ ν` is Mathlib's `AList`: distinct keys by construction, `insert`
replaces. The iteration order of a `HashMap` or a `ConcurrentMap` is not
specified, so nothing below states one; what is stated is what a lookup
returns after a loop of puts.

* `lookup_foldl_insert`: a loop of puts leaves, at each key, the last value
  put there, and the old value where none was put.
* `updateWith`, `lookup_updateWith`: a loop over one map's entries that
  changes another map at each entry's key.
* `Rel`: two maps with the same keys and related values, the equality of
  nested maps up to the order of their keys.
-/
namespace SensorSamplor.Core

abbrev Dict (κ ν : Type*) := AList (fun _ : κ => ν)

namespace Dict

variable {κ ν μ α : Type*}

/-- `map.values()`. -/
def values (m : Dict κ ν) : List ν := m.entries.map (·.2)

variable [DecidableEq κ]

/-- Decided on the entries, without a cast, so that it evaluates. -/
instance [DecidableEq ν] : DecidableEq (Dict κ ν) := fun a b =>
  decidable_of_iff (a.entries = b.entries) AList.ext_iff.symm

theorem exists_lookup {m : Dict κ ν} {k : κ} (h : k ∈ m) : ∃ v, m.lookup k = some v :=
  Option.isSome_iff_exists.1 (AList.lookup_isSome.2 h)

theorem mem_of_lookup {m : Dict κ ν} {k : κ} {v : ν} (h : m.lookup k = some v) : k ∈ m :=
  AList.lookup_isSome.1 (by rw [h]; rfl)

theorem mem_values {m : Dict κ ν} {v : ν} : v ∈ m.values ↔ ∃ k, m.lookup k = some v := by
  simp only [values, List.mem_map, Sigma.exists, ← Option.mem_def, AList.mem_lookup_iff]
  exact ⟨fun ⟨k, w, hm, hw⟩ => ⟨k, hw ▸ hm⟩, fun ⟨k, hm⟩ => ⟨k, v, hm, rfl⟩⟩

/-- When every value is stored under the key it computes, the values with
key `k` are the value stored at `k`. -/
theorem filter_values {key : ν → κ} {m : Dict κ ν} (hkey : ∀ k v, m.lookup k = some v → key v = k)
    (k : κ) : m.values.filter (fun v => decide (key v = k)) = (m.lookup k).toList := by
  obtain ⟨es, nd⟩ := m
  induction es with
  | nil => rfl
  | cons e es ih =>
    obtain ⟨k', v⟩ := e
    have hv : key v = k' := hkey k' v (by simp [AList.lookup])
    have hnot : k' ∉ es.keys := List.notMem_keys_of_nodupKeys_cons nd
    have ih' := ih (List.nodupKeys_of_nodupKeys_cons nd) (fun a b h => hkey a b (by
      have hne : a ≠ k' := by
        rintro rfl
        exact hnot (List.dlookup_isSome.1 (by simp only [AList.lookup] at h; simp [h]))
      simpa [AList.lookup, List.dlookup_cons_ne es ⟨k', v⟩ hne] using h))
    simp only [values, List.map_cons, List.filter_cons, hv] at ih' ⊢
    by_cases h : k' = k
    · subst h
      have : List.dlookup k' es = none := List.dlookup_eq_none.2 hnot
      simp only [AList.lookup, this, Option.toList_none] at ih'
      simp [AList.lookup, ih']
    · have : List.dlookup k (⟨k', v⟩ :: es) = List.dlookup k es :=
        List.dlookup_cons_ne es ⟨k', v⟩ (Ne.symm h)
      simpa [h, AList.lookup, this] using ih'

theorem lookup_insert_eq_some {m : Dict κ ν} {a k : κ} {b v : ν} (h : (m.insert a b).lookup k = some v) :
    v = b ∨ m.lookup k = some v := by
  by_cases hk : k = a
  · subst hk
    rw [AList.lookup_insert, Option.some.injEq] at h
    exact .inl h.symm
  · rw [AList.lookup_insert_ne hk] at h
    exact .inr h

/-! ## Loops of puts -/

/-- The last of the values put at `k`, else what was there. -/
theorem lookup_foldl_insert (f : α → κ) (g : α → ν) (xs : List α) (m : Dict κ ν) (k : κ) :
    (xs.foldl (fun m x => m.insert (f x) (g x)) m).lookup k =
      (((xs.filter (fun x => decide (f x = k))).getLast?).map g).or (m.lookup k) := by
  induction xs generalizing m with
  | nil => simp
  | cons x xs ih =>
    rw [List.foldl_cons, ih, List.filter_cons]
    by_cases h : f x = k
    · subst h
      rw [AList.lookup_insert]
      cases hl : (xs.filter (fun y => decide (f y = f x))).getLast? <;>
        simp [List.getLast?_cons, hl]
    · rw [AList.lookup_insert_ne (Ne.symm h)]
      simp [h]

/-- A loop that puts one and the same value at each of `ks`. -/
theorem lookup_foldl_insert_const (v : ν) (ks : List κ) (m : Dict κ ν) (k : κ) :
    (ks.foldl (fun m k => m.insert k v) m).lookup k = if k ∈ ks then some v else m.lookup k := by
  rw [lookup_foldl_insert (fun k => k) (fun _ => v)]
  by_cases h : k ∈ ks
  · have hmem : k ∈ ks.filter (fun x => decide (x = k)) := by simp [h]
    obtain ⟨y, hy⟩ := Option.ne_none_iff_exists'.1
      (mt List.getLast?_eq_none_iff.1 (List.ne_nil_of_mem hmem))
    simp [h, hy]
  · have hnil : ks.filter (fun x => decide (x = k)) = [] := by
      rw [List.filter_eq_nil_iff]
      intro x hx hxk
      exact h (of_decide_eq_true hxk ▸ hx)
    simp [h, hnil]

/-- A value that no other one replaces is what the loop leaves at its key. -/
theorem lookup_foldl_insert_own {f : α → κ} {g : α → ν} {xs : List α} {x : α} (hx : x ∈ xs)
    (hown : ∀ y ∈ xs, f y = f x → g y = g x) :
    (xs.foldl (fun m x => m.insert (f x) (g x)) (∅ : Dict κ ν)).lookup (f x) = some (g x) := by
  rw [lookup_foldl_insert]
  have hmem : x ∈ xs.filter (fun y => decide (f y = f x)) := by simp [hx]
  obtain ⟨y, hy⟩ := Option.ne_none_iff_exists'.1
    (mt List.getLast?_eq_none_iff.1 (List.ne_nil_of_mem hmem))
  obtain ⟨hyxs, hyx⟩ := List.mem_filter.1 (List.mem_of_getLast? hy)
  rw [hy, Option.map_some, hown y hyxs (of_decide_eq_true hyx)]
  rfl

theorem mem_keys_foldl_insert {f : α → κ} {g : α → ν} {xs : List α} {k : κ} :
    k ∈ (xs.foldl (fun m x => m.insert (f x) (g x)) (∅ : Dict κ ν)).keys ↔ k ∈ xs.map f := by
  have hkeys : ∀ m : Dict κ ν, k ∈ m.keys ↔ (m.lookup k).isSome = true :=
    fun m => AList.lookup_isSome.symm
  rw [hkeys, lookup_foldl_insert, List.mem_map]
  constructor
  · intro h
    cases hl : (xs.filter fun x => decide (f x = k)).getLast? with
    | none => simp [hl] at h
    | some x =>
      obtain ⟨hx, hxk⟩ := List.mem_filter.1 (List.mem_of_getLast? hl)
      exact ⟨x, hx, of_decide_eq_true hxk⟩
  · intro h
    obtain ⟨x, hx, rfl⟩ := h
    have hmem : x ∈ xs.filter (fun y => decide (f y = f x)) := by simp [hx]
    cases hl : (xs.filter fun y => decide (f y = f x)).getLast? with
    | none => simp [List.getLast?_eq_none_iff.1 hl] at hmem
    | some y => rfl

/-- A loop of puts leaves a key for each of its rounds when no two put at the same. -/
theorem length_keys_foldl_insert_iff {f : α → κ} {g : α → ν} {xs : List α} :
    (xs.foldl (fun m x => m.insert (f x) (g x)) (∅ : Dict κ ν)).keys.length = xs.length ↔
      (xs.map f).Nodup := by
  have hperm : (xs.foldl (fun m x => m.insert (f x) (g x)) (∅ : Dict κ ν)).keys.Perm (xs.map f).dedup := by
    refine (List.perm_ext_iff_of_nodup (AList.keys_nodup _) (List.nodup_dedup _)).2 fun k => ?_
    rw [mem_keys_foldl_insert, List.mem_dedup]
  rw [hperm.length_eq, ← List.length_map f]
  constructor
  · intro hlen
    rw [← (List.dedup_sublist (xs.map f)).eq_of_length hlen]
    exact List.nodup_dedup _
  · intro hnodup
    rw [hnodup.dedup]

/-- A loop over the entries of `d` that replaces, in `acc`, the value at each
entry's key `k` by `g k v` of the value found there. -/
def updateWith (g : κ → ν → Option μ → μ) (d : Dict κ ν) (acc : Dict κ μ) : Dict κ μ :=
  d.entries.foldl (fun m e => m.insert e.1 (g e.1 e.2 (m.lookup e.1))) acc

theorem lookup_updateWith (g : κ → ν → Option μ → μ) (d : Dict κ ν) (acc : Dict κ μ) (k : κ) :
    (updateWith g d acc).lookup k =
      match d.lookup k with
      | some v => some (g k v (acc.lookup k))
      | none => acc.lookup k := by
  obtain ⟨es, nd⟩ := d
  simp only [updateWith, AList.lookup]
  induction es generalizing acc with
  | nil => rfl
  | cons e es ih =>
    obtain ⟨k', v⟩ := e
    have hnot : k' ∉ es.keys := List.notMem_keys_of_nodupKeys_cons nd
    have ih' := ih (acc.insert k' (g k' v (acc.lookup k'))) (List.nodupKeys_of_nodupKeys_cons nd)
    simp only [AList.lookup] at ih'
    rw [List.foldl_cons, ih']
    by_cases h : k = k'
    · subst h
      rw [List.dlookup_eq_none.2 hnot, List.dlookup_cons_eq]
      simp
    · rw [List.dlookup_cons_ne es ⟨k', v⟩ h]
      have hl : (acc.insert k' (g k' v (acc.lookup k'))).lookup k = acc.lookup k :=
        AList.lookup_insert_ne h
      simp only [AList.lookup] at hl
      rw [hl]

/-- A loop that puts `f v` at `k` for every entry `(k, v)`, into an empty map. -/
def build (f : ν → μ) (d : Dict κ ν) : Dict κ μ := updateWith (fun _ v _ => f v) d ∅

@[simp] theorem lookup_build (f : ν → μ) (d : Dict κ ν) (k : κ) :
    (build f d).lookup k = (d.lookup k).map f := by
  rw [build, lookup_updateWith]
  cases d.lookup k <;> rfl

/-! ## Same keys, related values -/

def Rel (R : ν → μ → Prop) (m : Dict κ ν) (m' : Dict κ μ) : Prop :=
  ∀ k, Option.Rel R (m.lookup k) (m'.lookup k)

theorem Rel.refl {R : ν → ν → Prop} (hR : ∀ v, R v v) (m : Dict κ ν) : Rel R m m := by
  intro k
  cases m.lookup k with
  | none => exact .none
  | some v => exact .some (hR v)

theorem rel_build {f : ν → μ} {R : ν → μ → Prop} {m : Dict κ ν}
    (hR : ∀ k v, m.lookup k = some v → R v (f v)) : Rel R m (build f m) := by
  intro k
  rw [lookup_build]
  cases h : m.lookup k with
  | none => exact .none
  | some v => exact .some (hR k v h)

/-- Building from related maps gives related maps. -/
theorem Rel.build {ν' μ' : Type*} {R : ν → μ → Prop} {R' : ν' → μ' → Prop} {f : ν → ν'} {g : μ → μ'}
    {m : Dict κ ν} {m' : Dict κ μ} (h : Rel R m m') (hfg : ∀ v w, R v w → R' (f v) (g w)) :
    Rel R' (build f m) (build g m') := by
  intro k
  have hk := h k
  rw [lookup_build, lookup_build]
  generalize m.lookup k = a at hk ⊢
  generalize m'.lookup k = b at hk ⊢
  cases hk with
  | none => exact .none
  | some hr => exact .some (hfg _ _ hr)

/-- A lookup in related maps, where there may be none. -/
theorem Rel.bind_lookup {R : ν → μ → Prop} {m : Option (Dict κ ν)} {m' : Option (Dict κ μ)}
    (h : Option.Rel (Rel R) m m') (k : κ) :
    Option.Rel R (m.bind (·.lookup k)) (m'.bind (·.lookup k)) := by
  cases h with
  | none => exact .none
  | some hr => exact hr k

theorem eq_of_rel {v w : Option ν} (h : Option.Rel (· = ·) v w) : v = w := by
  cases h with
  | none => rfl
  | some hr => rw [hr]

end Dict
end SensorSamplor.Core
