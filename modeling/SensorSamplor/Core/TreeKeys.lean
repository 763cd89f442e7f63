import Mathlib.Data.List.Sort
import SensorSamplor.Core.Greatest

/-!
# The keys of a `TreeMap`

`TreeKeys rank` are keys in strictly ascending order of their `rank`: what a
`java.util.TreeMap` holds when only its keys matter and two keys compare by
a rank that different keys can share. As there, `put` of a key whose rank is
taken keeps the old key.

The operations are described by the set of ranks they leave: `put` inserts
one, `pollFirst` takes the least away, and polling until at most `k` keys
are left leaves the `k` greatest (`ranks_keep`).
-/
namespace SensorSamplor.Core

variable {α β : Type*} [LinearOrder β]

@[ext] structure TreeKeys (rank : α → β) where
  keys : List α
  sorted : keys.Pairwise fun a b => rank a < rank b

namespace TreeKeys

variable {rank : α → β}

/-- `new TreeMap()`. -/
def empty : TreeKeys rank := ⟨[], .nil⟩

def size (t : TreeKeys rank) : Nat := t.keys.length

/-- `put(a, _)` on the list of keys. -/
def insertKey (rank : α → β) (a : α) : List α → List α
  | [] => [a]
  | b :: bs =>
    if rank a < rank b then a :: b :: bs
    else if rank b < rank a then b :: insertKey rank a bs
    else b :: bs

theorem mem_insertKey {a x : α} {l : List α} (h : x ∈ insertKey rank a l) : x = a ∨ x ∈ l := by
  induction l with
  | nil => simpa [insertKey] using h
  | cons b l ih =>
    simp only [insertKey] at h
    split at h
    · simpa using h
    · split at h
      · rcases List.mem_cons.1 h with rfl | h
        · exact .inr List.mem_cons_self
        · exact (ih h).imp_right (List.mem_cons_of_mem b)
      · exact .inr h

theorem mem_insertKey_of_mem (a : α) {x : α} {l : List α} (h : x ∈ l) : x ∈ insertKey rank a l := by
  induction l with
  | nil => cases h
  | cons b l ih =>
    simp only [insertKey]
    split
    · exact List.mem_cons_of_mem a h
    · split
      · rcases List.mem_cons.1 h with rfl | h
        · exact List.mem_cons_self
        · exact List.mem_cons_of_mem b (ih h)
      · exact h

theorem insertKey_eq_self {a : α} {l : List α} (hl : l.Pairwise fun a b => rank a < rank b)
    (h : ∃ x ∈ l, rank x = rank a) : insertKey rank a l = l := by
  induction l with
  | nil =>
    obtain ⟨x, hx, -⟩ := h
    cases hx
  | cons b l ih =>
    obtain ⟨hb, hl⟩ := List.pairwise_cons.1 hl
    obtain ⟨x, hx, hxa⟩ := h
    have hba : rank b ≤ rank a := by
      rcases List.mem_cons.1 hx with rfl | hx
      · exact hxa.le
      · exact hxa ▸ (hb x hx).le
    simp only [insertKey]
    rw [if_neg (not_lt.2 hba)]
    split
    · rename_i hlt
      rcases List.mem_cons.1 hx with rfl | hx
      · exact absurd hxa hlt.ne
      · rw [ih hl ⟨x, hx, hxa⟩]
    · rfl

theorem pairwise_insertKey (a : α) {l : List α} (h : l.Pairwise fun a b => rank a < rank b) :
    (insertKey rank a l).Pairwise fun a b => rank a < rank b := by
  induction l with
  | nil => exact List.pairwise_singleton _ a
  | cons b l ih =>
    obtain ⟨hb, hl⟩ := List.pairwise_cons.1 h
    simp only [insertKey]
    split
    · rename_i hab
      refine List.pairwise_cons.2 ⟨fun x hx => ?_, h⟩
      rcases List.mem_cons.1 hx with rfl | hx
      · exact hab
      · exact hab.trans (hb x hx)
    · split
      · rename_i hba
        refine List.pairwise_cons.2 ⟨fun x hx => ?_, ih hl⟩
        rcases mem_insertKey hx with rfl | hx
        · exact hba
        · exact hb x hx
      · exact h

/-- `put(a, _)`. -/
def put (t : TreeKeys rank) (a : α) : TreeKeys rank :=
  ⟨insertKey rank a t.keys, pairwise_insertKey a t.sorted⟩

/-- `pollFirstEntry()`. -/
def pollFirst (t : TreeKeys rank) : TreeKeys rank := ⟨t.keys.tail, t.sorted.tail⟩

/-! ## What the operations keep -/

theorem mem_put {t : TreeKeys rank} {a x : α} (h : x ∈ (t.put a).keys) : x = a ∨ x ∈ t.keys :=
  mem_insertKey h

theorem size_pollFirst (t : TreeKeys rank) : t.pollFirst.size = t.size - 1 := List.length_tail

/-- The ranks in use. -/
def ranks (t : TreeKeys rank) : Finset β := (t.keys.map rank).toFinset

theorem mem_ranks {t : TreeKeys rank} {b : β} : b ∈ t.ranks ↔ ∃ a ∈ t.keys, rank a = b := by
  simp [ranks]

theorem nodup_ranks (t : TreeKeys rank) : (t.keys.map rank).Nodup :=
  List.pairwise_map.2 (t.sorted.imp fun h => ne_of_lt h)

theorem card_ranks (t : TreeKeys rank) : t.ranks.card = t.size := by
  rw [ranks, List.toFinset_card_of_nodup t.nodup_ranks, List.length_map, size]

theorem ranks_put (t : TreeKeys rank) (a : α) : (t.put a).ranks = insert (rank a) t.ranks := by
  obtain ⟨l, hl⟩ := t
  simp only [put, ranks]
  clear hl
  induction l with
  | nil => rfl
  | cons b l ih =>
    simp only [insertKey]
    split
    · simp
    · split
      · simp only [List.map_cons, List.toFinset_cons, ih]
        exact Finset.insert_comm _ _ _
      · rename_i h₁ h₂
        have : rank a = rank b := le_antisymm (not_lt.1 h₂) (not_lt.1 h₁)
        simp [this]

theorem eq_of_rank {t : TreeKeys rank} {a b : α} (ha : a ∈ t.keys) (hb : b ∈ t.keys)
    (h : rank a = rank b) : a = b := List.inj_on_of_nodup_map t.nodup_ranks ha hb h

theorem mem_put_of_mem {t : TreeKeys rank} (a : α) {x : α} (h : x ∈ t.keys) : x ∈ (t.put a).keys :=
  mem_insertKey_of_mem a h

/-- A key whose rank is taken is not put. -/
theorem put_of_mem_ranks {t : TreeKeys rank} {a : α} (h : rank a ∈ t.ranks) : t.put a = t :=
  TreeKeys.ext (insertKey_eq_self t.sorted (mem_ranks.1 h))

theorem mem_put_self {t : TreeKeys rank} {a : α} (h : rank a ∉ t.ranks) : a ∈ (t.put a).keys := by
  have hrank : rank a ∈ (t.put a).ranks := by rw [ranks_put]; exact Finset.mem_insert_self _ _
  obtain ⟨x, hx, hxa⟩ := mem_ranks.1 hrank
  rcases mem_put hx with rfl | hold
  · exact hx
  · exact absurd (mem_ranks.2 ⟨x, hold, hxa⟩) h

/-- Maps with the same keys are the same: both are in ascending order. -/
theorem eq_of_mem_iff {t t' : TreeKeys rank} (h : ∀ x, x ∈ t.keys ↔ x ∈ t'.keys) : t = t' := by
  have hnodup : ∀ t : TreeKeys rank, t.keys.Nodup := fun t => t.nodup_ranks.of_map _
  have hperm := (List.perm_ext_iff_of_nodup (hnodup t) (hnodup t')).2 h
  refine TreeKeys.ext (hperm.eq_of_pairwise (fun x y _ _ hxy hyx => ?_) t.sorted t'.sorted)
  exact absurd hyx (not_lt.2 hxy.le)

theorem eq_of_subset_of_ranks {t t' : TreeKeys rank} (h : ∀ x ∈ t.keys, x ∈ t'.keys)
    (hranks : t.ranks = t'.ranks) : t = t' := by
  refine eq_of_mem_iff fun x => ⟨h x, fun hx => ?_⟩
  obtain ⟨y, hy, hyx⟩ := mem_ranks.1 (hranks ▸ mem_ranks.2 ⟨x, hx, rfl⟩)
  rwa [← eq_of_rank (h y hy) hx hyx]

/-- The key of the greatest rank is the last one. -/
theorem getLast?_of_greatest {t : TreeKeys rank} {a : α} (ha : a ∈ t.keys)
    (h : ∀ x ∈ t.keys, rank x ≤ rank a) : t.keys.getLast? = some a := by
  obtain ⟨init, b, hkeys⟩ := (List.eq_nil_or_concat' t.keys).resolve_left (List.ne_nil_of_mem ha)
  have hsorted := t.sorted
  rw [hkeys] at ha h hsorted ⊢
  rcases List.mem_append.1 ha with ha | ha
  · have hlt := (List.pairwise_append.1 hsorted).2.2 a ha b List.mem_cons_self
    exact absurd (h b (by simp)) (not_le.2 hlt)
  · rw [List.getLast?_concat, List.mem_singleton.1 ha]

theorem put_ne_nil (t : TreeKeys rank) (a : α) : (t.put a).keys ≠ [] := by
  intro h
  have : rank a ∈ (t.put a).ranks := by rw [ranks_put]; exact Finset.mem_insert_self _ _
  obtain ⟨x, hx, -⟩ := mem_ranks.1 this
  rw [h] at hx
  cases hx

theorem size_put_le (t : TreeKeys rank) (a : α) : (t.put a).size ≤ t.size + 1 := by
  rw [← card_ranks, ← card_ranks, ranks_put]
  exact Finset.card_insert_le _ _

/-! ## Cutting to the greatest keys -/

/-- Poll until at most `k` keys are left. -/
def keep (k : Nat) (t : TreeKeys rank) : TreeKeys rank :=
  ⟨t.keys.drop (t.size - k), t.sorted.drop⟩

theorem keep_of_size_le {k : Nat} {t : TreeKeys rank} (h : t.size ≤ k) : t.keep k = t := by
  apply TreeKeys.ext
  show t.keys.drop (t.size - k) = t.keys
  rw [Nat.sub_eq_zero_of_le h]; rfl

theorem keep_pollFirst {k : Nat} {t : TreeKeys rank} (h : k < t.size) : t.pollFirst.keep k = t.keep k := by
  apply TreeKeys.ext
  show t.keys.tail.drop (t.pollFirst.size - k) = t.keys.drop (t.size - k)
  rw [size_pollFirst, List.drop_tail]
  congr 1
  omega

theorem size_keep (k : Nat) (t : TreeKeys rank) : (t.keep k).size ≤ k := by
  simp only [keep, size, List.length_drop]
  omega

theorem mem_keep {k : Nat} {t : TreeKeys rank} {x : α} (h : x ∈ (t.keep k).keys) : x ∈ t.keys :=
  List.mem_of_mem_drop h

theorem ranks_keep (k : Nat) (t : TreeKeys rank) : (t.keep k).ranks = greatest k t.ranks := by
  induction hn : t.size generalizing t with
  | zero =>
    rw [keep_of_size_le (by omega), greatest_of_card_le (by rw [card_ranks]; omega)]
  | succ n ih =>
    by_cases hk : t.size ≤ k
    · rw [keep_of_size_le hk, greatest_of_card_le (by rw [card_ranks]; exact hk)]
    · rw [← keep_pollFirst (by omega), ih t.pollFirst (by rw [size_pollFirst]; omega)]
      obtain ⟨l, hl⟩ := t
      cases l with
      | nil => cases hn
      | cons a l =>
        have hmin : ∀ b ∈ (⟨l, hl.tail⟩ : TreeKeys rank).ranks, rank a < b := by
          intro b hb
          obtain ⟨x, hx, rfl⟩ := mem_ranks.1 hb
          exact (List.pairwise_cons.1 hl).1 x hx
        have hcard : k ≤ (⟨l, hl.tail⟩ : TreeKeys rank).ranks.card := by
          rw [card_ranks]
          simp only [size, List.length_cons] at hk ⊢
          omega
        have hins : (⟨a :: l, hl⟩ : TreeKeys rank).ranks =
            insert (rank a) (⟨l, hl.tail⟩ : TreeKeys rank).ranks := by
          simp [ranks]
        rw [hins, greatest_insert_least hmin hcard]
        rfl

/-- To cut a map and put a key once more changes nothing, unless the key has
filled the map up and is not its least. -/
theorem put_keep_put_iff {k : Nat} {t : TreeKeys rank} {a : α} (h : t.size ≤ k) :
    ((t.put a).keep k).put a = t.put a ↔
      t.size < k ∨ rank a ∈ t.ranks ∨ ∀ b ∈ t.ranks, rank a < b := by
  by_cases ha : rank a ∈ t.ranks
  · rw [put_of_mem_ranks ha, keep_of_size_le h, put_of_mem_ranks ha]
    exact ⟨fun _ => .inr (.inl ha), fun _ => rfl⟩
  · rw [← card_ranks] at h ⊢
    rw [← insert_greatest_insert_iff h, ← ranks_put, ← ranks_keep, ← ranks_put]
    refine ⟨fun heq => by rw [heq], fun hranks => eq_of_subset_of_ranks (fun x hx => ?_) hranks⟩
    rcases mem_put hx with rfl | hx
    · exact mem_put_self ha
    · exact mem_keep hx

end TreeKeys
end SensorSamplor.Core
