import Mathlib.Data.Finset.Card
import Mathlib.Data.Finset.Max

/-!
# The `k` greatest elements of a finite set

`greatest k s` are the elements of `s` with fewer than `k` greater ones in
`s`. A window that cuts itself to its `k` greatest elements before it takes
the next one in keeps, besides that one, the `k` greatest of all it has seen
before (`greatest_insert_greatest`); that this is the same as the `k + 1`
greatest of all depends on the newcomer alone (`insert_greatest_iff`).
-/
namespace SensorSamplor.Core

variable {β : Type*} [LinearOrder β]

/-- The elements of `s` above `b`. -/
def above (s : Finset β) (b : β) : Finset β := s.filter (b < ·)

def greatest (k : Nat) (s : Finset β) : Finset β := s.filter fun b => (above s b).card < k

theorem mem_above {s : Finset β} {a b : β} : a ∈ above s b ↔ a ∈ s ∧ b < a := by simp [above]

theorem mem_greatest {k : Nat} {s : Finset β} {b : β} :
    b ∈ greatest k s ↔ b ∈ s ∧ (above s b).card < k := by simp [greatest]

theorem greatest_subset (k : Nat) (s : Finset β) : greatest k s ⊆ s := Finset.filter_subset _ _

theorem above_mono {s t : Finset β} (h : s ⊆ t) (b : β) : above s b ⊆ above t b :=
  Finset.filter_subset_filter _ h

theorem above_anti (s : Finset β) {a b : β} (h : a ≤ b) : above s b ⊆ above s a := by
  intro x hx
  rw [mem_above] at hx ⊢
  exact ⟨hx.1, lt_of_le_of_lt h hx.2⟩

theorem above_insert_of_lt {s : Finset β} {a b : β} (h : b < a) :
    above (insert a s) b = insert a (above s b) := Finset.filter_insert _ _ _ |>.trans (if_pos h)

theorem above_insert_of_le {s : Finset β} {a b : β} (h : a ≤ b) : above (insert a s) b = above s b :=
  (Finset.filter_insert _ _ _).trans (if_neg (not_lt.2 h))

theorem greatest_of_card_le {k : Nat} {s : Finset β} (h : s.card ≤ k) : greatest k s = s := by
  refine Finset.filter_true_of_mem fun b hb => ?_
  have hlt : (above s b).card < s.card :=
    Finset.card_lt_card ⟨Finset.filter_subset _ _, fun hsub => lt_irrefl b (mem_above.1 (hsub hb)).2⟩
  omega

/-- The least of more than `k` elements is not one of the `k` greatest. -/
theorem greatest_insert_least {k : Nat} {s : Finset β} {a : β} (hmin : ∀ b ∈ s, a < b)
    (hk : k ≤ s.card) : greatest k (insert a s) = greatest k s := by
  have hall : above (insert a s) a = s := by
    rw [above_insert_of_le le_rfl]
    exact Finset.filter_true_of_mem hmin
  ext b
  rw [mem_greatest, mem_greatest, Finset.mem_insert]
  refine ⟨fun h => ?_, fun h => ?_⟩
  · obtain ⟨rfl | hb, hlt⟩ := h
    · rw [hall] at hlt; omega
    · rw [above_insert_of_le (hmin b hb).le] at hlt; exact ⟨hb, hlt⟩
  · obtain ⟨hb, hlt⟩ := h
    rw [above_insert_of_le (hmin b hb).le]
    exact ⟨.inr hb, hlt⟩

/-- With `k` elements of `s` above `b`, `k` of the greatest are. -/
theorem le_card_above_greatest {k : Nat} {s : Finset β} {b : β} (h : k ≤ (above s b).card) :
    k ≤ (above (greatest k s) b).card := by
  by_cases hall : above s b ⊆ greatest k s
  · have hsub : above s b ⊆ above (greatest k s) b :=
      fun a ha => mem_above.2 ⟨hall ha, (mem_above.1 ha).2⟩
    exact h.trans (Finset.card_le_card hsub)
  · -- the greatest of those cut off has `k` elements above it, none of them cut off
    obtain ⟨x, hx, hxg⟩ := Finset.not_subset.1 hall
    obtain ⟨m, hm, hmax⟩ := Finset.exists_max_image (above s b \ greatest k s) id
      ⟨x, Finset.mem_sdiff.2 ⟨hx, hxg⟩⟩
    obtain ⟨hms, hmg⟩ := Finset.mem_sdiff.1 hm
    obtain ⟨hms, hbm⟩ := mem_above.1 hms
    have hk : k ≤ (above s m).card := by
      by_contra hlt
      exact hmg (mem_greatest.2 ⟨hms, by omega⟩)
    refine hk.trans (Finset.card_le_card fun a ha => ?_)
    obtain ⟨has, hma⟩ := mem_above.1 ha
    refine mem_above.2 ⟨?_, hbm.trans hma⟩
    by_contra hag
    have hle := hmax a (Finset.mem_sdiff.2 ⟨mem_above.2 ⟨has, hbm.trans hma⟩, hag⟩)
    exact absurd hma (not_lt.2 hle)

/-- What was cut off before does not come back. -/
theorem greatest_insert_greatest (k : Nat) (b : β) (s : Finset β) :
    greatest k (insert b (greatest k s)) = greatest k (insert b s) := by
  have hsub : insert b (greatest k s) ⊆ insert b s := Finset.insert_subset_insert b (greatest_subset k s)
  have hsup : greatest k (insert b s) ⊆ insert b (greatest k s) := by
    intro a ha
    obtain ⟨ha, hlt⟩ := mem_greatest.1 ha
    rcases Finset.mem_insert.1 ha with rfl | has
    · exact Finset.mem_insert_self _ _
    · refine Finset.mem_insert_of_mem (mem_greatest.2 ⟨has, ?_⟩)
      exact (Finset.card_le_card (above_mono (Finset.subset_insert b s) a)).trans_lt hlt
  ext a
  rw [mem_greatest, mem_greatest]
  refine ⟨fun ⟨ha, hlt⟩ => ⟨hsub ha, ?_⟩, fun ⟨ha, hlt⟩ => ⟨hsup (mem_greatest.2 ⟨ha, hlt⟩), ?_⟩⟩
  · by_contra hge
    have h₁ := le_card_above_greatest (k := k) (s := insert b s) (b := a) (by omega)
    have h₂ := Finset.card_le_card (above_mono hsup a)
    omega
  · exact (Finset.card_le_card (above_mono hsub a)).trans_lt hlt

/-- A newcomer next to the `k` greatest makes the `k + 1` greatest exactly
when it is one of them. -/
theorem insert_greatest_iff {k : Nat} {b : β} {s : Finset β} (hb : b ∉ s) :
    insert b (greatest k s) = greatest (k + 1) (insert b s) ↔ (above s b).card ≤ k := by
  have hself : above (insert b s) b = above s b := above_insert_of_le le_rfl
  constructor
  · intro h
    have := (mem_greatest.1 (h ▸ Finset.mem_insert_self b (greatest k s))).2
    rw [hself] at this
    omega
  · intro hk
    ext a
    rw [mem_greatest, Finset.mem_insert, Finset.mem_insert, mem_greatest]
    by_cases hab : a = b
    · subst hab; rw [hself]; simp; omega
    · simp only [hab, false_or]
      refine and_congr_right fun has => ?_
      rcases lt_or_gt_of_ne hab with hlt | hgt
      · rw [above_insert_of_lt hlt, Finset.card_insert_of_notMem fun h => hb (mem_above.1 h).1]
        omega
      · rw [above_insert_of_le hgt.le]
        have : (above s a).card < (above s b).card :=
          Finset.card_lt_card ⟨above_anti s hgt.le, fun hsub =>
            lt_irrefl a (mem_above.1 (hsub (mem_above.2 ⟨has, hgt⟩))).2⟩
        omega

/-- A window that takes the same element in twice is left as it was by the
second time, unless the element filled it up and is not its least. -/
theorem insert_greatest_insert_iff {k : Nat} {b : β} {s : Finset β} (hs : s.card ≤ k) :
    insert b (greatest k (insert b s)) = insert b s ↔ s.card < k ∨ b ∈ s ∨ ∀ a ∈ s, b < a := by
  constructor
  · intro h
    by_contra hcon
    simp only [not_or, not_lt, not_forall, exists_prop] at hcon
    obtain ⟨hk, hb, a, ha, hab⟩ := hcon
    -- the least of `s` is cut off, and is not `b`
    obtain ⟨m, hm, hmin⟩ := Finset.exists_min_image s id ⟨a, ha⟩
    have hmb : m < b := lt_of_le_of_ne ((hmin a ha).trans hab) fun he => hb (he ▸ hm)
    have hcut : m ∉ greatest k (insert b s) := by
      intro hg
      have hlt := (mem_greatest.1 hg).2
      have habove : (insert b s).erase m ⊆ above (insert b s) m := by
        intro x hx
        obtain ⟨hxm, hx⟩ := Finset.mem_erase.1 hx
        rcases Finset.mem_insert.1 hx with rfl | hxs
        · exact mem_above.2 ⟨hx, hmb⟩
        · exact mem_above.2 ⟨hx, lt_of_le_of_ne (hmin x hxs) (Ne.symm hxm)⟩
      have hcard := Finset.card_le_card habove
      rw [Finset.card_erase_of_mem (Finset.mem_insert_of_mem hm), Finset.card_insert_of_notMem hb] at hcard
      omega
    rcases Finset.mem_insert.1 (h ▸ Finset.mem_insert_of_mem hm) with rfl | hg
    · exact absurd hmb (lt_irrefl m)
    · exact hcut hg
  · intro h
    obtain hk | hb | hleast := h
    · have hcard := Finset.card_insert_le b s
      rw [greatest_of_card_le (by omega), Finset.insert_eq_of_mem (Finset.mem_insert_self b s)]
    · rw [Finset.insert_eq_of_mem hb, greatest_of_card_le hs]
      exact Finset.insert_eq_of_mem hb
    · by_cases hk : s.card = k
      · rw [greatest_insert_least hleast hk.ge, greatest_of_card_le hs]
      · have hcard := Finset.card_insert_le b s
        rw [greatest_of_card_le (by omega), Finset.insert_eq_of_mem (Finset.mem_insert_self b s)]

/-- A window that keeps the `k` greatest of all it was offered does so after
the next element, too. -/
theorem greatest_insert_subset {k : Nat} {b : β} {s w : Finset β} (hw : w ⊆ s) (h : greatest k s ⊆ w) :
    greatest k (insert b s) ⊆ insert b (greatest k w) := by
  intro a ha
  obtain ⟨has, hlt⟩ := mem_greatest.1 ha
  rcases Finset.mem_insert.1 has with rfl | has
  · exact Finset.mem_insert_self a _
  · have hs : (above s a).card < k :=
      (Finset.card_le_card (above_mono (Finset.subset_insert b s) a)).trans_lt hlt
    have hwa : a ∈ w := h (mem_greatest.2 ⟨has, hs⟩)
    exact Finset.mem_insert_of_mem
      (mem_greatest.2 ⟨hwa, (Finset.card_le_card (above_mono hw a)).trans_lt hs⟩)

end SensorSamplor.Core
