import Mathlib.Data.BitVec
import Mathlib.Data.List.Basic

/-!
# Words from single bits

`collect` shifts bits into the words of an array, the most significant bit of
each word first, as they come in one after the other. `toBits` is what a
sender of the words does, and `collect_iff` says that the one undoes the
other. `Checked` is a check sum modulo the size of a word, and
`checked_change` the errors that it always finds.
-/
namespace SensorSamplor.Core

namespace BitWords

variable {w : Nat}

/-- `d <<= 1; if (bit) d |= 1;` -/
def shiftIn (d : BitVec w) (bit : Bool) : BitVec w := if bit then d <<< 1 ||| 1#w else d <<< 1

/-- The word of some bits. -/
def word (bits : List Bool) : BitVec w := bits.foldl shiftIn 0

/-- Bit `k` is shifted into word `k / w` of `n`. -/
def collect (n : Nat) (bits : List Bool) : List (BitVec w) :=
  bits.zipIdx.foldl (fun data b => data.modify (b.2 / w) (shiftIn · b.1)) (List.replicate n 0)

/-- The bits of a word. -/
def toBits (d : BitVec w) : List Bool := List.ofFn fun i : Fin w => d.getMsbD i

/-! ## One word -/

@[simp] theorem getLsbD_shiftIn (d : BitVec w) (bit : Bool) (i : Nat) :
    (shiftIn d bit).getLsbD i = (decide (i < w) && if i = 0 then bit else d.getLsbD (i - 1)) := by
  have hone : (1#w).getLsbD i = (decide (i < w) && decide (i = 0)) := by
    rw [BitVec.getLsbD_one]
    by_cases hi : i = 0 <;> simp [hi]
  unfold shiftIn
  cases bit with
  | false => by_cases hi : i = 0 <;> simp [hi]
  | true =>
    rw [if_pos rfl, BitVec.getLsbD_or, hone]
    by_cases hi : i = 0 <;> simp [hi]

/-- The bits that were shifted in last are the lowest ones. -/
theorem getLsbD_foldl_shiftIn (bits : List Bool) (d : BitVec w) (i : Nat) :
    (bits.foldl shiftIn d).getLsbD i = (decide (i < w) &&
      if i < bits.length then bits.reverse.getD i false else d.getLsbD (i - bits.length)) := by
  induction bits using List.reverseRecOn generalizing i with
  | nil =>
    by_cases hw : i < w
    · simp [hw]
    · simp [hw, BitVec.getLsbD_of_ge d i (by omega)]
  | append_singleton bits bit ih =>
    rw [List.foldl_append, List.foldl_cons, List.foldl_nil, getLsbD_shiftIn, ih, List.reverse_concat,
      List.length_append, List.length_singleton]
    cases i with
    | zero => simp
    | succ i =>
      by_cases hw : i + 1 < w
      · have hlt : i < w := by omega
        by_cases hlength : i < bits.length
        · simp [hw, hlt, hlength]
        · have hsub : i + 1 - (bits.length + 1) = i - bits.length := by omega
          simp [hw, hlt, hlength, hsub]
      · simp [hw]

@[simp] theorem length_toBits (d : BitVec w) : (toBits d).length = w := by simp [toBits]

theorem word_toBits (d : BitVec w) : word (toBits d) = d := by
  apply BitVec.eq_of_getLsbD_eq
  intro i hi
  rw [word, getLsbD_foldl_shiftIn, length_toBits]
  have hrev : w - 1 - (w - 1 - i) = i := by omega
  simp [hi, toBits, BitVec.getMsbD, hrev]

theorem toBits_word {bits : List Bool} (h : bits.length = w) : toBits (word bits : BitVec w) = bits := by
  refine List.ext_getElem (by simp [h]) fun i h₁ h₂ => ?_
  have hlt : w - 1 - i < w := by omega
  have hback : w - 1 - (w - 1 - i) = i := by omega
  simp [toBits, BitVec.getMsbD, word, getLsbD_foldl_shiftIn, h, hlt, hback]

/-! ## An array of words -/

/-- Bits that all go into one word. -/
theorem foldl_chunk (data : List (BitVec w)) {bits : List Bool} {j s : Nat} (hs : j * w ≤ s)
    (hend : s + bits.length ≤ (j + 1) * w) :
    (bits.zipIdx s).foldl (fun data b => data.modify (b.2 / w) (shiftIn · b.1)) data =
      data.modify j (bits.foldl shiftIn) := by
  induction bits generalizing data s with
  | nil => exact (List.modify_id j data).symm
  | cons bit bits ih =>
    rw [List.length_cons] at hend
    have hj : s / w = j := by
      refine Nat.div_eq_of_lt_le hs ?_
      omega
    rw [List.zipIdx_cons, List.foldl_cons, hj, ih _ (by omega) (by omega), List.modify_modify_eq]
    rfl

theorem foldl_words (words : List (BitVec w)) (done : List (BitVec w)) :
    ((words.flatMap toBits).zipIdx (done.length * w)).foldl
      (fun data b => data.modify (b.2 / w) (shiftIn · b.1)) (done ++ List.replicate words.length 0) =
      done ++ words := by
  induction words generalizing done with
  | nil => rfl
  | cons d words ih =>
    have hnext : done.length * w + (toBits d).length = (done ++ [d]).length * w := by
      rw [length_toBits, List.length_append, List.length_singleton, Nat.add_mul, Nat.one_mul]
    have hmodify : (done ++ List.replicate (d :: words).length 0).modify done.length ((toBits d).foldl shiftIn) =
        done ++ [d] ++ List.replicate words.length 0 := by
      have hword : (toBits d).foldl shiftIn 0#w = d := word_toBits d
      rw [List.length_cons, List.replicate_succ, List.modify_eq_take_cons_drop (by simp)]
      simp [hword]
    have hend : done.length * w + (toBits d).length ≤ (done.length + 1) * w := by
      rw [length_toBits, Nat.add_mul, Nat.one_mul]
    have hfirst := foldl_chunk (done ++ List.replicate (d :: words).length 0) le_rfl hend
    rw [List.flatMap_cons, List.zipIdx_append, List.foldl_append, hfirst, hmodify, hnext, ih (done ++ [d]),
      List.append_assoc]
    rfl

theorem collect_toBits (words : List (BitVec w)) : collect words.length (words.flatMap toBits) = words := by
  have h := foldl_words words []
  simpa [collect] using h

/-- Bits in groups of a word are the bits of some words. -/
theorem exists_words {n : Nat} {bits : List Bool} (h : bits.length = n * w) :
    ∃ words : List (BitVec w), words.length = n ∧ words.flatMap toBits = bits := by
  induction n generalizing bits with
  | zero =>
    rw [Nat.zero_mul, List.length_eq_zero_iff] at h
    exact ⟨[], rfl, h.symm⟩
  | succ n ih =>
    rw [Nat.add_mul, Nat.one_mul] at h
    have hdrop : (bits.drop w).length = n * w := by
      rw [List.length_drop]
      omega
    obtain ⟨words, hlength, hbits⟩ := ih hdrop
    refine ⟨word (bits.take w) :: words, by simp [hlength], ?_⟩
    rw [List.flatMap_cons, toBits_word (by simp; omega), hbits, List.take_append_drop]

/-- **The words of the bits are those whose bits they are.** -/
theorem collect_iff {n : Nat} {bits : List Bool} (h : bits.length = n * w) {words : List (BitVec w)} :
    collect n bits = words ↔ words.length = n ∧ words.flatMap toBits = bits := by
  constructor
  · rintro rfl
    obtain ⟨words, rfl, rfl⟩ := exists_words h
    rw [collect_toBits]
    exact ⟨rfl, rfl⟩
  · rintro ⟨rfl, rfl⟩
    exact collect_toBits words

/-- The bits of a word among those of all. -/
theorem getElem?_flatMap_toBits (words : List (BitVec w)) (j : Nat) {b : Nat} (hb : b < w) :
    (words.flatMap toBits)[j * w + b]? = words[j]?.bind fun d => (toBits d)[b]? := by
  induction words generalizing j with
  | nil => rfl
  | cons d words ih =>
    rw [List.flatMap_cons]
    cases j with
    | zero =>
      rw [Nat.zero_mul, Nat.zero_add, List.getElem?_append_left (by rw [length_toBits]; exact hb)]
      rfl
    | succ j =>
      have hle : w ≤ (j + 1) * w + b := by
        rw [Nat.add_mul, Nat.one_mul]
        omega
      have hsub : (j + 1) * w + b - w = j * w + b := by
        rw [Nat.add_mul, Nat.one_mul]
        omega
      rw [List.getElem?_append_right (by rw [length_toBits]; exact hle), length_toBits, hsub, ih]
      rfl

/-- Words whose bits agree outside of one word agree outside of it. -/
theorem getElem?_eq_of_bits {words words' : List (BitVec w)} (hlength : words.length = words'.length) {i : Nat}
    (h : ∀ k, k / w ≠ i → (words.flatMap toBits)[k]? = (words'.flatMap toBits)[k]?) {j : Nat} (hj : j ≠ i) :
    words[j]? = words'[j]? := by
  by_cases hlt : j < words.length
  · have hlt' : j < words'.length := hlength ▸ hlt
    rw [List.getElem?_eq_getElem hlt, List.getElem?_eq_getElem hlt', Option.some.injEq, ← word_toBits words[j],
      ← word_toBits words'[j]]
    refine congrArg word (List.ext_getElem? fun b => ?_)
    by_cases hb : b < w
    · have hdiv : (j * w + b) / w = j := by
        rw [Nat.mul_comm, Nat.mul_add_div (by omega), Nat.div_eq_of_lt hb, Nat.add_zero]
      have hbit := h (j * w + b) (by rwa [hdiv])
      rw [getElem?_flatMap_toBits _ _ hb, getElem?_flatMap_toBits _ _ hb, List.getElem?_eq_getElem hlt,
        List.getElem?_eq_getElem hlt'] at hbit
      exact hbit
    · rw [List.getElem?_eq_none (by simp; omega), List.getElem?_eq_none (by simp; omega)]
  · rw [List.getElem?_eq_none (by omega), List.getElem?_eq_none (by omega)]

/-! ## Check sums -/

/-- The sum of the words, modulo the size of a word. -/
def checksum (words : List (BitVec w)) : Nat := (words.map BitVec.toNat).sum % 2 ^ w

/-- The check sum tells apart words that differ in one place. -/
theorem checksum_change (before after : List (BitVec w)) {d d' : BitVec w} (h : d ≠ d') :
    checksum (before ++ d :: after) ≠ checksum (before ++ d' :: after) := by
  unfold checksum
  intro hsum
  simp only [List.map_append, List.map_cons, List.sum_append, List.sum_cons] at hsum
  have hmod : d.toNat ≡ d'.toNat [MOD 2 ^ w] := by
    have hsum : (before.map BitVec.toNat).sum + (d.toNat + (after.map BitVec.toNat).sum) ≡
      (before.map BitVec.toNat).sum + (d'.toNat + (after.map BitVec.toNat).sum) [MOD 2 ^ w] := hsum
    exact Nat.ModEq.add_right_cancel' _ (Nat.ModEq.add_left_cancel' _ hsum)
  exact h (BitVec.eq_of_toNat_eq (Nat.ModEq.eq_of_lt_of_lt hmod d.isLt d'.isLt))

/-- The last word is the check sum of those before it. -/
def Checked (words : List (BitVec w)) (last : BitVec w) : Prop := last.toNat = checksum words

instance (words : List (BitVec w)) (last : BitVec w) : Decidable (Checked words last) :=
  inferInstanceAs (Decidable (_ = _))

/-- Lists that differ in one place only. -/
theorem exists_split {α : Type} {l l' : List α} (hlength : l.length = l'.length) {i : Nat}
    (h : ∀ j, j ≠ i → l[j]? = l'[j]?) (hne : l ≠ l') :
    ∃ before after d d', d ≠ d' ∧ l = before ++ d :: after ∧ l' = before ++ d' :: after := by
  have hi : i < l.length := by
    by_contra hge
    refine hne (List.ext_getElem? fun j => ?_)
    by_cases hj : j = i
    · rw [List.getElem?_eq_none (by omega), List.getElem?_eq_none (by omega)]
    · exact h j hj
  have hi' : i < l'.length := hlength ▸ hi
  have hbefore : l.take i = l'.take i := by
    refine List.ext_getElem? fun j => ?_
    rw [List.getElem?_take, List.getElem?_take]
    by_cases hj : j < i
    · rw [if_pos hj, if_pos hj, h j (by omega)]
    · rw [if_neg hj, if_neg hj]
  have hafter : l.drop (i + 1) = l'.drop (i + 1) := by
    refine List.ext_getElem? fun j => ?_
    rw [List.getElem?_drop, List.getElem?_drop, h _ (by omega)]
  have hl : l = l.take i ++ l[i] :: l.drop (i + 1) := by
    rw [← List.drop_eq_getElem_cons hi, List.take_append_drop]
  have hl' : l' = l.take i ++ l'[i] :: l.drop (i + 1) := by
    rw [hbefore, hafter, ← List.drop_eq_getElem_cons hi', List.take_append_drop]
  refine ⟨_, _, l[i], l'[i], fun hd => hne ?_, hl, hl'⟩
  rw [hl, hl', hd]

/-- Of words that pass the check, none that differ in one place only do. -/
theorem checked_change {words words' : List (BitVec w)} {last last' : BitVec w} (h : Checked words last)
    {before after : List (BitVec w)} {d d' : BitVec w} (hne : d ≠ d')
    (hwords : words ++ [last] = before ++ d :: after) (hwords' : words' ++ [last'] = before ++ d' :: after) :
    ¬ Checked words' last' := by
  unfold Checked at h ⊢
  intro h'
  induction after using List.reverseRecOn with
  | nil =>
    -- the check sum itself
    obtain ⟨rfl, hlast⟩ := List.append_inj' hwords rfl
    obtain ⟨rfl, hlast'⟩ := List.append_inj' hwords' rfl
    obtain rfl := List.singleton_inj.1 hlast
    obtain rfl := List.singleton_inj.1 hlast'
    exact hne (BitVec.eq_of_toNat_eq (h.trans h'.symm))
  | append_singleton after x _ =>
    rw [← List.cons_append, ← List.append_assoc] at hwords hwords'
    obtain ⟨rfl, hlast⟩ := List.append_inj' hwords rfl
    obtain ⟨rfl, hlast'⟩ := List.append_inj' hwords' rfl
    obtain rfl := List.singleton_inj.1 hlast
    obtain rfl := List.singleton_inj.1 hlast'
    exact checksum_change before after hne (h.symm.trans h')

end BitWords
end SensorSamplor.Core
