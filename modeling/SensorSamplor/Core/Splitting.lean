import Mathlib.Data.List.DropRight
import Mathlib.Data.List.Infix

/-!
# Splitting a list at a delimiter

Two ways to take joined parts apart.

* At an element, into all parts (`List.splitOn`): `splitOn_eq_iff` says that
  the parts are those lists without the delimiter whose join is the whole.
* At a list, from the left, into a bounded number of parts (`splitAtMost`).
  The first part comes off where it was joined exactly when the delimiter is
  not in it and does not begin in it either (`Free`, `splitAtMost_append_iff`).

Parts that are sent with a terminator behind each (`terminated`) are read
back from as much of them as has come: `complete_isPrefix` and
`complete_terminated_append`.

`strip_pad` is about what is cut off at both ends of a part.
-/
namespace SensorSamplor.Core.Splitting

variable {α : Type*}

/-! ## At an element -/

section
variable [DecidableEq α]

theorem not_mem_of_mem_splitOn {d : α} {cs part : List α} (h : part ∈ cs.splitOn d) : d ∉ part := by
  induction cs generalizing part with
  | nil => simp_all
  | cons c cs ih =>
    rw [List.splitOn_cons_eq_if_modifyHead] at h
    split at h
    · rcases List.mem_cons.1 h with rfl | h
      · simp
      · exact ih h
    · rename_i hc
      obtain ⟨first, rest, hsplit⟩ := List.exists_cons_of_ne_nil (List.splitOn_ne_nil d cs)
      rw [hsplit, List.modifyHead_cons] at h
      rcases List.mem_cons.1 h with rfl | h
      · have hfirst : d ∉ first := ih (by simp [hsplit])
        have hne : d ≠ c := fun hdc => hc (by simp [hdc])
        simp [hne, hfirst]
      · exact ih (by simp [hsplit, h])

/-- The parts at a delimiter are what the whole is a join of. -/
theorem splitOn_eq_iff {d : α} {cs : List α} {parts : List (List α)} :
    cs.splitOn d = parts ↔ parts ≠ [] ∧ (∀ part ∈ parts, d ∉ part) ∧ [d].intercalate parts = cs := by
  refine ⟨fun h => ?_, fun h => ?_⟩
  · obtain rfl := h
    exact ⟨List.splitOn_ne_nil d cs, fun part => not_mem_of_mem_splitOn, List.intercalate_splitOn d⟩
  · obtain ⟨hne, hfree, rfl⟩ := h
    exact List.splitOn_intercalate d hfree hne

/-! ## Parts with a terminator -/

/-- The parts one after the other, with the delimiter behind each. -/
def terminated (d : α) (parts : List (List α)) : List α := parts.flatMap (· ++ [d])

/-- The parts that the delimiter ends; what is behind the last one is not a part yet. -/
def complete (d : α) (cs : List α) : List (List α) := (cs.splitOn d).dropLast

theorem complete_of_not_mem {d : α} {cs : List α} (h : d ∉ cs) : complete d cs = [] := by
  have hsplit : cs.splitOn d = [cs] := splitOn_eq_iff.2 ⟨by simp, by simpa using h, by simp⟩
  rw [complete, hsplit, List.dropLast_singleton]

theorem complete_terminated_append {d : α} {parts : List (List α)} (h : ∀ part ∈ parts, d ∉ part) (cs : List α) :
    complete d (terminated d parts ++ cs) = parts ++ complete d cs := by
  induction parts with
  | nil => rfl
  | cons part parts ih =>
    obtain ⟨hpart, hparts⟩ := List.forall_mem_cons.1 h
    have hcut : (terminated d (part :: parts) ++ cs).splitOn d =
        part :: (terminated d parts ++ cs).splitOn d := by
      have hbefore : ∀ c ∈ part, (c == d) = false := by
        intro c hc
        simpa using fun he : c = d => hpart (he ▸ hc)
      rw [terminated, List.flatMap_cons, List.append_assoc, List.append_assoc, List.singleton_append,
        List.splitOn_eq_splitOnP, List.splitOnP_append_cons_of_forall_mem hbefore d (by simp)]
      rfl
    rw [complete, hcut, List.dropLast_cons_of_ne_nil (List.splitOn_ne_nil _ _), List.cons_append]
    exact congrArg (part :: ·) (ih hparts)

theorem exists_terminated (d : α) (cs : List α) : ∃ parts rest, (∀ part ∈ parts, d ∉ part) ∧ d ∉ rest ∧
    cs = terminated d parts ++ rest := by
  induction cs with
  | nil => exact ⟨[], [], by simp, by simp, rfl⟩
  | cons c cs ih =>
    obtain ⟨parts, rest, hparts, hrest, rfl⟩ := ih
    by_cases hc : c = d
    · exact ⟨[] :: parts, rest, by simpa using hparts, hrest, by simp [terminated, hc]⟩
    · -- the first part grows, or the rest when there is none
      cases parts with
      | nil => exact ⟨[], c :: rest, by simp, by simp [hrest, Ne.symm hc], by simp [terminated]⟩
      | cons part parts =>
        obtain ⟨hpart, hparts⟩ := List.forall_mem_cons.1 hparts
        refine ⟨(c :: part) :: parts, rest, ?_, hrest, by simp [terminated]⟩
        exact List.forall_mem_cons.2 ⟨by simp [hpart, Ne.symm hc], hparts⟩

/-- Of a sequence that is cut off, the complete parts are the first of the whole. -/
theorem complete_isPrefix (d : α) {cs cs' : List α} (h : cs <+: cs') : complete d cs <+: complete d cs' := by
  obtain ⟨more, rfl⟩ := h
  obtain ⟨parts, rest, hparts, hrest, rfl⟩ := exists_terminated d cs
  rw [complete_terminated_append hparts, complete_of_not_mem hrest, List.append_assoc,
    complete_terminated_append hparts, List.append_nil]
  exact List.prefix_append ..

end

/-! ## The ends of a part -/

theorem rdropWhile_append_of_pos {p : α → Bool} (part : List α) {after : List α}
    (hafter : ∀ c ∈ after, p c = true) : (part ++ after).rdropWhile p = part.rdropWhile p := by
  unfold List.rdropWhile
  rw [List.reverse_append, List.dropWhile_append_of_pos fun c hc => hafter c (List.mem_reverse.1 hc)]

/-- A list that begins and ends with nothing to drop comes back from between
what is dropped. -/
theorem strip_pad {p : α → Bool} {before part after : List α} (hbefore : ∀ c ∈ before, p c = true)
    (hpart : (part.dropWhile p).rdropWhile p = part) (hafter : ∀ c ∈ after, p c = true) :
    ((before ++ part ++ after).dropWhile p).rdropWhile p = part := by
  have hleft : part.dropWhile p = part := by
    refine (List.dropWhile_suffix p).eq_of_length_le ?_
    calc part.length = ((part.dropWhile p).rdropWhile p).length := by rw [hpart]
      _ ≤ (part.dropWhile p).length := (List.rdropWhile_prefix p _).length_le
  have hright : part.rdropWhile p = part := by rwa [hleft] at hpart
  rw [List.append_assoc, List.dropWhile_append_of_pos hbefore]
  cases part with
  | nil =>
    rw [List.nil_append, List.dropWhile_eq_nil_iff.2 hafter]
    rfl
  | cons c part =>
    have hc : p c = false := Bool.eq_false_iff.2 (List.dropWhile_eq_self_iff.1 hleft (Nat.succ_pos _))
    have hcons : (c :: part ++ after).dropWhile p = c :: part ++ after := by simp [hc]
    rw [hcons, rdropWhile_append_of_pos _ hafter, hright]

/-! ## At a list -/

/-- No `d` begins in `part` when a `d` follows it. -/
def Free (d part : List α) : Prop := ¬ d <:+: part ++ d.dropLast

/-- The delimiter is not in the part, and none of its beginnings that it may
overlap itself at ends the part. -/
theorem free_iff {d part : List α} (hd : d ≠ []) : Free d part ↔
    ¬ d <:+: part ∧ ∀ t₁ t₂, t₁ ≠ [] → t₂ ≠ [] → d = t₁ ++ t₂ → t₂ <+: d.dropLast → ¬ t₁ <:+ part := by
  have hshort : ¬ d <:+: d.dropLast := by
    intro h
    have hlen := h.length_le
    have hpos := List.length_pos_iff.2 hd
    rw [List.length_dropLast] at hlen
    omega
  unfold Free
  rw [List.infix_append_iff_ne_nil]
  simp only [hshort, false_or, not_or, not_exists, not_and]
  refine and_congr_right fun _ => ⟨fun h t₁ t₂ h₁ h₂ heq hpre hsuf => h t₁ t₂ h₁ h₂ heq hsuf hpre, fun h => ?_⟩
  exact fun t₁ t₂ h₁ h₂ heq hsuf hpre => h t₁ t₂ h₁ h₂ heq hpre hsuf

/-- What follows a delimiter does not decide whether one begins before it. -/
theorem prefix_append_iff {d : List α} (hd : d ≠ []) (c : α) (part rest : List α) :
    d <+: (c :: part) ++ d ++ rest ↔ d <+: (c :: part) ++ d.dropLast := by
  have hpre : (c :: part) ++ d.dropLast <+: (c :: part) ++ d ++ rest := by
    rw [List.append_assoc]
    exact (List.prefix_append_right_inj _).2 ((List.dropLast_prefix d).trans (List.prefix_append d rest))
  have hpos := List.length_pos_iff.2 hd
  refine ⟨fun h => List.prefix_of_prefix_length_le h hpre ?_, fun h => h.trans hpre⟩
  simp only [List.length_append, List.length_dropLast, List.length_cons]
  omega

variable [DecidableEq α]

/-- What stands before and after the first `d`; none for an empty `d`. -/
def cut (d : List α) : List α → Option (List α × List α)
  | [] => none
  | c :: cs =>
    if d <+: c :: cs then some ([], (c :: cs).drop d.length)
    else (cut d cs).map fun p => (c :: p.1, p.2)

/-- At most `n + 1` parts at `d`, from the left; the last one is not split. -/
def splitAtMost (d : List α) : Nat → List α → List (List α)
  | 0, cs => [cs]
  | n + 1, cs =>
    match cut d cs with
    | none => [cs]
    | some (part, rest) => part :: splitAtMost d n rest

theorem cut_eq_some {d cs part rest : List α} (h : cut d cs = some (part, rest)) :
    cs = part ++ d ++ rest := by
  induction cs generalizing part with
  | nil => cases h
  | cons c cs ih =>
    simp only [cut] at h
    split at h
    · rename_i hpre
      obtain ⟨t, ht⟩ := hpre
      simp only [Option.some.injEq, Prod.mk.injEq] at h
      obtain ⟨rfl, rfl⟩ := h
      simp [← ht]
    · simp only [Option.map_eq_some_iff, Prod.exists, Prod.mk.injEq] at h
      obtain ⟨p, r, hp, rfl, rfl⟩ := h
      simp [ih hp]

/-- The first part is cut off as it was joined when no delimiter begins in it. -/
theorem cut_append_iff {d : List α} (hd : d ≠ []) (part rest : List α) :
    cut d (part ++ d ++ rest) = some (part, rest) ↔ Free d part := by
  induction part with
  | nil =>
    obtain ⟨c, d', rfl⟩ := List.exists_cons_of_ne_nil hd
    have hshort : Free (c :: d') [] := fun h => by
      have hlen := h.length_le
      simp only [List.nil_append, List.length_dropLast, List.length_cons] at hlen
      omega
    simp [cut, hshort]
  | cons c part ih =>
    have hpre := prefix_append_iff hd c part rest
    have hcons : cut d (c :: part ++ d ++ rest) = some (c :: part, rest) ↔
        ¬ d <+: c :: part ++ d ++ rest ∧ cut d (part ++ d ++ rest) = some (part, rest) := by
      simp only [List.cons_append, cut]
      split
      · simp_all
      · rename_i h
        simp only [List.append_assoc] at h ⊢
        simp [h]
    rw [hcons, hpre, ih]
    unfold Free
    rw [List.cons_append, List.infix_cons_iff, not_or]

theorem splitAtMost_append_iff {d : List α} (hd : d ≠ []) (n : Nat) (part rest : List α)
    (parts : List (List α)) :
    splitAtMost d (n + 1) (part ++ d ++ rest) = part :: parts ↔
      Free d part ∧ splitAtMost d n rest = parts := by
  rw [← cut_append_iff hd part rest]
  simp only [splitAtMost]
  refine ⟨fun h => ?_, fun h => ?_⟩
  · split at h
    · -- the whole is not the part alone, since `d` has a length
      simp only [List.cons.injEq] at h
      have hlen := congrArg List.length h.1
      have hpos := List.length_pos_iff.2 hd
      simp only [List.length_append] at hlen
      omega
    · rename_i p r hcut
      obtain ⟨rfl, hparts⟩ := List.cons.inj h
      have hrest : r = rest := by
        have hwhole := cut_eq_some hcut
        simpa using hwhole.symm
      rw [hrest] at hcut hparts
      exact ⟨hcut, hparts⟩
  · obtain ⟨hcut, rfl⟩ := h
    rw [hcut]

end SensorSamplor.Core.Splitting
