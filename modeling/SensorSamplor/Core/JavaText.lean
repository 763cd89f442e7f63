import Mathlib.Algebra.Group.Nat.Defs
import Mathlib.Data.List.DropRight
import SensorSamplor.Core.Splitting

/-!
# Text joined at a delimiter, and the JDK's text functions

`join_eq_iff`: two texts joined with a one-character delimiter are equal
exactly when the parts are equal, or one left part ends in the other left
part, a delimiter and the beginning of the other right part (`Shifts`).
This is how far an unescaped two-part join is from injective.

The lemmas about `split`, `splitLimit`, `splitTextLimit` and `trim` say what
comes back when a join is split again.
-/
namespace SensorSamplor.Core.JavaText

open Splitting

/-- `p + d + t` can be read as `p' + d + t'` with a longer left part: some
text `m` follows `p` and `d` in `p'`, and the same `m` begins `t`. -/
def Shifts (d p t p' t' : String) : Prop := ∃ m, p' = p ++ d ++ m ∧ t = m ++ d ++ t'

theorem append_cons_eq_iff {α : Type*} {c : α} {a b a' b' : List α} :
    a ++ c :: b = a' ++ c :: b' ↔ (a = a' ∧ b = b') ∨ (∃ m, a' = a ++ c :: m ∧ b = m ++ c :: b') ∨
      (∃ m, a = a' ++ c :: m ∧ b' = m ++ c :: b) := by
  refine ⟨fun h => ?_, fun h => ?_⟩
  · rcases List.append_eq_append_iff.1 h with ⟨m, h₁, h₂⟩ | ⟨m, h₁, h₂⟩ <;> cases m with
    | nil => left; simp_all
    | cons x m => simp only [List.cons_append, List.cons.injEq] at h₂; simp_all
  · obtain ⟨rfl, rfl⟩ | ⟨m, rfl, rfl⟩ | ⟨m, rfl, rfl⟩ := h <;> simp

theorem join_eq_iff {d : String} {c : Char} (hd : d.toList = [c]) (p t p' t' : String) :
    p ++ d ++ t = p' ++ d ++ t' ↔ (p = p' ∧ t = t') ∨ Shifts d p t p' t' ∨ Shifts d p' t' p t := by
  have key := @append_cons_eq_iff _ c p.toList t.toList p'.toList t'.toList
  have shifts : ∀ a b a' b' : String, Shifts d a b a' b' ↔
      ∃ m, a'.toList = a.toList ++ c :: m ∧ b.toList = m ++ c :: b'.toList := by
    intro a b a' b'
    refine ⟨fun h => ?_, fun h => ?_⟩
    · obtain ⟨m, rfl, rfl⟩ := h
      exact ⟨m.toList, by simp [hd], by simp [hd]⟩
    · obtain ⟨m, h₁, h₂⟩ := h
      refine ⟨String.ofList m, String.toList_inj.1 ?_, String.toList_inj.1 ?_⟩
      · simp [hd, h₁]
      · simp [hd, h₂]
  rw [shifts, shifts, ← String.toList_inj]
  simpa [hd, String.toList_inj] using key

/-! ## `String.split` and `String.trim` -/

/-- `s.split(d)`: all parts, less the trailing empty ones; a text without the
delimiter is its own only part, also when it is empty. -/
def split (d : Char) (s : String) : List String :=
  if d ∈ s.toList then
    ((s.toList.splitOn d).map String.ofList).rdropWhile fun part => part == ""
  else [s]

/-- `s.split(d, limit)` for `0 < limit`: at most `limit` parts, the last one
unsplit, empty parts kept. -/
def splitLimit (d : Char) (limit : Nat) (s : String) : List String :=
  (go limit s.toList).map String.ofList
where
  go : Nat → List Char → List (List Char)
    | 0, cs => [cs]
    | 1, cs => [cs]
    | n + 2, cs =>
      match cs.dropWhile (· ≠ d) with
      | [] => [cs]
      | _ :: rest => cs.takeWhile (· ≠ d) :: go (n + 1) rest

/-- `s.split(d, limit)` for `0 < limit` and a delimiter of several characters
that mean themselves in a regular expression. -/
def splitTextLimit (d : String) (limit : Nat) (s : String) : List String :=
  (splitAtMost d.toList (limit - 1) s.toList).map String.ofList

/-- `s.trim()`: the characters up to the space are cut off at both ends. -/
def trim (s : String) : String :=
  String.ofList ((s.toList.dropWhile (· ≤ ' ')).rdropWhile (· ≤ ' '))

/-- All parts of a text, also the empty ones. -/
def parts (d : Char) (s : String) : List String := (s.toList.splitOn d).map String.ofList

theorem map_ofList_eq_iff {ls : List (List Char)} {ss : List String} :
    ls.map String.ofList = ss ↔ ls = ss.map String.toList := by
  refine ⟨fun h => ?_, fun h => ?_⟩
  · obtain rfl := h
    simp [Function.comp_def]
  · obtain rfl := h
    simp [Function.comp_def]

theorem parts_eq_iff {d : Char} {s : String} {ps : List String} :
    parts d s = ps ↔ ps ≠ [] ∧ (∀ p ∈ ps, d ∉ p.toList) ∧ (String.singleton d).intercalate ps = s := by
  unfold parts
  rw [map_ofList_eq_iff, splitOn_eq_iff, ← String.toList_inj, String.toList_intercalate]
  simp

/-- `split` drops the empty parts at the end, but leaves the empty text alone. -/
theorem split_eq {s : String} (hs : s ≠ "") (d : Char) :
    split d s = (parts d s).rdropWhile fun part => part == "" := by
  unfold split
  split
  · rfl
  · rename_i hd
    have hlast : ¬ ((s == "") = true) := by simpa using hs
    simp only [parts, List.splitOn_eq_singleton hd, List.map_cons, List.map_nil, String.ofList_toList]
    exact (List.rdropWhile_concat_neg _ [] s hlast).symm

theorem parts_eq_append (d : Char) (s : String) :
    ∃ n, parts d s = ((parts d s).rdropWhile fun part => part == "") ++ List.replicate n "" := by
  refine ⟨((parts d s).rtakeWhile fun part => part == "").length, ?_⟩
  rw [← List.eq_replicate_iff.2 ⟨rfl, fun part hpart => by simpa using List.mem_rtakeWhile_imp hpart⟩]
  exact List.rdropWhile_append_rtakeWhile.symm

theorem parts_empty (d : Char) : parts d "" = [""] := by simp [parts]

/-- Without an empty part `split` has all parts. -/
theorem split_of_not_mem {d : Char} {s : String} (h : "" ∉ parts d s) : split d s = parts d s := by
  have hs : s ≠ "" := by
    rintro rfl
    exact h (by simp [parts_empty])
  rw [split_eq hs, List.rdropWhile_eq_self_iff]
  intro hne hlast
  exact h (beq_iff_eq.1 hlast ▸ List.getLast_mem hne)

theorem go_eq_cons_iff {d : Char} {n : Nat} {cs part : List Char} {ps : List (List Char)} (hps : ps ≠ []) :
    splitLimit.go d (n + 2) cs = part :: ps ↔
      ∃ rest, cs = part ++ d :: rest ∧ d ∉ part ∧ splitLimit.go d (n + 1) rest = ps := by
  refine ⟨fun h => ?_, fun h => ?_⟩
  · have hwhole := cs.takeWhile_append_dropWhile (p := (· ≠ d))
    have htake : d ∉ cs.takeWhile (· ≠ d) := fun hd => by simpa using List.mem_takeWhile_imp hd
    simp only [splitLimit.go] at h
    split at h
    · -- no delimiter: there is one part only
      exact absurd (List.cons.inj h).2 hps.symm
    · rename_i c rest hdrop
      have hne : cs.dropWhile (· ≠ d) ≠ [] := hdrop ▸ List.cons_ne_nil c rest
      have hc : c = d := by
        have hhead := List.head_dropWhile_not (· ≠ d) hne
        simpa only [hdrop, List.head_cons, decide_eq_false_iff_not, not_not] using hhead
      rw [hdrop, hc] at hwhole
      obtain ⟨rfl, rfl⟩ := List.cons.inj h
      exact ⟨rest, hwhole.symm, htake, rfl⟩
  · obtain ⟨rest, rfl, hpart, rfl⟩ := h
    have hne : ∀ c ∈ part, decide (c ≠ d) = true := fun c hc => by
      have hcd : c ≠ d := fun h => hpart (h ▸ hc)
      simpa using hcd
    simp only [splitLimit.go]
    rw [List.dropWhile_append_of_pos hne, List.takeWhile_append_of_pos hne]
    simp

/-- The first two of three parts are free of the delimiter, and the join of all is the whole. -/
theorem splitLimit_three_iff {d : Char} {s a b c : String} :
    splitLimit d 3 s = [a, b, c] ↔
      s = a ++ String.singleton d ++ b ++ String.singleton d ++ c ∧ d ∉ a.toList ∧ d ∉ b.toList := by
  have hjoin : s = a ++ String.singleton d ++ b ++ String.singleton d ++ c ↔
      s.toList = a.toList ++ d :: (b.toList ++ d :: c.toList) := by
    rw [← String.toList_inj]
    simp
  unfold splitLimit
  rw [map_ofList_eq_iff, hjoin]
  simp only [List.map_cons, List.map_nil]
  rw [go_eq_cons_iff (List.cons_ne_nil _ _)]
  refine ⟨fun h => ?_, fun h => ?_⟩
  · obtain ⟨rest, hs, ha, hrest⟩ := h
    obtain ⟨last, rfl, hb, hlast⟩ := (go_eq_cons_iff (List.cons_ne_nil _ _)).1 hrest
    have hc : last = c.toList := by simpa [splitLimit.go] using hlast
    rw [hs, hc]
    exact ⟨rfl, ha, hb⟩
  · obtain ⟨hs, ha, hb⟩ := h
    exact ⟨_, hs, ha, (go_eq_cons_iff (List.cons_ne_nil _ _)).2 ⟨_, rfl, hb, rfl⟩⟩

theorem splitTextLimit_one (d s : String) : splitTextLimit d 1 s = [s] := by
  simp [splitTextLimit, splitAtMost]

/-- A first part comes off as it was joined when no delimiter begins in it. -/
theorem splitTextLimit_append_iff {d : String} (hd : d ≠ "") (n : Nat) (part rest : String) (ps : List String) :
    splitTextLimit d (n + 2) (part ++ d ++ rest) = part :: ps ↔
      Free d.toList part.toList ∧ splitTextLimit d (n + 1) rest = ps := by
  have hne : d.toList ≠ [] := fun h => hd (String.toList_inj.1 h)
  unfold splitTextLimit
  rw [map_ofList_eq_iff, map_ofList_eq_iff, String.toList_append, String.toList_append]
  exact splitAtMost_append_iff hne n part.toList rest.toList (ps.map String.toList)

/-- `trim` takes off what was put around a trimmed text, when that is blank. -/
theorem trim_pad {before text after : String} (hbefore : ∀ c ∈ before.toList, c ≤ ' ')
    (htext : trim text = text) (hafter : ∀ c ∈ after.toList, c ≤ ' ') :
    trim (before ++ text ++ after) = text := by
  unfold trim at htext ⊢
  rw [← String.toList_inj, String.toList_ofList] at htext ⊢
  rw [String.toList_append, String.toList_append]
  exact strip_pad (by simpa using hbefore) htext (by simpa using hafter)

/-! ## `Integer.parseInt` -/

/-- The zeros of the decimal digit blocks of Unicode 6.2 below 2^16. -/
def digitZeros : List Nat :=
  [0x30, 0x660, 0x6F0, 0x7C0, 0x966, 0x9E6, 0xA66, 0xAE6, 0xB66, 0xBE6, 0xC66, 0xCE6, 0xD66, 0xE50,
   0xED0, 0xF20, 0x1040, 0x1090, 0x17E0, 0x1810, 0x1946, 0x19D0, 0x1A80, 0x1A90, 0x1B50, 0x1BB0,
   0x1C40, 0x1C50, 0xA620, 0xA8D0, 0xA900, 0xA9D0, 0xAA50, 0xABF0, 0xFF10]

/-- `Character.digit(c, 10)`. -/
def digit (c : Char) : Option Nat :=
  (digitZeros.find? fun z => decide (z ≤ c.toNat ∧ c.toNat < z + 10)).map (c.toNat - ·)

/-- One or more decimal digits. -/
def decimal (cs : List Char) : Option Nat :=
  if cs = [] then none else cs.foldlM (fun n c => (digit c).map (10 * n + ·)) 0

/-- `Integer.parseInt(s)`; `none` is a `NumberFormatException`. -/
def parseInt (s : String) : Option Int :=
  let value : Option Int :=
    match s.toList with
    | '-' :: cs => (decimal cs).map fun n => -(n : Int)
    | '+' :: cs => (decimal cs).map Int.ofNat
    | cs => (decimal cs).map Int.ofNat
  value.filter fun v => decide (-2147483648 ≤ v ∧ v ≤ 2147483647)

example : ["4", "-3", "+7", "", "-", " 4", "2147483648", "٣"].map parseInt =
    [some 4, some (-3), some 7, none, none, none, none, some 3] := by decide

example : split ',' "a, b,," = ["a", " b"] ∧ split ',' "" = [""] ∧ split ',' "," = [] ∧
    splitLimit ';' 3 "n;u;x;y" = ["n", "u", "x;y"] ∧ splitLimit ';' 3 "" = [""] := by decide

/-! ## Hexadecimal digits -/

/-- The lowest `width` hexadecimal digits of a number. -/
def hexDigits : Nat → Nat → List Char
  | 0, _ => []
  | width + 1, n => hexDigits width (n / 16) ++ [Nat.digitChar (n % 16)]

@[simp] theorem length_hexDigits (width n : Nat) : (hexDigits width n).length = width := by
  induction width generalizing n with
  | zero => rfl
  | succ width ih => simp [hexDigits, ih]

theorem digitChar_inj {a b : Nat} (ha : a < 16) (hb : b < 16) (h : Nat.digitChar a = Nat.digitChar b) :
    a = b := by
  have hall : ∀ a < 16, ∀ b < 16, Nat.digitChar a = Nat.digitChar b → a = b := by decide
  exact hall a ha b hb h

theorem hexDigits_inj {width n m : Nat} (h : hexDigits width n = hexDigits width m) :
    n % 16 ^ width = m % 16 ^ width := by
  induction width generalizing n m with
  | zero => rw [Nat.pow_zero, Nat.mod_one, Nat.mod_one]
  | succ width ih =>
    obtain ⟨hinit, hlast⟩ := List.append_inj' h rfl
    have hdigit : n % 16 = m % 16 :=
      digitChar_inj (Nat.mod_lt n (by decide)) (Nat.mod_lt m (by decide)) (List.head_eq_of_cons_eq hlast)
    rw [Nat.pow_succ', Nat.mod_mul, Nat.mod_mul, ih hinit, hdigit]

/-! ## Lines of fields -/

/-- A blank, or a character that ends a line. -/
def isBreak (c : Char) : Bool := c == ' ' || c == '\n' || c == '\r'

/-- A text that is one field of one line. -/
def Unbroken (s : String) : Prop := ∀ c ∈ s.toList, isBreak c = false

instance (s : String) : Decidable (Unbroken s) := List.decidableBAll (fun c => isBreak c = false) s.toList

/-- A text without the characters that end a line. -/
def SingleLine (s : String) : Prop := '\n' ∉ s.toList ∧ '\r' ∉ s.toList

theorem singleLine_append (s t : String) : SingleLine (s ++ t) ↔ SingleLine s ∧ SingleLine t := by
  simp only [SingleLine, String.toList_append, List.mem_append, not_or]
  exact and_and_and_comm

/-- The parts of a text between its blanks, also the empty ones. -/
def fields (s : String) : List String := (s.toList.splitOn ' ').map String.ofList

theorem unbroken_iff (s : String) : Unbroken s ↔ ' ' ∉ s.toList ∧ SingleLine s := by
  unfold Unbroken SingleLine isBreak
  constructor
  · intro h
    refine ⟨fun hc => ?_, fun hc => ?_, fun hc => ?_⟩
    all_goals simpa using h _ hc
  · intro h c hc
    have h₁ : c ≠ ' ' := fun he => h.1 (he ▸ hc)
    have h₂ : c ≠ '\n' := fun he => h.2.1 (he ▸ hc)
    have h₃ : c ≠ '\r' := fun he => h.2.2 (he ▸ hc)
    simp [h₁, h₂, h₃]

theorem unbroken_hexDigits (width n : Nat) : Unbroken (String.ofList (hexDigits width n)) := by
  have hdigit : ∀ a < 16, isBreak (Nat.digitChar a) = false := by decide
  unfold Unbroken
  rw [String.toList_ofList]
  induction width generalizing n with
  | zero => simp [hexDigits]
  | succ width ih =>
    rw [hexDigits, List.forall_mem_append, List.forall_mem_singleton]
    exact ⟨ih _, hdigit _ (Nat.mod_lt n (by decide))⟩

theorem unbroken_append (s t : String) : Unbroken (s ++ t) ↔ Unbroken s ∧ Unbroken t := by
  unfold Unbroken
  simp only [String.toList_append, List.forall_mem_append]

theorem unbroken_repr (n : Int) : Unbroken n.repr := by
  have hdigit : ∀ {c : Char}, c.isDigit = true → isBreak c = false := by
    intro c hc
    unfold isBreak
    refine Bool.eq_false_iff.2 fun hb => ?_
    simp only [Bool.or_eq_true, beq_iff_eq] at hb
    obtain (rfl | rfl) | rfl := hb <;> exact absurd hc (by decide)
  have hnat : ∀ n : Nat, Unbroken n.repr := by
    intro n c hc
    rw [Nat.toList_repr] at hc
    exact hdigit (Nat.isDigit_of_mem_toDigits (by decide) (by decide) hc)
  cases n with
  | ofNat n => exact hnat n
  | negSucc n => exact (unbroken_append "-" _).2 ⟨by decide, hnat _⟩

/-- A line of three fields can be read back exactly when they are fields. -/
theorem fields_join_iff (a b c : String) :
    SingleLine (a ++ " " ++ b ++ " " ++ c) ∧ fields (a ++ " " ++ b ++ " " ++ c) = [a, b, c] ↔
      Unbroken a ∧ Unbroken b ∧ Unbroken c := by
  have hjoin : (String.singleton ' ').intercalate [a, b, c] = a ++ " " ++ b ++ " " ++ c := by
    rw [← String.toList_inj]
    simp
  have hfields : fields (a ++ " " ++ b ++ " " ++ c) = [a, b, c] ↔
      ' ' ∉ a.toList ∧ ' ' ∉ b.toList ∧ ' ' ∉ c.toList := by
    show parts ' ' (a ++ " " ++ b ++ " " ++ c) = [a, b, c] ↔ _
    rw [parts_eq_iff, hjoin]
    simp
  have hblank : SingleLine " " := by simp [SingleLine]
  rw [hfields, unbroken_iff, unbroken_iff, unbroken_iff]
  simp only [singleLine_append, hblank, and_true]
  refine ⟨fun h => ?_, fun h => ?_⟩
  · obtain ⟨⟨⟨ha, hb⟩, hc⟩, ha', hb', hc'⟩ := h
    exact ⟨⟨ha', ha⟩, ⟨hb', hb⟩, hc', hc⟩
  · obtain ⟨⟨ha', ha⟩, ⟨hb', hb⟩, hc', hc⟩ := h
    exact ⟨⟨⟨ha, hb⟩, hc⟩, ha', hb', hc'⟩

/-! ## Characters left out -/

/-- Two texts that read alike when characters to skip are left out. -/
inductive SameBut {α : Type*} (skip : α → Prop) : List α → List α → Prop
  | nil : SameBut skip [] []
  | both (c : α) {a b : List α} : SameBut skip a b → SameBut skip (c :: a) (c :: b)
  | left {c : α} {a b : List α} : skip c → SameBut skip a b → SameBut skip (c :: a) b
  | right {c : α} {a b : List α} : skip c → SameBut skip a b → SameBut skip a (c :: b)

theorem filter_eq_filter_iff {α : Type*} {keep : α → Bool} {skip : α → Prop}
    (hskip : ∀ c, keep c = false ↔ skip c) {a b : List α} :
    a.filter keep = b.filter keep ↔ SameBut skip a b := by
  refine ⟨fun h => ?_, fun h => ?_⟩
  · induction a generalizing b with
    | nil =>
      induction b with
      | nil => exact .nil
      | cons d b ih =>
        cases hd : keep d with
        | true => simp [hd] at h
        | false => exact .right ((hskip d).1 hd) (ih (by simpa [hd] using h))
    | cons c a iha =>
      cases hc : keep c with
      | false => exact .left ((hskip c).1 hc) (iha (by simpa [hc] using h))
      | true =>
        induction b with
        | nil => simp [hc] at h
        | cons d b ihb =>
          cases hd : keep d with
          | false => exact .right ((hskip d).1 hd) (ihb (by simpa [hd] using h))
          | true =>
            obtain ⟨rfl, htail⟩ : c = d ∧ a.filter keep = b.filter keep := by simpa [hc, hd] using h
            exact .both c (iha htail)
  · induction h with
    | nil => rfl
    | both c _ ih => rw [List.filter_cons, List.filter_cons, ih]
    | left hc _ ih => rw [List.filter_cons, (hskip _).2 hc]; exact ih
    | right hc _ ih => rw [List.filter_cons, (hskip _).2 hc]; exact ih

end SensorSamplor.Core.JavaText
