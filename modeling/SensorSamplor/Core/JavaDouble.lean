import SensorSamplor.Core.JavaText
import Mathlib.Data.Int.Log
import Mathlib.Data.Rat.Floor

/-!
# `double` values over exact rationals

`Double` keeps the three values of a Java `double` that are no numbers apart
from the finite ones, and computes with the finite ones exactly: the
rounding of the floating-point format is left out. What depends on the
difference between a finite value and `NaN` or an infinity (a comparison, a
`BigDecimal` that refuses the value, a literal that is too large) is kept.
A sum is taken to stay in range.

`toString` is the text of the nearest `double`: the shortest decimal number
that lies nearer to it than to its neighbours.
-/
namespace SensorSamplor.Core

inductive Double where
  | nan
  | negativeInfinity
  | positiveInfinity
  | finite (q : ℚ)
  deriving DecidableEq

namespace Double

def isFinite : Double → Bool
  | .finite _ => true
  | _ => false

def add : Double → Double → Double
  | .finite a, .finite b => .finite (a + b)
  | .nan, _ => .nan
  | _, .nan => .nan
  | .negativeInfinity, .positiveInfinity => .nan
  | .positiveInfinity, .negativeInfinity => .nan
  | .negativeInfinity, _ => .negativeInfinity
  | _, .negativeInfinity => .negativeInfinity
  | .positiveInfinity, _ => .positiveInfinity
  | _, .positiveInfinity => .positiveInfinity

/-- `new BigDecimal(value).setScale(1, HALF_UP).doubleValue()`: to one decimal
digit, ties away from zero; `none` is the `NumberFormatException` that
`BigDecimal` throws for a value that is no number. -/
def toOneDigit : Double → Option ℚ
  | .finite q => some ((if 0 ≤ q then (⌊q * 10 + 1 / 2⌋ : ℚ) else -⌊-q * 10 + 1 / 2⌋) / 10)
  | _ => none

/-- `r` is `q` to one decimal digit, ties away from zero. -/
structure OneDigit (q r : ℚ) : Prop where
  digit : ∃ n : ℤ, r = n / 10
  near : |q - r| ≤ 1 / 20
  tie : |q - r| = 1 / 20 → |q| < |r|

theorem oneDigit_neg {q r : ℚ} (h : OneDigit q r) : OneDigit (-q) (-r) := by
  have habs : |-q - -r| = |q - r| := by rw [← abs_neg, neg_sub_neg, neg_sub]
  obtain ⟨n, hn⟩ := h.digit
  refine ⟨⟨-n, by rw [hn]; push_cast; ring⟩, habs ▸ h.near, fun ht => ?_⟩
  rw [abs_neg, abs_neg]
  exact h.tie (habs ▸ ht)

theorem oneDigit_of_nonneg {q : ℚ} (hq : 0 ≤ q) : OneDigit q (⌊q * 10 + 1 / 2⌋ / 10) := by
  have hle := Int.floor_le (q * 10 + 1 / 2)
  have hlt := Int.lt_floor_add_one (q * 10 + 1 / 2)
  refine ⟨⟨_, rfl⟩, abs_le.2 ⟨by linarith, by linarith⟩, fun ht => ?_⟩
  -- `q` is half a digit below: it cannot be half a digit above
  have hr : q < ⌊q * 10 + 1 / 2⌋ / 10 := by
    by_contra hge
    rw [abs_of_nonneg (by linarith)] at ht
    linarith
  rw [abs_of_nonneg hq, abs_of_nonneg (by linarith)]
  exact hr

theorem toOneDigit_oneDigit (q : ℚ) : ∃ r, (Double.finite q).toOneDigit = some r ∧ OneDigit q r := by
  refine ⟨_, rfl, ?_⟩
  by_cases hq : 0 ≤ q
  · rw [if_pos hq]
    exact oneDigit_of_nonneg hq
  · have h := oneDigit_neg (oneDigit_of_nonneg (show 0 ≤ -q by linarith))
    rw [neg_neg] at h
    rw [if_neg hq, neg_div]
    exact h

theorem toOneDigit_isSome (d : Double) : d.toOneDigit.isSome = d.isFinite := by
  cases d <;> rfl

theorem isFinite_add_finite (q : ℚ) (d : Double) : ((Double.finite q).add d).isFinite = d.isFinite := by
  cases d <;> rfl

example : [Double.finite (81 / 4), .finite (-81 / 4), .nan].map toOneDigit =
    [some (203 / 10), some (-203 / 10), none] := by decide +kernel

/-! ## `Double.valueOf` -/

/-- The `double` of an exact value: from half a unit beyond the largest
`double` on it is an infinity. -/
def ofExact (q : ℚ) : Double :=
  if 2 ^ 1024 - 2 ^ 970 ≤ q then .positiveInfinity
  else if q ≤ -(2 ^ 1024 - 2 ^ 970) then .negativeInfinity
  else .finite q

/-- An ASCII digit of the base. -/
def digit (base : Nat) (c : Char) : Option Nat :=
  let d :=
    if '0' ≤ c ∧ c ≤ '9' then some (c.toNat - '0'.toNat)
    else if 'a' ≤ c ∧ c ≤ 'f' then some (c.toNat - 'a'.toNat + 10)
    else if 'A' ≤ c ∧ c ≤ 'F' then some (c.toNat - 'A'.toNat + 10)
    else none
  d.filter fun d => decide (d < base)

/-- One or more digits. -/
def digits (base : Nat) (cs : List Char) : Option Nat :=
  if cs = [] then none else cs.foldlM (fun n c => (digit base c).map (base * n + ·)) 0

/-- Digits with at most one point, at least one digit. -/
def significand (base : Nat) (cs : List Char) : Option ℚ :=
  let fraction := (cs.dropWhile (· ≠ '.')).drop 1
  (digits base (cs.takeWhile (· ≠ '.') ++ fraction)).map fun n => (n : ℚ) / (base : ℚ) ^ fraction.length

/-- Digits after an optional sign. -/
def exponent : List Char → Option Int
  | '-' :: cs => (digits 10 cs).map fun n => -(n : Int)
  | '+' :: cs => (digits 10 cs).map Int.ofNat
  | cs => (digits 10 cs).map Int.ofNat

/-- A decimal literal without sign and type suffix; its exponent may be missing. -/
def decimalLiteral (cs : List Char) : Option ℚ := do
  let notExponent := fun c : Char => decide (c ≠ 'e' ∧ c ≠ 'E')
  let q ← significand 10 (cs.takeWhile notExponent)
  match cs.dropWhile notExponent with
  | [] => return q
  | _ :: e => return q * 10 ^ (← exponent e)

/-- A hexadecimal literal after its `0x`; its binary exponent may not be missing. -/
def hexadecimalLiteral (cs : List Char) : Option ℚ := do
  let notExponent := fun c : Char => decide (c ≠ 'p' ∧ c ≠ 'P')
  let q ← significand 16 (cs.takeWhile notExponent)
  match cs.dropWhile notExponent with
  | [] => none
  | _ :: e => return q * 2 ^ (← exponent e)

/-- A literal with its type suffix cut off. -/
def withoutSuffix (cs : List Char) : List Char :=
  match cs.getLast? with
  | some c => if c ∈ ['f', 'F', 'd', 'D'] then cs.dropLast else cs
  | none => cs

/-- A number without sign. -/
def literal (cs : List Char) : Option ℚ :=
  match withoutSuffix cs with
  | '0' :: 'x' :: hex => hexadecimalLiteral hex
  | '0' :: 'X' :: hex => hexadecimalLiteral hex
  | cs => decimalLiteral cs

/-- `Double.valueOf(s)`; `none` is a `NumberFormatException`. -/
def valueOf (s : String) : Option Double :=
  let (negative, cs) :=
    match (JavaText.trim s).toList with
    | '-' :: cs => (true, cs)
    | '+' :: cs => (false, cs)
    | cs => (false, cs)
  if cs = "NaN".toList then some .nan
  else if cs = "Infinity".toList then some (if negative then .negativeInfinity else .positiveInfinity)
  else (literal cs).map fun q => ofExact (if negative then -q else q)

example : ["0", "-0.8", " 1.5e1f ", ".5", "0x1.8p1", "NaN", "-Infinity"].map valueOf =
    [some (finite 0), some (finite (-4 / 5)), some (finite 15), some (finite (1 / 2)), some (finite 3),
     some nan, some negativeInfinity] ∧
    ["", "1,5", ".", "e1", "0x1", "--1", "infinity"].map valueOf = List.replicate 7 none := by
  decide +kernel

/-! ## `Double.toString` -/

/-- To an integer, ties to the even one. -/
def roundHalfEven (q : ℚ) : ℤ :=
  if q - ⌊q⌋ < 1 / 2 ∨ q - ⌊q⌋ = 1 / 2 ∧ ⌊q⌋ % 2 = 0 then ⌊q⌋ else ⌊q⌋ + 1

/-- The `double` nearest to a positive value: 53 significant bits, fewer
below the smallest normal value. -/
def nearest (q : ℚ) : ℚ :=
  let ulp : ℚ := 2 ^ max (Int.log 2 q - 52) (-1074)
  roundHalfEven (q / ulp) * ulp

/-- A positive value to `p + 1` significant decimal digits. -/
def toPrecision (p : Nat) (q : ℚ) : ℚ :=
  let unit : ℚ := 10 ^ (Int.log 10 q - p)
  roundHalfEven (q / unit) * unit

/-- A positive `double` to as many decimal digits, from two on, as tell it
from its neighbours; 17 always do. -/
def shortest (q : ℚ) : ℚ :=
  toPrecision (((List.range' 1 16).find? fun p => decide (nearest (toPrecision p q) = q)).getD 16) q

/-- The decimal places of a value below one: at least one, and no trailing zeros. -/
def places : Nat → ℚ → List Char
  | 0, _ => []
  | fuel + 1, q =>
    let rest := q * 10 - ⌊q * 10⌋
    ⌊q * 10⌋.repr.toList ++ if rest = 0 then [] else places fuel rest

def plainNotation (q : ℚ) : List Char := ⌊q⌋.repr.toList ++ '.' :: places 20 (q - ⌊q⌋)

/-- A positive value, in scientific notation when it is small or large. -/
def decimalNotation (q : ℚ) : List Char :=
  if 1 / 1000 ≤ q ∧ q < 10000000 then plainNotation q
  else plainNotation (q / 10 ^ Int.log 10 q) ++ 'E' :: (Int.log 10 q).repr.toList

/-- `Double.toString(d)`, or `d.toString()` of the `double` nearest to `d`. -/
def toString : Double → String
  | .nan => "NaN"
  | .positiveInfinity => "Infinity"
  | .negativeInfinity => "-Infinity"
  | .finite q =>
    if q = 0 then "0.0"
    else String.ofList ((if q < 0 then ['-'] else []) ++ decimalNotation (shortest (nearest |q|)))

theorem isBreak_places {fuel : Nat} {q : ℚ} {c : Char} (h : c ∈ places fuel q) : JavaText.isBreak c = false := by
  induction fuel generalizing q with
  | zero => cases h
  | succ fuel ih =>
    simp only [places] at h
    rcases List.mem_append.1 h with h | h
    · exact JavaText.unbroken_repr _ c h
    · split at h
      · cases h
      · exact ih h

theorem isBreak_plainNotation {q : ℚ} {c : Char} (h : c ∈ plainNotation q) : JavaText.isBreak c = false := by
  rcases List.mem_append.1 h with h | h
  · exact JavaText.unbroken_repr _ c h
  · rcases List.mem_cons.1 h with rfl | h
    · rfl
    · exact isBreak_places h

/-- The text of a number has neither blanks nor line ends. -/
theorem unbroken_toString (d : Double) : JavaText.Unbroken d.toString := by
  cases d with
  | nan => decide
  | negativeInfinity => decide
  | positiveInfinity => decide
  | finite q =>
    intro c hc
    simp only [toString] at hc
    split at hc
    · exact (by decide : JavaText.Unbroken "0.0") c hc
    · rw [String.toList_ofList] at hc
      rcases List.mem_append.1 hc with hc | hc
      · split at hc
        · rw [List.mem_singleton.1 hc]; rfl
        · cases hc
      · unfold decimalNotation at hc
        split at hc
        · exact isBreak_plainNotation hc
        · rcases List.mem_append.1 hc with hc | hc
          · exact isBreak_plainNotation hc
          · rcases List.mem_cons.1 hc with rfl | hc
            · rfl
            · exact JavaText.unbroken_repr _ c hc

example : [finite (203 / 10), finite (-81 / 4), finite 10000000, finite (1 / 3000), finite 0].map toString =
    ["20.3", "-20.25", "1.0E7", "3.333333333333333E-4", "0.0"] := by decide +kernel

end Double
end SensorSamplor.Core
