import SensorSamplor.Core.JavaDouble

/-!
# `float` and `double` values near to decimal numbers

A quotient of two `float`s is the `float` nearest to it, and a sum of two
`double`s the `double` nearest to that. `nearestFloat` is the first of these for
quotients that are not negative, `nearestDouble` the second. Neither is ever
far enough off to change a decimal digit of a number as small as those of a
sensor (`abs_nearestFloat_sub_lt`, `abs_nearestDouble_sub_le`,
`OneDigit.eq_tenths`).
-/
namespace SensorSamplor.Core.Double

/-- The `float` nearest to a value that is not negative and not too large: 24
significant bits, fewer below the smallest normal value. -/
def nearestFloat (q : ℚ) : ℚ :=
  let ulp : ℚ := 2 ^ max (Int.log 2 q - 23) (-149)
  roundHalfEven (q / ulp) * ulp

theorem abs_roundHalfEven_sub_le (q : ℚ) : |(roundHalfEven q : ℚ) - q| ≤ 1 / 2 := by
  have hle := Int.floor_le q
  have hlt := Int.lt_floor_add_one q
  unfold roundHalfEven
  split
  · rename_i h
    rw [abs_le]
    rcases h with h | ⟨h, -⟩
    · constructor <;> linarith
    · constructor <;> linarith
  · rename_i h
    obtain ⟨hnot, -⟩ := not_or.1 h
    push_cast
    rw [abs_le]
    constructor <;> linarith

/-- The error is at most half a unit in the last place, of one more binary digit
than `digits`. -/
theorem abs_round_sub_le {q : ℚ} {digits emin e : ℤ} (he : emin ≤ e - 1 - digits) (h0 : 0 < q) (hlt : q < 2 ^ e) :
    |(roundHalfEven (q / 2 ^ max (Int.log 2 q - digits) emin) : ℚ) * 2 ^ max (Int.log 2 q - digits) emin - q| ≤
      2 ^ (e - digits - 2) := by
  have hlog : Int.log 2 q < e := (Int.lt_zpow_iff_log_lt (by decide) h0).1 (by exact_mod_cast hlt)
  obtain ⟨u, hu⟩ : ∃ u, u = max (Int.log 2 q - digits) emin := ⟨_, rfl⟩
  rw [← hu]
  have hpos : (0 : ℚ) < 2 ^ u := zpow_pos (by norm_num) u
  have hround := abs_roundHalfEven_sub_le (q / 2 ^ u)
  have herror : (roundHalfEven (q / 2 ^ u) : ℚ) * 2 ^ u - q =
      ((roundHalfEven (q / 2 ^ u) : ℚ) - q / 2 ^ u) * 2 ^ u := by
    rw [sub_mul, div_mul_cancel₀ _ hpos.ne']
  calc |(roundHalfEven (q / 2 ^ u) : ℚ) * 2 ^ u - q| = |(roundHalfEven (q / 2 ^ u) : ℚ) - q / 2 ^ u| * 2 ^ u := by
        rw [herror, abs_mul, abs_of_pos hpos]
    _ ≤ 1 / 2 * 2 ^ u := mul_le_mul_of_nonneg_right hround hpos.le
    _ = 2 ^ (u - 1) := by rw [zpow_sub_one₀ (by norm_num)]; ring
    _ ≤ 2 ^ (e - digits - 2) := zpow_le_zpow_right₀ (by norm_num) (by omega)

theorem abs_nearestFloat_sub_le {q : ℚ} {e : ℤ} (he : -125 ≤ e) (h0 : 0 < q) (hlt : q < 2 ^ e) :
    |nearestFloat q - q| ≤ 2 ^ (e - 25) := by
  have h := abs_round_sub_le (show -149 ≤ e - 1 - 23 by omega) h0 hlt
  rwa [show e - 23 - 2 = e - 25 by omega] at h

/-- The `double` nearest to a value that is not too large. -/
def nearestDouble (q : ℚ) : ℚ := if q < 0 then -nearest (-q) else nearest q

theorem abs_nearestDouble_sub_le {q : ℚ} {e : ℤ} (he : -1020 ≤ e) (hlt : |q| < 2 ^ e) :
    |nearestDouble q - q| ≤ 2 ^ (e - 54) := by
  have hpositive : ∀ {p : ℚ}, 0 < p → p < 2 ^ e → |nearest p - p| ≤ 2 ^ (e - 54) := by
    intro p h0 hp
    have h := abs_round_sub_le (show -1074 ≤ e - 1 - 52 by omega) h0 hp
    rwa [show e - 52 - 2 = e - 54 by omega] at h
  unfold nearestDouble
  rcases lt_trichotomy q 0 with hneg | rfl | hpos
  · rw [abs_of_neg hneg] at hlt
    have hopposite : -nearest (-q) - q = -(nearest (-q) - -q) := by ring
    rw [if_pos hneg, hopposite, abs_neg]
    exact hpositive (by linarith) hlt
  · have hzero : nearest 0 = 0 := by decide +kernel
    rw [if_neg (lt_irrefl _), hzero, sub_zero, abs_zero]
    exact zpow_nonneg (by norm_num) _
  · rw [abs_of_pos hpos] at hlt
    rw [if_neg (by linarith)]
    exact hpositive hpos hlt

/-- The `float` of a number of tenths, two bytes of them at most. -/
theorem abs_nearestFloat_sub_lt {n : ℕ} (h : n < 2 ^ 16) : |nearestFloat (n / 10) - n / 10| < 1 / 40 := by
  rcases Nat.eq_zero_or_pos n with rfl | hpos
  · have hzero : nearestFloat ((0 : ℕ) / 10) = 0 := by decide +kernel
    rw [hzero]
    norm_num
  · have hn : (n : ℚ) < 2 ^ 16 := by exact_mod_cast h
    have h0 : (0 : ℚ) < n / 10 := by positivity
    have hlt : (n : ℚ) / 10 < 2 ^ (13 : ℤ) := by
      rw [div_lt_iff₀ (by norm_num)]
      norm_num at hn ⊢
      linarith
    have hle := abs_nearestFloat_sub_le (by decide) h0 hlt
    have hsmall : (2 : ℚ) ^ ((13 : ℤ) - 25) < 1 / 40 := by norm_num
    exact lt_of_le_of_lt hle hsmall

/-- A value nearer to a number of tenths than half a tenth is rounded to it. -/
theorem OneDigit.eq_tenths {q r : ℚ} (h : OneDigit q r) {n : ℤ} (hn : |q - n / 10| < 1 / 20) : r = n / 10 := by
  obtain ⟨m, rfl⟩ := h.digit
  have hnear := abs_le.1 h.near
  have hclose := abs_lt.1 hn
  have hlt : |(m : ℚ) - n| < 1 := by
    rw [abs_lt]
    constructor <;> linarith
  have hzero : m - n = 0 := Int.abs_lt_one_iff.1 (by exact_mod_cast hlt)
  rw [show m = n by omega]

end SensorSamplor.Core.Double
