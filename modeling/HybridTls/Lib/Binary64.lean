import Mathlib.Data.Int.Log
import Mathlib.Data.Rat.Floor
import Mathlib.Tactic.Linarith

/-!
# Rounding to double precision

The result of an arithmetic operation on floating-point numbers is the exact
result, rounded to a number of 53 binary digits (`Binary64.fl`): the quotient by
a power of two is rounded to an integer, to the even one of the two if it lies
halfway between them (`Binary64.roundEven`), and multiplied by that power again.
The exponent is that of the leading digit, and bounded below; numbers too large to
be represented are not considered.

Rounding does not leave a range with whole bounds (`Binary64.fl_nonneg`,
`Binary64.fl_le`), because such a bound is itself a number of 53 digits. How far it moves a
number depends on the size of the number (`Binary64.abs_fl_sub_le`); numbers that are
farther apart than that stay in order (`Binary64.le_iff_le_of_abs_sub_lt`).
-/

namespace Binary64

/-- The nearest integer, and of two the even one. -/
def roundEven (q : ℚ) : ℤ :=
  if q - ⌊q⌋ < 1 / 2 then ⌊q⌋
  else if 1 / 2 < q - ⌊q⌋ then ⌊q⌋ + 1
  else if ⌊q⌋ % 2 = 0 then ⌊q⌋ else ⌊q⌋ + 1

/-- The exponent of the last of 53 binary digits. -/
def exponent (q : ℚ) : ℤ := max (Int.log 2 |q| - 52) (-1074)

/-- The nearest floating-point number. -/
def fl (q : ℚ) : ℚ := roundEven (q / 2 ^ exponent q) * 2 ^ exponent q

/-- Python's `round(q, digits)`: the floating-point number nearest to the rounded decimal
fraction. -/
def round (q : ℚ) (digits : ℕ) : ℚ := fl (roundEven (q * 10 ^ digits) / 10 ^ digits)

section Integer

variable {q : ℚ} {n : ℤ}

theorem floor_le_roundEven (q : ℚ) : ⌊q⌋ ≤ roundEven q := by
  unfold roundEven
  split_ifs <;> omega

/-- Rounding does not pass an integer below. -/
theorem le_roundEven (h : (n : ℚ) ≤ q) : n ≤ roundEven q :=
  Int.le_trans (Int.le_floor.mpr h) (floor_le_roundEven q)

/-- Rounding does not pass an integer above. -/
theorem roundEven_le (h : q ≤ n) : roundEven q ≤ n := by
  rcases h.lt_or_eq with hlt | rfl
  · have hfloor : ⌊q⌋ < n := Int.floor_lt.mpr hlt
    unfold roundEven
    split_ifs <;> omega
  · simp [roundEven]

end Integer

section Range

variable {q : ℚ} {B : ℕ}

theorem two_zpow_pos (e : ℤ) : (0 : ℚ) < 2 ^ e := zpow_pos (by norm_num) e

theorem fl_nonneg (h : 0 ≤ q) : 0 ≤ fl q := by
  have hround : 0 ≤ roundEven (q / 2 ^ exponent q) :=
    le_roundEven (by simpa using div_nonneg h (two_zpow_pos _).le)
  exact mul_nonneg (by exact_mod_cast hround) (two_zpow_pos _).le

/-- A whole number is a multiple of the last digit of the numbers below it. -/
theorem exponent_nonpos (h₀ : 0 < q) (h : q ≤ B) (hB : B < 2 ^ 53) : exponent q ≤ 0 := by
  have hlog : Int.log 2 |q| < 53 := by
    rw [abs_of_pos h₀]
    refine (Int.lt_zpow_iff_log_lt (by norm_num) h₀).mp (lt_of_le_of_lt h ?_)
    exact_mod_cast hB
  simp only [exponent]
  omega

/-- **Rounding does not pass a whole number above.** -/
theorem fl_le (h₀ : 0 ≤ q) (h : q ≤ B) (hB : B < 2 ^ 53) : fl q ≤ B := by
  rcases h₀.lt_or_eq with hpos | rfl
  · have hexp := exponent_nonpos hpos h hB
    -- the bound, counted in units of the last digit
    obtain ⟨k, hk⟩ : ∃ k : ℕ, -exponent q = k := ⟨(-exponent q).toNat, by omega⟩
    have hunits : (B : ℚ) / 2 ^ exponent q = ((B * 2 ^ k : ℕ) : ℤ) := by
      rw [div_eq_mul_inv, ← zpow_neg, hk]
      push_cast
      rfl
    have hround : roundEven (q / 2 ^ exponent q) ≤ ((B * 2 ^ k : ℕ) : ℤ) := by
      refine roundEven_le ?_
      rw [← hunits]
      exact div_le_div_of_nonneg_right h (two_zpow_pos _).le
    calc fl q ≤ ((B * 2 ^ k : ℕ) : ℤ) * 2 ^ exponent q :=
          mul_le_mul_of_nonneg_right (by exact_mod_cast hround) (two_zpow_pos _).le
      _ = B := by rw [← hunits, div_mul_cancel₀ _ (two_zpow_pos _).ne']
  · simp [fl, roundEven]

end Range

/-! ### How far a number is rounded -/

section Error

variable {q : ℚ} {k : ℤ}

/-- The nearest integer is at most one half away. -/
theorem abs_roundEven_sub_le (q : ℚ) : |(roundEven q : ℚ) - q| ≤ 1 / 2 := by
  have hfloor := Int.floor_le q
  have hceil := Int.lt_floor_add_one q
  rw [abs_le, roundEven]
  split_ifs <;> push_cast <;> constructor <;> linarith

/-- Numbers below a power of two have a last digit that is 53 places below it. -/
theorem exponent_le (h₀ : 0 < q) (h : q < 2 ^ k) (hk : -1021 ≤ k) : exponent q ≤ k - 53 := by
  have hlog : Int.log 2 |q| < k := by
    rw [abs_of_pos h₀]
    exact (Int.lt_zpow_iff_log_lt (by norm_num) h₀).mp (by exact_mod_cast h)
  simp only [exponent]
  omega

/-- **The nearest floating-point number** is at most half a unit of the last digit away. -/
theorem abs_fl_sub_le (h₀ : 0 ≤ q) (h : q < 2 ^ k) (hk : -1021 ≤ k) :
    |fl q - q| ≤ 2 ^ (k - 54) := by
  rcases h₀.lt_or_eq with hpos | rfl
  · have hunit := two_zpow_pos (exponent q)
    have hfl : fl q - q = (roundEven (q / 2 ^ exponent q) - q / 2 ^ exponent q) *
        2 ^ exponent q := by
      rw [fl, sub_mul, div_mul_cancel₀ _ hunit.ne']
    calc |fl q - q| = |(roundEven (q / 2 ^ exponent q) : ℚ) - q / 2 ^ exponent q| *
          2 ^ exponent q := by rw [hfl, abs_mul, abs_of_pos hunit]
      _ ≤ 1 / 2 * 2 ^ (k - 53) :=
          mul_le_mul (abs_roundEven_sub_le _)
            (zpow_le_zpow_right₀ (by norm_num) (exponent_le hpos h hk)) hunit.le (by norm_num)
      _ = 2 ^ (k - 54) := by
          rw [show k - 53 = k - 54 + 1 by omega, zpow_add_one₀ (by norm_num)]
          ring
  · simp [fl, roundEven, (two_zpow_pos _).le]

/-- **Rounding keeps the order** of two numbers if it moves neither by half the distance
between them. -/
theorem le_iff_le_of_abs_sub_lt {a b a' b' δ : ℚ} (ha : |a' - a| < δ / 2) (hb : |b' - b| < δ / 2)
    (hsame : a = b → a' = b') (hgap : a ≠ b → δ ≤ |a - b|) : a' ≤ b' ↔ a ≤ b := by
  rw [abs_lt] at ha hb
  rcases lt_trichotomy a b with hlt | heq | hlt
  · have hfar := hgap hlt.ne
    rw [abs_sub_comm, abs_of_pos (sub_pos.mpr hlt)] at hfar
    exact iff_of_true (by linarith) hlt.le
  · exact iff_of_true (hsame heq).le heq.le
  · have hfar := hgap hlt.ne'
    rw [abs_of_pos (sub_pos.mpr hlt)] at hfar
    exact iff_of_false (not_le.mpr (by linarith)) (not_le.mpr hlt)

end Error

end Binary64
