import Mathlib.Algebra.Group.Nat.Defs
import Mathlib.Logic.Function.Basic
import Mathlib.Tactic.IntervalCases

/-!
# Padded decimals

The decimal numeral of a number, padded with zeros to a width, as `printf` with
`%0wd` writes it. The width is a minimum: a number that needs more digits gets
them. Padding loses nothing (`Decimal.padded_injective`), because the digits can
be read back, and the numeral is exactly as long as it has to be
(`Decimal.length_padded`). Of numbers that fit the width the numerals, as texts,
compare as the numbers (`Decimal.padded_lt_padded_iff`).

The numeral of an integer has no padding, but a sign (`Decimal.signed`).
-/

namespace Decimal

/-- The decimal numeral of `n`, padded with zeros to `width` digits. -/
def padded (width n : ℕ) : List Char :=
  List.replicate (width - (Nat.toDigits 10 n).length) '0' ++ Nat.toDigits 10 n

variable {width k n : ℕ}

theorem isDigit_of_mem_padded {c : Char} (h : c ∈ padded width n) : c.isDigit := by
  rcases List.mem_append.mp h with h | h
  · rw [List.eq_of_mem_replicate h]
    rfl
  · exact Nat.isDigit_of_mem_toDigits (by decide) (by decide) h

/-- A numeral can be read back. -/
theorem ofDigitChars_padded : Nat.ofDigitChars 10 (padded width n) 0 = n := by
  rw [padded, Nat.ofDigitChars_append, Nat.ofDigitChars_replicate_zero, Nat.mul_zero,
    Nat.ofDigitChars_ten_toDigits]

theorem padded_injective (width : ℕ) : Function.Injective (padded width) := by
  intro m n h
  have hread := congrArg (fun digits => Nat.ofDigitChars 10 digits 0) h
  simpa only [ofDigitChars_padded] using hread

theorem length_padded : (padded width n).length = max width (Nat.toDigits 10 n).length := by
  rw [padded, List.length_append, List.length_replicate]
  omega

/-- A number below `10 ^ k` needs no more than `k` digits. -/
theorem length_padded_le (hk : 0 < k) (hn : n < 10 ^ k) :
    (padded width n).length ≤ max width k := by
  have hlen := (Nat.length_toDigits_le_iff (by decide) hk).mpr hn
  rw [length_padded]
  omega

/-- The numeral of a positive number does not start with a zero. -/
theorem head_toDigits (hn : 0 < n) : ∃ c ds, Nat.toDigits 10 n = c :: ds ∧ c ≠ '0' := by
  induction n using Nat.strongRecOn with
  | ind n ih =>
    rcases Nat.lt_or_ge n 10 with hlt | hge
    · refine ⟨n.digitChar, [], Nat.toDigits_of_lt_base hlt, ?_⟩
      interval_cases n <;> decide
    · obtain ⟨c, ds, hdigits, hc⟩ := ih (n / 10) (by omega) (by omega)
      refine ⟨c, ds ++ [(n % 10).digitChar], ?_, hc⟩
      rw [Nat.toDigits_of_base_le (by decide) hge, hdigits, List.cons_append]

/-! ### Order -/

section Order

variable {m : ℕ}

/-- The value of a digit. -/
theorem toNat_of_isDigit {c : Char} (h : c.isDigit) : 48 ≤ c.toNat ∧ c.toNat ≤ 57 := by
  simp only [Char.isDigit, Bool.and_eq_true, decide_eq_true_eq] at h
  exact ⟨UInt32.le_iff_toNat_le.mp h.1, UInt32.le_iff_toNat_le.mp h.2⟩

/-- The first digit counts for its place. -/
theorem ofDigitChars_cons_zero (c : Char) (xs : List Char) : Nat.ofDigitChars 10 (c :: xs) 0 =
    10 ^ xs.length * (c.toNat - 48) + Nat.ofDigitChars 10 xs 0 := by
  rw [Nat.ofDigitChars_cons, Nat.ofDigitChars_eq_ofDigitChars_zero, Nat.mul_zero, Nat.zero_add]
  rfl

/-- A numeral is smaller than the power of ten of its length. -/
theorem ofDigitChars_lt {xs : List Char} (h : ∀ c ∈ xs, c.isDigit) :
    Nat.ofDigitChars 10 xs 0 < 10 ^ xs.length := by
  induction xs with
  | nil => simp
  | cons c xs ih =>
    have hrest := ih fun c hc => h c (List.mem_cons_of_mem _ hc)
    have hc := toNat_of_isDigit (h c List.mem_cons_self)
    have hdigit : 10 ^ xs.length * (c.toNat - 48) ≤ 10 ^ xs.length * 9 :=
      Nat.mul_le_mul_left _ (by omega)
    rw [ofDigitChars_cons_zero, List.length_cons, pow_succ]
    omega

/-- **Numerals of one length compare as their numbers.** -/
theorem lt_iff_ofDigitChars_lt {xs ys : List Char} (hlen : xs.length = ys.length)
    (hx : ∀ c ∈ xs, c.isDigit) (hy : ∀ c ∈ ys, c.isDigit) :
    xs < ys ↔ Nat.ofDigitChars 10 xs 0 < Nat.ofDigitChars 10 ys 0 := by
  induction xs generalizing ys with
  | nil =>
    obtain rfl := List.length_eq_zero_iff.mp hlen.symm
    simp
  | cons c xs ih =>
    cases ys with
    | nil => simp at hlen
    | cons d ys =>
      have hlen' : xs.length = ys.length := by simpa using hlen
      have hc := toNat_of_isDigit (hx c List.mem_cons_self)
      have hd := toNat_of_isDigit (hy d List.mem_cons_self)
      have hxs := fun c hc => hx c (List.mem_cons_of_mem _ hc)
      have hys := fun c hc => hy c (List.mem_cons_of_mem _ hc)
      have hboundx := ofDigitChars_lt hxs
      have hboundy := ofDigitChars_lt hys
      rw [List.cons_lt_cons_iff, ih hlen' hxs hys, ofDigitChars_cons_zero, ofDigitChars_cons_zero,
        hlen']
      rw [hlen'] at hboundx
      have hlt : c < d ↔ c.toNat < d.toNat := UInt32.lt_iff_toNat_lt
      rcases Nat.lt_trichotomy c.toNat d.toNat with h | h | h
      · -- the first digits decide
        have hstep : 10 ^ ys.length * (c.toNat - 48) + 10 ^ ys.length ≤
            10 ^ ys.length * (d.toNat - 48) := by
          rw [← Nat.mul_succ]
          exact Nat.mul_le_mul_left _ (by omega)
        exact iff_of_true (Or.inl (hlt.mpr h)) (by omega)
      · obtain rfl : c = d := Char.toNat_inj.mp h
        simp
      · have hstep : 10 ^ ys.length * (d.toNat - 48) + 10 ^ ys.length ≤
            10 ^ ys.length * (c.toNat - 48) := by
          rw [← Nat.mul_succ]
          exact Nat.mul_le_mul_left _ (by omega)
        refine iff_of_false ?_ (by omega)
        rintro (hcd | ⟨rfl, -⟩)
        · exact absurd (hlt.mp hcd) (by omega)
        · omega

/-- A number that fits the width is as long as it says. -/
theorem length_padded_eq (hwidth : 0 < width) (hn : n < 10 ^ width) :
    (padded width n).length = width := by
  have hle := (Nat.length_toDigits_le_iff (by decide) hwidth).mpr hn
  rw [length_padded]
  omega

/-- **Padded numerals compare as their numbers**, as long as these fit. -/
theorem padded_lt_padded_iff (hwidth : 0 < width) (hm : m < 10 ^ width) (hn : n < 10 ^ width) :
    padded width m < padded width n ↔ m < n := by
  have hlen := (length_padded_eq hwidth hm).trans (length_padded_eq hwidth hn).symm
  rw [lt_iff_ofDigitChars_lt hlen (fun _ => isDigit_of_mem_padded)
    (fun _ => isDigit_of_mem_padded), ofDigitChars_padded, ofDigitChars_padded]

end Order

/-! ### Signed numerals -/

/-- The decimal numeral of an integer, as `str` writes it. -/
def signed (n : ℤ) : List Char :=
  if n < 0 then '-' :: Nat.toDigits 10 n.natAbs else Nat.toDigits 10 n.natAbs

theorem signed_ne_nil (n : ℤ) : signed n ≠ [] := by
  unfold signed
  split
  · exact List.cons_ne_nil _ _
  · exact Nat.toDigits_ne_nil

/-- A numeral that begins with a sign is that of a negative number. -/
theorem head_toDigits_ne (n : ℕ) : (Nat.toDigits 10 n).head? ≠ some '-' := by
  intro h
  have hdigit := Nat.isDigit_of_mem_toDigits (by decide) (by decide) (List.mem_of_head? h)
  simp [Char.isDigit] at hdigit

theorem signed_injective : Function.Injective signed := by
  have hdigits : ∀ m n, Nat.toDigits 10 m = Nat.toDigits 10 n → m = n := fun m n h =>
    padded_injective 0 (by simpa [padded] using h)
  intro m n h
  unfold signed at h
  split at h <;> split at h
  · have habs := hdigits _ _ (List.cons.inj h).2
    omega
  · exact absurd (by rw [← h]; rfl) (head_toDigits_ne n.natAbs)
  · exact absurd (by rw [h]; rfl) (head_toDigits_ne m.natAbs)
  · have habs := hdigits _ _ h
    omega

/-- An integer of at most `k` digits needs one more character for its sign. -/
theorem length_signed_le {n : ℤ} (hk : 0 < k) (hn : n.natAbs < 10 ^ k) :
    (signed n).length ≤ k + 1 := by
  have hlen := (Nat.length_toDigits_le_iff (by decide) hk).mpr hn
  unfold signed
  split
  · simpa using hlen
  · omega

end Decimal
