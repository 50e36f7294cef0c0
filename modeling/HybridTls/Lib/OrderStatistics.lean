import Mathlib.Algebra.BigOperators.Group.List.Basic
import Mathlib.Algebra.Order.BigOperators.Group.List
import Mathlib.Algebra.Order.Floor.Ring
import Mathlib.Algebra.Order.Ring.Rat
import Mathlib.Data.List.Sort
import Mathlib.Tactic.FieldSimp
import Mathlib.Tactic.Linarith
import Mathlib.Tactic.Ring

/-!
# Order statistics and interpolation

The smallest element of a list but `k`, said without sorting it
(`OrderStatistics.IsNth`): at most `k` elements are below it and more than `k` are not
above. A sorted list has these elements in order (`OrderStatistics.isNth_get`), which is
how a program finds them.

Between the elements of a sequence a value is found by linear interpolation
(`OrderStatistics.interpolate`). Where the sequence is monotone, so is the interpolation
(`OrderStatistics.interpolate_mono`): between two whole positions because of the weights,
and across them because the value does not leave the elements on either side. And since
it is an affine combination, an affine map of the elements maps the interpolation
(`OrderStatistics.interpolate_affine`).
-/

namespace OrderStatistics

/-! ### The elements of a list by rank -/

section Rank

variable {α : Type} [LinearOrder α] {xs ys : List α} {k : ℕ} {v w : α}

/-- **The element of rank `k`**, where the smallest one has rank zero: at most `k`
elements are smaller, and more than `k` are not larger. -/
def IsNth (xs : List α) (k : ℕ) (v : α) : Prop :=
  xs.countP (· < v) ≤ k ∧ k < xs.countP (· ≤ v)

theorem IsNth.le (hv : IsNth xs k v) (hw : IsNth xs k w) : v ≤ w := by
  by_contra hlt
  have hsub : xs.countP (· ≤ w) ≤ xs.countP (· < v) :=
    List.countP_mono_left fun x _ hx =>
      decide_eq_true ((of_decide_eq_true hx).trans_lt (not_le.mp hlt))
  have := hv.1
  have := hw.2
  omega

/-- There is one element of a rank. -/
theorem IsNth.unique (hv : IsNth xs k v) (hw : IsNth xs k w) : v = w :=
  le_antisymm (hv.le hw) (hw.le hv)

theorem IsNth.perm (h : xs.Perm ys) (hv : IsNth xs k v) : IsNth ys k v := by
  rw [IsNth, ← h.countP_eq, ← h.countP_eq]
  exact hv

omit [LinearOrder α] in
/-- The first `k` of a list, and those behind them. -/
theorem countP_take_add_drop (p : α → Bool) (k : ℕ) :
    xs.countP p = (xs.take k).countP p + (xs.drop k).countP p := by
  rw [← List.countP_append, List.take_append_drop]

/-- **A sorted list has its elements by rank.** -/
theorem isNth_get (hsorted : xs.Pairwise (· ≤ ·)) (hk : k < xs.length) :
    IsNth xs k (xs.get ⟨k, hk⟩) := by
  have hle := fun i j hi hj hij => List.pairwise_iff_get.mp hsorted ⟨i, hi⟩ ⟨j, hj⟩ hij
  constructor
  -- behind the first ones there is no smaller element
  · have hdrop : (xs.drop k).countP (· < xs.get ⟨k, hk⟩) = 0 := by
      rw [List.countP_eq_zero]
      intro x hx
      obtain ⟨i, hi, rfl⟩ := List.getElem_of_mem hx
      rw [List.getElem_drop]
      rw [List.length_drop] at hi
      rcases Nat.eq_zero_or_pos i with rfl | hpos
      · simp
      · have := hle k (k + i) hk (by omega) (by simp; omega)
        simpa using this
    rw [countP_take_add_drop _ k, hdrop, Nat.add_zero]
    exact List.countP_le_length.trans (List.length_take_le _ _)
  -- the first ones and the element itself are not larger
  · have htake : (xs.take (k + 1)).countP (· ≤ xs.get ⟨k, hk⟩) = k + 1 := by
      have hlen : (xs.take (k + 1)).length = k + 1 := by
        rw [List.length_take]
        omega
      refine (List.countP_eq_length.mpr fun x hx => ?_).trans hlen
      obtain ⟨i, hi, rfl⟩ := List.getElem_of_mem hx
      rw [List.getElem_take]
      rcases Nat.lt_or_ge i k with hlt | hge
      · have := hle i k (by omega) hk (by simpa using hlt)
        simpa using this
      · have : i = k := by omega
        simp [this]
    rw [countP_take_add_drop _ (k + 1), htake]
    omega

/-- The least element is found by comparing one after the other. -/
theorem isLeast_foldl_min (x : α) (xs : List α) : IsLeast {y | y ∈ x :: xs} (xs.foldl min x) := by
  induction xs generalizing x with
  | nil => simp [IsLeast, lowerBounds]
  | cons y xs ih =>
    obtain ⟨hmem, hle⟩ := ih (min x y)
    have hmin : xs.foldl min (min x y) ≤ min x y := hle List.mem_cons_self
    constructor
    · rcases List.mem_cons.mp hmem with h | h
      · rcases min_choice x y with hx | hy
        · exact List.mem_cons.mpr (Or.inl (h.trans hx))
        · exact List.mem_cons_of_mem _ (List.mem_cons.mpr (Or.inl (h.trans hy)))
      · exact List.mem_cons_of_mem _ (List.mem_cons_of_mem _ h)
    · intro z hz
      rcases List.mem_cons.mp hz with rfl | hz
      · exact hmin.trans (min_le_left _ _)
      rcases List.mem_cons.mp hz with rfl | hz
      · exact hmin.trans (min_le_right _ _)
      · exact hle (List.mem_cons_of_mem _ hz)

/-- And so is the greatest. -/
theorem isGreatest_foldl_max (x : α) (xs : List α) :
    IsGreatest {y | y ∈ x :: xs} (xs.foldl max x) :=
  isLeast_foldl_min (α := αᵒᵈ) x xs

end Rank

/-! ### Interpolation -/

section Interpolation

variable {K : Type} [Field K] [LinearOrder K] [IsStrictOrderedRing K] [FloorRing K]
  {a : ℤ → K} {x y c d : K} {n lo hi : ℤ}

/-- **The value at a position** between the elements of a sequence. -/
def interpolate (a : ℤ → K) (x : K) : K :=
  a ⌊x⌋ * (1 - (x - ⌊x⌋)) + a ⌈x⌉ * (x - ⌊x⌋)

/-- At a whole position the value is the element there. -/
@[simp] theorem interpolate_intCast (a : ℤ → K) (n : ℤ) : interpolate a n = a n := by
  simp [interpolate]

/-- Halfway between two elements the value is their mean. -/
theorem interpolate_half (a : ℤ → K) (n : ℤ) :
    interpolate a (n + 1 / 2) = (a n + a (n + 1)) / 2 := by
  have hfloor : ⌊(n : K) + 1 / 2⌋ = n := by
    rw [Int.floor_eq_iff]
    constructor <;> linarith
  have hceil : ⌈(n : K) + 1 / 2⌉ = n + 1 := by
    rw [Int.ceil_eq_iff]
    push_cast
    constructor <;> linarith
  rw [interpolate, hfloor, hceil]
  ring

omit [IsStrictOrderedRing K] in
/-- An affine map of the elements maps the values. -/
theorem interpolate_affine (a : ℤ → K) (c d x : K) :
    interpolate (fun i => c * a i + d) x = c * interpolate a x + d := by
  simp only [interpolate]
  ring

omit [IsStrictOrderedRing K] in
/-- The values at a position are those of the elements on either side. -/
theorem interpolate_congr {b : ℤ → K} (hfloor : a ⌊x⌋ = b ⌊x⌋) (hceil : a ⌈x⌉ = b ⌈x⌉) :
    interpolate a x = interpolate b x := by
  rw [interpolate, interpolate, hfloor, hceil]

/-- The sequence is monotone between two positions. -/
def MonotoneBetween (a : ℤ → K) (lo hi : ℤ) : Prop := ∀ i j, lo ≤ i → i ≤ j → j ≤ hi → a i ≤ a j

/-- The value is no smaller than the element in front of it. -/
theorem le_interpolate (ha : MonotoneBetween a lo hi) (hlo : lo ≤ ⌊x⌋) (hhi : ⌈x⌉ ≤ hi) :
    a ⌊x⌋ ≤ interpolate a x := by
  have hstep : a ⌊x⌋ ≤ a ⌈x⌉ := ha _ _ hlo (Int.floor_le_ceil x) hhi
  have hweight : 0 ≤ x - ⌊x⌋ := sub_nonneg.mpr (Int.floor_le x)
  have hdiff : interpolate a x = a ⌊x⌋ + (a ⌈x⌉ - a ⌊x⌋) * (x - ⌊x⌋) := by
    rw [interpolate]
    ring
  rw [hdiff]
  exact le_add_of_nonneg_right (mul_nonneg (sub_nonneg.mpr hstep) hweight)

/-- The value is no larger than the element behind it. -/
theorem interpolate_le (ha : MonotoneBetween a lo hi) (hlo : lo ≤ ⌊x⌋) (hhi : ⌈x⌉ ≤ hi) :
    interpolate a x ≤ a ⌈x⌉ := by
  have hstep : a ⌊x⌋ ≤ a ⌈x⌉ := ha _ _ hlo (Int.floor_le_ceil x) hhi
  have hweight : 0 ≤ 1 - (x - ⌊x⌋) := by
    have := Int.lt_floor_add_one x
    linarith
  have hdiff : interpolate a x = a ⌈x⌉ - (a ⌈x⌉ - a ⌊x⌋) * (1 - (x - ⌊x⌋)) := by
    rw [interpolate]
    ring
  rw [hdiff]
  exact sub_le_self _ (mul_nonneg (sub_nonneg.mpr hstep) hweight)

/-- Between two elements the value grows with the position. -/
theorem interpolate_mono_of_floor_eq (ha : MonotoneBetween a lo hi) (hlo : lo ≤ ⌊x⌋)
    (hhi : ⌈y⌉ ≤ hi) (hxy : x ≤ y) (hfloor : ⌊x⌋ = ⌊y⌋) : interpolate a x ≤ interpolate a y := by
  rcases (Int.floor_le x).eq_or_lt with hwhole | hbetween
  · -- the first position is that of an element
    have hx : interpolate a x = a ⌊y⌋ := by
      rw [← hwhole, interpolate_intCast, hfloor]
    rw [hx]
    exact le_interpolate ha (hfloor ▸ hlo) hhi
  · have hceil : ∀ z, (⌊x⌋ : K) < z → ⌊z⌋ = ⌊x⌋ → ⌈z⌉ = ⌊x⌋ + 1 := fun z hz hz' => by
      rw [Int.ceil_eq_iff]
      push_cast
      have := Int.lt_floor_add_one z
      rw [hz'] at this
      exact ⟨by linarith, this.le⟩
    have hx := hceil x hbetween rfl
    have hy := hceil y (hbetween.trans_le hxy) hfloor.symm
    have hstep : a ⌊x⌋ ≤ a (⌊x⌋ + 1) := ha _ _ hlo (by omega) (hy ▸ hhi)
    have hgrow : (a (⌊x⌋ + 1) - a ⌊x⌋) * (x - ⌊x⌋) ≤ (a (⌊x⌋ + 1) - a ⌊x⌋) * (y - ⌊x⌋) :=
      mul_le_mul_of_nonneg_left (by linarith) (sub_nonneg.mpr hstep)
    rw [interpolate, interpolate, hx, hy, ← hfloor]
    linarith

/-- **Interpolation in a monotone sequence is monotone.** -/
theorem interpolate_mono (ha : MonotoneBetween a lo hi) (hlo : lo ≤ ⌊x⌋) (hhi : ⌈y⌉ ≤ hi)
    (hxy : x ≤ y) : interpolate a x ≤ interpolate a y := by
  rcases (Int.floor_mono hxy).eq_or_lt with hfloor | hfloor
  · exact interpolate_mono_of_floor_eq ha hlo hhi hxy hfloor
  · -- an element lies between the positions
    have hceil := Int.ceil_le_floor_add_one x
    have hceil' := Int.ceil_mono hxy
    have hfloor' := Int.floor_le_ceil x
    calc interpolate a x ≤ a ⌈x⌉ := interpolate_le ha hlo (by omega)
      _ ≤ a ⌊y⌋ := ha _ _ (by omega) (by omega) ((Int.floor_le_ceil y).trans hhi)
      _ ≤ interpolate a y := le_interpolate ha (by omega) hhi

end Interpolation

/-! ### Lists -/

section List

variable {K : Type} [Field K] [LinearOrder K] [IsStrictOrderedRing K] {xs : List K} {lo hi : K}

/-- The elements of a list as a sequence. -/
def seq (xs : List K) (i : ℤ) : K := xs.getD i.toNat 0

omit [LinearOrder K] [IsStrictOrderedRing K] in
theorem seq_natCast {k : ℕ} (hk : k < xs.length) : seq xs k = xs.get ⟨k, hk⟩ := by
  simp [seq, hk]

omit [LinearOrder K] [IsStrictOrderedRing K] in
/-- The sequence of the images. -/
theorem seq_map {f : K → K} {i : ℤ} (h₀ : 0 ≤ i) (h : i < xs.length) :
    seq (xs.map f) i = f (seq xs i) := by
  obtain ⟨k, rfl⟩ := Int.eq_ofNat_of_zero_le h₀
  have hk : k < xs.length := by omega
  rw [seq_natCast hk, seq_natCast (by rwa [List.length_map])]
  simp

omit [IsStrictOrderedRing K] in
/-- A sorted list is a monotone sequence. -/
theorem monotoneBetween_seq (hsorted : xs.Pairwise (· ≤ ·)) :
    MonotoneBetween (seq xs) 0 (xs.length - 1) := by
  intro i j hi hij hj
  obtain ⟨k, rfl⟩ := Int.eq_ofNat_of_zero_le hi
  obtain ⟨m, rfl⟩ := Int.eq_ofNat_of_zero_le (hi.trans hij)
  have hm : m < xs.length := by omega
  have hk : k < xs.length := by omega
  rw [seq_natCast hm, seq_natCast hk]
  rcases (Int.ofNat_le.mp hij).eq_or_lt with rfl | hlt
  · exact le_refl _
  · exact List.pairwise_iff_get.mp hsorted _ _ hlt

omit [IsStrictOrderedRing K] in
/-- The first of a sorted list is its least element. -/
theorem isLeast_seq (hsorted : xs.Pairwise (· ≤ ·)) (hne : xs ≠ []) :
    IsLeast {x | x ∈ xs} (seq xs 0) := by
  have hlen := List.length_pos_iff.mpr hne
  constructor
  · rw [← Nat.cast_zero, seq_natCast hlen]
    exact List.get_mem xs _
  · intro x hx
    obtain ⟨i, hi, rfl⟩ := List.getElem_of_mem hx
    have := monotoneBetween_seq hsorted 0 i (Int.le_refl 0) (by omega) (by omega)
    rwa [seq_natCast hi] at this

omit [IsStrictOrderedRing K] in
/-- The last of a sorted list is its greatest element. -/
theorem isGreatest_seq (hsorted : xs.Pairwise (· ≤ ·)) (hne : xs ≠ []) :
    IsGreatest {x | x ∈ xs} (seq xs (xs.length - 1)) := by
  have hlen := List.length_pos_iff.mpr hne
  have hlast : ((xs.length : ℤ) - 1) = (xs.length - 1 : ℕ) := by omega
  constructor
  · rw [hlast, seq_natCast (by omega)]
    exact List.get_mem xs _
  · intro x hx
    obtain ⟨i, hi, rfl⟩ := List.getElem_of_mem hx
    have := monotoneBetween_seq hsorted i (xs.length - 1) (by omega) (by omega) (Int.le_refl _)
    rwa [seq_natCast hi] at this

/-- **The mean lies between the bounds of the elements.** -/
theorem mean_mem (hne : xs ≠ []) (hlo : lo ∈ lowerBounds {x | x ∈ xs})
    (hhi : hi ∈ upperBounds {x | x ∈ xs}) : lo ≤ xs.sum / xs.length ∧ xs.sum / xs.length ≤ hi := by
  have hlen : (0 : K) < xs.length := by
    exact_mod_cast List.length_pos_iff.mpr hne
  have hbelow := List.card_nsmul_le_sum xs lo fun x hx => hlo hx
  have habove := List.sum_le_card_nsmul xs hi fun x hx => hhi hx
  rw [nsmul_eq_mul] at hbelow habove
  rw [le_div_iff₀ hlen, div_le_iff₀ hlen]
  constructor <;> linarith

omit [LinearOrder K] [IsStrictOrderedRing K] in
/-- The sum of affine images. -/
theorem sum_map_affine (c d : K) (xs : List K) :
    (xs.map fun x => c * x + d).sum = c * xs.sum + xs.length * d := by
  induction xs with
  | nil => simp
  | cons x xs ih =>
    rw [List.map_cons, List.sum_cons, ih, List.sum_cons, List.length_cons]
    push_cast
    ring

/-- An affine map of the elements maps the mean. -/
theorem mean_map_affine (hne : xs ≠ []) (c d : K) :
    (xs.map fun x => c * x + d).sum / xs.length = c * (xs.sum / xs.length) + d := by
  have hlen : (xs.length : K) ≠ 0 := by
    exact_mod_cast (List.length_pos_iff.mpr hne).ne'
  rw [sum_map_affine]
  field_simp

end List

end OrderStatistics
