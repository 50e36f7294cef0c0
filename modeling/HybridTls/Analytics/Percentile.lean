import HybridTls.Analytics
import HybridTls.Lib.OrderStatistics

/-!
# The percentiles

What `percentile` computes: the elements of the sample, sorted, interpolated at a position
that is proportional to the percentile (`HybridTls.percentile_eq`). The two branches for a
sample of one and for a whole position are no exceptions to this.

So the percentiles are monotone and reach from the least element to the greatest
(`HybridTls.PercentileLaws`), and the order of the sample does not matter, because a
sorted list has no choice (`HybridTls.sorted_perm`). That the entries of a description are
in order is a consequence (`HybridTls.Description.Ordered`).
-/

namespace HybridTls

open Python OrderStatistics

/-! ### Sorted samples -/

section Sorted

variable {values values' : List ℚ}

theorem sorted_pairwise (values : List ℚ) : (sorted values).Pairwise (· ≤ ·) :=
  List.pairwise_insertionSort _ _

theorem perm_sorted (values : List ℚ) : (sorted values).Perm values :=
  List.perm_insertionSort _ _

theorem sorted_ne_nil (hne : values ≠ []) : sorted values ≠ [] :=
  fun h => hne (List.perm_nil.mp (h ▸ (perm_sorted values).symm))

/-- **There is one way to sort a sample.** -/
theorem sorted_perm (h : values.Perm values') : sorted values = sorted values' :=
  ((perm_sorted values).trans (h.trans (perm_sorted values').symm)).eq_of_pairwise'
    (sorted_pairwise values) (sorted_pairwise values')

/-- A monotone map of the elements maps the sorted sample. -/
theorem sorted_map {f : ℚ → ℚ} (hf : ∀ x y, x ≤ y ↔ f x ≤ f y) (values : List ℚ) :
    sorted (values.map f) = (sorted values).map f :=
  (List.map_insertionSort _ _ f values fun x _ y _ => hf x y).symm

theorem isLeast_sorted (hne : values ≠ []) :
    IsLeast {x | x ∈ values} (seq (sorted values) 0) := by
  have h := isLeast_seq (sorted_pairwise values) (sorted_ne_nil hne)
  simpa only [(perm_sorted values).mem_iff] using h

theorem isGreatest_sorted (hne : values ≠ []) :
    IsGreatest {x | x ∈ values} (seq (sorted values) (values.length - 1)) := by
  have h := isGreatest_seq (sorted_pairwise values) (sorted_ne_nil hne)
  simpa only [(perm_sorted values).mem_iff, length_sorted] using h

/-- The elements by rank. -/
theorem isNth_sorted {k : ℕ} (hk : k < values.length) :
    IsNth values k (seq (sorted values) k) := by
  have hk' : k < (sorted values).length := by rwa [length_sorted]
  rw [seq_natCast hk']
  exact (isNth_get (sorted_pairwise values) hk').perm (perm_sorted values)

end Sorted

/-! ### What `percentile` computes -/

section Percentile

variable {values values' : List ℚ} {p q : ℚ}

/-- Where a percentile is looked up. -/
def position (values : List ℚ) (p : ℚ) : ℚ := percentilePosition values.length p

/-- A percentile, as an element of the sorted sample or a value between two. -/
def percentileAt (values : List ℚ) (p : ℚ) : ℚ :=
  interpolate (seq (sorted values)) (position values p)

/-- **A percentile is an interpolated element of the sorted sample.** -/
theorem percentile_eq (hne : values ≠ []) (h₀ : 0 ≤ p) (h₁ : p ≤ 100) :
    percentile values p = .ok (some (percentileAt values p)) := by
  have hlen : 1 ≤ (sorted values).length := List.length_pos_iff.mpr (sorted_ne_nil hne)
  have hitem : ∀ i : ℤ, 0 ≤ i → i < (sorted values).length →
      getItem (sorted values) i = .ok (seq (sorted values) i) := fun i hi hi' => by
    obtain ⟨k, rfl⟩ := Int.eq_ofNat_of_zero_le hi
    rw [getItem_eq_ok hi hi', seq_natCast (Int.ofNat_lt.mp hi')]
    rfl
  have hpos : position values p = percentilePosition (sorted values).length p := by
    rw [length_sorted, position]
  obtain ⟨hl, hl', hu, hu'⟩ := percentilePosition_mem hlen h₀ h₁
  rw [← hpos] at hl hl' hu hu'
  rw [percentile, if_neg hne, percentileAt]
  simp only [← hpos, hitem _ hl hl', hitem _ hu hu', hitem 0 (Int.le_refl 0) (by omega)]
  split
  next hone =>
    -- the position is the only one there is
    have hzero : position values p = (0 : ℤ) := by
      rw [hpos, percentilePosition, hone]
      simp
    rw [hzero, interpolate_intCast]
    rfl
  next =>
    split
    next hwhole =>
      have hfract : position values p = ⌊position values p⌋ :=
        le_antisymm ((Int.le_ceil _).trans (by rw [hwhole])) (Int.floor_le _)
      rw [hfract, interpolate_intCast, Int.floor_intCast]
      rfl
    next => rfl

/-- A sample in another order has the same percentiles. -/
theorem percentile_perm (h : values.Perm values') (p : ℚ) :
    percentile values p = percentile values' p := by
  have hnil : values = [] ↔ values' = [] := by
    rw [← List.length_eq_zero_iff, h.length_eq, List.length_eq_zero_iff]
  simp only [percentile, sorted_perm h, hnil]

/-- Positions grow with the percentile. -/
theorem position_mono (hne : values ≠ []) (hpq : p ≤ q) :
    position values p ≤ position values q := by
  have hlen : (1 : ℚ) ≤ values.length := by exact_mod_cast List.length_pos_iff.mpr hne
  exact div_le_div_of_nonneg_right (mul_le_mul_of_nonneg_left hpq (by linarith)) (by norm_num)

theorem percentileAt_perm (h : values.Perm values') : percentileAt values = percentileAt values' :=
  funext fun p => by rw [percentileAt, percentileAt, position, position, sorted_perm h, h.length_eq]

/-- Half of the elements are in front of the middle. -/
theorem percentileAt_middle (hne : values ≠ []) :
    percentileAt values 50 =
      if values.length % 2 = 1 then seq (sorted values) (values.length / 2 : ℕ)
      else (seq (sorted values) (values.length / 2 - 1 : ℕ) +
        seq (sorted values) (values.length / 2 : ℕ)) / 2 := by
  have hlen := List.length_pos_iff.mpr hne
  split
  next hodd =>
    obtain ⟨k, hk⟩ : ∃ k, values.length = 2 * k + 1 := ⟨values.length / 2, by omega⟩
    have hpos : position values 50 = ((values.length / 2 : ℕ) : ℤ) := by
      have hhalf : values.length / 2 = k := by omega
      rw [position, percentilePosition, hhalf, hk]
      push_cast
      ring
    rw [percentileAt, hpos, interpolate_intCast]
  next heven =>
    obtain ⟨k, hk⟩ : ∃ k, values.length = 2 * k + 2 := ⟨values.length / 2 - 1, by omega⟩
    have hhalf : values.length / 2 = k + 1 := by omega
    have hpos : position values 50 = ((k : ℕ) : ℤ) + 1 / 2 := by
      rw [position, percentilePosition, hk]
      push_cast
      ring
    rw [percentileAt, hpos, interpolate_half, hhalf]
    simp

end Percentile

/-! ### The laws -/

/-- **The median**: the element in the middle, or the mean of the two there. -/
def IsMedian (values : List ℚ) (m : ℚ) : Prop :=
  if values.length % 2 = 1 then IsNth values (values.length / 2) m
  else ∃ a b, IsNth values (values.length / 2 - 1) a ∧ IsNth values (values.length / 2) b ∧
    m = (a + b) / 2

/-- **What is asked of the percentiles `f` of a sample.** -/
structure PercentileLaws (values : List ℚ) (f : ℚ → ℚ) : Prop where
  returns : ∀ p, 0 ≤ p → p ≤ 100 → percentile values p = .ok (some (f p))
  /-- Both indices are within the list. -/
  indices : ∀ p, 0 ≤ p → p ≤ 100 →
    0 ≤ ⌊position values p⌋ ∧ ⌊position values p⌋ < values.length ∧
      0 ≤ ⌈position values p⌉ ∧ ⌈position values p⌉ < values.length
  mono : ∀ p q, 0 ≤ p → p ≤ q → q ≤ 100 → f 0 ≤ f p ∧ f p ≤ f q ∧ f q ≤ f 100
  least : IsLeast {x | x ∈ values} (f 0)
  greatest : IsGreatest {x | x ∈ values} (f 100)
  /-- At whole positions they are the elements by rank. -/
  nth : ∀ k < values.length, 2 ≤ values.length →
    IsNth values k (f (100 * k / (values.length - 1)))
  median : IsMedian values (f 50)

section Laws

variable {values : List ℚ}

theorem percentileLaws (hne : values ≠ []) : PercentileLaws values (percentileAt values) := by
  have hlen := List.length_pos_iff.mpr hne
  have hindices := fun p (h₀ : 0 ≤ p) (h₁ : p ≤ 100) => percentilePosition_mem hlen h₀ h₁
  have hends : position values 0 = (0 : ℤ) ∧ position values 100 = (values.length - 1 : ℤ) := by
    constructor
    · simp [position, percentilePosition]
    · rw [position, percentilePosition]
      push_cast
      ring
  have hmono : ∀ p q, 0 ≤ p → p ≤ q → q ≤ 100 →
      percentileAt values p ≤ percentileAt values q := fun p q h₀ hpq h₁ => by
    have hp := hindices p h₀ (hpq.trans h₁)
    have hq := hindices q (h₀.trans hpq) h₁
    have hseq := monotoneBetween_seq (sorted_pairwise values)
    rw [length_sorted] at hseq
    exact interpolate_mono hseq hp.1 (by have := hq.2.2.2; simp only [position]; omega)
      (position_mono hne hpq)
  exact {
    returns := fun p h₀ h₁ => percentile_eq hne h₀ h₁
    indices := hindices
    mono := fun p q h₀ hpq h₁ => ⟨hmono 0 p (le_refl 0) h₀ (hpq.trans h₁), hmono p q h₀ hpq h₁,
      hmono q 100 (h₀.trans hpq) h₁ (le_refl 100)⟩
    least := by
      rw [percentileAt, hends.1, interpolate_intCast]
      exact isLeast_sorted hne
    greatest := by
      rw [percentileAt, hends.2, interpolate_intCast]
      exact isGreatest_sorted hne
    nth := fun k hk htwo => by
      have hpos : position values (100 * k / (values.length - 1)) = ((k : ℕ) : ℤ) := by
        have hne' : (values.length - 1 : ℚ) ≠ 0 := by
          have : (2 : ℚ) ≤ values.length := by exact_mod_cast htwo
          linarith
        rw [position, percentilePosition]
        push_cast
        field_simp
      rw [percentileAt, hpos, interpolate_intCast]
      exact isNth_sorted hk
    median := by
      rw [percentileAt_middle hne, IsMedian]
      split
      · exact isNth_sorted (by omega)
      · exact ⟨_, _, isNth_sorted (by omega), isNth_sorted (by omega), rfl⟩ }

end Laws

/-! ### Descriptions -/

/-- **The entries of a description are in order.** -/
structure Description.Ordered (d : Description) : Prop where
  percentiles : ∃ lo p50 p95 p99 hi, d.min = some lo ∧ d.p50 = some p50 ∧ d.p95 = some p95 ∧
    d.p99 = some p99 ∧ d.max = some hi ∧ lo ≤ p50 ∧ p50 ≤ p95 ∧ p95 ≤ p99 ∧ p99 ≤ hi
  mean : ∃ lo mean hi, d.min = some lo ∧ d.mean = some mean ∧ d.max = some hi ∧ lo ≤ mean ∧
    mean ≤ hi

/-- The description of a sample that is not empty. -/
def describeWith (values : List ℚ) (f : ℚ → ℚ) : Description where
  count := values.length
  mean := some (values.sum / values.length)
  p50 := some (f 50)
  p95 := some (f 95)
  p99 := some (f 99)
  min := some (f 0)
  max := some (f 100)

section Describe

variable {values : List (Option ℚ)} {f : ℚ → ℚ}

/-- **What `describe` returns**: the description of what is not null, with the percentiles
of these values. -/
theorem describe_eq (hne : values.reduceOption ≠ []) (hf : PercentileLaws values.reduceOption f) :
    describe values = .ok (describeWith values.reduceOption f) := by
  rw [describe]
  split
  next hnil => exact absurd hnil hne
  next v clean hclean =>
    rw [hclean] at hf
    have hmin : clean.foldl min v = f 0 := (isLeast_foldl_min v clean).unique hf.least
    have hmax : clean.foldl max v = f 100 := (isGreatest_foldl_max v clean).unique hf.greatest
    rw [hf.returns 50 (by norm_num) (by norm_num), hf.returns 95 (by norm_num) (by norm_num),
      hf.returns 99 (by norm_num) (by norm_num), hmin, hmax, hclean]
    rfl

theorem describeWith_ordered {values : List ℚ} (hne : values ≠ []) (hf : PercentileLaws values f) :
    (describeWith values f).Ordered where
  percentiles := ⟨_, _, _, _, _, rfl, rfl, rfl, rfl, rfl,
    (hf.mono 50 95 (by norm_num) (by norm_num) (by norm_num)).1,
    (hf.mono 50 95 (by norm_num) (by norm_num) (by norm_num)).2.1,
    (hf.mono 95 99 (by norm_num) (by norm_num) (by norm_num)).2.1,
    (hf.mono 95 99 (by norm_num) (by norm_num) (by norm_num)).2.2⟩
  mean := ⟨_, _, _, rfl, rfl, rfl, mean_mem hne hf.least.2 hf.greatest.2⟩

end Describe

/-- **The percentiles are order statistics, interpolated.** Those of a sample satisfy the
laws, do not depend on its order, and the entries of its description are in order. -/
theorem percentile_orderStatistic :
    (∀ values : List ℚ, values ≠ [] → ∃ f, PercentileLaws values f) ∧
      (∀ values values' : List ℚ, values.Perm values' →
        ∀ p, percentile values p = percentile values' p) ∧
      ∀ values : List (Option ℚ), values.reduceOption ≠ [] →
        ∃ d, describe values = .ok d ∧ d.Ordered := by
  refine ⟨fun values hne => ⟨_, percentileLaws hne⟩, fun _ _ h p => percentile_perm h p,
    fun values hne => ?_⟩
  have hf := percentileLaws hne
  exact ⟨_, describe_eq hne hf, describeWith_ordered hne hf⟩

/-- The sample of the repository's test. -/
theorem percentile_orderStatistic_four :
    (∃ f, PercentileLaws [1, 2, 3, 4] f) ∧ percentile [4, 2, 1, 3] 50 = percentile [1, 2, 3, 4] 50 ∧
      ∃ d, describe [some 1, none, some 2, some 3, some 4] = .ok d ∧ d.Ordered :=
  ⟨percentile_orderStatistic.1 _ (by decide), percentile_orderStatistic.2.1 _ _ (by decide) 50,
    percentile_orderStatistic.2.2 _ (by decide)⟩

example : percentile [1, 2, 3, 4] 50 = .ok (some (5 / 2)) := by decide +kernel

end HybridTls
