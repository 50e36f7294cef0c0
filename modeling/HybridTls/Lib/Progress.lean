import HybridTls.Lib.Machine
import Mathlib.Data.Nat.Count
import Mathlib.Order.Monotone.Basic

/-!
# Machines that come to rest

An unending run gives a machine one input after the other, for ever
(`Transition.Machine.stateAt`). Some of the inputs are enabled in a state, and the others leave
it as it is. If each one that is enabled takes something off a variant
(`Transition.Machine.Variant`), then

* no run takes more steps than the variant of the state it starts in, and so none changes
  anything for ever (`Transition.Machine.Variant.count_le`,
  `Transition.Machine.Variant.exists_forall_ge`);
* a run that does sometime do something as long as there is something to do comes to rest
  (`Transition.Machine.Variant.exists_atRest`), and so does each part of the machine that is
  not left alone, whatever becomes of the others
  (`Transition.Machine.Variant.exists_atRest_part`);
* every state can be brought to rest (`Transition.Machine.Variant.exists_runFrom_atRest`).
-/

namespace Transition

namespace Machine

variable {σ ι : Type*}

/-- The state behind the first inputs of an unending run. -/
def stateAt (M : Machine σ ι) (f : ℕ → ι) (n : ℕ) : σ := M.run ((List.range n).map f)

@[simp] theorem stateAt_zero (M : Machine σ ι) (f : ℕ → ι) : M.stateAt f 0 = M.init := rfl

theorem stateAt_succ (M : Machine σ ι) (f : ℕ → ι) (n : ℕ) :
    M.stateAt f (n + 1) = M.step (M.stateAt f n) (f n) := by
  rw [stateAt, List.range_succ, List.map_append, run_append]
  rfl

/-- Nothing is enabled. -/
def AtRest (enabled : σ → ι → Bool) (s : σ) : Prop := ∀ i, enabled s i = false

/-- As long as something is enabled, something that is enabled is done sometime. -/
def Fair (M : Machine σ ι) (enabled : σ → ι → Bool) (f : ℕ → ι) : Prop :=
  ∀ n, ¬ AtRest enabled (M.stateAt f n) → ∃ m, n ≤ m ∧ enabled (M.stateAt f m) (f m)

/-- **A variant**: what is enabled takes something off it, and nothing else does anything. -/
structure Variant (M : Machine σ ι) (enabled : σ → ι → Bool) (V : σ → ℕ) : Prop where
  step_eq : ∀ s i, enabled s i = false → M.step s i = s
  step_lt : ∀ s i, enabled s i → V (M.step s i) < V s

namespace Variant

variable {M : Machine σ ι} {enabled : σ → ι → Bool} {V : σ → ℕ}

theorem step_le (hV : M.Variant enabled V) (s : σ) (i : ι) : V (M.step s i) ≤ V s := by
  rcases Bool.eq_false_or_eq_true (enabled s i) with h | h
  · exact (hV.step_lt s i h).le
  · rw [hV.step_eq s i h]

/-- **What a run has done has been taken off the variant.** -/
theorem count_add_le (hV : M.Variant enabled V) (f : ℕ → ι) (n : ℕ) :
    Nat.count (fun k => enabled (M.stateAt f k) (f k)) n + V (M.stateAt f n) ≤ V M.init := by
  induction n with
  | zero => simp
  | succ n ih =>
    rw [Nat.count_succ, stateAt_succ]
    rcases Bool.eq_false_or_eq_true (enabled (M.stateAt f n) (f n)) with h | h
    · have hlt := hV.step_lt _ _ h
      simp only [h, if_true]
      omega
    · simpa [h, hV.step_eq _ _ h] using ih

/-- No run takes more steps than there are in the variant. -/
theorem count_le (hV : M.Variant enabled V) (f : ℕ → ι) (n : ℕ) :
    Nat.count (fun k => enabled (M.stateAt f k) (f k)) n ≤ V M.init :=
  (Nat.le_add_right _ _).trans (hV.count_add_le f n)

/-- **From some time on nothing is done.** -/
theorem exists_forall_ge (hV : M.Variant enabled V) (f : ℕ → ι) (n : ℕ) :
    ∃ N, n ≤ N ∧ ∀ m, N ≤ m → enabled (M.stateAt f m) (f m) = false := by
  -- induction on what is left of the variant
  induction hleft : V (M.stateAt f n) using Nat.strong_induction_on generalizing n with
  | _ v ih =>
    by_cases h : ∃ m, n ≤ m ∧ enabled (M.stateAt f m) (f m)
    · obtain ⟨m, hnm, hm⟩ := h
      have hanti : Antitone fun k => V (M.stateAt f k) :=
        antitone_nat_of_succ_le fun k => by
          rw [stateAt_succ]
          exact hV.step_le _ _
      have hlt : V (M.stateAt f (m + 1)) < v := by
        rw [stateAt_succ]
        exact (hV.step_lt _ _ hm).trans_le ((hanti hnm).trans_eq hleft)
      obtain ⟨N, hN, hrest⟩ := ih _ hlt (m + 1) rfl
      exact ⟨N, by omega, hrest⟩
    · refine ⟨n, le_rfl, fun m hm => ?_⟩
      by_contra hne
      exact h ⟨m, hm, by simpa using hne⟩

/-- So the state is the same ever after. -/
theorem stateAt_eq_of_forall_ge (hV : M.Variant enabled V) {f : ℕ → ι} {N : ℕ}
    (hN : ∀ m, N ≤ m → enabled (M.stateAt f m) (f m) = false) {n : ℕ} (hn : N ≤ n) :
    M.stateAt f n = M.stateAt f N := by
  induction n, hn using Nat.le_induction with
  | base => rfl
  | succ n hn ih => rw [stateAt_succ, hV.step_eq _ _ (hN n hn), ih]

/-- **A part to which a run is fair comes to rest**, and stays there. -/
theorem exists_atRest_part (hV : M.Variant enabled V) {part : σ → ι → Bool}
    (hpart : ∀ s i, part s i → enabled s i) {f : ℕ → ι} (hfair : M.Fair part f) :
    ∃ N, ∀ n, N ≤ n → AtRest part (M.stateAt f n) := by
  obtain ⟨N, -, hN⟩ := hV.exists_forall_ge f 0
  refine ⟨N, fun n hn => ?_⟩
  by_contra hrest
  obtain ⟨m, hm, hdone⟩ := hfair n hrest
  have hnone := hN m (hn.trans hm)
  rw [hpart _ _ hdone] at hnone
  cases hnone

/-- **A fair run comes to rest**, and stays there. -/
theorem exists_atRest (hV : M.Variant enabled V) {f : ℕ → ι} (hfair : M.Fair enabled f) :
    ∃ N, ∀ n, N ≤ n → AtRest enabled (M.stateAt f n) :=
  hV.exists_atRest_part (fun _ _ h => h) hfair

/-- **Every state can be brought to rest.** -/
theorem exists_runFrom_atRest (hV : M.Variant enabled V) (s : σ) :
    ∃ is, AtRest enabled (M.runFrom s is) := by
  induction hleft : V s using Nat.strong_induction_on generalizing s with
  | _ v ih =>
    by_cases hrest : AtRest enabled s
    · exact ⟨[], hrest⟩
    · simp only [AtRest, not_forall, Bool.not_eq_false] at hrest
      obtain ⟨i, hi⟩ := hrest
      obtain ⟨is, his⟩ := ih _ ((hV.step_lt s i hi).trans_eq hleft) (M.step s i) rfl
      exact ⟨i :: is, his⟩

end Variant

end Machine

end Transition
