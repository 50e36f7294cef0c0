import Mathlib.Data.List.Sort

/-!
# Ranking by a key

A list sorted by a key, the largest first. The sort is stable: elements with the same key
stay in the order they had (`Ranking.filter_rankBy`), so that a list that has been ranked
by another key before is in its order among them (`Ranking.rankBy_rankBy_pairwise`). What
it depends on is the order of the keys only, so that a key may be replaced by another one,
or by a rounded one, as long as it orders the elements in the same way
(`Ranking.rankBy_congr`).
-/

namespace Ranking

variable {α κ κ' : Type} [LinearOrder κ] [LinearOrder κ'] {key : α → κ} {key' : α → κ'}
  {xs : List α}

/-- **The ranking by a key.** -/
def rankBy (key : α → κ) (xs : List α) : List α := xs.insertionSort fun a b => key b ≤ key a

instance total_key (key : α → κ) : Std.Total fun a b => key b ≤ key a :=
  ⟨fun a b => le_total (key b) (key a)⟩

instance isTrans_key (key : α → κ) : IsTrans α fun a b => key b ≤ key a :=
  ⟨fun _ _ _ hab hbc => hbc.trans hab⟩

theorem rankBy_perm (key : α → κ) (xs : List α) : (rankBy key xs).Perm xs :=
  List.perm_insertionSort _ xs

theorem mem_rankBy {a : α} : a ∈ rankBy key xs ↔ a ∈ xs := (rankBy_perm key xs).mem_iff

/-- The keys do not grow. -/
theorem rankBy_pairwise (key : α → κ) (xs : List α) :
    (rankBy key xs).Pairwise fun a b => key b ≤ key a :=
  List.pairwise_insertionSort _ xs

/-- **Elements with the same key stay in order.** -/
theorem filter_rankBy (k : κ) :
    (rankBy key xs).filter (fun a => key a = k) = xs.filter fun a => key a = k := by
  have hsame : (xs.filter fun a => key a = k).Pairwise fun a b => key b ≤ key a :=
    List.pairwise_iff_forall_sublist.mpr fun {a b} hab => by
      have ha := hab.subset List.mem_cons_self
      have hb := hab.subset (List.mem_cons_of_mem _ List.mem_cons_self)
      simp only [List.mem_filter, decide_eq_true_eq] at ha hb
      rw [ha.2, hb.2]
  -- they are part of the sorted list, and there are no others
  have hsub : (xs.filter fun a => key a = k).Sublist (rankBy key xs) :=
    List.sublist_insertionSort hsame List.filter_sublist
  have hsub' := hsub.filter fun a => key a = k
  rw [List.filter_filter] at hsub'
  simp only [Bool.and_self] at hsub'
  exact (hsub'.eq_of_length ((rankBy_perm key xs).filter _).length_eq.symm).symm

/-- Elements that are chosen by a property that determines the key stay in order. -/
theorem filter_rankBy_of_key {p : α → Bool} {k : κ} (h : ∀ a ∈ xs, p a → key a = k) :
    (rankBy key xs).filter p = xs.filter p := by
  have hp : ∀ a ∈ xs, p a = (p a && decide (key a = k)) := fun a ha => by
    cases hpa : p a with
    | false => rfl
    | true => simp [h a ha hpa]
  rw [List.filter_congr fun a ha => hp a (mem_rankBy.mp ha), List.filter_congr hp,
    ← List.filter_filter, ← List.filter_filter, filter_rankBy]

/-- **Ranking twice**: the first ranking decides between elements with the same second
key. -/
theorem rankBy_rankBy_pairwise (key : α → κ) (key' : α → κ') (xs : List α) :
    (rankBy key (rankBy key' xs)).Pairwise fun a b => key a = key b → key' b ≤ key' a := by
  refine List.pairwise_iff_forall_sublist.mpr fun {a b} hab heq => ?_
  -- both are among the elements with this key, which are in the order of the first ranking
  have hsame := hab.filter fun c => key c = key b
  rw [filter_rankBy] at hsame
  simp only [heq, decide_true, List.filter_cons_of_pos, List.filter_nil] at hsame
  exact List.pairwise_iff_forall_sublist.mp (rankBy_pairwise key' xs)
    (hsame.trans List.filter_sublist)

/-- **The order of the keys is all that matters.** -/
theorem rankBy_congr (h : ∀ a ∈ xs, ∀ b ∈ xs, key b ≤ key a ↔ key' b ≤ key' a) :
    rankBy key xs = rankBy key' xs := by
  have hmap :=
    List.map_insertionSort (fun a b => key b ≤ key a) (fun a b => key' b ≤ key' a) id xs h
  rwa [List.map_id, List.map_id] at hmap

end Ranking
