import Mathlib.Data.List.DropRight
import Mathlib.Data.List.Infix

/-!
# Cutting lists

Three ways of cutting something out of a list: off its ends (`Cutting.trim`), between
separators (`Cutting.pieces`), and wherever a given list occurs (`Cutting.replace`).

Cutting off the ends can be done before the list is cut between separators or afterwards,
if it is done to all the pieces (`Cutting.pieces_trim`). And nothing is replaced exactly
where there is nothing to replace (`Cutting.replace_nil_eq_self_iff`), which is how far a
replacement by nothing can be undone.
-/

namespace Cutting

variable {α : Type*}

/-! ### The ends -/

/-- Without the elements at either end for which `p` holds. -/
def trim (p : α → Bool) (l : List α) : List α := (l.dropWhile p).rdropWhile p

section Trim

variable {p : α → Bool} {a b l : List α}

theorem dropWhile_append_of_pos (ha : ∀ x ∈ a, p x) :
    (a ++ l).dropWhile p = l.dropWhile p := by
  induction a with
  | nil => rfl
  | cons x a ih =>
    rw [List.cons_append, List.dropWhile_cons_of_pos (ha x List.mem_cons_self)]
    exact ih fun y hy => ha y (List.mem_cons_of_mem x hy)

theorem length_trim_le (p : α → Bool) (l : List α) : (trim p l).length ≤ l.length :=
  ((List.rdropWhile_prefix p _).length_le).trans (List.dropWhile_suffix p).length_le

/-- What is cut off in front may be left out before. -/
theorem trim_append_left (ha : ∀ x ∈ a, p x) : trim p (a ++ l) = trim p l := by
  rw [trim, dropWhile_append_of_pos ha, trim]

/-- What is cut off at the end may be left out before. -/
theorem trim_concat {x : α} (hx : p x) : trim p (l ++ [x]) = trim p l := by
  rw [trim, trim, List.dropWhile_append]
  split
  next h =>
    rw [List.isEmpty_iff] at h
    simp [h, hx]
  next => exact List.rdropWhile_concat_pos p _ x hx

/-- Nothing is cut off where there is nothing to cut off. -/
theorem trim_eq_self_iff :
    trim p l = l ↔ (∀ x ∈ l.head?, p x = false) ∧ ∀ x ∈ l.getLast?, p x = false := by
  constructor
  · intro h
    refine ⟨fun x hx => ?_, fun x hx => ?_⟩
    · -- the first element of what is left is not one that is dropped
      have hdrop : l.dropWhile p = l := by
        refine (List.dropWhile_suffix p).eq_of_length_le ?_
        calc l.length = (trim p l).length := by rw [h]
          _ ≤ (l.dropWhile p).length := (List.rdropWhile_prefix p _).length_le
      have hhead := List.head?_dropWhile_not p l
      rw [hdrop, hx] at hhead
      exact hhead
    · have hne : trim p l ≠ [] := by
        rw [h]
        rintro rfl
        cases hx
      have hlast := List.rdropWhile_last_not p (l.dropWhile p) hne
      rw [← h, List.getLast?_eq_some_getLast hne] at hx
      obtain rfl := Option.some.inj hx
      simpa [trim] using hlast
  · rintro ⟨hhead, hlast⟩
    have hdrop : l.dropWhile p = l := by
      rw [List.dropWhile_eq_self_iff]
      intro hpos
      simpa using hhead _ (by rw [List.head?_eq_getElem?, List.getElem?_eq_getElem hpos]; rfl)
    rw [trim, hdrop, List.rdropWhile_eq_self_iff]
    intro hne
    simpa using hlast _ (List.getLast?_eq_some_getLast hne)

/-- What is cut off at the end of a list depends on what is left of its tail. -/
theorem rdropWhile_cons (x : α) (l : List α) : (x :: l).rdropWhile p =
    if l.rdropWhile p = [] then [x].rdropWhile p else x :: l.rdropWhile p := by
  rw [List.rdropWhile, List.reverse_cons, List.dropWhile_append, List.rdropWhile]
  by_cases h : l.reverse.dropWhile p = []
  · simp [h, List.rdropWhile]
  · simp [h]

theorem trim_rdropWhile (l : List α) : trim p (l.rdropWhile p) = trim p l := by
  induction l using List.reverseRecOn with
  | nil => rfl
  | append_singleton l x ih =>
    by_cases hx : p x
    · rw [List.rdropWhile_concat_pos p l x hx, ih, trim_concat hx]
    · rw [List.rdropWhile_concat_neg p l x hx]

end Trim

/-! ### Separators -/

section Pieces

variable [DecidableEq α] {p : α → Bool} {sep x : α} {l : List α}

/-- The pieces between the separators, with their ends cut off, but for empty ones. -/
def pieces (p : α → Bool) (sep : α) (l : List α) : List (List α) :=
  ((l.splitOn sep).map (trim p)).filter (· ≠ [])

theorem not_beq_of_pos (hx : p x) (hsep : p sep = false) : ¬ (x == sep) = true := by
  intro h
  obtain rfl := beq_iff_eq.mp h
  simp [hsep] at hx

/-- What is cut off a list in front is cut off its first piece. -/
theorem map_trim_splitOn_cons (hx : p x) (hsep : p sep = false) :
    ((x :: l).splitOn sep).map (trim p) = (l.splitOn sep).map (trim p) := by
  rw [List.splitOn_cons_eq_if_modifyHead, if_neg (not_beq_of_pos hx hsep)]
  obtain ⟨piece, rest, hsplit⟩ := List.exists_cons_of_ne_nil (List.splitOn_ne_nil sep l)
  have hpiece : trim p (x :: piece) = trim p piece :=
    trim_append_left (a := [x]) (by simpa using hx)
  rw [hsplit, List.modifyHead_cons, List.map_cons, List.map_cons, hpiece]

/-- What is cut off a list at the end is cut off its last piece, by induction on the list
in front of it. -/
theorem map_rdropWhile_splitOn_concat (hx : p x) (hsep : p sep = false) :
    ((l ++ [x]).splitOn sep).map (·.rdropWhile p) = (l.splitOn sep).map (·.rdropWhile p) := by
  induction l with
  | nil =>
    rw [List.nil_append, List.splitOn_cons_eq_if_modifyHead, if_neg (not_beq_of_pos hx hsep),
      List.splitOn_nil, List.modifyHead_cons, List.map_singleton, List.map_singleton]
    exact congrArg (fun piece => [piece]) (List.rdropWhile_concat_pos p [] x hx)
  | cons y l ih =>
    rw [List.cons_append, List.splitOn_cons_eq_if_modifyHead, List.splitOn_cons_eq_if_modifyHead]
    split
    · rw [List.map_cons, List.map_cons, ih]
    · obtain ⟨piece, rest, hsplit⟩ := List.exists_cons_of_ne_nil (List.splitOn_ne_nil sep l)
      obtain ⟨piece', rest', hsplit'⟩ :=
        List.exists_cons_of_ne_nil (List.splitOn_ne_nil sep (l ++ [x]))
      rw [hsplit, hsplit', List.map_cons, List.map_cons] at ih
      obtain ⟨hpiece, hrest⟩ := List.cons.inj ih
      rw [hsplit, hsplit', List.modifyHead_cons, List.modifyHead_cons, List.map_cons, List.map_cons,
        hrest, rdropWhile_cons y piece', rdropWhile_cons y piece, hpiece]

/-- **The pieces of a list whose ends have been cut off** are those of the list. -/
theorem pieces_trim (hsep : p sep = false) (l : List α) :
    pieces p sep (trim p l) = pieces p sep l := by
  have hfront : ∀ l : List α,
      ((l.dropWhile p).splitOn sep).map (trim p) = (l.splitOn sep).map (trim p) := by
    intro l
    induction l with
    | nil => rfl
    | cons x l ih =>
      by_cases hx : p x
      · rw [List.dropWhile_cons_of_pos hx, ih, map_trim_splitOn_cons hx hsep]
      · rw [List.dropWhile_cons_of_neg hx]
  have hend : ∀ l : List α,
      ((l.rdropWhile p).splitOn sep).map (trim p) = (l.splitOn sep).map (trim p) := by
    intro l
    induction l using List.reverseRecOn with
    | nil => rfl
    | append_singleton l x ih =>
      by_cases hx : p x
      · have hlast := congrArg (List.map (trim p))
          (map_rdropWhile_splitOn_concat (l := l) hx hsep)
        simp only [List.map_map, Function.comp_def, trim_rdropWhile] at hlast
        rw [List.rdropWhile_concat_pos p l x hx, ih, hlast]
      · rw [List.rdropWhile_concat_neg p l x hx]
  rw [pieces, pieces, trim, hend, hfront]

end Pieces

/-! ### Occurrences -/

section Replace

variable [DecidableEq α] {old new l : List α} {a : α}

/-- The loop of a replacement, which is to pass over the next `skip` elements. -/
def replaceFrom (old new : List α) : ℕ → List α → List α
  | _, [] => []
  | skip + 1, _ :: l => replaceFrom old new skip l
  | 0, a :: l =>
    if old <+: a :: l then new ++ replaceFrom old new (old.length - 1) l
    else a :: replaceFrom old new 0 l

/-- Every occurrence replaced, from the front on, and none that overlaps with one before;
an empty list occurs between all the elements. -/
def replace (old new l : List α) : List α :=
  if old = [] then new ++ l.flatMap fun a => a :: new else replaceFrom old new 0 l

theorem replaceFrom_skip (old new : List α) (skip : ℕ) (l : List α) :
    replaceFrom old new skip l = replaceFrom old new 0 (l.drop skip) := by
  induction skip generalizing l with
  | zero => rfl
  | succ skip ih =>
    cases l with
    | nil => rfl
    | cons a l => exact ih l

/-- An occurrence in front is replaced. -/
theorem replace_append (hold : old ≠ []) (l : List α) :
    replace old new (old ++ l) = new ++ replace old new l := by
  rw [replace, replace, if_neg hold, if_neg hold]
  obtain ⟨a, rest, rfl⟩ := List.exists_cons_of_ne_nil hold
  rw [List.cons_append, replaceFrom, if_pos ⟨l, by rw [List.cons_append]⟩, replaceFrom_skip,
    List.length_cons, Nat.add_sub_cancel, List.drop_left]

/-- An element in front that is not the first one of an occurrence is kept. -/
theorem replace_cons (hold : old ≠ []) (ha : ∀ b ∈ old.head?, b ≠ a) :
    replace old new (a :: l) = a :: replace old new l := by
  rw [replace, replace, if_neg hold, if_neg hold]
  obtain ⟨b, rest, rfl⟩ := List.exists_cons_of_ne_nil hold
  rw [replaceFrom, if_neg fun h => ha b rfl (List.cons_prefix_cons.mp h).1]

/-- An element at the end that is not in an occurrence is kept, by induction on the list in
front of it. -/
theorem replace_concat (hold : old ≠ []) (ha : a ∉ old) :
    replace old new (l ++ [a]) = replace old new l ++ [a] := by
  rw [replace, replace, if_neg hold, if_neg hold]
  -- what has been replaced does not reach beyond the list
  suffices h : ∀ skip ≤ l.length,
      replaceFrom old new skip (l ++ [a]) = replaceFrom old new skip l ++ [a] from
    h 0 l.length.zero_le
  have hpre : ∀ l : List α, old <+: l ++ [a] ↔ old <+: l := fun l => by
    rw [List.prefix_concat_iff, or_iff_right]
    rintro rfl
    exact ha (by simp)
  induction l with
  | nil =>
    intro skip hskip
    obtain rfl := Nat.le_zero.mp hskip
    have hnot : ¬ old <+: [a] := by
      rw [← List.nil_append [a], hpre, List.prefix_nil]
      exact hold
    show replaceFrom old new 0 [a] = [a]
    rw [replaceFrom, if_neg hnot, replaceFrom]
  | cons b l ih =>
    rintro (_ | skip) hskip
    · rw [List.cons_append, replaceFrom, replaceFrom, ← List.cons_append]
      simp only [hpre]
      split
      next h =>
        have hlen := h.length_le
        rw [List.length_cons] at hlen
        rw [ih _ (by omega), List.append_assoc]
      next => rw [ih 0 l.length.zero_le, List.cons_append]
    · exact ih skip (Nat.le_of_succ_le_succ hskip)

/-- Nothing is replaced where there is no occurrence. -/
theorem replace_of_not_infix (hold : old ≠ []) (h : ¬ old <:+: l) : replace old new l = l := by
  induction l with
  | nil =>
    rw [replace, if_neg hold]
    rfl
  | cons a l ih =>
    rw [List.infix_cons_iff, not_or] at h
    rw [replace, if_neg hold, replaceFrom, if_neg h.1]
    rw [replace, if_neg hold] at ih
    rw [ih h.2]

theorem length_replaceFrom_nil_le (old : List α) (skip : ℕ) (l : List α) :
    (replaceFrom old [] skip l).length ≤ l.length := by
  induction l generalizing skip with
  | nil => cases skip <;> exact Nat.le_refl 0
  | cons a l ih =>
    cases skip with
    | zero =>
      rw [replaceFrom]
      split
      · exact Nat.le_succ_of_le (ih _)
      · exact Nat.succ_le_succ (ih 0)
    | succ skip => exact Nat.le_succ_of_le (ih skip)

/-- A list in which something has been replaced by nothing is shorter. -/
theorem length_replace_nil_lt (hold : old ≠ []) (h : old <:+: l) :
    (replace old [] l).length < l.length := by
  rw [replace, if_neg hold]
  induction l with
  | nil => exact absurd (List.infix_nil.mp h) hold
  | cons a l ih =>
    rw [replaceFrom]
    split
    next => exact Nat.lt_succ_of_le (length_replaceFrom_nil_le old _ l)
    next hnot =>
      exact Nat.succ_lt_succ (ih ((List.infix_cons_iff.mp h).resolve_left hnot))

/-- **When a replacement by nothing changes nothing.** -/
theorem replace_nil_eq_self_iff (hold : old ≠ []) : replace old [] l = l ↔ ¬ old <:+: l := by
  refine ⟨fun h hoccurs => ?_, replace_of_not_infix hold⟩
  have hlen := length_replace_nil_lt hold hoccurs
  rw [h] at hlen
  exact Nat.lt_irrefl _ hlen

end Replace

end Cutting
