import Mathlib.Data.List.Infix
import Mathlib.Data.List.TakeWhile

/-!
# Searching a text for a needle

The first occurrence of one list in another (`Search.strstr`), and what finding
it takes in a text that is made of segments.

A text is often a sequence of segments with a separator between them that occurs
in none of them, and a needle has that separator in it. Such a needle can only
be found at a separator, and the search goes through the text one separator at a
time: at each, either the needle is there (`Search.strstr_hit`), or the search
goes on behind it (`Search.strstr_skip`), and behind the last there is nothing
more to find (`Search.strstr_eq_none_of_not_mem`). What the segments themselves
look like does not matter, beyond their not having the separator in them.

The same observation splits a text at the last separator in only one way
(`Search.append_cons_inj`).
-/

namespace Search

variable {α : Type*}

/-! ### Splitting at a separator -/

/-- **A needle with one separator, at the front of a text**: what is before the
separator has to be all that is before the text's first one. -/
theorem isPrefix_append_cons_iff {c : α} {x p y r : List α} (hx : c ∉ x) (hp : c ∉ p) :
    x ++ c :: y <+: p ++ c :: r ↔ x = p ∧ y <+: r := by
  induction x generalizing p with
  | nil =>
    cases p with
    | nil => simp
    | cons a p => simp [List.cons_prefix_cons, (List.ne_and_not_mem_of_not_mem_cons hp).1]
  | cons b x ih =>
    have hx' := List.ne_and_not_mem_of_not_mem_cons hx
    cases p with
    | nil => simp [List.cons_prefix_cons, hx'.1.symm]
    | cons a p =>
      rw [List.cons_append, List.cons_append, List.cons_prefix_cons,
        ih hx'.2 (List.ne_and_not_mem_of_not_mem_cons hp).2, List.cons_eq_cons, and_assoc]

/-- **A text splits at its last separator in one way.** -/
theorem append_cons_inj {c : α} {x x' y y' : List α} (hy : c ∉ y) (hy' : c ∉ y')
    (h : x ++ c :: y = x' ++ c :: y') : x = x' ∧ y = y' := by
  have hrev : y.reverse ++ c :: x.reverse <+: y'.reverse ++ c :: x'.reverse :=
    ⟨[], by simpa using congrArg List.reverse h⟩
  have hpre := (isPrefix_append_cons_iff (by simpa using hy) (by simpa using hy')).mp hrev
  obtain rfl : y = y' := List.reverse_injective hpre.1
  exact ⟨List.append_cancel_right h, rfl⟩

/-- Reading on while `P` holds stops at the first element at which it does not. -/
theorem takeWhile_append_cons {P : α → Bool} {v rest : List α} {d : α} (hv : ∀ a ∈ v, P a)
    (hd : P d = false) : (v ++ d :: rest).takeWhile P = v := by
  rw [List.takeWhile_append_of_pos hv, List.takeWhile_cons, hd]
  simp

/-- **Reading on while `P` holds**: what is read, and behind it nothing or an element at which
it does not. -/
theorem takeWhile_eq_iff {P : α → Bool} {v text : List α} :
    text.takeWhile P = v ↔
      ∃ rest, text = v ++ rest ∧ (∀ a ∈ v, P a) ∧ ∀ a ∈ rest.head?, P a = false := by
  constructor
  · rintro rfl
    refine ⟨text.dropWhile P, List.takeWhile_append_dropWhile.symm,
      fun a ha => List.mem_takeWhile_imp ha, fun a ha => ?_⟩
    have hhead := List.head?_dropWhile_not P text
    rw [Option.mem_def.mp ha] at hhead
    exact hhead
  · rintro ⟨rest, rfl, hv, hrest⟩
    cases rest with
    | nil => rw [List.append_nil, List.takeWhile_eq_self_iff.mpr hv]
    | cons d rest => exact takeWhile_append_cons hv (hrest d rfl)

/-- **An occurrence beside a separator**: a part without the separator in it is all in front of
it or all behind it. -/
theorem append_cons_eq_append_iff {c : α} {p q before needle after : List α}
    (hc : c ∉ needle) :
    p ++ c :: q = before ++ (needle ++ after) ↔
      (∃ y, p = before ++ (needle ++ y) ∧ after = y ++ c :: q) ∨
        ∃ x, before = p ++ c :: x ∧ q = x ++ (needle ++ after) := by
  constructor
  · intro h
    rcases List.append_eq_append_iff.mp h with ⟨x, rfl, hx⟩ | ⟨y, rfl, hy⟩
    · -- the occurrence starts at the separator or behind it
      cases x with
      | cons d x =>
        rw [List.cons_append, List.cons.injEq] at hx
        exact Or.inr ⟨x, by rw [hx.1], hx.2⟩
      | nil =>
        cases needle with
        | nil => exact Or.inl ⟨[], by simp, by simpa using hx.symm⟩
        | cons b needle =>
          rw [List.nil_append, List.cons_append, List.cons.injEq] at hx
          exact absurd (hx.1 ▸ List.mem_cons_self) hc
    · -- it starts in front of the separator, so it ends there
      rcases List.append_eq_append_iff.mp hy with ⟨y', rfl, rfl⟩ | ⟨x, rfl, hx⟩
      · exact Or.inl ⟨y', rfl, rfl⟩
      · cases x with
        | nil => exact Or.inl ⟨[], by simp, by simpa using hx.symm⟩
        | cons d x =>
          rw [List.cons_append, List.cons.injEq] at hx
          exact absurd (List.mem_append_right y (hx.1 ▸ List.mem_cons_self)) hc
  · rintro (⟨y, rfl, rfl⟩ | ⟨x, rfl, rfl⟩)
    · simp only [List.append_assoc]
    · simp only [List.append_assoc, List.cons_append]

/-- What occurs in the first `n` elements occurs in the text, and ends there. -/
theorem infix_take_iff {needle text : List α} {n : ℕ} :
    needle <:+: text.take n ↔
      ∃ before after, text = before ++ (needle ++ after) ∧ before.length + needle.length ≤ n := by
  constructor
  · rintro ⟨before, after, h⟩
    refine ⟨before, after ++ text.drop n, ?_, ?_⟩
    · rw [← List.append_assoc, ← List.append_assoc, h, List.take_append_drop]
    · have hlen := congrArg List.length h
      have hle := List.length_take_le n text
      simp only [List.length_append] at hlen
      omega
  · rintro ⟨before, after, rfl, hlen⟩
    rw [← List.length_append] at hlen
    refine ⟨before, after.take (n - (before ++ needle).length), ?_⟩
    rw [← List.append_assoc, List.take_append, List.take_of_length_le hlen]

/-- What a list ends in does not depend on what is before a part of it that is
long enough. -/
theorem not_isSuffix_append {x a b : List α} (hlen : x.length ≤ b.length) (hno : ¬ x <:+ b) :
    ¬ x <:+ a ++ b := fun h =>
  hno (List.suffix_of_suffix_length_le h (List.suffix_append a b) hlen)

/-! ### The first occurrence -/

/-- **The first occurrence** of the needle has `before` in front of it and `after` behind
it. -/
structure FirstOccurrence (needle text before after : List α) : Prop where
  split : text = before ++ (needle ++ after)
  first : ∀ b a, text = b ++ (needle ++ a) → before.length ≤ b.length

theorem FirstOccurrence.unique {needle text before after before' after' : List α}
    (h : FirstOccurrence needle text before after)
    (h' : FirstOccurrence needle text before' after') : before = before' ∧ after = after' := by
  have hlen : before.length = before'.length :=
    Nat.le_antisymm (h.first _ _ h'.split) (h'.first _ _ h.split)
  obtain ⟨hbefore, hrest⟩ := List.append_inj (h.split.symm.trans h'.split) hlen
  exact ⟨hbefore, List.append_cancel_left hrest⟩

variable [DecidableEq α]

/-- The text from the first occurrence of the needle on, if there is one. -/
def strstr (needle : List α) : List α → Option (List α)
  | [] => if needle <+: [] then some [] else none
  | a :: text => if needle <+: a :: text then some (a :: text) else strstr needle text

variable {needle text x y p r : List α} {c : α}

theorem strstr_of_isPrefix (h : needle <+: text) : strstr needle text = some text := by
  cases text <;> rw [strstr, if_pos h]

theorem strstr_cons_of_not_isPrefix {a : α} (h : ¬ needle <+: a :: text) :
    strstr needle (a :: text) = strstr needle text := by
  rw [strstr, if_neg h]

/-- **There is something to find when the needle occurs in the text.** -/
theorem isSome_strstr_iff : (strstr needle text).isSome ↔ needle <:+: text := by
  induction text with
  | nil => simp [strstr]
  | cons a text ih =>
    rw [strstr, List.infix_cons_iff]
    split
    next h => simp [h]
    next h => rw [ih, or_iff_right h]

/-- **What is found is the first occurrence.** -/
theorem firstOccurrence_of_strstr {start : List α} (h : strstr needle text = some start) :
    ∃ before after, FirstOccurrence needle text before after ∧ start = needle ++ after := by
  induction text with
  | nil =>
    rw [strstr] at h
    split at h
    next hpre =>
      obtain rfl := List.prefix_nil.mp hpre
      exact ⟨[], [], ⟨rfl, fun _ _ _ => Nat.zero_le _⟩, by simpa using h.symm⟩
    next => cases h
  | cons a text ih =>
    rw [strstr] at h
    split at h
    next hpre =>
      obtain ⟨after, hafter⟩ := hpre
      refine ⟨[], after, ⟨hafter.symm, fun _ _ _ => Nat.zero_le _⟩, ?_⟩
      rw [hafter]
      exact (Option.some.inj h).symm
    next hnot =>
      obtain ⟨before, after, hfirst, rfl⟩ := ih h
      refine ⟨a :: before, after, ⟨by rw [hfirst.split, List.cons_append], fun b t hb => ?_⟩, rfl⟩
      cases b with
      | nil => exact absurd ⟨t, hb.symm⟩ hnot
      | cons c b => exact Nat.succ_le_succ (hfirst.first b t (List.cons.inj hb).2)

theorem exists_firstOccurrence (h : needle <:+: text) :
    ∃ before after, FirstOccurrence needle text before after := by
  obtain ⟨start, hstart⟩ := Option.isSome_iff_exists.mp (isSome_strstr_iff.mpr h)
  obtain ⟨before, after, hfirst, -⟩ := firstOccurrence_of_strstr hstart
  exact ⟨before, after, hfirst⟩

theorem FirstOccurrence.strstr {before after : List α}
    (h : FirstOccurrence needle text before after) :
    strstr needle text = some (needle ++ after) := by
  have hoccurs : needle <:+: text := ⟨before, after, by rw [h.split, List.append_assoc]⟩
  obtain ⟨start, hstart⟩ := Option.isSome_iff_exists.mp (isSome_strstr_iff.mpr hoccurs)
  obtain ⟨before', after', hfirst, rfl⟩ := firstOccurrence_of_strstr hstart
  rw [hstart, (h.unique hfirst).2]

/-- Where no occurrence starts in a part of the text, the search goes on behind
it. -/
theorem strstr_append_of_not_isPrefix
    (h : ∀ s, s <:+ p → s ≠ [] → ¬ needle <+: s ++ text) :
    strstr needle (p ++ text) = strstr needle text := by
  induction p with
  | nil => rfl
  | cons a p ih =>
    have hnot : ¬ needle <+: a :: (p ++ text) := h (a :: p) List.suffix_rfl (by simp)
    rw [List.cons_append, strstr_cons_of_not_isPrefix hnot]
    exact ih fun s hs hne => h s (hs.trans (List.suffix_cons a p)) hne

/-- The needle occurs at the next separator when what is before it ends in the
needle's first part, and what is behind it starts with its second. -/
theorem strstr_hit (hx : c ∉ x) (hp : c ∉ p) (hr : y <+: r) :
    strstr (x ++ c :: y) (p ++ x ++ c :: r) = some (x ++ c :: r) := by
  have hfound : x ++ c :: y <+: x ++ c :: r := (isPrefix_append_cons_iff hx hx).mpr ⟨rfl, hr⟩
  rw [List.append_assoc, strstr_append_of_not_isPrefix, strstr_of_isPrefix hfound]
  -- an earlier start would put something more before the separator
  intro s hs hne hpre
  rw [← List.append_assoc] at hpre
  have hs' : c ∉ s ++ x := by
    rw [List.mem_append]
    rintro (h | h)
    · exact hp (hs.subset h)
    · exact hx h
  have hlen := congrArg List.length ((isPrefix_append_cons_iff hx hs').mp hpre).1
  rw [List.length_append] at hlen
  exact hne (List.length_eq_zero_iff.mp (by omega))

/-- The search goes on behind a separator at which the needle does not occur. -/
theorem strstr_skip (hx : c ∉ x) (hp : c ∉ p) (hno : ¬ (x <:+ p ∧ y <+: r)) :
    strstr (x ++ c :: y) (p ++ c :: r) = strstr (x ++ c :: y) r := by
  have hnot : ∀ s, s <:+ p ++ [c] → s ≠ [] → ¬ x ++ c :: y <+: s ++ r := by
    intro s hs hne hpre
    -- such a start is a suffix of the segment, followed by the separator
    obtain ⟨t, ht⟩ := hs
    obtain ⟨s', b, rfl⟩ := (List.eq_nil_or_concat s).resolve_left hne
    rw [List.concat_eq_append, ← List.append_assoc] at ht
    obtain ⟨hts, hb⟩ := List.append_inj' ht rfl
    obtain rfl : b = c := by simpa using hb
    have hs' : s' <:+ p := ⟨t, hts⟩
    rw [List.concat_eq_append, List.append_assoc, List.singleton_append,
      isPrefix_append_cons_iff hx fun h => hp (hs'.subset h)] at hpre
    exact hno ⟨hpre.1 ▸ hs', hpre.2⟩
  rw [← strstr_append_of_not_isPrefix hnot, List.append_assoc, List.singleton_append]

/-- Without a separator there is nothing to find. -/
theorem strstr_eq_none_of_not_mem (hc : c ∉ text) : strstr (x ++ c :: y) text = none := by
  have hnot : ∀ {t : List α}, c ∉ t → ¬ x ++ c :: y <+: t := fun ht hpre =>
    ht (hpre.subset (by simp))
  induction text with
  | nil => rw [strstr, if_neg (hnot hc)]
  | cons a text ih =>
    rw [strstr, if_neg (hnot hc)]
    exact ih (List.ne_and_not_mem_of_not_mem_cons hc).2

end Search
