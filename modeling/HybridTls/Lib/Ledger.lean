import Mathlib.Algebra.Order.Group.Multiset

/-!
# A ledger of handles

A program acquires handles and releases them, and its trace tells in which order. Replaying
the trace on the multiset of the handles that are held shows two mistakes: a handle that is
released when it is not held has no successor state (`Ledger.step`), and one that is not
released is still held when the trace has ended.

What a part of a program does to the handles is said by what it leaves behind, whatever is
held by others (`Ledger.Leaves`); if this is nothing, it is balanced. The rules for traces
that follow one another make the whole from its parts (`Ledger.Leaves.append`,
`Ledger.balanced_flatMap`), and a balanced trace acquires every handle as often as it
releases it (`Ledger.Balanced.count_eq`).

How many handles are held at once is a property of the beginnings of a trace
(`Ledger.Within`). Both are carried along together by the rules for `Ledger.Holds`.
-/

namespace Ledger

/-- A handle is acquired, or released. -/
inductive Event (α : Type*) where
  | acquire (a : α)
  | release (a : α)
  deriving DecidableEq

variable {α β : Type*} [DecidableEq α]

/-- What an event does to the handles that are held. -/
def step (held : Multiset α) : Event α → Option (Multiset α)
  | .acquire a => some (a ::ₘ held)
  | .release a => if a ∈ held then some (held.erase a) else none

/-- The handles that are held behind a trace, if none has been released without being
held. -/
def replay (held : Multiset α) : List (Event α) → Option (Multiset α)
  | [] => some held
  | e :: trace => (step held e).bind (replay · trace)

/-- **What a trace leaves behind**, in addition to what is held before. -/
def Leaves (left : Multiset α) (trace : List (Event α)) : Prop :=
  ∀ held, replay held trace = some (left + held)

/-- **A trace that leaves nothing behind.** -/
def Balanced (trace : List (Event α)) : Prop := Leaves 0 trace

variable {held left left' : Multiset α} {trace trace' : List (Event α)} {a : α}

theorem replay_append (held : Multiset α) (trace trace' : List (Event α)) :
    replay held (trace ++ trace') = (replay held trace).bind (replay · trace') := by
  induction trace generalizing held with
  | nil => rfl
  | cons e trace ih => simp only [List.cons_append, replay, ih, Option.bind_assoc]

/-! ### Rules -/

theorem balanced_nil : Balanced ([] : List (Event α)) := fun held => by
  rw [zero_add]
  rfl

theorem leaves_acquire (a : α) : Leaves {a} [.acquire a] := fun _ => rfl

/-- **The rule of a sequence.** -/
theorem Leaves.append (h : Leaves left trace) (h' : Leaves left' trace') :
    Leaves (left' + left) (trace ++ trace') := fun held => by
  rw [replay_append, h held, Option.bind_some, h' (left + held), add_assoc]

/-- What is left behind can be released. -/
theorem Leaves.release (h : Leaves {a} trace) : Balanced (trace ++ [.release a]) := fun held => by
  have hmem : a ∈ ({a} + held : Multiset α) :=
    Multiset.mem_add.mpr (Or.inl (Multiset.mem_singleton_self a))
  rw [replay_append, h held, Option.bind_some, replay, step, if_pos hmem, zero_add,
    Multiset.singleton_add, Multiset.erase_cons_head]
  rfl

theorem Balanced.append_leaves (h : Balanced trace) (h' : Leaves left trace') :
    Leaves left (trace ++ trace') := by
  have := Leaves.append h h'
  rwa [add_zero] at this

theorem Balanced.append (h : Balanced trace) (h' : Balanced trace') :
    Balanced (trace ++ trace') := h.append_leaves h'

/-- Any number of balanced traces. -/
theorem balanced_flatMap {l : List β} {f : β → List (Event α)} (h : ∀ b ∈ l, Balanced (f b)) :
    Balanced (l.flatMap f) := by
  induction l with
  | nil => exact balanced_nil
  | cons b l ih =>
    obtain ⟨hb, hl⟩ := List.forall_mem_cons.mp h
    rw [List.flatMap_cons]
    exact hb.append (ih hl)

/-! ### Counting -/

/-- What is held is what was held and has been acquired, but for what has been released. -/
theorem count_replay {held' : Multiset α} (h : replay held trace = some held') (a : α) :
    held'.count a + trace.count (.release a) = held.count a + trace.count (.acquire a) := by
  induction trace generalizing held with
  | nil =>
    obtain rfl := Option.some.inj h
    rfl
  | cons e trace ih =>
    obtain ⟨held₁, hstep, hrest⟩ := Option.bind_eq_some_iff.mp h
    have hcount := ih hrest
    cases e with
    | acquire b =>
      obtain rfl := Option.some.inj hstep
      rcases eq_or_ne a b with rfl | hab
      · rw [Multiset.count_cons_self] at hcount
        rw [List.count_cons_self, List.count_cons_of_ne (by simp)]
        omega
      · rw [Multiset.count_cons_of_ne hab] at hcount
        rwa [List.count_cons_of_ne (by simp), List.count_cons_of_ne (by simpa using hab.symm)]
    | release b =>
      obtain ⟨hb, hheld⟩ := Option.ite_none_right_eq_some.mp hstep
      obtain rfl := Option.some.inj hheld
      rcases eq_or_ne a b with rfl | hab
      · have hpos := Multiset.count_pos.mpr hb
        rw [Multiset.count_erase_self] at hcount
        rw [List.count_cons_self, List.count_cons_of_ne (by simp)]
        omega
      · rw [Multiset.count_erase_of_ne hab] at hcount
        rwa [List.count_cons_of_ne (by simpa using hab.symm), List.count_cons_of_ne (by simp)]

/-- **A balanced trace acquires a handle as often as it releases it.** -/
theorem Balanced.count_eq (h : Balanced trace) (a : α) :
    trace.count (.acquire a) = trace.count (.release a) := by
  have hcount := count_replay (h 0) a
  rw [add_zero, Multiset.count_zero] at hcount
  omega

/-! ### Handles of another kind -/

section Map

variable [DecidableEq β] {held' : Multiset α}

/-- The same event, of a handle that is called otherwise. -/
def Event.map {α β : Type*} (f : α → β) : Event α → Event β
  | .acquire a => .acquire (f a)
  | .release a => .release (f a)

/-- A trace that goes well does so among other handles, whatever the handles are called. -/
theorem replay_map (f : α → β) (h : replay held trace = some held') (others : Multiset β) :
    replay (held.map f + others) (trace.map (Event.map f)) = some (held'.map f + others) := by
  induction trace generalizing held with
  | nil =>
    obtain rfl := Option.some.inj h
    rfl
  | cons e trace ih =>
    obtain ⟨held₁, hstep, hrest⟩ := Option.bind_eq_some_iff.mp h
    rw [List.map_cons, replay]
    cases e with
    | acquire b =>
      obtain rfl := Option.some.inj hstep
      have hnext := ih hrest
      rw [Multiset.map_cons, Multiset.cons_add] at hnext
      rw [Event.map, step, Option.bind_some, hnext]
    | release b =>
      obtain ⟨hb, hheld⟩ := Option.ite_none_right_eq_some.mp hstep
      obtain rfl := Option.some.inj hheld
      have hmem : f b ∈ held.map f + others :=
        Multiset.mem_add.mpr (Or.inl (Multiset.mem_map_of_mem f hb))
      have herase : (held.map f + others).erase (f b) = (held.erase b).map f + others := by
        rw [Multiset.erase_add_left_pos _ (Multiset.mem_map_of_mem f hb),
          Multiset.map_erase_of_mem f _ hb]
      rw [Event.map, step, if_pos hmem, Option.bind_some, herase, ih hrest]

theorem Leaves.map (f : α → β) (h : Leaves left trace) :
    Leaves (left.map f) (trace.map (Event.map f)) := fun others => by
  have hmap := replay_map f (h 0) others
  rwa [Multiset.map_zero, zero_add, add_zero] at hmap

end Map

/-! ### How many are held at once -/

/-- **A trace never holds more than `n` handles** in addition to those held before. -/
def Within (n : ℕ) (trace : List (Event α)) : Prop :=
  ∀ held pre held', pre <+: trace → replay held pre = some held' → held'.card ≤ held.card + n

variable {m n : ℕ}

theorem Within.mono (h : Within m trace) (hmn : m ≤ n) : Within n trace :=
  fun held pre held' hpre hreplay => (h held pre held' hpre hreplay).trans (by omega)

theorem within_nil : Within n ([] : List (Event α)) := by
  intro held pre held' hpre hreplay
  obtain rfl := List.prefix_nil.mp hpre
  obtain rfl := Option.some.inj hreplay
  omega

theorem within_release (a : α) : Within 0 [.release a] := by
  intro held pre held' hpre hreplay
  rcases List.prefix_cons_iff.mp hpre with rfl | ⟨pre, rfl, hpre'⟩
  · obtain rfl := Option.some.inj hreplay
    omega
  · obtain rfl := List.prefix_nil.mp hpre'
    obtain ⟨held₁, hstep, hrest⟩ := Option.bind_eq_some_iff.mp hreplay
    obtain rfl := Option.some.inj hrest
    obtain ⟨-, hheld⟩ := Option.ite_none_right_eq_some.mp hstep
    obtain rfl := Option.some.inj hheld
    exact Multiset.card_le_card (Multiset.erase_le a held)

theorem within_acquire (a : α) : Within 1 [.acquire a] := by
  intro held pre held' hpre hreplay
  rcases List.prefix_cons_iff.mp hpre with rfl | ⟨pre, rfl, hpre'⟩
  · obtain rfl := Option.some.inj hreplay
    omega
  · obtain rfl := List.prefix_nil.mp hpre'
    obtain rfl : a ::ₘ held = held' := Option.some.inj hreplay
    rw [Multiset.card_cons]

/-- **The rule of a sequence**: what the first part leaves is held during the second. -/
theorem Within.append (h : Within n trace) (hleaves : Leaves left trace) (h' : Within m trace')
    (hm : left.card + m ≤ n) : Within n (trace ++ trace') := by
  intro held pre held' hpre hreplay
  obtain ⟨rest, hrest⟩ := hpre
  rcases List.append_eq_append_iff.mp hrest with ⟨between, hbetween, -⟩ | ⟨pre', rfl, hpre'⟩
  · exact h held pre held' ⟨between, hbetween.symm⟩ hreplay
  · rw [replay_append, hleaves held, Option.bind_some] at hreplay
    have hcard := h' _ pre' held' ⟨rest, hpre'.symm⟩ hreplay
    rw [Multiset.card_add] at hcard
    omega

/-! ### Both at once -/

/-- **What a part of a program does with its handles**: it leaves `left` behind, and never
holds more than `n`. -/
structure Holds (n : ℕ) (left : Multiset α) (trace : List (Event α)) : Prop where
  leaves : Leaves left trace
  within : Within n trace

theorem Holds.mono (h : Holds m left trace) (hmn : m ≤ n) : Holds n left trace :=
  ⟨h.leaves, h.within.mono hmn⟩

/-- What is left behind is held. -/
theorem Holds.card_le (h : Holds n left trace) : left.card ≤ n := by
  have hcard := h.within 0 trace _ List.prefix_rfl (h.leaves 0)
  rwa [add_zero, Multiset.card_zero, zero_add] at hcard

theorem holds_nil : Holds n 0 ([] : List (Event α)) :=
  ⟨balanced_nil, within_nil.mono n.zero_le⟩

theorem holds_acquire (a : α) : Holds 1 {a} [.acquire a] := ⟨leaves_acquire a, within_acquire a⟩

theorem Holds.append (h : Holds n left trace) (h' : Holds m left' trace')
    (hm : left.card + m ≤ n) : Holds n (left' + left) (trace ++ trace') :=
  ⟨h.leaves.append h'.leaves, h.within.append h.leaves h'.within hm⟩

/-- Behind a balanced part there is room for as much as before. -/
theorem Holds.balanced_append (h : Holds n 0 trace) (h' : Holds n left trace') :
    Holds n left (trace ++ trace') := by
  have happend := h.append h' (by rw [Multiset.card_zero, zero_add])
  rwa [add_zero] at happend

/-- A balanced part that finds room for its handles. -/
theorem Holds.append_balanced (h : Holds n left trace) (h' : Holds m 0 trace')
    (hm : left.card + m ≤ n) : Holds n left (trace ++ trace') := by
  have happend := h.append h' hm
  rwa [zero_add] at happend

/-- One of the handles that are left behind is released. -/
theorem Holds.release (h : Holds n (a ::ₘ left) trace) : Holds n left (trace ++ [.release a]) := by
  refine ⟨fun held => ?_, h.within.append h.leaves (within_release a) h.card_le⟩
  have hmem : a ∈ a ::ₘ left + held := Multiset.mem_add.mpr (Or.inl (Multiset.mem_cons_self a left))
  rw [replay_append, h.leaves held, Option.bind_some, replay, step, if_pos hmem, Multiset.cons_add,
    Multiset.erase_cons_head]
  rfl

theorem Holds.flatMap {ι : Type*} {l : List ι} {f : ι → List (Event α)}
    (h : ∀ b ∈ l, Holds n 0 (f b)) : Holds n 0 (l.flatMap f) := by
  induction l with
  | nil => exact holds_nil
  | cons b l ih =>
    obtain ⟨hb, hl⟩ := List.forall_mem_cons.mp h
    rw [List.flatMap_cons]
    exact hb.balanced_append (ih hl)

/-- Handles that are called otherwise are as many. -/
theorem Holds.map [DecidableEq β] (f : α → β) (h : Holds n left trace) :
    Holds n (left.map f) (trace.map (Event.map f)) := by
  refine ⟨h.leaves.map f, ?_⟩
  intro held pre held' hpre hreplay
  obtain ⟨pre, ⟨rest, rfl⟩, rfl⟩ := List.prefix_map_iff.mp hpre
  -- under its first names the trace goes well up to there
  have hall := h.leaves 0
  rw [replay_append] at hall
  obtain ⟨held₁, hheld₁, -⟩ := Option.bind_eq_some_iff.mp hall
  have hmap := replay_map f hheld₁ held
  rw [Multiset.map_zero, zero_add, hreplay] at hmap
  obtain rfl := Option.some.inj hmap
  have hcard := h.within 0 pre held₁ ⟨rest, rfl⟩ hheld₁
  rw [Multiset.card_add, Multiset.card_map]
  rw [Multiset.card_zero] at hcard
  omega

end Ledger
