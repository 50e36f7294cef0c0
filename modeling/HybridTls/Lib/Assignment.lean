import Mathlib.Data.List.Basic
import Mathlib.Data.List.Nodup

/-!
# Records that are filled by assignments

A record is filled by a list of names and values, applied in turn; a table says what the
value under a name does to the record, and a name that is not in it is an error.

If the entries of the table are assignments to different fields (`Assignment.Lawful`) – the
second under a name overwrites the first, and those under two names commute – then all that
counts is the value that each name is given last (`Assignment.assignAll_eq`): neither the order
of the names nor what has been overwritten leaves a trace.
-/

namespace Assignment

variable {κ ν ω : Type*} [DecidableEq κ]

/-- What the values under the names do to the record. -/
abbrev Table (κ ν ω : Type*) := List (κ × (ν → ω → ω))

/-- The names of a table. -/
def names (T : Table κ ν ω) : List κ := T.map Prod.fst

/-- One assignment. -/
def assign (T : Table κ ν ω) (o : ω) (name : κ) (value : ν) : Option ω :=
  (T.find? fun entry => entry.1 = name).map fun entry => entry.2 value o

/-- One after the other. -/
def assignAll (T : Table κ ν ω) (o : ω) : List (κ × ν) → Option ω
  | [] => some o
  | p :: ps => (assign T o p.1 p.2).bind (assignAll T · ps)

/-- The value that a name is given last, if it is given any. -/
def last (name : κ) : List (κ × ν) → Option ν
  | [] => none
  | p :: ps => (last name ps).or (if p.1 = name then some p.2 else none)

/-- An entry, with a value if there is one. -/
def apply (ps : List (κ × ν)) (o : ω) (entry : κ × (ν → ω → ω)) : ω :=
  (last entry.1 ps).elim o fun value => entry.2 value o

/-- The record that has the values given last. -/
def lastOf (T : Table κ ν ω) (o : ω) (ps : List (κ × ν)) : ω := T.foldl (apply ps) o

/-- **The entries are assignments to different fields.** -/
structure Lawful (T : Table κ ν ω) : Prop where
  nodup : (names T).Nodup
  overwrites : ∀ entry ∈ T, ∀ v u o, entry.2 v (entry.2 u o) = entry.2 v o
  commutes : T.Pairwise fun entry entry' =>
    ∀ v u o, entry.2 v (entry'.2 u o) = entry'.2 u (entry.2 v o)

section Last

variable {name : κ} {ps : List (κ × ν)} {p : κ × ν}

theorem last_cons_of_ne (h : p.1 ≠ name) : last name (p :: ps) = last name ps := by
  rw [last, if_neg h, Option.or_none]

/-- An entry that sets a field leaves in it what the name is given last, or what there was. -/
theorem apply_elim {α : Type*} (name : κ) (get : ω → α) (put : α → ω → ω) (of : ν → α)
    (hget : ∀ o, put (get o) o = o) (o : ω) :
    apply ps o (name, fun value => put (of value)) = put ((last name ps).elim (get o) of) o := by
  unfold apply
  cases last name ps with
  | none => exact (hget o).symm
  | some value => rfl

/-- The same where the field has the value as it is given. -/
theorem apply_getD (name : κ) (get : ω → ν) (put : ν → ω → ω) (hget : ∀ o, put (get o) o = o)
    (o : ω) : apply ps o (name, put) = put ((last name ps).getD (get o)) o := by
  unfold apply
  cases last name ps with
  | none => exact (hget o).symm
  | some value => rfl

end Last

section Table

variable {T : Table κ ν ω} {o : ω} {ps : List (κ × ν)} {p : κ × ν}
  {entry : κ × (ν → ω → ω)} {g : ω → ω}

/-- What commutes with the entries commutes with applying them. -/
theorem foldl_apply_comm (hcomm : ∀ entry ∈ T, ∀ v o, entry.2 v (g o) = g (entry.2 v o)) (o : ω) :
    T.foldl (apply ps) (g o) = g (T.foldl (apply ps) o) := by
  induction T generalizing o with
  | nil => rfl
  | cons entry T ih =>
    obtain ⟨hentry, hT⟩ := List.forall_mem_cons.mp hcomm
    have hstep : apply ps (g o) entry = g (apply ps o entry) := by
      unfold apply
      cases last entry.1 ps with
      | none => rfl
      | some value => exact hentry value o
    rw [List.foldl_cons, List.foldl_cons, hstep, ih hT]

/-- The names that are not in a table do not matter to it. -/
theorem foldl_apply_of_not_mem (h : p.1 ∉ names T) (o : ω) :
    T.foldl (apply (p :: ps)) o = T.foldl (apply ps) o := by
  refine List.foldl_ext _ _ o fun o' entry hentry => ?_
  have hne : p.1 ≠ entry.1 := fun heq => h (heq ▸ List.mem_map_of_mem hentry)
  rw [apply, apply, last_cons_of_ne hne]

/-- **One assignment in front of others** is overwritten by those under its name, and commutes
with the rest. -/
theorem Lawful.lastOf_cons (hT : Lawful T) (hentry : entry ∈ T) (value : ν) :
    lastOf T (entry.2 value o) ps = lastOf T o ((entry.1, value) :: ps) := by
  obtain ⟨before, after, rfl⟩ := List.append_of_mem hentry
  obtain ⟨-, hafter, hbetween⟩ := List.pairwise_append.mp hT.commutes
  have hnames := hT.nodup
  rw [names, List.map_append, List.map_cons, List.nodup_middle, List.nodup_cons,
    List.mem_append, not_or] at hnames
  obtain ⟨⟨hnotBefore, hnotAfter⟩, -⟩ := hnames
  have hbefore : ∀ e ∈ before, ∀ v o, e.2 v (entry.2 value o) = entry.2 value (e.2 v o) :=
    fun e he v o => hbetween e he entry List.mem_cons_self v value o
  -- the assignment is moved to its place
  have happly : ∀ o, apply ps (entry.2 value o) entry =
      apply ((entry.1, value) :: ps) o entry := by
    intro o
    unfold apply
    rw [last, if_pos rfl]
    cases last entry.1 ps with
    | none => rfl
    | some w => exact hT.overwrites entry hentry w value o
  rw [lastOf, lastOf, List.foldl_append, List.foldl_append, List.foldl_cons, List.foldl_cons,
    foldl_apply_comm hbefore, happly, foldl_apply_of_not_mem hnotAfter,
    foldl_apply_of_not_mem hnotBefore]

theorem lastOf_nil (T : Table κ ν ω) (o : ω) : lastOf T o [] = o := by
  unfold lastOf
  induction T generalizing o with
  | nil => rfl
  | cons entry T ih => exact ih o

/-- **The values given last make the record**, if all names are in the table; and else there is
none. -/
theorem assignAll_eq (hT : Lawful T) (o : ω) (ps : List (κ × ν)) :
    assignAll T o ps = if ∀ p ∈ ps, p.1 ∈ names T then some (lastOf T o ps) else none := by
  induction ps generalizing o with
  | nil => rw [if_pos (by simp), lastOf_nil, assignAll]
  | cons p ps ih =>
    rw [assignAll, assign]
    cases hfind : T.find? fun entry => entry.1 = p.1 with
    | none =>
      have hunknown : ¬ ∀ q ∈ p :: ps, q.1 ∈ names T := by
        intro hall
        obtain ⟨entry, hentry, heq⟩ := List.mem_map.mp (hall p List.mem_cons_self)
        exact List.find?_eq_none.mp hfind entry hentry (by simpa using heq)
      rw [if_neg hunknown]
      rfl
    | some entry =>
      have hentry := List.mem_of_find?_eq_some hfind
      have hname : entry.1 = p.1 := by simpa using List.find?_some hfind
      have hknown : (∀ q ∈ p :: ps, q.1 ∈ names T) ↔ ∀ q ∈ ps, q.1 ∈ names T := by
        rw [List.forall_mem_cons, ← hname]
        exact and_iff_right (List.mem_map_of_mem hentry)
      have hcons : lastOf T (entry.2 p.2 o) ps = lastOf T o (p :: ps) := by
        rw [hT.lastOf_cons hentry, hname]
      rw [Option.map_some, Option.bind_some, ih, hcons]
      simp only [hknown]

end Table

end Assignment
