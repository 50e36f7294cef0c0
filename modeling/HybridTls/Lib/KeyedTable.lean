import Mathlib.Algebra.GroupWithZero.Nat
import Mathlib.Data.List.Nodup
import Mathlib.Data.List.Perm.Basic
import Mathlib.Data.Option.Basic

/-!
# Tables with a primary key

A table is a list of rows, in the order in which they were inserted, no two of
which carry the same key. That the key is unique is a field of
`Keyed.Table`, so every operation below has to keep it and no later proof has
to ask for it again.

The operations are the ones a relational store offers for a single row:

| operation | what it is | lookup lemma |
|---|---|---|
| `Keyed.Table.modify` | `UPDATE … WHERE key = k` | `Keyed.Table.get?_modify` |
| `Keyed.Table.insert` | `INSERT` of a fresh key | `Keyed.Table.get?_insert` |
| `Keyed.Table.upsert` | `INSERT … ON CONFLICT DO UPDATE` | `Keyed.Table.get?_upsert` |

A table is determined by its lookups up to the order of its rows
(`Keyed.Table.perm_of_get?_eq`), and this remains true of any view of the rows:
two tables whose lookups agree after a projection hold the same projected rows.
For a view that keeps the key the converse holds (`Keyed.Table.perm_iff_get?_eq`).
An invariant of the rows is carried through an operation by the rules
`Keyed.Table.forall_modify` and `Keyed.Table.forall_upsert`, and what an
operation does not touch by `Keyed.Table.map_modify` and
`Keyed.Table.map_prefix_upsert`.
-/

namespace Keyed

variable {ρ κ β : Type*}

/-- A table of rows `ρ` with primary key `key`: no key occurs twice. -/
@[ext]
structure Table (key : ρ → κ) where
  /-- The rows, oldest first. -/
  rows : List ρ
  nodup : (rows.map key).Nodup

namespace Table

variable {key : ρ → κ}

/-- The table without rows. -/
def empty : Table key := ⟨[], List.nodup_nil⟩

/-- The keys of a table, in row order. -/
def keys (t : Table key) : List κ := t.rows.map key

@[simp] theorem rows_empty : (empty : Table key).rows = [] := rfl

theorem mem_keys {t : Table key} {k : κ} : k ∈ t.keys ↔ ∃ r ∈ t.rows, key r = k :=
  List.mem_map

/-- Two rows of a table with the same key are the same row. -/
theorem eq_of_key_eq (t : Table key) {r r' : ρ} (hr : r ∈ t.rows) (hr' : r' ∈ t.rows)
    (h : key r = key r') : r = r' :=
  List.inj_on_of_nodup_map t.nodup hr hr' h

variable [DecidableEq κ]

instance (t : Table key) (k : κ) : Decidable (k ∈ t.keys) :=
  inferInstanceAs (Decidable (k ∈ t.rows.map key))

/-! ### Looking a row up -/

/-- The row with key `k`, if there is one. -/
def get? (t : Table key) (k : κ) : Option ρ := t.rows.find? fun r => key r = k

/-- **A lookup finds a row exactly when the table holds it.** -/
theorem get?_eq_some_iff {t : Table key} {k : κ} {r : ρ} :
    t.get? k = some r ↔ r ∈ t.rows ∧ key r = k := by
  constructor
  · intro h
    exact ⟨List.mem_of_find?_eq_some h, by simpa using List.find?_some h⟩
  · rintro ⟨hr, hk⟩
    cases hf : t.get? k with
    | none => exact absurd hk (by simpa using List.find?_eq_none.mp hf r hr)
    | some r' =>
      have hk' : key r' = k := by simpa using List.find?_some hf
      rw [t.eq_of_key_eq (List.mem_of_find?_eq_some hf) hr (hk'.trans hk.symm)]

theorem get?_eq_none_iff {t : Table key} {k : κ} : t.get? k = none ↔ k ∉ t.keys := by
  rw [get?, List.find?_eq_none, mem_keys]
  simp

theorem get?_key {t : Table key} {r : ρ} (hr : r ∈ t.rows) : t.get? (key r) = some r :=
  get?_eq_some_iff.mpr ⟨hr, rfl⟩

theorem isSome_get?_iff {t : Table key} {k : κ} : (t.get? k).isSome ↔ k ∈ t.keys := by
  rw [Option.isSome_iff_ne_none, ne_eq, get?_eq_none_iff, not_not]

/-- **A key occurs in as many rows as its lookup finds**: in one or in none. -/
theorem countP_key (t : Table key) (k : κ) :
    t.rows.countP (fun r => key r = k) = (t.get? k).elim 0 fun _ => 1 := by
  have hcount : t.rows.countP (fun r => key r = k) = t.keys.count k := by
    rw [keys, List.count, List.countP_map]
    rfl
  rw [hcount]
  cases hf : t.get? k with
  | none => exact List.count_eq_zero.mpr (get?_eq_none_iff.mp hf)
  | some r => exact List.count_eq_one_of_mem t.nodup (isSome_get?_iff.mp (by rw [hf]; rfl))

/-- **What refers to a table is counted by its keys**: what refers to some key is
counted with one row, and with one only. -/
theorem sum_countP_key (t : Table key) {f : β → κ} {xs : List β} (h : ∀ x ∈ xs, f x ∈ t.keys) :
    (t.rows.map fun r => xs.countP fun x => f x = key r).sum = xs.length := by
  induction xs with
  | nil => simp
  | cons x xs ih =>
    have hone : t.rows.countP (fun r => f x = key r) = 1 := by
      obtain ⟨r, hr⟩ := Option.isSome_iff_exists.mp
        (isSome_get?_iff.mpr (h x List.mem_cons_self))
      have hcount := t.countP_key (f x)
      rw [hr, Option.elim_some] at hcount
      simpa only [eq_comm (a := f x)] using hcount
    have hsum : ∀ rows : List ρ, (rows.map fun r => (x :: xs).countP fun x => f x = key r).sum =
        (rows.map fun r => xs.countP fun x => f x = key r).sum +
          rows.countP fun r => f x = key r := by
      intro rows
      induction rows with
      | nil => rfl
      | cons r rows ihrows =>
        rw [List.map_cons, List.map_cons, List.sum_cons, List.sum_cons, ihrows, List.countP_cons,
          List.countP_cons]
        omega
    rw [hsum, hone, ih fun y hy => h y (List.mem_cons_of_mem _ hy), List.length_cons]

/-- The rows with a key are what its lookup finds. -/
theorem filter_key (t : Table key) (k : κ) :
    t.rows.filter (fun r => key r = k) = (t.get? k).toList := by
  have hlen := t.countP_key k
  rw [List.countP_eq_length_filter] at hlen
  have hhead : (t.rows.filter fun r => key r = k).head? = t.get? k := List.head?_filter ..
  rw [← hhead] at hlen ⊢
  cases hf : t.rows.filter fun r => key r = k with
  | nil => rfl
  | cons r rs =>
    simp only [hf, List.length_cons, List.head?_cons, Option.elim_some, Nat.add_eq_right] at hlen
    rw [List.length_eq_zero_iff.mp hlen]
    rfl

/-- **Lookups determine the rows up to order**, also through a view `g` of the
rows that need not keep the key. -/
theorem perm_of_get?_eq {t t' : Table key} {g : ρ → β}
    (h : ∀ k, (t.get? k).map g = (t'.get? k).map g) :
    (t.rows.map g).Perm (t'.rows.map g) := by
  have hview : ∀ t : Table key, (t.rows.map g).map some = t.keys.map fun k => (t.get? k).map g := by
    intro t
    simp only [keys, List.map_map]
    exact List.map_congr_left fun r hr => by simp [get?_key hr]
  have hkeys : t.keys.Perm t'.keys := by
    refine (List.perm_ext_iff_of_nodup t.nodup t'.nodup).mpr fun k => ?_
    have hk := congrArg Option.isSome (h k)
    simp only [Option.isSome_map] at hk
    exact isSome_get?_iff.symm.trans ((by rw [hk]) : _ ↔ _) |>.trans isSome_get?_iff
  refine (List.map_perm_map_iff (Option.some_injective β)).mp ?_
  rw [hview t, hview t']
  simp only [h]
  exact hkeys.map _

/-- Through a view that keeps the key, the rows up to order are the lookups. -/
theorem perm_iff_get?_eq {t t' : Table key} {g : ρ → β}
    (hg : ∀ r r', g r = g r' → key r = key r') :
    (t.rows.map g).Perm (t'.rows.map g) ↔ ∀ k, (t.get? k).map g = (t'.get? k).map g := by
  -- a row found on one side is found on the other
  have hfound : ∀ {t t' : Table key}, (t.rows.map g).Perm (t'.rows.map g) → ∀ k r,
      t.get? k = some r → (t'.get? k).map g = some (g r) := by
    intro t t' hperm k r hr
    obtain ⟨hmem, rfl⟩ := get?_eq_some_iff.mp hr
    obtain ⟨r', hr', hview⟩ := List.mem_map.mp (hperm.subset (List.mem_map_of_mem hmem))
    rw [← hg r' r hview, get?_key hr', Option.map_some, hview]
  constructor
  · intro hperm k
    cases hr : t.get? k with
    | some r => exact (hfound hperm k r hr).symm
    | none =>
      cases hr' : t'.get? k with
      | none => rfl
      | some r' => simpa [hr] using hfound hperm.symm k r' hr'
  · exact perm_of_get?_eq

/-! ### Updating the row of a key -/

section Modify

variable (t : Table key) (k : κ) (set : ρ → ρ) (hset : ∀ r, key (set r) = key r)

/-- `UPDATE … SET … WHERE key = k`, for a `SET` clause that leaves the key
alone. -/
def modify : Table key where
  rows := t.rows.map fun r => if key r = k then set r else r
  nodup := by
    have hkey : (key ∘ fun r => if key r = k then set r else r) = key := by
      funext r
      by_cases h : key r = k <;> simp [h, hset]
    rw [List.map_map, hkey]
    exact t.nodup

variable {t k set hset}

/-- A view of the rows that the update does not touch. -/
theorem map_modify {g : ρ → β} (hg : ∀ r, g (set r) = g r) :
    (t.modify k set hset).rows.map g = t.rows.map g := by
  simp only [modify, List.map_map]
  refine List.map_congr_left fun r _ => ?_
  by_cases h : key r = k <;> simp [h, hg]

@[simp] theorem keys_modify : (t.modify k set hset).keys = t.keys := map_modify hset

/-- An invariant of the rows survives an update that keeps it at the row
updated. -/
theorem forall_modify {P : ρ → Prop} (hold : ∀ r ∈ t.rows, P r)
    (hnew : ∀ r ∈ t.rows, key r = k → P (set r)) : ∀ r ∈ (t.modify k set hset).rows, P r := by
  intro r hr
  obtain ⟨r', hr', rfl⟩ := List.mem_map.mp hr
  by_cases h : key r' = k
  · rw [if_pos h]
    exact hnew r' hr' h
  · rw [if_neg h]
    exact hold r' hr'

/-- A selection that meets neither the row updated nor its update. -/
theorem filter_modify {P : ρ → Bool}
    (h : ∀ r ∈ t.rows, key r = k → P r = false ∧ P (set r) = false) :
    (t.modify k set hset).rows.filter P = t.rows.filter P := by
  rw [modify, List.filter_map]
  have hsel : t.rows.filter (P ∘ fun r => if key r = k then set r else r) = t.rows.filter P := by
    refine List.filter_congr fun r hr => ?_
    by_cases hk : key r = k
    · simp [hk, h r hr hk]
    · simp [hk]
  rw [hsel]
  refine (List.map_congr_left fun r hr => ?_).trans (List.map_id _)
  obtain ⟨hr, hP⟩ := List.mem_filter.mp hr
  by_cases hk : key r = k
  · simp [(h r hr hk).1] at hP
  · simp [hk]

theorem get?_modify (k' : κ) :
    (t.modify k set hset).get? k' = if k' = k then (t.get? k).map set else t.get? k' := by
  have hfind : (t.modify k set hset).get? k' =
      (t.get? k').map fun r => if key r = k then set r else r := by
    simp only [get?, modify, List.find?_map]
    congr 2
    funext r
    by_cases h : key r = k <;> simp [h, hset]
  rw [hfind]
  cases hf : t.get? k' with
  | none =>
    by_cases h : k' = k
    · simp [h ▸ hf]
    · simp [h]
  | some r =>
    have hr : key r = k' := (get?_eq_some_iff.mp hf).2
    by_cases h : k' = k
    · simp [h ▸ hf, hr, h]
    · simp [hr, h]

end Modify

/-! ### Inserting a fresh row -/

/-- `INSERT` of a row whose key the table does not hold. -/
def insert (t : Table key) (r : ρ) (h : key r ∉ t.keys) : Table key where
  rows := t.rows ++ [r]
  nodup := by
    rw [List.map_append]
    refine List.nodup_append'.mpr ⟨t.nodup, List.nodup_singleton _, ?_⟩
    exact List.disjoint_singleton.mpr h

theorem get?_insert {t : Table key} {r : ρ} (h : key r ∉ t.keys) (k : κ) :
    (t.insert r h).get? k = if k = key r then some r else t.get? k := by
  have hfind : (t.insert r h).get? k = (t.get? k).or (if key r = k then some r else none) := by
    simp only [get?, insert, List.find?_append, List.find?_singleton]
    by_cases hk : key r = k <;> simp [hk]
  rw [hfind]
  by_cases hk : k = key r
  · rw [hk, get?_eq_none_iff.mpr h]
    simp
  · simp [hk, Ne.symm hk]

/-! ### Inserting or updating -/

section Upsert

variable (t : Table key) (r : ρ) (set : ρ → ρ) (hset : ∀ r, key (set r) = key r)

/-- `INSERT … ON CONFLICT(key) DO UPDATE SET …`. The row excluded by the
conflict is `r`, which the `SET` clause may mention. -/
def upsert : Table key :=
  if h : key r ∈ t.keys then t.modify (key r) set hset else t.insert r h

/-- `INSERT OR IGNORE`: the upsert with an empty `SET` clause. -/
def insertOrIgnore : Table key := t.upsert r id fun _ => rfl

variable {t r set hset}

/-- **What an upsert leaves under each key**: under the row's own key the row or
the update of the one that was there, elsewhere what was there. -/
theorem get?_upsert (k : κ) :
    (t.upsert r set hset).get? k =
      if k = key r then some ((t.get? k).elim r set) else t.get? k := by
  unfold upsert
  split
  next h =>
    rw [get?_modify]
    by_cases hk : k = key r
    · obtain ⟨r', hr'⟩ := Option.isSome_iff_exists.mp (isSome_get?_iff.mpr h)
      simp [hk, hr']
    · simp [hk]
  next h =>
    rw [get?_insert]
    by_cases hk : k = key r
    · simp [hk, get?_eq_none_iff.mpr h]
    · simp [hk]

theorem get?_insertOrIgnore (k : κ) :
    (t.insertOrIgnore r).get? k = if k = key r then some ((t.get? k).getD r) else t.get? k := by
  rw [insertOrIgnore, get?_upsert]
  cases t.get? k <;> rfl

theorem mem_keys_upsert {k : κ} : k ∈ (t.upsert r set hset).keys ↔ k = key r ∨ k ∈ t.keys := by
  rw [← isSome_get?_iff, get?_upsert, ← isSome_get?_iff]
  by_cases hk : k = key r <;> simp [hk]

/-- An invariant of the rows survives an upsert that establishes it at a row
inserted and keeps it at a row updated. -/
theorem forall_upsert {P : ρ → Prop} (hold : ∀ x ∈ t.rows, P x) (hnew : key r ∉ t.keys → P r)
    (hupd : ∀ x ∈ t.rows, key x = key r → P (set x)) :
    ∀ x ∈ (t.upsert r set hset).rows, P x := by
  unfold upsert
  split
  next h => exact forall_modify hold hupd
  next h =>
    intro x hx
    rcases List.mem_append.mp hx with hx | hx
    · exact hold x hx
    · rw [List.mem_singleton.mp hx]
      exact hnew h

theorem forall_insertOrIgnore {P : ρ → Prop} (hold : ∀ x ∈ t.rows, P x)
    (hnew : key r ∉ t.keys → P r) : ∀ x ∈ (t.insertOrIgnore r).rows, P x :=
  forall_upsert hold hnew fun x hx _ => hold x hx

/-- A selection that meets neither the row inserted nor the row updated. -/
theorem filter_upsert {P : ρ → Bool} (hnew : P r = false)
    (hupd : ∀ x ∈ t.rows, key x = key r → P x = false ∧ P (set x) = false) :
    (t.upsert r set hset).rows.filter P = t.rows.filter P := by
  unfold upsert
  split
  · exact filter_modify hupd
  · simp [insert, List.filter_append, hnew]

/-- **An upsert only appends**, read through a view its `SET` clause does not
touch. -/
theorem map_prefix_upsert {g : ρ → β} (hg : ∀ x, g (set x) = g x) :
    t.rows.map g <+: (t.upsert r set hset).rows.map g := by
  unfold upsert
  split
  · simp only [map_modify hg, List.prefix_rfl]
  · rw [insert, List.map_append]
    exact List.prefix_append _ _

end Upsert

end Table

end Keyed
