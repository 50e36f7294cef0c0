import HybridTls.Store.Repository
import Mathlib.Data.String.Basic
import Mathlib.Order.Monotone.Defs

/-!
# History is append-only and well-timed

What two states of one run of the repository have to do with each other, and
what the timestamps of one state have to do with each other.

Across a run nothing is taken back (`HybridTls.AppendOnly`): the rows are
appended to, read through the columns that no `SET` clause writes, and a run
that has been completed stays so. This needs nothing of the clock.

Within a state the timestamps are ordered as the events were
(`HybridTls.WellTimed`), if the clock never goes back. A post updates a row that
is already there, and its timestamp must not precede the row's, so the
invariant that carries the induction says a little more: what is stored is not
later than any reading of the clock still to come (`HybridTls.TimedBy`).

`HybridTls.history_wellTimed` is both, for every run and every continuation of
it, failing calls included.
-/

namespace HybridTls

open Keyed Transition

/-! ### What is never taken back -/

/-- The columns of a run that no `SET` clause writes. -/
def RunRow.fixed (r : RunRow) : String × Timestamp := (r.id, r.startedAt)

/-- **Nothing is taken back** from one store to the other: no row disappears, the
columns fixed at its insertion keep their values, and a completed run stays
completed. -/
structure AppendOnly (s s' : Store) : Prop where
  runs : s.runs.rows.map RunRow.fixed <+: s'.runs.rows.map RunRow.fixed
  measurements : s.measurements.rows.map MeasurementRow.identity <+:
    s'.measurements.rows.map MeasurementRow.identity
  completed : ∀ k, ((s.runs.get? k).bind RunRow.completedAt).isSome →
    ((s'.runs.get? k).bind RunRow.completedAt).isSome

theorem AppendOnly.refl (s : Store) : AppendOnly s s :=
  ⟨List.prefix_rfl, List.prefix_rfl, fun _ h => h⟩

theorem AppendOnly.trans {s₁ s₂ s₃ : Store} (h : AppendOnly s₁ s₂) (h' : AppendOnly s₂ s₃) :
    AppendOnly s₁ s₃ :=
  ⟨h.runs.trans h'.runs, h.measurements.trans h'.measurements,
    fun k hk => h'.completed k (h.completed k hk)⟩

/-- A run that was there still is, with the same start. -/
theorem AppendOnly.exists_run {s s' : Store} (h : AppendOnly s s') {r : RunRow}
    (hr : r ∈ s.runs.rows) : ∃ r' ∈ s'.runs.rows, r'.id = r.id ∧ r'.startedAt = r.startedAt := by
  obtain ⟨r', hr', hfixed⟩ := List.mem_map.mp (h.runs.subset (List.mem_map_of_mem hr))
  exact ⟨r', hr', congrArg Prod.fst hfixed, congrArg Prod.snd hfixed⟩

section Runs

variable {t : Table RunRow.id} {k : String} {row : RunRow} {now : Timestamp}

theorem isSome_completed_upsert {set : RunRow → RunRow} {hset : ∀ r, (set r).id = r.id}
    (hkeep : ∀ r, (set r).completedAt = r.completedAt)
    (h : ((t.get? k).bind RunRow.completedAt).isSome) :
    (((t.upsert row set hset).get? k).bind RunRow.completedAt).isSome := by
  rw [Table.get?_upsert]
  split
  · cases hget : t.get? k with
    | none => simp [hget] at h
    | some r => simpa [hget, hkeep] using h
  · exact h

theorem isSome_completed_complete {runId : String}
    (h : ((t.get? k).bind RunRow.completedAt).isSome) :
    (((t.modify runId (·.complete now) (RunRow.id_complete now)).get? k).bind
      RunRow.completedAt).isSome := by
  rw [Table.get?_modify]
  split
  next hk =>
    subst hk
    cases hget : t.get? k with
    | none => simp [hget] at h
    | some r => simp [RunRow.complete]
  · exact h

end Runs

section Effect

variable {t₁ t₂ t : Timestamp} {s s' : Store} {op : Op}

/-- **The step**: no operation takes anything back. -/
theorem Effect.appendOnly (heff : Effect t₁ t₂ s s' op) : AppendOnly s s' := by
  cases heff with
  | createRun p hp hruns hmeas =>
    refine ⟨?_, by simp only [hmeas, List.prefix_rfl], fun k hk => ?_⟩
    · rw [hruns]
      exact Table.map_prefix_upsert fun _ => rfl
    · rw [hruns]
      exact isSome_completed_upsert (fun _ => rfl) hk
  | completeRun runId hruns hmeas =>
    have hfixed : ∀ r : RunRow, (r.complete t₂).fixed = r.fixed := fun _ => rfl
    refine ⟨?_, by simp only [hmeas, List.prefix_rfl], fun k hk => ?_⟩
    · rw [hruns, Table.map_modify hfixed]
      exact Table.map_prefix_upsert fun _ => rfl
    · rw [hruns]
      exact isSome_completed_complete (isSome_completed_upsert (fun _ => rfl) hk)
  | record p hp hruns hmeas =>
    refine ⟨?_, ?_, fun k hk => ?_⟩
    · rw [hruns]
      exact Table.map_prefix_upsert fun _ => rfl
    · rw [hmeas]
      exact Table.map_prefix_upsert (p.identity_update t₂)
    · rw [hruns]
      exact isSome_completed_upsert (fun _ => rfl) hk

/-! ### The order of the timestamps -/

/-- **The timestamps of a store are ordered** as the events were: a run is
completed after it started, a measurement is created after its run started, and
recorded after it is created. -/
structure WellTimed (s : Store) : Prop where
  completed : ∀ r ∈ s.runs.rows, ∀ t ∈ r.completedAt, r.startedAt ≤ t
  created : ∀ m ∈ s.measurements.rows, ∃ r ∈ s.runs.rows,
    r.id = m.runId ∧ r.startedAt ≤ m.createdAt
  serverRecorded : ∀ m ∈ s.measurements.rows, ∀ t ∈ m.serverRecordedAt, m.createdAt ≤ t
  clientRecorded : ∀ m ∈ s.measurements.rows, ∀ t ∈ m.clientRecordedAt, m.createdAt ≤ t

/-- What is stored was inserted by `now`. -/
structure TimedBy (now : Timestamp) (s : Store) : Prop where
  started : ∀ r ∈ s.runs.rows, r.startedAt ≤ now
  created : ∀ m ∈ s.measurements.rows, m.createdAt ≤ now

theorem TimedBy.mono (h : TimedBy t₁ s) (ht : t₁ ≤ t₂) : TimedBy t₂ s :=
  ⟨fun r hr => (h.started r hr).trans ht, fun m hm => (h.created m hm).trans ht⟩

/-- A post leaves the run and the creation time of a row that is stored. -/
theorem Post.kept_update (p : Post) (now : Timestamp) (m : MeasurementRow) :
    (p.update now m).createdAt = m.createdAt ∧ (p.update now m).runId = m.runId :=
  have hkept := MeasurementRow.identity_eq_iff.mp (p.identity_update now m)
  ⟨hkept.2.2.2.2, hkept.2.1⟩

theorem Post.createdAt_row (p : Post) (now : Timestamp) : (p.row now).createdAt = now := by
  cases p <;> rfl

/-- An operation inserts by its second reading of the clock. -/
theorem Effect.timedBy (heff : Effect t₁ t₂ s s' op) (h₁₂ : t₁ ≤ t₂) (hs : TimedBy t₁ s) :
    TimedBy t₂ s' := by
  have hold := hs.mono h₁₂
  cases heff with
  | createRun p hp hruns hmeas =>
    constructor
    · rw [hruns]
      exact Table.forall_upsert hold.started (fun _ => h₁₂) fun r hr _ => hold.started r hr
    · rw [hmeas]
      exact hold.created
  | completeRun runId hruns hmeas =>
    constructor
    · rw [hruns]
      have hensured := Table.forall_insertOrIgnore (r := ensureRow runId t₁) hold.started
        fun _ => h₁₂
      exact Table.forall_modify hensured fun r hr _ => hensured r hr
    · rw [hmeas]
      exact hold.created
  | record p hp hruns hmeas =>
    constructor
    · rw [hruns]
      exact Table.forall_insertOrIgnore hold.started fun _ => h₁₂
    · rw [hmeas]
      refine Table.forall_upsert hold.created (fun _ => (p.createdAt_row t₂).le) fun m hm _ => ?_
      rw [(p.kept_update t₂ m).1]
      exact hold.created m hm

/-- The runs stay in order: only `complete_run` dates a completion, by its second
reading of the clock. -/
theorem Effect.completed_after (heff : Effect t₁ t₂ s s' op) (h₁₂ : t₁ ≤ t₂) (hby : TimedBy t₁ s)
    (hs : WellTimed s) : ∀ r ∈ s'.runs.rows, ∀ t ∈ r.completedAt, r.startedAt ≤ t := by
  cases heff with
  | createRun p hp hruns hmeas =>
    rw [hruns]
    exact Table.forall_upsert hs.completed (fun _ => by simp [RunPost.row])
      fun r hr _ => hs.completed r hr
  | completeRun runId hruns hmeas =>
    have hensured := Table.forall_insertOrIgnore (r := ensureRow runId t₁) hs.completed
      fun _ => by simp [ensureRow]
    have hstarted := Table.forall_insertOrIgnore (r := ensureRow runId t₁) hby.started
      fun _ => le_refl t₁
    rw [hruns]
    refine Table.forall_modify hensured fun r hr _ t ht => ?_
    obtain rfl : t₂ = t := Option.some.inj ht
    exact (hstarted r hr).trans h₁₂
  | record p hp hruns hmeas =>
    rw [hruns]
    exact Table.forall_insertOrIgnore hs.completed fun _ => by simp [ensureRow]

/-- Every measurement has its run, which started no later: the run of a new one
has just been ensured, and the others are still there. -/
theorem Effect.created_after (heff : Effect t₁ t₂ s s' op) (h₁₂ : t₁ ≤ t₂) (hby : TimedBy t₁ s)
    (hs : WellTimed s) : ∀ m ∈ s'.measurements.rows, ∃ r ∈ s'.runs.rows,
      r.id = m.runId ∧ r.startedAt ≤ m.createdAt := by
  have hold : ∀ m ∈ s.measurements.rows, ∃ r ∈ s'.runs.rows,
      r.id = m.runId ∧ r.startedAt ≤ m.createdAt := by
    intro m hm
    obtain ⟨r, hr, hid, hle⟩ := hs.created m hm
    obtain ⟨r', hr', hid', hstart⟩ := heff.appendOnly.exists_run hr
    exact ⟨r', hr', hid'.trans hid, hstart.trans_le hle⟩
  cases heff with
  | createRun p hp hruns hmeas => exact hmeas ▸ hold
  | completeRun runId hruns hmeas => exact hmeas ▸ hold
  | record p hp hruns hmeas =>
    have hstarted := Table.forall_insertOrIgnore (r := ensureRow p.sample.runId t₁) hby.started
      fun _ => le_refl t₁
    have hkey : p.sample.runId ∈ (s.runs.insertOrIgnore (ensureRow p.sample.runId t₁)).keys :=
      Table.mem_keys_upsert.mpr (Or.inl rfl)
    obtain ⟨r, hr, hid⟩ := Table.mem_keys.mp hkey
    rw [hmeas]
    refine Table.forall_upsert hold (fun _ => ?_) fun m hm _ => ?_
    · refine ⟨r, hruns ▸ hr, hid.trans (p.runId_row t₂).symm, (hstarted r hr).trans ?_⟩
      rwa [p.createdAt_row]
    · rw [(p.kept_update t₂ m).1, (p.kept_update t₂ m).2]
      exact hold m hm

/-- A date that posts set to their own time or keep is never before the creation
of the row. -/
theorem Effect.recorded_after {side : MeasurementRow → Option Timestamp}
    (hrow : ∀ (p : Post) (now : Timestamp), ∀ t ∈ side (p.row now), t = now)
    (hupdate : ∀ (p : Post) (now : Timestamp) (m : MeasurementRow), ∀ t ∈ side (p.update now m),
      t = now ∨ t ∈ side m)
    (heff : Effect t₁ t₂ s s' op) (h₁₂ : t₁ ≤ t₂) (hby : TimedBy t₁ s)
    (hs : ∀ m ∈ s.measurements.rows, ∀ t ∈ side m, m.createdAt ≤ t) :
    ∀ m ∈ s'.measurements.rows, ∀ t ∈ side m, m.createdAt ≤ t := by
  cases heff with
  | createRun p hp hruns hmeas => exact hmeas ▸ hs
  | completeRun runId hruns hmeas => exact hmeas ▸ hs
  | record p hp hruns hmeas =>
    rw [hmeas]
    refine Table.forall_upsert hs (fun _ t ht => ?_) fun m hm _ t ht => ?_
    · rw [p.createdAt_row, hrow p t₂ t ht]
    · rw [(p.kept_update t₂ m).1]
      rcases hupdate p t₂ m t ht with rfl | ht
      · exact (hby.created m hm).trans h₁₂
      · exact hs m hm t ht

/-- **The step**: an operation whose readings of the clock follow all that is
stored keeps the timestamps in order. -/
theorem Effect.wellTimed (heff : Effect t₁ t₂ s s' op) (h₁₂ : t₁ ≤ t₂) (hby : TimedBy t₁ s)
    (hs : WellTimed s) : WellTimed s' := by
  refine ⟨heff.completed_after h₁₂ hby hs, heff.created_after h₁₂ hby hs,
    heff.recorded_after ?_ ?_ h₁₂ hby hs.serverRecorded,
    heff.recorded_after ?_ ?_ h₁₂ hby hs.clientRecorded⟩
  -- a post dates its own side and keeps the other
  · rintro (p | p) now t ⟨⟩
    rfl
  · rintro (p | p) now m t ht
    · exact Or.inl (Option.some.inj ht).symm
    · exact Or.inr ht
  · rintro (p | p) now t ⟨⟩
    rfl
  · rintro (p | p) now m t ht
    · exact Or.inr ht
    · exact Or.inl (Option.some.inj ht).symm

end Effect

/-! ### Whole runs -/

section Run

variable {clock : ℕ → Timestamp} {w : World}

theorem appendOnly_exec (clock : ℕ → Timestamp) (w : World) (c : Call) :
    AppendOnly w.store (exec clock w c).2.store := by
  rcases (exec_cases clock w c).2 with ⟨-, hstore⟩ | ⟨-, k₁, k₂, -, -, -, heff⟩
  · rw [hstore]
    exact AppendOnly.refl w.store
  · exact heff.appendOnly

/-- The invariant of the run: the timestamps are in order, and none of an
insertion is later than a reading still to come. -/
structure Timely (clock : ℕ → Timestamp) (w : World) : Prop where
  wellTimed : WellTimed w.store
  timedBy : ∀ k ≥ w.readings, TimedBy (clock k) w.store

theorem timely_init : Timely clock (repository clock).init :=
  ⟨by constructor <;> simp [repository, Store.empty], fun k _ => by
    constructor <;> simp [repository, Store.empty]⟩

/-- **The step**: every call, failing or not, keeps the invariant. -/
theorem Timely.exec (hclock : Monotone clock) (hw : Timely clock w) (c : Call) :
    Timely clock (exec clock w c).2 := by
  obtain ⟨hreadings, ⟨-, hstore⟩ | ⟨-, k₁, k₂, h₁, h₁₂, h₂, heff⟩⟩ := exec_cases clock w c
  · exact ⟨hstore ▸ hw.wellTimed, fun k hk => hstore ▸ hw.timedBy k (hreadings.trans hk)⟩
  · have hle := hclock h₁₂
    have hby := hw.timedBy k₁ h₁
    exact ⟨heff.wellTimed hle hby hw.wellTimed,
      fun k hk => (heff.timedBy hle hby).mono (hclock (by omega))⟩

end Run

/-- **History is append-only and well-timed.** If the clock never goes back, then
after every run of the repository, failing calls included, the timestamps are in
order, and no continuation of the run takes anything back. -/
theorem history_wellTimed (clock : ℕ → Timestamp) (hclock : Monotone clock)
    (calls later : List Call) :
    WellTimed ((repository clock).run calls).store ∧
      AppendOnly ((repository clock).run calls).store
        ((repository clock).run (calls ++ later)).store := by
  constructor
  · exact (Machine.invariant (M := repository clock) timely_init
      (fun _ c hw => hw.exec hclock c) calls).wellTimed
  · rw [Machine.run_append]
    exact Machine.related (M := repository clock) (R := fun w w' => AppendOnly w.store w'.store)
      (fun w => AppendOnly.refl w.store) AppendOnly.trans (appendOnly_exec clock) _ later

/-- A clock that reads one time twice and then another. -/
def slowClock (k : ℕ) : Timestamp :=
  if k < 2 then "2026-01-01T00:00:00.000+00:00" else "2026-01-01T00:00:00.001+00:00"

theorem monotone_slowClock : Monotone slowClock := by
  intro i j hij
  unfold slowClock
  split_ifs
  · exact le_refl _
  · decide
  · omega
  · exact le_refl _

/-- A run completed and then created again. -/
theorem history_wellTimed_slowClock :
    WellTimed ((repository slowClock).run [(Op.completeRun "run-1").call]).store ∧
      AppendOnly ((repository slowClock).run [(Op.completeRun "run-1").call]).store
        ((repository slowClock).run [(Op.completeRun "run-1").call,
          (Op.createRun
            (RunPost.dump ⟨"run-1", none, none, some 100, some 10, none⟩)).call]).store :=
  history_wellTimed slowClock monotone_slowClock [_] [_]

end HybridTls
