import HybridTls.Store.Repository

/-!
# The measurements as a fold of the history

A sample is posted from two sides, in either order and possibly more than once,
and each post is an upsert that names some of the columns. What a row holds in
the end is therefore a fold over the posts of its sample, and this file says
which: `HybridTls.foldRow` reads the row off the posts, column by column, and
`HybridTls.history_fold` says that the table agrees with it after every run of
the repository.

| columns | read off |
|---|---|
| run, mode, expected group | the first post |
| server handshake | the last server post |
| client times, byte counts, error, success | the last client post |
| negotiated group, version, cipher | the posts in turn, `HybridTls.latest` |

The argument is one step and one induction. `HybridTls.foldRow_append` says what
one more post does to the fold, and it is what the post's `SET` clause does to
the row; `HybridTls.tracks_runFrom` carries this along the calls of a run, of
which those that raise or that record nothing leave no post in the history
(`HybridTls.accepted`).

Timestamps are left out of the comparison: `HybridTls.MeasurementRow.untimed`
clears them.
-/

namespace HybridTls

open Keyed Transition

/-! ### Histories of posts -/

/-- The server post a post is, if it is one. -/
def Post.server? : Post → Option ServerPost
  | .server p => some p
  | .client _ => none

/-- The client post a post is, if it is one. -/
def Post.client? : Post → Option ClientPost
  | .server _ => none
  | .client p => some p

/-- The last server post of a history. -/
def lastServer (h : List Post) : Option ServerPost := (h.filterMap Post.server?).getLast?

/-- The last client post of a history. -/
def lastClient (h : List Post) : Option ClientPost := (h.filterMap Post.client?).getLast?

/-- The value of a column both sides write: that of the latest post, except that
a client post carrying null keeps the value there was. -/
def latest (column : SamplePost → Option String) (h : List Post) : Option String :=
  h.foldl (fun v p => match p with
    | .server p => column p.toSamplePost
    | .client p => (column p.toSamplePost).or v) none

/-- The posts of a history that name a sample. -/
def named (sampleId : String) (h : List Post) : List Post :=
  h.filter fun p => p.sample.sampleId = sampleId

/-- The row of a sample, up to timestamps, read off its posts: none without
posts. -/
def foldRow (sampleId : String) (h : List Post) : Option MeasurementRow :=
  h.head?.map fun first =>
    { sampleId
      runId := first.sample.runId
      mode := first.sample.mode
      expectedGroup := first.sample.expectedGroup
      negotiatedGroup := latest (·.negotiatedGroup) h
      tlsVersion := latest (·.tlsVersion) h
      cipher := latest (·.cipher) h
      serverHandshakeUs := (lastServer h).map (·.serverHandshakeUs)
      clientTcpUs := (lastClient h).bind (·.clientTcpUs)
      clientHandshakeUs := (lastClient h).bind (·.clientHandshakeUs)
      clientTtfbUs := (lastClient h).bind (·.clientTtfbUs)
      clientTotalUs := (lastClient h).bind (·.clientTotalUs)
      bytesSent := (lastClient h).bind (·.bytesSent)
      bytesReceived := (lastClient h).bind (·.bytesReceived)
      success := if (lastClient h).elim true (·.succeeded) then 1 else 0
      error := (lastClient h).bind (·.error)
      serverRecordedAt := none
      clientRecordedAt := none
      createdAt := "" }

/-- A row without its timestamps. -/
def MeasurementRow.untimed (m : MeasurementRow) : MeasurementRow :=
  { m with serverRecordedAt := none, clientRecordedAt := none, createdAt := "" }

@[simp] theorem MeasurementRow.sampleId_untimed (m : MeasurementRow) :
    m.untimed.sampleId = m.sampleId := rfl

section Append

variable (h : List Post)

@[simp] theorem lastServer_server (p : ServerPost) :
    lastServer (h ++ [.server p]) = some p := by
  simp [lastServer, List.filterMap_append, Post.server?]

@[simp] theorem lastServer_client (p : ClientPost) :
    lastServer (h ++ [.client p]) = lastServer h := by
  simp [lastServer, List.filterMap_append, Post.server?]

@[simp] theorem lastClient_server (p : ServerPost) :
    lastClient (h ++ [.server p]) = lastClient h := by
  simp [lastClient, List.filterMap_append, Post.client?]

@[simp] theorem lastClient_client (p : ClientPost) :
    lastClient (h ++ [.client p]) = some p := by
  simp [lastClient, List.filterMap_append, Post.client?]

@[simp] theorem latest_server (column : SamplePost → Option String) (p : ServerPost) :
    latest column (h ++ [.server p]) = column p.toSamplePost := by
  simp [latest, List.foldl_append]

@[simp] theorem latest_client (column : SamplePost → Option String) (p : ClientPost) :
    latest column (h ++ [.client p]) = (column p.toSamplePost).or (latest column h) := by
  simp [latest, List.foldl_append]

end Append

/-- **The fold takes one more post as the row takes its query**: it inserts the
row of the query, or updates the row there is. -/
theorem foldRow_append (s : String) (h : List Post) (p : Post) (t : Timestamp)
    (hp : p.sample.sampleId = s) (m : Option MeasurementRow)
    (hm : m.map MeasurementRow.untimed = foldRow s h) :
    some (m.elim (p.row t) (p.update t)).untimed = foldRow s (h ++ [p]) := by
  subst hp
  cases hfirst : h.head? with
  | none =>
    -- the first post of the sample
    obtain rfl : h = [] := List.head?_eq_none_iff.mp hfirst
    obtain rfl : m = none := by simpa [foldRow] using hm
    cases p <;>
      simp [foldRow, Post.row, ServerPost.row, ClientPost.row, MeasurementRow.untimed, Post.sample,
        lastServer, lastClient, latest, Post.server?, Post.client?]
  | some first =>
    simp only [foldRow, hfirst, Option.map_some, Option.map_eq_some_iff, MeasurementRow.untimed,
      MeasurementRow.mk.injEq] at hm
    obtain ⟨m, rfl, hid, hrun, hmode, hgroup, hnegotiated, hversion, hcipher, hserver, htcp,
      hhandshake, httfb, htotal, hsent, hreceived, hsuccess, herror, -⟩ := hm
    rw [foldRow, List.head?_append, hfirst]
    cases p with
    | server p =>
      simp [Post.update, MeasurementRow.updateServer, ServerPost.row, MeasurementRow.untimed, *]
    | client p =>
      simp [Post.update, MeasurementRow.updateClient, ClientPost.row, MeasurementRow.untimed, *]

/-! ### What a run leaves in the history -/

/-- The post a call adds to the history: none if it raises, and none if it
records nothing. -/
def acceptedPost (clock : ℕ → Timestamp) (w : World) (c : Call) : Option Post :=
  match (exec clock w c).1 with
  | .ok _ => c.op.post?
  | .error _ => none

/-- The history of a run: the posts of the calls that returned, in order. -/
def accepted (clock : ℕ → Timestamp) : World → List Call → List Post
  | _, [] => []
  | w, c :: cs => (acceptedPost clock w c).toList ++ accepted clock (exec clock w c).2 cs

/-- A table tracks a history when every row is, up to timestamps, the fold of the
posts of its sample, and every sample posted has one. -/
def Tracks (h : List Post) (t : Table MeasurementRow.sampleId) : Prop :=
  ∀ s, (t.get? s).map MeasurementRow.untimed = foldRow s (named s h)

section Tracks

variable {clock : ℕ → Timestamp} {w : World} {c : Call} {h : List Post}

theorem tracks_empty : Tracks [] Store.empty.measurements := fun _ => rfl

/-- What a call does to the row of each sample: the query of the post it adds to
the history, if that names the sample, and otherwise nothing. -/
theorem get?_exec (clock : ℕ → Timestamp) (w : World) (c : Call) (s : String) :
    (exec clock w c).2.store.measurements.get? s = w.store.measurements.get? s ∧
        (∀ p ∈ acceptedPost clock w c, p.sample.sampleId ≠ s) ∨
      ∃ t, ∃ p ∈ acceptedPost clock w c, p.sample.sampleId = s ∧
        (exec clock w c).2.store.measurements.get? s =
          some ((w.store.measurements.get? s).elim (p.row t) (p.update t)) := by
  cases hres : (exec clock w c).1 with
  | error e => exact Or.inl ⟨by rw [exec_store_of_error hres], by simp [acceptedPost, hres]⟩
  | ok u =>
    obtain ⟨t₁, t₂, heff⟩ := exec_effect hres
    cases hop : c.op.post? with
    | none => exact Or.inl ⟨by rw [heff.measurements_eq hop], by simp [acceptedPost, hres, hop]⟩
    | some p =>
      rw [Op.post?_eq_some_iff.mp hop] at heff
      have hget := heff.get?_measurements s
      by_cases hs : s = p.sample.sampleId
      · rw [if_pos hs] at hget
        exact Or.inr ⟨t₂, p, by simp [acceptedPost, hres, hop], hs.symm, hget⟩
      · rw [if_neg hs] at hget
        refine Or.inl ⟨hget, ?_⟩
        simpa [acceptedPost, hres, hop] using Ne.symm hs

/-- **The step**: a call that returns adds its post to the history and brings
the row of its sample up to date with it. -/
theorem Tracks.exec (hw : Tracks h w.store.measurements) :
    Tracks (h ++ (acceptedPost clock w c).toList) (exec clock w c).2.store.measurements := by
  intro s
  rcases get?_exec clock w c s with ⟨hget, hnot⟩ | ⟨t, p, hp, hs, hget⟩
  · have hnamed : named s (h ++ (acceptedPost clock w c).toList) = named s h := by
      simpa [named, List.filter_append] using hnot
    rw [hget, hnamed]
    exact hw s
  · have hnamed : named s (h ++ (acceptedPost clock w c).toList) = named s h ++ [p] := by
      simp [named, List.filter_append, Option.mem_def.mp hp, hs]
    rw [hget, hnamed, Option.map_some]
    exact foldRow_append s _ p t hs _ (hw s)

/-- **The run**: the table tracks the history wherever a run ends. -/
theorem tracks_runFrom (calls : List Call) (hw : Tracks h w.store.measurements) :
    Tracks (h ++ accepted clock w calls)
      ((repository clock).runFrom w calls).store.measurements := by
  induction calls generalizing w h with
  | nil => simpa [accepted] using hw
  | cons c cs ih =>
    rw [accepted, ← List.append_assoc, Machine.runFrom_cons]
    exact ih hw.exec

theorem tracks_run (clock : ℕ → Timestamp) (calls : List Call) :
    Tracks (accepted clock (repository clock).init calls)
      ((repository clock).run calls).store.measurements :=
  tracks_runFrom (h := []) calls tracks_empty

end Tracks

/-- **No update is lost.** After every run, and for every sample, the table has
exactly one row if a post of the history names the sample and none otherwise,
and that row is the fold of the posts that do. A call that does not name the
sample leaves its row alone, timestamps included. -/
theorem history_fold (clock : ℕ → Timestamp) (calls : List Call) (s : String) :
    ((((repository clock).run calls).store.measurements.rows.filter
        fun m => m.sampleId = s).map MeasurementRow.untimed =
      (foldRow s (named s (accepted clock (repository clock).init calls))).toList) ∧
    ∀ c : Call, (∀ p ∈ c.op.post?, p.sample.sampleId ≠ s) →
      (exec clock ((repository clock).run calls) c).2.store.measurements.get? s =
        ((repository clock).run calls).store.measurements.get? s := by
  constructor
  · rw [Table.filter_key, ← tracks_run clock calls s]
    cases ((repository clock).run calls).store.measurements.get? s <;> rfl
  · intro c hc
    rcases get?_exec clock ((repository clock).run calls) c s with ⟨hget, -⟩ | ⟨t, p, hp, hs, -⟩
    · exact hget
    · refine absurd hs (hc p ?_)
      unfold acceptedPost at hp
      split at hp
      · exact hp
      · simp at hp

end HybridTls
