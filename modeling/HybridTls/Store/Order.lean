import HybridTls.Store.History

/-!
# Arrival order

Runs and the two posts of a sample arrive over independent connections, in any
order. This file settles when the order shows in the tables, timestamps apart
(`HybridTls.SameTables`), for collections of operations that do not contradict
each other (`HybridTls.Mergeable`).

What a run row holds is a fold of the operations too (`HybridTls.foldRun`): it
is there as soon as one of them names it, and its columns are those of the one
run post, or the defaults. As for measurements, once a sample has at most one
post from each side its fold is a function of the two posts
(`HybridTls.mergedRow`) – *provided* the server's post carries no null where the
client's has a value. The client's `SET` clause keeps the old value against a
null, the server's does not, so such a server post erases the client's value
when it comes second and not when it comes first.

`HybridTls.order_irrelevant_iff` is the result: the order is irrelevant exactly
when no server post is null in a column that the client post of its sample
fills.
-/

namespace HybridTls

open Keyed Transition

/-! ### What the operations say -/

/-- The posts of a collection of operations. -/
def posts (ops : List Op) : List Post := ops.filterMap Op.post?

/-- The run posts of a collection of operations that name a run. -/
def runPosts (runId : String) (ops : List Op) : List RunPost :=
  (ops.filterMap Op.runPost?).filter fun p => p.runId = runId

/-- The columns both sides of a sample write. -/
def sharedColumns : List (SamplePost → Option String) :=
  [(·.negotiatedGroup), (·.tlsVersion), (·.cipher)]

/-- The posts of the two sides of a sample agree: on the run, the mode and the
expected group, and on each shared column unless one of them is null there. -/
structure Agree (p q : SamplePost) : Prop where
  runId : p.runId = q.runId
  mode : p.mode = q.mode
  expectedGroup : p.expectedGroup = q.expectedGroup
  shared : ∀ column ∈ sharedColumns, column p = column q ∨ column p = none ∨ column q = none

/-- **Operations that do not contradict each other**: all of them are accepted, a
run is created at most once, a sample has at most one post from each side, and
the two agree. -/
structure Mergeable (ops : List Op) : Prop where
  storable : ∀ op ∈ ops, op.Storable
  runs : ∀ k, (runPosts k ops).length ≤ 1
  servers : ∀ s, ((named s (posts ops)).filterMap Post.server?).length ≤ 1
  clients : ∀ s, ((named s (posts ops)).filterMap Post.client?).length ≤ 1
  agree : ∀ p q, Post.server p ∈ posts ops → Post.client q ∈ posts ops →
    p.sampleId = q.sampleId → Agree p.toSamplePost q.toSamplePost

/-- No server post is null in a shared column that the client post of its sample
fills. -/
def ServersFill (ops : List Op) : Prop :=
  ∀ p q, Post.server p ∈ posts ops → Post.client q ∈ posts ops → p.sampleId = q.sampleId →
    ∀ column ∈ sharedColumns, column p.toSamplePost = none → column q.toSamplePost = none

/-! ### Tables up to timestamps -/

/-- A run without its timestamps. -/
def RunRow.untimed (r : RunRow) : RunRow := { r with startedAt := "", completedAt := none }

@[simp] theorem RunRow.id_untimed (r : RunRow) : r.untimed.id = r.id := rfl

/-- Two stores hold the same rows up to timestamps. -/
def SameTables (s s' : Store) : Prop :=
  (s.runs.rows.map RunRow.untimed).Perm (s'.runs.rows.map RunRow.untimed) ∧
    (s.measurements.rows.map MeasurementRow.untimed).Perm
      (s'.measurements.rows.map MeasurementRow.untimed)

instance (s s' : Store) : Decidable (SameTables s s') :=
  inferInstanceAs (Decidable (_ ∧ _))

theorem sameTables_iff {s s' : Store} :
    SameTables s s' ↔
      (∀ k, (s.runs.get? k).map RunRow.untimed = (s'.runs.get? k).map RunRow.untimed) ∧
      ∀ k, (s.measurements.get? k).map MeasurementRow.untimed =
        (s'.measurements.get? k).map MeasurementRow.untimed :=
  and_congr (Table.perm_iff_get?_eq fun _ _ h => by simpa using congrArg RunRow.id h)
    (Table.perm_iff_get?_eq fun _ _ h => by simpa using congrArg MeasurementRow.sampleId h)

/-! ### Runs -/

/-- The row of a run, up to timestamps, read off the operations: none unless one
of them names it, and otherwise that of the last run post, or the defaults. -/
def foldRun (runId : String) (ops : List Op) : Option RunRow :=
  if ∃ op ∈ ops, op.runId? = some runId then
    some ((runPosts runId ops).getLast?.elim (ensureRow runId "") (·.row ""))
  else none

/-- The run rows track the operations executed. -/
def RunsTrack (ops : List Op) (t : Table RunRow.id) : Prop :=
  ∀ k, (t.get? k).map RunRow.untimed = foldRun k ops

section Runs

variable {t₁ t₂ : Timestamp} {s s' : Store} {op : Op} {ops : List Op}

/-- An operation that names a run without creating it inserts the defaults or
changes nothing but timestamps. -/
theorem foldRun_append_of_names {k : String} (hrun : op.runId? = some k)
    (hpost : op.runPost? = none) :
    foldRun k (ops ++ [op]) = some ((foldRun k ops).getD (ensureRow k "")) := by
  have hposts : runPosts k (ops ++ [op]) = runPosts k ops := by
    simp [runPosts, List.filterMap_append, hpost]
  rw [foldRun, if_pos ⟨op, by simp, hrun⟩, hposts]
  unfold foldRun
  split
  · rfl
  next hnone =>
    -- a run post would have named the run
    have hempty : runPosts k ops = [] := by
      refine List.filter_eq_nil_iff.mpr fun p hp hk => hnone ?_
      obtain ⟨op', hop', hp'⟩ := List.mem_filterMap.mp hp
      refine ⟨op', hop', ?_⟩
      rw [Op.runPost?_eq_some_iff.mp hp', RunPost.runId?_createRun]
      simpa using hk
    rw [hempty]
    rfl

/-- An operation leaves the runs it does not name as they are. -/
theorem foldRun_append_of_ne {k : String} (hrun : op.runId? ≠ some k) :
    foldRun k (ops ++ [op]) = foldRun k ops := by
  have hposts : runPosts k (ops ++ [op]) = runPosts k ops := by
    cases hp : op.runPost? with
    | none => simp [runPosts, List.filterMap_append, hp]
    | some p =>
      rw [Op.runPost?_eq_some_iff.mp hp, RunPost.runId?_createRun, ne_eq, Option.some.injEq]
        at hrun
      simp [runPosts, List.filterMap_append, hp, hrun]
  simp [foldRun, hposts, hrun, or_and_right, exists_or]

/-- **The step**: an operation that returns brings the runs up to date. -/
theorem RunsTrack.effect (heff : Effect t₁ t₂ s s' op) (hs : RunsTrack ops s.runs) :
    RunsTrack (ops ++ [op]) s'.runs := by
  intro k
  have hk := hs k
  cases heff with
  | createRun p hp hruns hmeas =>
    rw [hruns, Table.get?_upsert, RunPost.id_row]
    by_cases hid : k = p.runId
    · subst hid
      rw [if_pos rfl, foldRun, if_pos ⟨.createRun p.dump, by simp, rfl⟩]
      simp only [runPosts, List.filterMap_append, List.filter_append]
      cases hget : s.runs.get? p.runId with
      | none => simp [RunRow.untimed, RunPost.row]
      | some r =>
        have hr : r.id = p.runId := (Table.get?_eq_some_iff.mp hget).2
        simp [RunRow.untimed, RunRow.update, RunPost.row, hr]
    · rw [if_neg hid, hk, foldRun_append_of_ne]
      simpa using Ne.symm hid
  | completeRun runId hruns hmeas =>
    rw [hruns, Table.get?_modify, Table.get?_insertOrIgnore, Table.get?_insertOrIgnore,
      id_ensureRow]
    by_cases hid : k = runId
    · subst hid
      rw [if_pos rfl, if_pos rfl, foldRun_append_of_names rfl rfl, ← hk]
      cases s.runs.get? k <;> rfl
    · rw [if_neg hid, if_neg hid, hk, foldRun_append_of_ne]
      simpa [Op.runId?] using Ne.symm hid
  | record p hp hruns hmeas =>
    rw [hruns, Table.get?_insertOrIgnore, id_ensureRow]
    by_cases hid : k = p.sample.runId
    · subst hid
      rw [if_pos rfl, foldRun_append_of_names p.runId?_op p.runPost?_op, ← hk]
      cases s.runs.get? p.sample.runId <;> rfl
    · rw [if_neg hid, hk, foldRun_append_of_ne]
      simpa using Ne.symm hid

end Runs

/-! ### Samples with one post from each side -/

/-- What the two posts of a sample leave behind, in either order: the client's
columns, and the server's where the client's are null. -/
def mergedRow (sampleId : String) (p? : Option ServerPost) (q? : Option ClientPost) :
    Option MeasurementRow :=
  ((p?.map (·.toSamplePost)).or (q?.map (·.toSamplePost))).map fun first =>
    { sampleId
      runId := first.runId
      mode := first.mode
      expectedGroup := first.expectedGroup
      negotiatedGroup := (q?.bind (·.negotiatedGroup)).or (p?.bind (·.negotiatedGroup))
      tlsVersion := (q?.bind (·.tlsVersion)).or (p?.bind (·.tlsVersion))
      cipher := (q?.bind (·.cipher)).or (p?.bind (·.cipher))
      serverHandshakeUs := p?.map (·.serverHandshakeUs)
      clientTcpUs := q?.bind (·.clientTcpUs)
      clientHandshakeUs := q?.bind (·.clientHandshakeUs)
      clientTtfbUs := q?.bind (·.clientTtfbUs)
      clientTotalUs := q?.bind (·.clientTotalUs)
      bytesSent := q?.bind (·.bytesSent)
      bytesReceived := q?.bind (·.bytesReceived)
      success := if q?.elim true (·.succeeded) then 1 else 0
      error := q?.bind (·.error)
      serverRecordedAt := none
      clientRecordedAt := none
      createdAt := "" }

section Samples

variable {s : String} {h h' : List Post} {ops : List Op}

/-- Every post is from one of the two sides. -/
theorem length_sides (h : List Post) :
    (h.filterMap Post.server?).length + (h.filterMap Post.client?).length = h.length := by
  induction h with
  | nil => rfl
  | cons p h ih =>
    rw [List.length_cons, ← ih]
    cases p <;> simp only [List.filterMap_cons, Post.server?, Post.client?, List.length_cons] <;>
      omega

/-- The histories with at most one post from each side. -/
theorem history_cases (hs : (h.filterMap Post.server?).length ≤ 1)
    (hc : (h.filterMap Post.client?).length ≤ 1) :
    h = [] ∨ (∃ p, h = [.server p]) ∨ (∃ q, h = [.client q]) ∨
      ∃ p q, h = [.server p, .client q] ∨ h = [.client q, .server p] := by
  rcases h with _ | ⟨a, _ | ⟨b, _ | ⟨c, rest⟩⟩⟩
  · exact Or.inl rfl
  · cases a with
    | server p => exact Or.inr (Or.inl ⟨p, rfl⟩)
    | client q => exact Or.inr (Or.inr (Or.inl ⟨q, rfl⟩))
  · cases a with
    | server p =>
      cases b with
      | server p' => simp [Post.server?] at hs
      | client q => exact Or.inr (Or.inr (Or.inr ⟨p, q, Or.inl rfl⟩))
    | client q =>
      cases b with
      | server p => exact Or.inr (Or.inr (Or.inr ⟨p, q, Or.inr rfl⟩))
      | client q' => simp [Post.client?] at hc
  · have hlen := length_sides (a :: b :: c :: rest)
    simp only [List.length_cons] at hlen
    omega

/-- A shared column of the server's post, against that of the client's: a value
that comes second is the same value, or there is none to keep. -/
theorem or_eq_of_agree {a b : Option String} (hagree : a = b ∨ a = none ∨ b = none)
    (hfill : a = none → b = none) : b.or a = a := by
  rcases hagree with rfl | rfl | rfl
  · cases a <;> rfl
  · rw [hfill rfl]
    rfl
  · rfl

/-- **With at most one post from each side the order of the history does not
show**, if the two agree and the server's fills what the client's does. -/
theorem foldRow_eq_mergedRow (hs : (h.filterMap Post.server?).length ≤ 1)
    (hc : (h.filterMap Post.client?).length ≤ 1)
    (hagree : ∀ p q, Post.server p ∈ h → Post.client q ∈ h →
      Agree p.toSamplePost q.toSamplePost ∧ ∀ column ∈ sharedColumns,
        column p.toSamplePost = none → column q.toSamplePost = none) :
    foldRow s h = mergedRow s (lastServer h) (lastClient h) := by
  rcases history_cases hs hc with rfl | ⟨p, rfl⟩ | ⟨q, rfl⟩ | ⟨p, q, rfl | rfl⟩
  · rfl
  · rfl
  · simp [foldRow, mergedRow, latest, lastServer, lastClient, Post.server?, Post.client?,
      Post.sample]
  · have hserver : lastServer [.server p, .client q] = some p := rfl
    have hclient : lastClient [.server p, .client q] = some q := rfl
    simp [foldRow, mergedRow, latest, hserver, hclient, Post.sample]
  · have hserver : lastServer [.client q, .server p] = some p := rfl
    have hclient : lastClient [.client q, .server p] = some q := rfl
    obtain ⟨⟨hrun, hmode, hgroup, hshared⟩, hfill⟩ := hagree p q (by simp) (by simp)
    have hor : ∀ column ∈ sharedColumns,
        (column q.toSamplePost).or (column p.toSamplePost) = column p.toSamplePost :=
      fun column hcol => or_eq_of_agree (hshared column hcol) (hfill column hcol)
    simp only [sharedColumns, List.forall_mem_cons, List.not_mem_nil, false_implies,
      implies_true, and_true] at hor
    simp [foldRow, mergedRow, latest, hserver, hclient, Post.sample, hrun, hmode, hgroup, hor]

/-- Short lists have one order. -/
theorem eq_of_perm_of_length_le_one {α : Type} {l l' : List α} (hperm : l.Perm l')
    (hl : l.length ≤ 1) : l = l' := by
  rcases l with _ | ⟨a, _ | ⟨b, l⟩⟩
  · exact (List.nil_perm.mp hperm).symm
  · exact List.singleton_perm.mp hperm
  · simp at hl

theorem foldRow_perm (hperm : h.Perm h') (hs : (h.filterMap Post.server?).length ≤ 1)
    (hc : (h.filterMap Post.client?).length ≤ 1)
    (hagree : ∀ p q, Post.server p ∈ h → Post.client q ∈ h →
      Agree p.toSamplePost q.toSamplePost ∧ ∀ column ∈ sharedColumns,
        column p.toSamplePost = none → column q.toSamplePost = none) :
    foldRow s h = foldRow s h' := by
  have hservers := hperm.filterMap Post.server?
  have hclients := hperm.filterMap Post.client?
  rw [foldRow_eq_mergedRow hs hc hagree,
    foldRow_eq_mergedRow (hservers.length_eq ▸ hs) (hclients.length_eq ▸ hc) fun p q hp hq =>
      hagree p q (hperm.mem_iff.mpr hp) (hperm.mem_iff.mpr hq),
    lastServer, lastServer, lastClient, lastClient, eq_of_perm_of_length_le_one hservers hs,
    eq_of_perm_of_length_le_one hclients hc]

end Samples

/-! ### Runs of accepted operations -/

section Run

variable {clock : ℕ → Timestamp} {w : World} {h : List Post} {ops : List Op}

/-- Every accepted operation leaves its post in the history. -/
theorem accepted_storable (hops : ∀ op ∈ ops, op.Storable) :
    accepted clock w (ops.map Op.call) = posts ops := by
  induction ops generalizing w with
  | nil => rfl
  | cons op ops ih =>
    have hok : (exec clock w op.call).1 = .ok () := exec_eq_ok_iff.mpr (hops op (by simp))
    rw [List.map_cons, accepted, ih fun op' hop' => hops op' (List.mem_cons_of_mem _ hop')]
    cases hp : op.post? <;> simp [acceptedPost, hok, posts, hp]

/-- **The run**, for run rows. -/
theorem runsTrack_runFrom {done : List Op} (hops : ∀ op ∈ ops, op.Storable)
    (hw : RunsTrack done w.store.runs) :
    RunsTrack (done ++ ops) ((repository clock).runFrom w (ops.map Op.call)).store.runs := by
  induction ops generalizing w done with
  | nil => simpa using hw
  | cons op ops ih =>
    have hok : (exec clock w op.call).1 = .ok () := exec_eq_ok_iff.mpr (hops op (by simp))
    obtain ⟨t₁, t₂, heff⟩ := exec_effect hok
    have := ih (fun op' hop' => hops op' (List.mem_cons_of_mem _ hop')) (hw.effect heff)
    rwa [List.append_assoc, List.singleton_append] at this

theorem runsTrack_run (clock : ℕ → Timestamp) (hops : ∀ op ∈ ops, op.Storable) :
    RunsTrack ops ((repository clock).run (ops.map Op.call)).store.runs := by
  have hinit : RunsTrack [] (repository clock).init.store.runs := fun _ => rfl
  exact runsTrack_runFrom hops hinit

/-- **Both tables after accepted operations**, up to timestamps. -/
theorem sameTables_run_iff {clock' : ℕ → Timestamp} {ops' : List Op}
    (hops : ∀ op ∈ ops, op.Storable) (hops' : ∀ op ∈ ops', op.Storable) :
    SameTables ((repository clock).run (ops.map Op.call)).store
        ((repository clock').run (ops'.map Op.call)).store ↔
      (∀ k, foldRun k ops = foldRun k ops') ∧
        ∀ s, foldRow s (named s (posts ops)) = foldRow s (named s (posts ops')) := by
  have hmeas {clock : ℕ → Timestamp} {ops : List Op} (hops : ∀ op ∈ ops, op.Storable) :
      Tracks (posts ops) ((repository clock).run (ops.map Op.call)).store.measurements := by
    rw [← accepted_storable hops]
    exact tracks_run clock (ops.map Op.call)
  rw [sameTables_iff]
  exact and_congr (forall_congr' fun k => by
    rw [runsTrack_run clock hops k, runsTrack_run clock' hops' k])
    (forall_congr' fun s => by rw [hmeas hops s, hmeas hops' s])

end Run

/-! ### When the order is irrelevant -/

section Irrelevant

variable {ops ops' : List Op}

theorem foldRun_perm {k : String} (hperm : ops.Perm ops') (hruns : (runPosts k ops).length ≤ 1) :
    foldRun k ops = foldRun k ops' := by
  have hposts : runPosts k ops = runPosts k ops' :=
    eq_of_perm_of_length_le_one ((hperm.filterMap _).filter _) hruns
  have hnames : (∃ op ∈ ops, op.runId? = some k) ↔ ∃ op ∈ ops', op.runId? = some k := by
    simp only [hperm.mem_iff]
  simp only [foldRun, hposts, hnames]

/-- Equal folds have equal shared columns. -/
theorem latest_eq_of_foldRow_eq {s : String} {h h' : List Post} (hne : h ≠ [])
    (heq : foldRow s h = foldRow s h') : ∀ column ∈ sharedColumns,
      latest column h = latest column h' := by
  obtain ⟨first, hfirst⟩ := Option.isSome_iff_exists.mp (List.isSome_head?.mpr hne)
  cases hfirst' : h'.head? with
  | none => simp [foldRow, hfirst, hfirst'] at heq
  | some first' =>
    simp only [foldRow, hfirst, hfirst', Option.map_some, Option.some.injEq,
      MeasurementRow.mk.injEq] at heq
    obtain ⟨-, -, -, -, hnegotiated, hversion, hcipher, -⟩ := heq
    simp [sharedColumns, hnegotiated, hversion, hcipher]

/-- Two of the operations can be put last. -/
theorem exists_perm_last {a b : Op} (ha : a ∈ ops) (hb : b ∈ ops) (hne : b ≠ a) :
    ∃ rest, (rest ++ [a, b]).Perm ops := by
  have hb' : b ∈ ops.erase a := (List.mem_erase_of_ne hne).mpr hb
  have hfront : (a :: b :: (ops.erase a).erase b).Perm ops :=
    ((List.perm_cons_erase hb').symm.cons a).trans (List.perm_cons_erase ha).symm
  exact ⟨_, List.perm_append_comm.trans hfront⟩

/-- A post of the operations is recorded by one of them. -/
theorem mem_of_mem_posts {p : Post} (hp : p ∈ posts ops) : p.op ∈ ops := by
  obtain ⟨op, hop, hpost⟩ := List.mem_filterMap.mp hp
  rwa [← Op.post?_eq_some_iff.mp hpost]

/-- Where every server post fills what its client post fills, every order gives
the same folds as the one given. -/
theorem Mergeable.fold_perm {ops' : List Op} (hmerge : Mergeable ops) (hfill : ServersFill ops)
    (hperm : ops'.Perm ops) :
    (∀ k, foldRun k ops = foldRun k ops') ∧
      ∀ s, foldRow s (named s (posts ops)) = foldRow s (named s (posts ops')) := by
  refine ⟨fun k => foldRun_perm hperm.symm (hmerge.runs k), fun s => ?_⟩
  refine foldRow_perm ((hperm.symm.filterMap _).filter _) (hmerge.servers s) (hmerge.clients s)
    fun p q hp hq => ?_
  obtain ⟨hp, hps⟩ := List.mem_filter.mp hp
  obtain ⟨hq, hqs⟩ := List.mem_filter.mp hq
  have hid : p.sampleId = q.sampleId := (of_decide_eq_true hps).trans (of_decide_eq_true hqs).symm
  exact ⟨hmerge.agree p q hp hq hid, hfill p q hp hq hid⟩

/-- **When arrival order is irrelevant.** Operations that do not contradict each
other leave the same tables in every order, up to timestamps, exactly when no
server post is null in a shared column that the client post of its sample
fills. -/
theorem order_irrelevant_iff (ops : List Op) (hmerge : Mergeable ops) :
    (∀ (ops₁ ops₂ : List Op) (clock₁ clock₂ : ℕ → Timestamp), ops₁.Perm ops → ops₂.Perm ops →
      SameTables ((repository clock₁).run (ops₁.map Op.call)).store
        ((repository clock₂).run (ops₂.map Op.call)).store) ↔ ServersFill ops := by
  constructor
  · -- the two posts of a sample, put last in both orders
    intro hsame p q hp hq hid column hcol hnull
    obtain ⟨rest, hrest⟩ := exists_perm_last (mem_of_mem_posts hp) (mem_of_mem_posts hq)
      (by simp [Post.op])
    have hrest' : (rest ++ [(Post.client q).op, (Post.server p).op]).Perm ops :=
      ((List.Perm.swap _ _ []).append_left rest).trans hrest
    have hsame := hsame _ _ (fun _ => "") (fun _ => "") hrest hrest'
    rw [sameTables_run_iff (fun op hop => hmerge.storable op (hrest.subset hop))
      (fun op hop => hmerge.storable op (hrest'.subset hop))] at hsame
    have hrow := hsame.2 q.sampleId
    have hlast : named q.sampleId (posts (rest ++ [(Post.server p).op, (Post.client q).op])) =
        named q.sampleId (posts rest) ++ [.server p] ++ [.client q] := by
      simp [posts, named, Post.sample, hid]
    have hlast' : named q.sampleId (posts (rest ++ [(Post.client q).op, (Post.server p).op])) =
        named q.sampleId (posts rest) ++ [.client q] ++ [.server p] := by
      simp [posts, named, Post.sample, hid]
    rw [hlast, hlast'] at hrow
    have hcolumn := latest_eq_of_foldRow_eq (by simp) hrow column hcol
    rw [latest_client, latest_server, latest_server, hnull] at hcolumn
    simpa using hcolumn
  · intro hfill ops₁ ops₂ clock₁ clock₂ h₁ h₂
    rw [sameTables_run_iff (fun op hop => hmerge.storable op (h₁.subset hop))
      (fun op hop => hmerge.storable op (h₂.subset hop))]
    -- each order is compared with the one given
    obtain ⟨hruns₁, hrows₁⟩ := hmerge.fold_perm hfill h₁
    obtain ⟨hruns₂, hrows₂⟩ := hmerge.fold_perm hfill h₂
    exact ⟨fun k => (hruns₁ k).symm.trans (hruns₂ k), fun s => (hrows₁ s).symm.trans (hrows₂ s)⟩

/-- The two posts of one sample; the server names the cipher or not. -/
def probePosts (cipher : Option String) : List Post :=
  [.server
    { sampleId := "run-1-hybrid-000001"
      runId := "run-1"
      mode := "hybrid"
      expectedGroup := "X25519MLKEM768"
      negotiatedGroup := some "X25519MLKEM768"
      tlsVersion := some "TLSv1.3"
      cipher
      serverHandshakeUs := 1500 },
    .client
    { sampleId := "run-1-hybrid-000001"
      runId := "run-1"
      mode := "hybrid"
      expectedGroup := "X25519MLKEM768"
      negotiatedGroup := some "X25519MLKEM768"
      tlsVersion := some "TLSv1.3"
      cipher := some "TLS_AES_256_GCM_SHA384"
      clientTcpUs := some 210
      clientHandshakeUs := some 2100
      clientTtfbUs := some 2600
      clientTotalUs := some 2700
      bytesSent := some 2280
      bytesReceived := some 3420
      success := some true
      error := none }]

theorem mergeable_probePosts {cipher : Option String}
    (hcipher : cipher = none ∨ cipher = some "TLS_AES_256_GCM_SHA384") :
    Mergeable ((probePosts cipher).map Post.op) := by
  have hposts : posts ((probePosts cipher).map Post.op) = probePosts cipher := by
    simp [posts, probePosts]
  constructor
  case storable =>
    intro op hop
    obtain ⟨p, hp, rfl⟩ := List.mem_map.mp hop
    rw [Post.storable_op]
    rcases hcipher with rfl | rfl <;> revert p <;> decide
  case runs => simp [runPosts, probePosts]
  case servers =>
    intro s
    rw [hposts]
    by_cases hs : "run-1-hybrid-000001" = s <;>
      simp [named, probePosts, Post.sample, Post.server?, hs]
  case clients =>
    intro s
    rw [hposts]
    by_cases hs : "run-1-hybrid-000001" = s <;>
      simp [named, probePosts, Post.sample, Post.client?, List.filterMap_cons, hs]
  case agree =>
    rw [hposts]
    intro p q hp hq _
    simp only [probePosts, List.mem_cons, Post.server.injEq, Post.client.injEq, reduceCtorEq,
      List.not_mem_nil, or_false, false_or] at hp hq
    subst hp hq
    refine ⟨rfl, rfl, rfl, ?_⟩
    rcases hcipher with rfl | rfl <;> simp [sharedColumns]

/-- Where both sides name the cipher, the two posts of a sample can come in
either order. -/
theorem order_irrelevant_probePosts :
    SameTables
      ((repository fun _ => "").run
        (((probePosts (some "TLS_AES_256_GCM_SHA384")).map Post.op).map Op.call)).store
      ((repository fun _ => "").run
        (((probePosts (some "TLS_AES_256_GCM_SHA384")).map Post.op).reverse.map
          Op.call)).store := by
  refine (order_irrelevant_iff _ (mergeable_probePosts (Or.inr rfl))).mpr ?_ _ _ _ _
    (List.Perm.refl _) (List.reverse_perm _)
  intro p q hp _ _ column hcol hnull
  simp only [posts, probePosts, List.map_cons, List.map_nil, List.filterMap_cons,
    List.filterMap_nil, Post.post?_op, List.mem_cons, Post.server.injEq, reduceCtorEq,
    List.not_mem_nil, or_false] at hp
  subst hp
  simp only [sharedColumns, List.mem_cons, List.not_mem_nil, or_false] at hcol
  rcases hcol with rfl | rfl | rfl <;> simp at hnull

/-- **Arrival order shows**: a server post without the cipher, before and after
the client post that has it. -/
theorem order_shows_probePosts :
    Mergeable ((probePosts none).map Post.op) ∧
      ¬ SameTables
        ((repository fun _ => "").run (((probePosts none).map Post.op).map Op.call)).store
        ((repository fun _ => "").run
          (((probePosts none).map Post.op).reverse.map Op.call)).store := by
  refine ⟨mergeable_probePosts (Or.inl rfl), ?_⟩
  decide

end Irrelevant

end HybridTls
