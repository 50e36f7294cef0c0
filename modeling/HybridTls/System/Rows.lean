import HybridTls.Store.Listing
import HybridTls.System.Runs

/-!
# The measurements in the lab

Every row of the measurements is of a probe that has been made to be recorded, and of one
only; it holds what the client has measured of it, if the dashboard has accepted its report,
and what the server has measured of the very same connection, if it has accepted that
(`HybridTls.lab_rows`). Nothing else gets into a row, whatever the order of the messages and
whichever of them are lost: what two parties say of two connections is never put together.

So the counts of a run are counts of the probes that its client has made
(`HybridTls.lab_counts`).
-/

namespace HybridTls

open Keyed Transition

/-! ### The two halves of a row -/

section Halves

variable {ι : Type} (L : Setup ι) (s : Lab ι) (x : Probe ι)

/-- What the client has measured of a probe, if it has been accepted. -/
def Lab.clientHalf : Option ClientPost :=
  (x.result.posted.map ClientValues.post).filter fun p => Post.client p ∈ s.history

/-- What the server has measured of it, if it has been accepted. -/
def Lab.serverHalf : Option ServerPost :=
  (x.toPost.map fun y => y.post (L.servers x.mode)).filter fun p => Post.server p ∈ s.history

/-- **A row is put together from two halves**, at least one of which is there. -/
structure MeasurementRow.Merges (m : MeasurementRow) (c : Option ClientPost)
    (y : Option ServerPost) : Prop where
  some : c.isSome ∨ y.isSome
  server : m.serverHandshakeUs = y.map (·.serverHandshakeUs)
  times : m.clientTcpUs = c.bind (·.clientTcpUs) ∧
    m.clientHandshakeUs = c.bind (·.clientHandshakeUs) ∧
    m.clientTtfbUs = c.bind (·.clientTtfbUs) ∧ m.clientTotalUs = c.bind (·.clientTotalUs)
  bytes : m.bytesSent = c.bind (·.bytesSent) ∧ m.bytesReceived = c.bind (·.bytesReceived)
  /-- A sample that only the server has reported counts as a success. -/
  success : m.success = if c.elim true (·.succeeded) then 1 else 0
  error : m.error = c.bind (·.error)
  /-- What has been negotiated is what one of the two has said last. -/
  names : (∃ p ∈ c, m.negotiatedGroup = p.negotiatedGroup ∧ m.tlsVersion = p.tlsVersion ∧
      m.cipher = p.cipher) ∨
    ∃ p ∈ y, m.negotiatedGroup = p.negotiatedGroup ∧ m.tlsVersion = p.tlsVersion ∧
      m.cipher = p.cipher

end Halves

section Fold

variable {h : List Post} {c : ClientPost} {y : ServerPost} {k : String} {m : MeasurementRow}

/-- The last element of a list that has one kind of element, or none. -/
theorem getLast?_of_mem_iff {α : Type} {l : List α} {o : Option α} (h : ∀ a, a ∈ l ↔ a ∈ o) :
    l.getLast? = o := by
  cases hl : l.getLast? with
  | none =>
    obtain rfl := List.getLast?_eq_none_iff.mp hl
    cases o with
    | none => rfl
    | some a => exact absurd ((h a).mpr rfl) List.not_mem_nil
  | some a => exact ((h a).mp (List.mem_of_getLast? hl)).symm

theorem mem_clients : c ∈ h.filterMap Post.client? ↔ .client c ∈ h := by
  rw [List.mem_filterMap]
  constructor
  · rintro ⟨p, hp, hc⟩
    cases p with
    | server y => cases hc
    | client c' => cases hc; exact hp
  · exact fun hc => ⟨_, hc, rfl⟩

theorem mem_servers : y ∈ h.filterMap Post.server? ↔ .server y ∈ h := by
  rw [List.mem_filterMap]
  constructor
  · rintro ⟨p, hp, hy⟩
    cases p with
    | server y' => cases hy; exact hp
    | client c => cases hy
  · exact fun hy => ⟨_, hy, rfl⟩

/-- A client says what has been negotiated. -/
def ClientPost.Names (c : ClientPost) : Prop :=
  c.negotiatedGroup.isSome ∧ c.tlsVersion.isSome ∧ c.cipher.isSome

/-- The names of a fold are those of its last post, if every client names them. -/
theorem latest_getLast (hnames : ∀ c, .client c ∈ h → c.Names) {p : Post}
    (hp : h.getLast? = some p) :
    latest (·.negotiatedGroup) h = p.sample.negotiatedGroup ∧
      latest (·.tlsVersion) h = p.sample.tlsVersion ∧ latest (·.cipher) h = p.sample.cipher := by
  obtain ⟨h', rfl⟩ := List.getLast?_eq_some_iff.mp hp
  cases p with
  | server y => simp only [latest_server, Post.sample, and_self]
  | client c =>
    obtain ⟨hgroup, hversion, hcipher⟩ := hnames c (by simp)
    obtain ⟨group, hgroup⟩ := Option.isSome_iff_exists.mp hgroup
    obtain ⟨version, hversion⟩ := Option.isSome_iff_exists.mp hversion
    obtain ⟨cipher, hcipher⟩ := Option.isSome_iff_exists.mp hcipher
    simp only [latest_client, Post.sample, hgroup, hversion, hcipher, Option.some_or, and_self]

/-- **The fold of the posts of one probe** is put together from its halves. -/
theorem merges_of_foldRow {c : Option ClientPost} {y : Option ServerPost}
    (hm : foldRow k h = some m.untimed) (hclient : ∀ p, .client p ∈ h ↔ p ∈ c)
    (hserver : ∀ p, .server p ∈ h ↔ p ∈ y) (hnames : ∀ p ∈ c, p.Names) : m.Merges c y := by
  have hlastClient : lastClient h = c :=
    getLast?_of_mem_iff fun p => mem_clients.trans (hclient p)
  have hlastServer : lastServer h = y :=
    getLast?_of_mem_iff fun p => mem_servers.trans (hserver p)
  obtain ⟨first, hfirst, hrow⟩ := Option.map_eq_some_iff.mp hm
  have hne : h ≠ [] := by
    rintro rfl
    cases hfirst
  obtain ⟨p, hp⟩ : ∃ p, h.getLast? = some p := ⟨_, List.getLast?_eq_some_getLast hne⟩
  have hlatest := latest_getLast (fun p hp => hnames p ((hclient p).mp hp)) hp
  have hmem : p ∈ h := List.mem_of_getLast? hp
  simp only [hlastClient, hlastServer, hlatest, MeasurementRow.untimed,
    MeasurementRow.mk.injEq] at hrow
  obtain ⟨-, -, -, -, hgroup, hversion, hcipher, hus, htcp, hhandshake, httfb, htotal, hsent,
    hreceived, hsuccess, herror, -⟩ := hrow
  refine ⟨?_, hus.symm, ⟨htcp.symm, hhandshake.symm, httfb.symm, htotal.symm⟩,
    ⟨hsent.symm, hreceived.symm⟩, hsuccess.symm, herror.symm, ?_⟩
  · cases p with
    | client p => exact Or.inl (Option.isSome_iff_exists.mpr ⟨p, (hclient p).mp hmem⟩)
    | server p => exact Or.inr (Option.isSome_iff_exists.mpr ⟨p, (hserver p).mp hmem⟩)
  · cases p with
    | client p => exact Or.inl ⟨p, (hclient p).mp hmem, hgroup.symm, hversion.symm, hcipher.symm⟩
    | server p => exact Or.inr ⟨p, (hserver p).mp hmem, hgroup.symm, hversion.symm, hcipher.symm⟩

end Fold

/-! ### The rows -/

section Rows

variable {ι : Type} [DecidableEq ι] {L : Setup ι} {s : Lab ι} {x x' : Probe ι}

/-- **One probe to a sample**: what has been logged to be recorded is told apart by the
identifiers of the samples. -/
theorem Lab.Inv.eq_of_sampleId (hL : L.Sound) (hs : s.Inv L) (hx : x ∈ s.log) (hx' : x' ∈ s.log)
    (hrecord : x.record = true) (hrecord' : x'.record = true)
    (h : x.sampleId L = x'.sampleId L) : x = x' := by
  obtain ⟨hrun, hmode, hsequence⟩ := sampleIdText_inj h
  have hclient := hL.distinct _ _ hrun
  have hturn : x.toTurn = x'.toTurn := by
    obtain ⟨⟨⟨m, n, r⟩, result⟩, i, served⟩ := x
    obtain ⟨⟨⟨m', n', r'⟩, result'⟩, i', served'⟩ := x'
    simp only at hmode hsequence hrecord hrecord'
    rw [hmode, hsequence, hrecord, hrecord']
  -- no turn is made twice
  have hnodup := ((hs.stages x.client).isPrefix.sublist.nodup (nodup_schedule _))
  refine List.inj_on_of_nodup_map hnodup ?_ ?_ hturn
  · exact List.mem_filter.mpr ⟨hx, by simp⟩
  · exact List.mem_filter.mpr ⟨hx', by simp [hclient]⟩

/-- What is in the history under the identifier of a probe is posted of this probe. -/
theorem Lab.Inv.posts_of_named (hL : L.Sound) (hs : s.Inv L) (hx : x ∈ s.log)
    (hrecord : x.record = true) {p : Post} (hp : p ∈ named (text (x.sampleId L)) s.history) :
    x.Posts L p := by
  obtain ⟨hp, hid⟩ := List.mem_filter.mp hp
  obtain ⟨x', hx', hposts⟩ := hs.history p hp
  have hsame : x'.record = true ∧ p.sample.sampleId = text (x'.sampleId L) := by
    cases hposts with
    | client v hv =>
      obtain ⟨hrecord', -, hident, -⟩ := (hs.measured x' hx').posted v hv
      exact ⟨hrecord', hident.sampleId⟩
    | server y hy =>
      obtain ⟨hrecord', -, hident⟩ := (hs.measured x' hx').served y hy
      exact ⟨hrecord', hident.sampleId⟩
  have hids : x'.sampleId L = x.sampleId L :=
    text_injective (hsame.2.symm.trans (by simpa using hid))
  rwa [hs.eq_of_sampleId hL hx' hx hsame.1 hrecord hids] at hposts

/-- What is in the history of a probe are its halves. -/
theorem Lab.Inv.named_iff (hL : L.Sound) (hs : s.Inv L) (hx : x ∈ s.log)
    (hrecord : x.record = true) :
    (∀ p, .client p ∈ named (text (x.sampleId L)) s.history ↔ p ∈ s.clientHalf x) ∧
      ∀ p, .server p ∈ named (text (x.sampleId L)) s.history ↔ p ∈ s.serverHalf L x := by
  constructor
  · intro p
    constructor
    · intro hp
      have hposts := hs.posts_of_named hL hx hrecord hp
      cases hposts with
      | client v hv =>
        rw [Lab.clientHalf, Option.mem_def.mp hv]
        exact Option.filter_eq_some_iff.mpr ⟨rfl, by simpa using List.mem_of_mem_filter hp⟩
    · intro hp
      obtain ⟨hhalf, hmem⟩ := Option.filter_eq_some_iff.mp hp
      obtain ⟨v, hv, rfl⟩ := Option.map_eq_some_iff.mp hhalf
      obtain ⟨-, -, hident, -⟩ := (hs.measured x hx).posted v hv
      exact List.mem_filter.mpr ⟨by simpa using hmem, decide_eq_true hident.sampleId⟩
  · intro p
    constructor
    · intro hp
      have hposts := hs.posts_of_named hL hx hrecord hp
      cases hposts with
      | server y hy =>
        rw [Lab.serverHalf, Option.mem_def.mp hy]
        exact Option.filter_eq_some_iff.mpr ⟨rfl, by simpa using List.mem_of_mem_filter hp⟩
    · intro hp
      obtain ⟨hhalf, hmem⟩ := Option.filter_eq_some_iff.mp hp
      obtain ⟨y, hy, rfl⟩ := Option.map_eq_some_iff.mp hhalf
      obtain ⟨-, -, hident⟩ := (hs.measured x hx).served y hy
      exact List.mem_filter.mpr ⟨by simpa using hmem, decide_eq_true hident.sampleId⟩

/-- **What there is of a probe in the table**: nothing, if neither half has been accepted, and
otherwise the row that is put together from them, under the probe's run and mode. -/
def Lab.RowFits (L : Setup ι) (s : Lab ι) (x : Probe ι) : Prop :=
  match s.world.store.measurements.get? (text (x.sampleId L)) with
  | none => s.clientHalf x = none ∧ s.serverHalf L x = none
  | some m => m.Merges (s.clientHalf x) (s.serverHalf L x) ∧
      m.runId = text (L.clients x.client).runId ∧ m.mode = x.mode.text ∧
      m.expectedGroup = text x.mode.group

omit [DecidableEq ι] in
theorem Probe.Posts.identifies {p : Post} (hs : x.Measured L) (hp : x.Posts L p) :
    x.Identifies L p.sample := by
  cases hp with
  | client v hv => exact (hs.posted v hv).2.2.1
  | server y hy => exact (hs.served y hy).2.2

theorem Lab.Inv.rowFits (hL : L.Sound) (hs : s.Inv L) (hx : x ∈ s.log)
    (hrecord : x.record = true) : s.RowFits L x := by
  have htracks := hs.tracks (text (x.sampleId L))
  obtain ⟨hclient, hserver⟩ := hs.named_iff hL hx hrecord
  unfold Lab.RowFits
  split
  next hget =>
    rw [hget] at htracks
    have hempty : named (text (x.sampleId L)) s.history = [] := by
      simpa [foldRow] using htracks.symm
    constructor
    · refine Option.eq_none_iff_forall_not_mem.mpr fun p hp => ?_
      have := (hclient p).mpr hp
      simp [hempty] at this
    · refine Option.eq_none_iff_forall_not_mem.mpr fun p hp => ?_
      have := (hserver p).mpr hp
      simp [hempty] at this
  next m hget =>
    rw [hget, Option.map_some] at htracks
    refine ⟨merges_of_foldRow htracks.symm hclient hserver fun p hp => ?_, ?_⟩
    · obtain ⟨hv, -⟩ := Option.filter_eq_some_iff.mp hp
      obtain ⟨v, -, rfl⟩ := Option.map_eq_some_iff.mp hv
      exact ⟨rfl, rfl, rfl⟩
    · obtain ⟨first, hfirst, hrow⟩ := Option.map_eq_some_iff.mp htracks.symm
      have hident := (hs.posts_of_named hL hx hrecord (List.mem_of_head? hfirst)).identifies
        (hs.measured x hx)
      simp only [MeasurementRow.untimed, MeasurementRow.mk.injEq] at hrow
      obtain ⟨-, hrun, hmode, hgroup, -⟩ := hrow
      exact ⟨hrun.symm.trans hident.runId, hmode.symm.trans hident.mode,
        hgroup.symm.trans hident.expectedGroup⟩

/-- **Every row is of a probe**, of a mode that the table knows. -/
theorem Lab.Inv.exists_probe (hs : s.Inv L) {m : MeasurementRow}
    (hm : m ∈ s.world.store.measurements.rows) :
    ∃ x ∈ s.log, x.record = true ∧ x.mode ≠ .hybridP256 ∧ m.sampleId = text (x.sampleId L) ∧
      m.runId = text (L.clients x.client).runId := by
  have htracks := hs.tracks m.sampleId
  rw [Table.get?_key hm, Option.map_some] at htracks
  obtain ⟨first, hfirst, hrow⟩ := Option.map_eq_some_iff.mp htracks.symm
  obtain ⟨hp, hid⟩ := List.mem_filter.mp (List.mem_of_head? hfirst)
  obtain ⟨x, hx, hposts⟩ := hs.history first hp
  have hident := hposts.identifies (hs.measured x hx)
  have hrecord : x.record = true := by
    cases hposts with
    | client v hv => exact ((hs.measured x hx).posted v hv).1
    | server y hy => exact ((hs.measured x hx).served y hy).1
  simp only [MeasurementRow.untimed, MeasurementRow.mk.injEq] at hrow
  obtain ⟨-, hrun, hmode, -⟩ := hrow
  have hid : first.sample.sampleId = m.sampleId := by simpa using hid
  refine ⟨x, hx, hrecord, fun hp256 => ?_, hid.symm.trans hident.sampleId,
    hrun.symm.trans hident.runId⟩
  have hchecked := s.world.store.checked m hm
  rw [← hmode, hident.mode, hp256] at hchecked
  revert hchecked
  decide

end Rows

/-! ### The counts -/

section Counts

variable {ι : Type} [DecidableEq ι] {L : Setup ι} {s : Lab ι} {x : Probe ι} {i : ι}

/-- A probe that has been made to be recorded, and has been reported by one of the two. -/
def Lab.Reported (L : Setup ι) (s : Lab ι) (x : Probe ι) : Bool :=
  x.record && ((s.clientHalf x).isSome || (s.serverHalf L x).isSome)

/-- The client has not reported that it has failed. -/
def Lab.Succeeds (s : Lab ι) (x : Probe ι) : Bool := (s.clientHalf x).elim true (·.succeeded)

omit [DecidableEq ι] in
/-- Where the rows are those of probes, and fit them, a row is put together from the halves of
one. -/
theorem exists_merges (hprobe : ∀ m ∈ s.world.store.measurements.rows, ∃ x ∈ s.log,
      x.record = true ∧ x.mode ≠ .hybridP256 ∧ m.sampleId = text (x.sampleId L))
    (hfits : ∀ x ∈ s.log, x.record = true → s.RowFits L x ∧
      ∀ x' ∈ s.log, x'.record = true → x'.sampleId L = x.sampleId L → x' = x)
    {m : MeasurementRow} (hm : m ∈ s.world.store.measurements.rows) :
    ∃ x ∈ s.log, m.Merges (s.clientHalf x) (s.serverHalf L x) := by
  obtain ⟨x, hx, hrecord, -, hid⟩ := hprobe m hm
  obtain ⟨hrow, -⟩ := hfits x hx hrecord
  unfold Lab.RowFits at hrow
  rw [← hid, Table.get?_key hm] at hrow
  exact ⟨x, hx, hrow.1⟩

omit [DecidableEq ι] in
theorem Lab.RowFits.isSome_get?_iff (h : s.RowFits L x) (hrecord : x.record = true) :
    (s.world.store.measurements.get? (text (x.sampleId L))).isSome ↔ s.Reported L x := by
  unfold Lab.RowFits at h
  rw [Lab.Reported, hrecord, Bool.true_and, Bool.or_eq_true]
  split at h
  next hget => simp [hget, h.1, h.2]
  next m hget => simp [hget, h.1.some]

/-- **The rows of a run are the probes of its client** that have been reported, also if only
rows and probes of one kind are counted. -/
theorem Lab.Inv.countP_ofRun (hL : L.Sound) (hs : s.Inv L) (P : MeasurementRow → Bool)
    (Q : Probe ι → Bool) (hPQ : ∀ x ∈ s.log, x.record = true → ∀ m,
      s.world.store.measurements.get? (text (x.sampleId L)) = some m → P m = Q x) :
    (s.world.store.ofRun (text (L.clients i).runId)).countP P =
      (s.logOf i).countP fun x => s.Reported L x && Q x := by
  have hlog : ∀ {x}, x ∈ s.logOf i ↔ x ∈ s.log ∧ x.client = i := by
    simp [Lab.logOf, List.mem_filter]
  have hrows : (((s.world.store.ofRun (text (L.clients i).runId)).filter P).map
      MeasurementRow.sampleId).Nodup :=
    s.world.store.measurements.nodup.sublist
      ((List.filter_sublist.trans List.filter_sublist).map _)
  have hprobes : (((s.logOf i).filter fun x => s.Reported L x && Q x).map
      fun x => text (x.sampleId L)).Nodup := by
    have hnodup : (s.logOf i).Nodup :=
      ((hs.stages i).isPrefix.sublist.nodup (nodup_schedule _)).of_map
    refine List.Nodup.map_on (fun x hx x' hx' h => ?_) (hnodup.filter _)
    simp only [List.mem_filter, Lab.Reported, Bool.and_eq_true] at hx hx'
    exact hs.eq_of_sampleId hL (hlog.mp hx.1).1 (hlog.mp hx'.1).1 hx.2.1.1 hx'.2.1.1
      (text_injective h)
  -- both are told by their identifiers, and those are the same
  suffices hperm : (((s.world.store.ofRun (text (L.clients i).runId)).filter P).map
      MeasurementRow.sampleId).Perm (((s.logOf i).filter fun x => s.Reported L x && Q x).map
        fun x => text (x.sampleId L)) by
    rw [List.countP_eq_length_filter, List.countP_eq_length_filter]
    simpa using hperm.length_eq
  refine (List.perm_ext_iff_of_nodup hrows hprobes).mpr fun k => ?_
  simp only [List.mem_map, List.mem_filter, Store.ofRun, decide_eq_true_eq, Bool.and_eq_true]
  constructor
  · rintro ⟨m, ⟨⟨hm, hrun⟩, hP⟩, rfl⟩
    obtain ⟨x, hx, hrecord, -, hid, hrun'⟩ := hs.exists_probe hm
    have hget := Table.get?_key hm
    rw [hid] at hget
    have hclient : x.client = i := hL.distinct _ _ (text_injective (hrun'.symm.trans hrun))
    have hreported := ((hs.rowFits hL hx hrecord).isSome_get?_iff hrecord).mp
      (Option.isSome_iff_exists.mpr ⟨m, hget⟩)
    exact ⟨x, ⟨hlog.mpr ⟨hx, hclient⟩, hreported, (hPQ x hx hrecord m hget).symm.trans hP⟩,
      hid.symm⟩
  · rintro ⟨x, ⟨hown, hreported, hQ⟩, rfl⟩
    obtain ⟨hx, rfl⟩ := hlog.mp hown
    have hrecord : x.record = true := (Bool.and_eq_true_iff.mp hreported).1
    have hfits := hs.rowFits hL hx hrecord
    obtain ⟨m, hget⟩ := Option.isSome_iff_exists.mp ((hfits.isSome_get?_iff hrecord).mpr hreported)
    obtain ⟨hm, hid⟩ := Table.get?_eq_some_iff.mp hget
    unfold Lab.RowFits at hfits
    rw [hget] at hfits
    exact ⟨m, ⟨⟨hm, hfits.2.1⟩, (hPQ x hx hrecord m hget).trans hQ⟩, hid⟩

/-- What the list of runs says of a client's run. -/
theorem Lab.Inv.runSummary (hL : L.Sound) (hs : s.Inv L) {r : RunRow}
    (hr : r.id = text (L.clients i).runId) :
    (s.world.store.runSummary r).samples = (s.logOf i).countP (fun x => s.Reported L x) ∧
      (s.world.store.runSummary r).successes =
        some (((s.logOf i).countP fun x => s.Reported L x && s.Succeeds x : ℕ) : ℤ) := by
  obtain ⟨hsamples, hsuccesses⟩ := runSummary_eq s.world.store r
  rw [hsamples, hsuccesses, hr, ← List.countP_eq_length_filter]
  constructor
  · have hall := hs.countP_ofRun (i := i) hL (fun _ => true) (fun _ => true)
      fun _ _ _ _ _ => rfl
    simpa using hall
  · rw [hs.countP_ofRun hL (fun m => decide (m.success = 1)) s.Succeeds]
    intro x hx hrecord m hget
    have hfits := hs.rowFits hL hx hrecord
    unfold Lab.RowFits at hfits
    rw [hget] at hfits
    rw [hfits.1.success, Lab.Succeeds]
    cases (s.clientHalf x).elim true (·.succeeded) <;> rfl

/-- The failures that a client counts. -/
theorem Lab.Inv.failures (hs : s.Inv L) (i : ι) :
    (s.clients i).failures = (s.logOf i).countP fun x => x.record && x.result.code ≠ 0 := by
  obtain ⟨env, hrun⟩ := hs.probes i
  have hconsistent : ((prober env (L.clients i)).run
      ((s.logOf i).map fun x => x.toTurn)).Consistent env (L.clients i) :=
    Machine.invariant ⟨by rintro e ⟨⟩, rfl⟩ (fun p t hp => hp.step t) _
  have hcount := hconsistent.failures
  rw [hrun] at hcount
  simp only [Progress.recorded, List.countP_filter, List.countP_map] at hcount
  rw [hcount]
  refine List.countP_congr fun x _ => ?_
  simp [Bool.and_comm]

/-- Every mode is measured once in every iteration. -/
theorem countP_measuredTurns (m : Mode) (n : ℕ) :
    (measuredTurns n).countP (fun t => t.mode = m) = n := by
  have hblock : ∀ k, ((endpoints.rotate (k - 1)).map fun m => (⟨m, k, true⟩ : Turn)).countP
      (fun t => t.mode = m) = 1 := fun k => by
    have hone : endpoints.count m = 1 := by cases m <;> rfl
    have hrotated : (endpoints.rotate (k - 1)).count m = 1 :=
      ((List.rotate_perm endpoints (k - 1)).count_eq m).trans hone
    rw [List.countP_map]
    exact (List.countP_congr fun m' _ => by simp).trans hrotated
  simp only [measuredTurns, List.countP_flatMap, Function.comp_def, hblock]
  simp

/-- A client that has made its schedule has measured every mode as often as it was told. -/
theorem countP_schedule (options : ClientOptions) (m : Mode) :
    options.schedule.countP (fun t => t.record && t.mode = m) = options.iterations.toNat := by
  have hwarm : (warmUpTurns options.warmup.toNat).countP (fun t => t.record && t.mode = m) = 0 :=
    List.countP_eq_zero.mpr fun t ht => by simp [(mem_warmUpTurns ht).1]
  have hmeasured : (measuredTurns options.iterations.toNat).countP
      (fun t => t.record && t.mode = m) =
        (measuredTurns options.iterations.toNat).countP fun t => t.mode = m :=
    List.countP_congr fun t ht => by simp [(mem_measuredTurns ht).1]
  rw [ClientOptions.schedule, List.countP_append, hwarm, hmeasured, countP_measuredTurns,
    Nat.zero_add]

/-- Counts add up as their indicators do. -/
theorem countP_add_countP {α : Type} {a b c d : α → Bool} {l : List α}
    (h : ∀ x ∈ l, (a x).toNat + (b x).toNat = (c x).toNat + (d x).toNat) :
    l.countP a + l.countP b = l.countP c + l.countP d := by
  induction l with
  | nil => rfl
  | cons x l ih =>
    have hx := h x List.mem_cons_self
    have hl := ih fun y hy => h y (List.mem_cons_of_mem _ hy)
    have hcons : ∀ p : α → Bool, (x :: l).countP p = l.countP p + (p x).toNat := fun p => by
      rw [List.countP_cons]
      cases p x <;> rfl
    simp only [hcons]
    omega

/-- What the table does not take is not reported. -/
theorem Lab.Inv.not_reported (hL : L.Sound) (hs : s.Inv L) (hx : x ∈ s.log)
    (hmode : x.mode = .hybridP256) : s.Reported L x = false := by
  cases hrecord : x.record with
  | false => rw [Lab.Reported, hrecord, Bool.false_and]
  | true =>
    have hfits := hs.rowFits hL hx hrecord
    rw [← Bool.not_eq_true, ← hfits.isSome_get?_iff hrecord]
    intro hget
    obtain ⟨m, hget⟩ := Option.isSome_iff_exists.mp hget
    have hchecked := s.world.store.checked m (Table.get?_eq_some_iff.mp hget).1
    unfold Lab.RowFits at hfits
    rw [hget] at hfits
    rw [hfits.2.2.1, hmode] at hchecked
    revert hchecked
    decide

/-- What a client has reported it has not reported otherwise. -/
theorem Lab.Inv.succeeds_iff (hs : s.Inv L) (hx : x ∈ s.log) (hhalf : (s.clientHalf x).isSome) :
    s.Succeeds x = decide (x.result.code = 0) := by
  obtain ⟨p, hp⟩ := Option.isSome_iff_exists.mp hhalf
  obtain ⟨hposted, -⟩ := Option.filter_eq_some_iff.mp hp
  obtain ⟨v, hv, rfl⟩ := Option.map_eq_some_iff.mp hposted
  obtain ⟨-, -, -, hcode⟩ := (hs.measured x hx).posted v hv
  have hsucceeded : v.post.succeeded = v.success := rfl
  rw [Lab.Succeeds, hp, Option.elim_some, hsucceeded, Bool.eq_iff_iff, hcode, decide_eq_true_iff]

/-- **A run that is done**, and of which every report has been accepted that the table takes:
its samples are two for every iteration, and the failures that the client has counted and the
successes are as many as its samples and the failures in the mode that the table does not
take. -/
theorem Lab.Inv.counts_of_done (hL : L.Sound) (hs : s.Inv L)
    (hdone : ((s.logOf i).map fun x => x.toTurn) = (L.clients i).schedule)
    (haccepted : ∀ x ∈ s.logOf i, x.record = true → x.mode ≠ .hybridP256 →
      (s.clientHalf x).isSome) :
    (s.logOf i).countP (fun x => s.Reported L x) = 2 * (L.clients i).iterations.toNat ∧
      (s.clients i).failures + (s.logOf i).countP (fun x => s.Reported L x && s.Succeeds x) =
        2 * (L.clients i).iterations.toNat + (s.logOf i).countP fun x =>
          x.record && x.mode = .hybridP256 && x.result.code ≠ 0 := by
  have hlog : ∀ x ∈ s.logOf i, x ∈ s.log := fun x hx => List.mem_of_mem_filter hx
  have hreported : ∀ x ∈ s.logOf i, s.Reported L x = (x.record && x.mode ≠ .hybridP256) := by
    intro x hx
    by_cases hmode : x.mode = .hybridP256
    · rw [hs.not_reported hL (hlog x hx) hmode]
      simp [hmode]
    · cases hrecord : x.record with
      | false => simp [Lab.Reported, hrecord]
      | true => simp [Lab.Reported, hrecord, hmode, haccepted x hx hrecord hmode]
  have hmodes : ∀ m, (s.logOf i).countP (fun x => x.record && x.mode = m) =
      (L.clients i).iterations.toNat := fun m => by
    rw [← countP_schedule (L.clients i) m, ← hdone, List.countP_map]
    rfl
  have hsamples : (s.logOf i).countP (fun x => s.Reported L x) =
      2 * (L.clients i).iterations.toNat := by
    have hsum : (s.logOf i).countP (fun x => s.Reported L x) + (s.logOf i).countP (fun _ => false) =
        (s.logOf i).countP (fun x => x.record && x.mode = .classical) +
          (s.logOf i).countP fun x => x.record && x.mode = .hybrid := by
      refine countP_add_countP fun x hx => ?_
      rw [hreported x hx]
      cases x.record <;> cases x.mode <;> rfl
    rw [hmodes, hmodes, List.countP_false] at hsum
    simp only [Function.const_apply] at hsum
    omega
  refine ⟨hsamples, ?_⟩
  rw [hs.failures i, ← hsamples]
  refine countP_add_countP fun x hx => ?_
  rw [hreported x hx]
  cases hrecord : x.record with
  | false => rfl
  | true =>
    by_cases hmode : x.mode = .hybridP256
    · simp [hmode]
    · rw [hs.succeeds_iff (hlog x hx) (haccepted x hx hrecord hmode)]
      by_cases hcode : x.result.code = 0 <;> simp [hmode, hcode]

end Counts

/-! ### What is stored -/

section Lab

variable {ι : Type} [DecidableEq ι] {L : Setup ι}

/-- **The rows are what has been measured**, in every state of the lab. Every row is of a
probe that has been made to be recorded, in a mode that the table knows; and what there is of
such a probe is put together from what its client and its server have measured of the one
connection, as far as that has been accepted. No two of them share a sample. -/
theorem lab_rows (hL : L.Sound) {actions : List (Action ι)} (hplain : ∀ a ∈ actions, a.Plain) :
    (∀ m ∈ ((lab L).run actions).world.store.measurements.rows, ∃ x ∈ ((lab L).run actions).log,
      x.record = true ∧ x.mode ≠ .hybridP256 ∧ m.sampleId = text (x.sampleId L)) ∧
    ∀ x ∈ ((lab L).run actions).log, x.record = true → ((lab L).run actions).RowFits L x ∧
      ∀ x' ∈ ((lab L).run actions).log, x'.record = true → x'.sampleId L = x.sampleId L →
        x' = x := by
  have hinv := inv_lab hL hplain
  refine ⟨fun m hm => ?_, fun x hx hrecord => ⟨hinv.rowFits hL hx hrecord, ?_⟩⟩
  · obtain ⟨x, hx, hrecord, hmode, hid, -⟩ := hinv.exists_probe hm
    exact ⟨x, hx, hrecord, hmode, hid⟩
  · exact fun x' hx' hrecord' h => hinv.eq_of_sampleId hL hx' hx hrecord' hrecord h

/-- Of the first probe both sides have reported. -/
theorem lab_rows_compose : ∃ x ∈ ((lab composeSetup).run composeRun).log,
    ∃ m : MeasurementRow, m.Merges (((lab composeSetup).run composeRun).clientHalf x)
        (((lab composeSetup).run composeRun).serverHalf composeSetup x) ∧
      m.serverHandshakeUs = some 1500 ∧ m.clientTotalUs.isSome := by
  obtain ⟨-, -, -, m, hm, hserver, hclient⟩ := composeRun_end
  have hrows := lab_rows sound_composeSetup plain_composeRun
  obtain ⟨x, hx, hmerges⟩ := exists_merges hrows.1 hrows.2 hm
  exact ⟨x, hx, m, hmerges, hserver, hclient⟩

/-- **The list of runs counts probes**, in every state of the lab: the samples of a client's
run are the probes that have been reported, by either side, and its successes those of them
whose client has not reported a failure. When the client has come to its end and all its
reports have been accepted that can be, these are two samples for every iteration, and the
failures that the client has counted are the samples that are no successes, and those of the
mode that the table does not know. -/
theorem lab_counts (hL : L.Sound) {actions : List (Action ι)} (hplain : ∀ a ∈ actions, a.Plain)
    {i : ι} {r : RunRow} (hr : r.id = text (L.clients i).runId) :
    let s := (lab L).run actions
    let summary := s.world.store.runSummary r
    summary.samples = (s.logOf i).countP (fun x => s.Reported L x) ∧
    summary.successes =
      some (((s.logOf i).countP fun x => s.Reported L x && s.Succeeds x : ℕ) : ℤ) ∧
    (s.Done L i → (∀ x ∈ s.logOf i, x.record = true → x.mode ≠ .hybridP256 →
        (s.clientHalf x).isSome) →
      summary.samples = 2 * (L.clients i).iterations.toNat ∧
      ∀ successes ∈ summary.successes, ((s.clients i).failures : ℤ) =
        summary.samples - successes + ((s.logOf i).countP fun x =>
          x.record && x.mode = .hybridP256 && x.result.code ≠ 0 : ℕ)) := by
  have hinv := inv_lab hL hplain
  obtain ⟨hsamples, hsuccesses⟩ := hinv.runSummary hL hr
  refine ⟨hsamples, hsuccesses, fun hdone haccepted => ?_⟩
  obtain ⟨hall, hfailures⟩ := hinv.counts_of_done hL hdone.2 haccepted
  refine ⟨hsamples.trans hall, fun successes hn => ?_⟩
  obtain rfl : _ = successes := Option.some.inj (hsuccesses.symm.trans hn)
  rw [hsamples, hall]
  omega

/-- The client that has come to its end has two samples, and no failures. -/
theorem lab_counts_compose :
    (((lab composeSetup).run composeRun).world.store.runSummary
      (ensureRow "run-1" "")).samples = 2 := by
  have hr : (ensureRow "run-1" "").id = text (composeSetup.clients true).runId := by
    have hrunId : (composeSetup.clients true).runId = lit "run-1" := rfl
    rw [hrunId, text_lit (by simp)]
    rfl
  have hlog : (((lab composeSetup).run composeRun).logOf true).map (fun x => x.toTurn) =
        (composeSetup.clients true).schedule ∧
      ∀ x ∈ ((lab composeSetup).run composeRun).logOf true, x.record = true →
        x.mode ≠ .hybridP256 → (((lab composeSetup).run composeRun).clientHalf x).isSome := by
    decide +kernel
  have hfinished := ClientStage.exitCode?_eq_some_iff.mp composeRun_end.1
  exact ((lab_counts sound_composeSetup plain_composeRun hr).2.2 ⟨⟨0, hfinished⟩, hlog.1⟩ hlog.2).1

end Lab

end HybridTls
