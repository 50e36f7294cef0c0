import HybridTls.Lib.Csv
import HybridTls.Lib.Decimal
import HybridTls.Routes
import HybridTls.Store.Queries

/-!
# Exporting the measurements

`csv_export`: the rows that `measurements` returns, as a table in a text.

A record of the table has a text for each of the columns of the export
(`HybridTls.MeasurementRow.record`). Nothing else of a row gets lost
(`HybridTls.record_eq_iff`): not the two times at which the halves of a measurement were
recorded, which are no columns of the export, nor whether a text is null or empty, which a
table in a text cannot tell.

The fields of a row are short, since they have passed the schemas. So whoever reads the text
that the dashboard exports, whatever has been posted to it before, finds in it the names of
the columns and the records of the rows (`HybridTls.csvExport_faithful`): no quote, no comma
and no line break in an error that a client has reported moves a field or a row.
-/

namespace HybridTls

open Keyed Transition

/-! ### The export -/

/-- A value of a row. -/
inductive Cell where
  | null
  | text (s : String)
  | integer (n : ℤ)
  | flag (b : Bool)
  deriving DecidableEq, Repr

namespace Cell

/-- What the writer makes of a value: `str` of it, and nothing of `None`. -/
def chars : Cell → List Char
  | null => []
  | text s => s.toList
  | integer n => Decimal.signed n
  | flag b => (if b then "True" else "False").toList

/-- The value of a text column. -/
def ofText (s : Option String) : Cell := s.elim null text

/-- The value of an integer column. -/
def ofInteger (n : Option ℤ) : Cell := n.elim null integer

end Cell

/-- A row as `measurements` returns it: the columns of the table. -/
def MeasurementRow.cells (m : MeasurementRow) : List (String × Cell) :=
  [("sample_id", .text m.sampleId), ("run_id", .text m.runId), ("mode", .text m.mode),
    ("expected_group", .text m.expectedGroup), ("negotiated_group", .ofText m.negotiatedGroup),
    ("tls_version", .ofText m.tlsVersion), ("cipher", .ofText m.cipher),
    ("server_handshake_us", .ofInteger m.serverHandshakeUs),
    ("client_tcp_us", .ofInteger m.clientTcpUs),
    ("client_handshake_us", .ofInteger m.clientHandshakeUs),
    ("client_ttfb_us", .ofInteger m.clientTtfbUs),
    ("client_total_us", .ofInteger m.clientTotalUs), ("bytes_sent", .ofInteger m.bytesSent),
    ("bytes_received", .ofInteger m.bytesReceived), ("success", .flag (m.success ≠ 0)),
    ("error", .ofText m.error), ("server_recorded_at", .ofText m.serverRecordedAt),
    ("client_recorded_at", .ofText m.clientRecordedAt), ("created_at", .text m.createdAt)]

/-- `columns`. -/
def exportColumns : List String :=
  ["sample_id", "run_id", "mode", "expected_group", "negotiated_group", "tls_version", "cipher",
    "server_handshake_us", "client_tcp_us", "client_handshake_us", "client_ttfb_us",
    "client_total_us", "bytes_sent", "bytes_received", "success", "error", "created_at"]

/-- The fields of a dictionary in the order of the columns, as `DictWriter` collects them with
`extrasaction="ignore"`. -/
def dictToList (fieldnames : List String) (row : List (String × Cell)) : List (List Char) :=
  fieldnames.map fun name => ((row.lookup name).getD (.text "")).chars

/-- The record of a row. -/
def MeasurementRow.record (m : MeasurementRow) : List (List Char) :=
  dictToList exportColumns m.cells

/-- `csv_export`. -/
def Store.csvExport (s : Store) (runId : Option String) : List Char :=
  Csv.write Csv.excel (exportColumns.map String.toList ::
    (s.measurementRows runId none).map MeasurementRow.record)

/-! ### What a record says of its row -/

/-- **What there is of a row in its record**: a null text counts for an empty one, and the two
times at which its halves were recorded are missing. -/
def MeasurementRow.exported (m : MeasurementRow) : MeasurementRow :=
  { m with
    negotiatedGroup := m.negotiatedGroup.getD ""
    tlsVersion := m.tlsVersion.getD ""
    cipher := m.cipher.getD ""
    success := if m.success = 0 then 0 else 1
    error := m.error.getD ""
    serverRecordedAt := none
    clientRecordedAt := none }

section Record

variable {m m' : MeasurementRow}

@[simp] theorem Cell.chars_ofText (s : Option String) :
    (Cell.ofText s).chars = (s.getD "").toList := by
  cases s <;> rfl

theorem Cell.chars_ofInteger_inj {n n' : Option ℤ} :
    (Cell.ofInteger n).chars = (Cell.ofInteger n').chars ↔ n = n' := by
  have hne : ∀ n, Decimal.signed n ≠ [] := Decimal.signed_ne_nil
  rcases n with _ | n <;> rcases n' with _ | n'
  · exact iff_of_true rfl rfl
  · exact iff_of_false (fun h => hne _ h.symm) (by simp)
  · exact iff_of_false (fun h => hne _ h) (by simp)
  · exact Decimal.signed_injective.eq_iff.trans (by simp)

theorem Cell.chars_flag_inj {b b' : Bool} :
    (Cell.flag b).chars = (Cell.flag b').chars ↔ b = b' := by
  revert b b'
  decide

/-- The fields of a record. -/
theorem record_eq (m : MeasurementRow) : m.record =
    [m.sampleId.toList, m.runId.toList, m.mode.toList, m.expectedGroup.toList,
      (Cell.ofText m.negotiatedGroup).chars, (Cell.ofText m.tlsVersion).chars,
      (Cell.ofText m.cipher).chars, (Cell.ofInteger m.serverHandshakeUs).chars,
      (Cell.ofInteger m.clientTcpUs).chars, (Cell.ofInteger m.clientHandshakeUs).chars,
      (Cell.ofInteger m.clientTtfbUs).chars, (Cell.ofInteger m.clientTotalUs).chars,
      (Cell.ofInteger m.bytesSent).chars, (Cell.ofInteger m.bytesReceived).chars,
      (Cell.flag (m.success ≠ 0)).chars, (Cell.ofText m.error).chars, m.createdAt.toList] := by
  simp [MeasurementRow.record, dictToList, exportColumns, MeasurementRow.cells,
    List.lookup_cons, List.lookup_nil, Cell.chars]

/-- **A record says of its row what is exported of it**, and nothing else. -/
theorem record_eq_iff : m.record = m'.record ↔ m.exported = m'.exported := by
  have hsuccess : (decide (m.success ≠ 0) = decide (m'.success ≠ 0)) ↔
      (if m.success = 0 then (0 : ℤ) else 1) = if m'.success = 0 then 0 else 1 := by
    by_cases h : m.success = 0 <;> by_cases h' : m'.success = 0 <;> simp [h, h']
  simp only [record_eq, List.cons.injEq, Cell.chars_ofText, Cell.chars_ofInteger_inj,
    Cell.chars_flag_inj, String.toList_inj, MeasurementRow.exported, MeasurementRow.mk.injEq,
    Option.some.injEq, hsuccess, and_true, true_and]

end Record

/-! ### How long a field can be -/

/-- **The fields of a row are not too long** for the reader of a table, and its integers are
those the database holds. -/
structure MeasurementRow.Fits (m : MeasurementRow) : Prop where
  texts : ∀ s ∈ [m.sampleId, m.runId, m.mode, m.expectedGroup, m.createdAt],
    s.length ≤ Csv.excel.fieldLimit
  nullable : ∀ s ∈ [m.negotiatedGroup, m.tlsVersion, m.cipher, m.error],
    ∀ a ∈ s, a.length ≤ Csv.excel.fieldLimit
  integers : AllFit [m.serverHandshakeUs, m.clientTcpUs, m.clientHandshakeUs, m.clientTtfbUs,
    m.clientTotalUs, m.bytesSent, m.bytesReceived]

section Fits

variable {m m' : MeasurementRow} {now : Timestamp}

theorem length_ofText_le {s : Option String} (h : ∀ a ∈ s, a.length ≤ Csv.excel.fieldLimit) :
    (Cell.ofText s).chars.length ≤ Csv.excel.fieldLimit := by
  cases s with
  | none => exact Nat.zero_le _
  | some a => exact String.length_toList.trans_le (h a rfl)

/-- An integer that the database holds has at most 20 characters. -/
theorem length_ofInteger_le {n : Option ℤ} (h : ∀ k ∈ n, FitsInteger k) :
    (Cell.ofInteger n).chars.length ≤ Csv.excel.fieldLimit := by
  cases n with
  | none => exact Nat.zero_le _
  | some k =>
    obtain ⟨hlow, hhigh⟩ := h k rfl
    have hdigits : k.natAbs < 10 ^ 19 := by
      unfold maxInteger at hlow hhigh
      omega
    exact (Decimal.length_signed_le (by decide) hdigits).trans (by decide)

theorem MeasurementRow.Fits.length_record (hm : m.Fits) :
    ∀ field ∈ m.record, field.length ≤ Csv.excel.fieldLimit := by
  obtain ⟨htexts, hnullable, hintegers⟩ := hm
  have hflag : ∀ b, (Cell.flag b).chars.length ≤ Csv.excel.fieldLimit := by decide
  simp only [AllFit, List.forall_mem_cons, List.not_mem_nil, false_implies, implies_true,
    and_true] at htexts hnullable hintegers
  obtain ⟨hsample, hrun, hmode, hexpected, hcreated⟩ := htexts
  obtain ⟨hnegotiated, hversion, hcipher, herror⟩ := hnullable
  obtain ⟨hserver, htcp, hhandshake, httfb, htotal, hsent, hreceived⟩ := hintegers
  simp only [record_eq, List.forall_mem_cons, List.not_mem_nil, false_implies, implies_true,
    and_true, String.length_toList]
  exact ⟨hsample, hrun, hmode, hexpected, length_ofText_le hnegotiated, length_ofText_le hversion,
    length_ofText_le hcipher, length_ofInteger_le hserver, length_ofInteger_le htcp,
    length_ofInteger_le hhandshake, length_ofInteger_le httfb, length_ofInteger_le htotal,
    length_ofInteger_le hsent, length_ofInteger_le hreceived, hflag _, length_ofText_le herror,
    hcreated⟩

/-- A text that may be null is as short as its schema says. -/
theorem length_checked_le {n : ℕ} (hn : n ≤ Csv.excel.fieldLimit)
    (s : Option (Subtype (HasLength 0 n))) :
    ∀ a ∈ s.map Subtype.val, a.length ≤ Csv.excel.fieldLimit :=
  fun a ha => (forall_checked s a ha).2.trans hn

/-- **The row of a post fits**, if the post has passed its schema and can be stored. -/
theorem Measurement.fits_row {v : Measurement} (hv : v.post.Storable)
    (hnow : now.length ≤ Csv.excel.fieldLimit) : (v.post.row now).Fits := by
  have hmode : ∀ mode : Mode, mode.text.length ≤ Csv.excel.fieldLimit := by
    intro mode
    cases mode <;> decide
  have hsample : ∀ m : SampleFields, ∀ s ∈ [m.sampleId.1, m.runId.1, m.mode.text,
      m.expectedGroup.1, now], s.length ≤ Csv.excel.fieldLimit := by
    intro m
    simp only [List.forall_mem_cons, List.not_mem_nil, false_implies, implies_true, and_true]
    exact ⟨m.sampleId.2.2.1.trans (by decide), m.runId.2.2.1.trans (by decide), hmode _,
      m.expectedGroup.2.2.trans (by decide), hnow⟩
  have hnames : ∀ m : SampleFields, ∀ error : Option (Subtype (HasLength 0 1000)),
      ∀ s ∈ [m.negotiatedGroup.map Subtype.val, m.tlsVersion.map Subtype.val,
        m.cipher.map Subtype.val, error.map Subtype.val],
      ∀ a ∈ s, a.length ≤ Csv.excel.fieldLimit := by
    intro m error
    simp only [List.forall_mem_cons, List.not_mem_nil, false_implies, implies_true, and_true]
    exact ⟨length_checked_le (by decide) _, length_checked_le (by decide) _,
      length_checked_le (by decide) _, length_checked_le (by decide) _⟩
  have hnone : ∀ k ∈ (none : Option ℤ), FitsInteger k := by simp
  cases v with
  | server m =>
    refine ⟨hsample m.toSampleFields, hnames m.toSampleFields none, ?_⟩
    have hserver := hv.1
    simp only [Measurement.post, Post.integers, allFit_cons, allFit_nil] at hserver
    simp only [Measurement.post, Post.row, ServerPost.row, allFit_cons, allFit_nil]
    exact ⟨hserver.1, hnone, hnone, hnone, hnone, hnone, hnone, trivial⟩
  | client m =>
    refine ⟨hsample m.toSampleFields, hnames m.toSampleFields m.error, ?_⟩
    have hclient := hv.1
    simp only [Measurement.post, Post.integers, allFit_cons, allFit_nil] at hclient
    simp only [Measurement.post, Post.row, ClientPost.row, allFit_cons, allFit_nil]
    exact ⟨hnone, hclient⟩

/-- What `COALESCE` leaves is one of the two. -/
theorem forall_or {α : Type} {P : α → Prop} {a b : Option α} (ha : ∀ x ∈ a, P x)
    (hb : ∀ x ∈ b, P x) : ∀ x ∈ a.or b, P x := by
  cases a with
  | none => exact hb
  | some a => exact ha

/-- **A row that is updated still fits.** -/
theorem MeasurementRow.Fits.update {p : Post} (hrow : (p.row now).Fits) (hm : m.Fits) :
    (p.update now m).Fits := by
  obtain ⟨-, hnullable, hintegers⟩ := hrow
  obtain ⟨htexts, hnullable', hintegers'⟩ := hm
  simp only [allFit_cons, List.forall_mem_cons] at hnullable hintegers hnullable' hintegers'
  obtain ⟨hnegotiated, hversion, hcipher, herror, hnil⟩ := hnullable
  obtain ⟨hserver, htcp, hhandshake, httfb, htotal, hsent, hreceived, -⟩ := hintegers
  obtain ⟨hnegotiated', hversion', hcipher', herror', -⟩ := hnullable'
  obtain ⟨hserver', hclient'⟩ := hintegers'
  cases p with
  | server p =>
    refine ⟨htexts, ?_, ?_⟩
    · simp only [List.forall_mem_cons]
      exact ⟨hnegotiated, hversion, hcipher, herror', hnil⟩
    · simp only [allFit_cons]
      exact ⟨hserver, hclient'⟩
  | client p =>
    refine ⟨htexts, ?_, ?_⟩
    · simp only [List.forall_mem_cons]
      exact ⟨forall_or hnegotiated hnegotiated', forall_or hversion hversion',
        forall_or hcipher hcipher', herror, hnil⟩
    · simp only [allFit_cons]
      exact ⟨hserver', htcp, hhandshake, httfb, htotal, hsent, hreceived, allFit_nil⟩

end Fits

/-! ### What the dashboard exports -/

/-- **What every effect at the times of a clock keeps holds of whatever the dashboard stores.**
-/
theorem dashboard_invariant_clock {P : Store → Prop} (clock : ℕ → Timestamp) (hempty : P .empty)
    (hstep : ∀ {k₁ k₂ s s' request op answer}, Request.op? request = some (op, answer) →
      Effect (clock k₁) (clock k₂) s s' op → P s → P s')
    (requests : List (Request × (ℕ → Option DbError))) :
    P ((dashboard clock).run requests).store := by
  refine Machine.invariant (M := dashboard clock) (P := fun w => P w.store) hempty ?_ requests
  intro w r hw
  change P (respond clock w r.1 r.2).2.store
  rw [snd_respond]
  cases hop : r.1.op? with
  | none => exact hw
  | some op =>
    rw [Option.elim_some]
    rcases (exec_cases clock w ⟨op.1, r.2⟩).2 with ⟨-, hstore⟩ | ⟨-, k₁, k₂, -, -, -, heff⟩
    · rwa [hstore]
    · exact hstep hop heff hw

/-- A request that records a post records a measurement that has passed its schema. -/
theorem Request.exists_measurement {request : Request} {p : Post} {answer : Response}
    (hop : request.op? = some (p.op, answer)) : ∃ v : Measurement, v.post = p := by
  have hpost := Post.post?_op p
  cases request with
  | completeRun runId =>
    simp only [Request.op?, Option.some.injEq, Prod.mk.injEq] at hop
    rw [← hop.1] at hpost
    simp [Op.post?] at hpost
  | createRun body =>
    simp only [Request.op?, Option.bind_eq_bind, Option.bind_eq_some_iff, Option.pure_def,
      Option.some.injEq, Prod.mk.injEq] at hop
    obtain ⟨-, -, m, -, hop, -⟩ := hop
    rw [← hop] at hpost
    simp [Op.post?] at hpost
  | serverMeasurement body =>
    simp only [Request.op?, Option.bind_eq_bind, Option.bind_eq_some_iff, Option.pure_def,
      Option.some.injEq, Prod.mk.injEq] at hop
    obtain ⟨-, -, m, -, hop, -⟩ := hop
    rw [← hop] at hpost
    exact ⟨.server m, Option.some.inj ((Post.post?_op (.server m.post)).symm.trans hpost)⟩
  | clientMeasurement body =>
    simp only [Request.op?, Option.bind_eq_bind, Option.bind_eq_some_iff, Option.pure_def,
      Option.some.injEq, Prod.mk.injEq] at hop
    obtain ⟨-, -, m, -, hop, -⟩ := hop
    rw [← hop] at hpost
    exact ⟨.client m, Option.some.inj ((Post.post?_op (.client m.post)).symm.trans hpost)⟩

section Exported

variable {clock : ℕ → Timestamp} {s : Store} {runId : Option String}

/-- **Every row of the dashboard fits.** -/
theorem fits_dashboard (hclock : ∀ k, (clock k).length ≤ Csv.excel.fieldLimit)
    (requests : List (Request × (ℕ → Option DbError))) :
    ∀ m ∈ ((dashboard clock).run requests).store.measurements.rows, m.Fits := by
  refine dashboard_invariant_clock (P := fun s => ∀ m ∈ s.measurements.rows, m.Fits) clock
    (by simp [Store.empty]) ?_ requests
  intro k₁ k₂ s s' request op answer hop heff hs
  cases heff with
  | createRun p hp hruns hmeas => rwa [hmeas]
  | completeRun runId hruns hmeas => rwa [hmeas]
  | record p hp hruns hmeas =>
    obtain ⟨v, rfl⟩ := Request.exists_measurement hop
    have hrow := v.fits_row hp (hclock k₂)
    rw [hmeas]
    exact Table.forall_upsert hs (fun _ => hrow) fun m hm _ => hrow.update (hs m hm)

/-- The rows that are read are stored ones, but for the spelling of their success. -/
theorem exists_of_mem_measurementRows {limit : Option ℤ} {m : MeasurementRow}
    (hm : m ∈ s.measurementRows runId limit) : ∃ m' ∈ s.measurements.rows, m'.dict = m := by
  obtain ⟨m', hm', rfl⟩ := List.mem_map.mp hm
  have hsorted : m' ∈ (s.measurements.rows.filter (selects runId)).insertionSort
      fun a b => b.createdAt ≤ a.createdAt := by
    revert hm'
    fun_cases takeLimit limit
      ((s.measurements.rows.filter (selects runId)).insertionSort
        fun a b => b.createdAt ≤ a.createdAt) with
    | case1 => exact id
    | case2 n hn => exact id
    | case3 n hn => exact List.mem_of_mem_take
  exact ⟨m', List.mem_of_mem_filter ((List.mem_insertionSort _).mp hsorted), rfl⟩

/-- **The export is read back**, if the rows fit. -/
theorem read_csvExport (hs : ∀ m ∈ s.measurements.rows, m.Fits) :
    Csv.read Csv.excel (s.csvExport runId) = .ok (exportColumns.map String.toList ::
      (s.measurementRows runId none).map MeasurementRow.record) := by
  refine Csv.read_write ?_
  have hcolumns : ∀ field ∈ exportColumns.map String.toList,
      field.length ≤ Csv.excel.fieldLimit := by
    decide
  rw [List.forall_mem_cons]
  refine ⟨hcolumns, ?_⟩
  intro fields hfields
  obtain ⟨m, hm, rfl⟩ := List.mem_map.mp hfields
  obtain ⟨m', hm', rfl⟩ := exists_of_mem_measurementRows hm
  have hrecord : m'.dict.record = m'.record := record_eq_iff.mpr (by
    by_cases h : m'.success = 0 <;> simp [MeasurementRow.exported, MeasurementRow.dict, h])
  rw [hrecord]
  exact (hs m' hm').length_record

end Exported

/-- **The export is faithful.** Whatever has been posted to the dashboard, whoever reads the
text it exports gets the names of the columns and a record for each of the rows of the run, or
of all the runs, in their order; and two exports, of whatever states, are the same text exactly
if the rows are the same but for what is not exported. -/
theorem csvExport_faithful (clock : ℕ → Timestamp)
    (hclock : ∀ k, (clock k).length ≤ Csv.excel.fieldLimit)
    (requests : List (Request × (ℕ → Option DbError))) (runId : Option String) :
    let s := ((dashboard clock).run requests).store
    Csv.read Csv.excel (s.csvExport runId) = .ok (exportColumns.map String.toList ::
      (s.measurementRows runId none).map MeasurementRow.record) ∧
    ∀ (requests' : List (Request × (ℕ → Option DbError))) (runId' : Option String),
      let s' := ((dashboard clock).run requests').store
      s.csvExport runId = s'.csvExport runId' ↔
        (s.measurementRows runId none).map MeasurementRow.exported =
          (s'.measurementRows runId' none).map MeasurementRow.exported := by
  intro s
  have hread := @read_csvExport s runId (fits_dashboard hclock requests)
  refine ⟨hread, fun requests' runId' => ?_⟩
  intro s'
  have hread' := @read_csvExport s' runId' (fits_dashboard hclock requests')
  have hrecords : ∀ rows rows' : List MeasurementRow,
      rows.map MeasurementRow.record = rows'.map MeasurementRow.record ↔
        rows.map MeasurementRow.exported = rows'.map MeasurementRow.exported := by
    intro rows rows'
    induction rows generalizing rows' with
    | nil => cases rows' <;> simp
    | cons m rows ih =>
      cases rows' with
      | nil => simp
      | cons m' rows' => simp only [List.map_cons, List.cons.injEq, record_eq_iff, ih]
  constructor
  · intro h
    have hsame : Csv.read Csv.excel (s.csvExport runId) =
        Csv.read Csv.excel (s'.csvExport runId') := by rw [h]
    rw [hread, hread', Except.ok.injEq, List.cons.injEq] at hsame
    exact (hrecords _ _).mp hsame.2
  · intro h
    rw [Store.csvExport, Store.csvExport, (hrecords _ _).mpr h]

/-- A failure whose text has all that a table gives a meaning to. -/
def quotedError : ClientPost where
  sampleId := "run-1-hybrid-000001"
  runId := "run-1"
  mode := "hybrid"
  expectedGroup := "X25519MLKEM768"
  negotiatedGroup := none
  tlsVersion := none
  cipher := none
  clientTcpUs := some 250
  clientHandshakeUs := some 0
  clientTtfbUs := some 0
  clientTotalUs := some 900
  bytesSent := some 0
  bytesReceived := some 0
  success := some false
  error := some "\"refused\", said\r\nthe peer"

/-- The failure is exported, and read back as one record. -/
theorem csvExport_faithful_quotedError :
    let s := ((dashboard fun _ => "2026-01-01T00:00:00.000+00:00").run
      [(.clientMeasurement (some quotedError.dump), fun _ => none)]).store
    ∃ m, m.error = quotedError.error ∧ Csv.read Csv.excel (s.csvExport none) =
      .ok [exportColumns.map String.toList, MeasurementRow.record m] :=
  ⟨(quotedError.row "2026-01-01T00:00:00.000+00:00").dict, rfl,
    (csvExport_faithful (fun _ => "2026-01-01T00:00:00.000+00:00") (fun _ => by decide)
      [(.clientMeasurement (some quotedError.dump), fun _ => none)] none).1⟩

end HybridTls
