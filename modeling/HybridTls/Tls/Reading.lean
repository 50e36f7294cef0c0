import HybridTls.Lib.Buffer
import HybridTls.Tls.Measurement
import HybridTls.Tls.Opening

/-!
# Reading the reply, read by read

The reading loop of `probe` as it works on its buffer of 4096 bytes: every call of
`SSL_read` is asked for the room that is left, computed with numbers of the type `int`, and
what it returns is written behind what has been read; the loop ends when the offset, as a
`size_t`, has reached the last byte of the buffer, and the zero is written there. A write
outside the buffer is an error, and the model returns none on it
(`HybridTls.readLoop`).

`SSL_read` returns the reply piece by piece, the pieces being as long as it likes
(`HybridTls.Delivery`). Whatever they are, the buffer holds the first 4095 bytes of the
reply when the loop has ended (`HybridTls.readResponse_eq`). So nothing that a probe
computes from them depends on how the reply has been split
(`HybridTls.probeLocals_pieces`).
-/

namespace HybridTls

open Buffer Raising

/-! ### The code -/

/-- **How `SSL_read` delivers a reply**: how many bytes the `call`-th call returns, of the
`left` bytes that are left, when it is asked for `requested`. When there is something left
and something is asked for, it is something, and no more than that. -/
structure Delivery where
  deliver : ℕ → ℤ → ℕ → ℤ
  pos : ∀ call requested left, 0 < requested → 0 < left → 0 < deliver call requested left
  le_requested : ∀ call requested left, 0 < requested → deliver call requested left ≤ requested
  le_left : ∀ call requested left, deliver call requested left ≤ left

/-- `(size_t)` of an `int`. -/
def sizeOfInt (n : ℤ) : ℕ := (n % 2 ^ 64).toNat

/-- Write at an offset of the type `int`. -/
def writeAt (buffer : Bytes) (offset : ℤ) (values : Bytes) : Option Bytes :=
  if 0 ≤ offset then write buffer offset.toNat values else none

/-- A run of the loop: the buffer and the offset when it has ended, what the calls have
been asked for, and what those that did not fail have returned. -/
structure ReadRun where
  response : Bytes
  offset : ℤ
  requests : List ℤ
  pieces : List Bytes

/-- The loop, `left` being what is left of the reply. -/
def readLoop (ssl : Delivery) (call : ℕ) (left response : Bytes) (offset : ℤ) : Option ReadRun :=
  let requested := 4096 - offset - 1
  let result := ssl.deliver call requested left.length
  if 0 < result then do
    let received := left.take result.toNat
    let response ← writeAt response offset received
    if 4095 ≤ sizeOfInt (offset + result) then
      return ⟨response, offset + result, [requested], [received]⟩
    else
      let run ← readLoop ssl (call + 1) (left.drop result.toNat) response (offset + result)
      return { run with
        requests := requested :: run.requests
        pieces := received :: run.pieces }
  else return ⟨response, offset, [requested], []⟩
termination_by left.length
decreasing_by
  rename_i hresult _
  have hle := ssl.le_left call (4096 - offset - 1) left.length
  change 0 < ssl.deliver call (4096 - offset - 1) left.length at hresult
  rw [List.length_drop]
  omega

/-- The loop, and the terminating zero. -/
def readResponse (ssl : Delivery) (reply response : Bytes) : Option ReadRun := do
  let run ← readLoop ssl 0 reply response 0
  let response ← writeAt run.response run.offset [0]
  return { run with response := response }

/-! ### The loop on the buffer -/

/-- **A run that has read on** from what has been written: it has written the beginning of
what was left, up to the last byte of the buffer. -/
structure ReadRun.From (response written left : Bytes) (run : ReadRun) : Prop where
  response : run.response = overlay response (written ++ run.pieces.flatten)
  offset : run.offset = (written ++ run.pieces.flatten).length
  pieces : written ++ run.pieces.flatten = (written ++ left).take 4095
  ne_nil : ∀ piece ∈ run.pieces, piece ≠ []
  requests : ∀ n ∈ run.requests, 0 < n ∧ n ≤ 4095
  reads_le : run.requests.length + written.length ≤ 4095

/-- The offset, as a `size_t`. -/
theorem sizeOfInt_natCast {n : ℕ} (h : n < 2 ^ 64) : sizeOfInt n = n := by
  unfold sizeOfInt
  omega

/-- A run that ends without having received anything has read the whole reply. -/
theorem ReadRun.from_nil {response written : Bytes} {requested : ℤ}
    (hroom : written.length < 4095) (hrequested : requested = 4096 - written.length - 1) :
    ReadRun.From response written []
      ⟨overlay response written, written.length, [requested], []⟩ := by
  refine ⟨?_, ?_, ?_, by simp, ?_, ?_⟩
  · rw [List.flatten_nil, List.append_nil]
  · rw [List.flatten_nil, List.append_nil]
  · rw [List.flatten_nil, List.append_nil, List.take_of_length_le (by omega)]
  · simp only [List.mem_singleton, forall_eq]
    omega
  · rw [List.length_singleton]
    omega

/-- A run that begins with a piece, and goes on from there. -/
theorem ReadRun.From.cons {response written left received : Bytes} {requested : ℤ} {run : ReadRun}
    (hrequested : 0 < requested ∧ requested ≤ 4095) (hreceived : received ≠ [])
    (hrun : run.From response (written ++ received) left) :
    ReadRun.From response written (received ++ left)
      { run with requests := requested :: run.requests, pieces := received :: run.pieces } := by
  have hpos := List.length_pos_iff.mpr hreceived
  have hreads := hrun.reads_le
  rw [List.length_append] at hreads
  refine ⟨?_, ?_, ?_, List.forall_mem_cons.mpr ⟨hreceived, hrun.ne_nil⟩,
    List.forall_mem_cons.mpr ⟨hrequested, hrun.requests⟩, ?_⟩
  · rw [hrun.response, List.flatten_cons, List.append_assoc]
  · rw [hrun.offset, List.flatten_cons, List.append_assoc]
  · rw [List.flatten_cons, ← List.append_assoc, hrun.pieces, List.append_assoc]
  · rw [List.length_cons]
    omega

/-- A run that ends because the buffer is full. -/
theorem ReadRun.from_full {response written left received : Bytes} {requested : ℤ}
    (hrequested : 0 < requested ∧ requested ≤ 4095) (hreceived : received ≠ [])
    (hfull : (written ++ received).length = 4095) :
    ReadRun.From response written (received ++ left)
      ⟨overlay response (written ++ received), (written ++ received).length, [requested],
        [received]⟩ := by
  have hpos := List.length_pos_iff.mpr hreceived
  have hlength := List.length_append ▸ hfull
  refine ⟨?_, ?_, ?_, by simpa using hreceived, by simpa using hrequested, ?_⟩
  · rw [List.flatten_singleton]
  · rw [List.flatten_singleton]
  · rw [List.flatten_singleton, ← List.append_assoc, ← hfull, List.take_left]
  · rw [List.length_singleton]
    omega

/-- A call that is asked for something: nothing is left, and it fails, or it returns some
bytes of what is left. -/
theorem Delivery.deliver_cases (ssl : Delivery) (call : ℕ) {requested : ℤ}
    (hrequested : 0 < requested) (left : Bytes) :
    left = [] ∧ ¬ 0 < ssl.deliver call requested left.length ∨
      ∃ k : ℕ, ssl.deliver call requested left.length = k ∧ 0 < k ∧ k ≤ requested ∧
        k ≤ left.length := by
  have hpos := ssl.pos call requested left.length hrequested
  have hle := ssl.le_requested call requested left.length hrequested
  have hleft := ssl.le_left call requested left.length
  by_cases hresult : 0 < ssl.deliver call requested left.length
  · exact Or.inr ⟨(ssl.deliver call requested left.length).toNat, by omega, by omega, by omega,
      by omega⟩
  · have hnone : left.length = 0 := Nat.eq_zero_of_not_pos (mt hpos hresult)
    exact Or.inl ⟨List.length_eq_zero_iff.mp hnone, hresult⟩

/-- Writing on at the offset, if there is room. -/
theorem writeAt_overlay {response written values : Bytes}
    (h : written.length + values.length ≤ response.length) :
    writeAt (overlay response written) written.length values =
      some (overlay response (written ++ values)) := by
  rw [writeAt, if_pos (Int.natCast_nonneg _)]
  exact write_overlay h

/-- The loop, by induction on what is left of the reply. -/
theorem readLoop_overlay (ssl : Delivery) {response : Bytes} (hlength : response.length = 4096)
    (left : Bytes) (call : ℕ) (written : Bytes) (hroom : written.length < 4095) :
    ∃ run, readLoop ssl call left (overlay response written) written.length = some run ∧
      run.From response written left := by
  induction hn : left.length using Nat.strongRecOn generalizing left call written with
  | ind n ih =>
    have hrequested : (0 : ℤ) < 4096 - written.length - 1 ∧
        (4096 : ℤ) - written.length - 1 ≤ 4095 := by omega
    rw [readLoop]
    rcases ssl.deliver_cases call hrequested.1 left with
      ⟨rfl, hresult⟩ | ⟨k, hresult, hpos, hle, hleft⟩
    · simp only [if_neg hresult]
      exact ⟨_, rfl, ReadRun.from_nil hroom rfl⟩
    have hreceived : (left.take k).length = k := List.length_take_of_le hleft
    have hne : left.take k ≠ [] := List.ne_nil_of_length_pos (by omega)
    have hnext : (written.length : ℤ) + k = (written ++ left.take k).length := by
      rw [List.length_append, hreceived, Int.natCast_add]
    have hbound : (written ++ left.take k).length ≤ 4095 := by
      rw [List.length_append]
      omega
    have hcut : left.take k ++ left.drop k = left := List.take_append_drop k left
    simp only [hresult]
    rw [if_pos (Int.natCast_pos.mpr hpos), Int.toNat_natCast, writeAt_overlay (by omega),
      Option.bind_eq_bind, Option.bind_some, hnext, sizeOfInt_natCast (by omega)]
    by_cases hfull : 4095 ≤ (written ++ left.take k).length
    · rw [if_pos hfull]
      have hrun := @ReadRun.from_full response written (left.drop k) _ _ hrequested hne
        (Nat.le_antisymm hbound hfull)
      rw [hcut] at hrun
      exact ⟨_, rfl, hrun⟩
    · rw [if_neg hfull]
      obtain ⟨run, hrun, hfrom⟩ := ih (left.drop k).length (by rw [List.length_drop]; omega)
        (left.drop k) (call + 1) (written ++ left.take k) (by omega) rfl
      rw [hrun]
      have hcons := hfrom.cons hrequested hne
      rw [hcut] at hcons
      exact ⟨_, rfl, hcons⟩

/-- **A run that has read a reply**: its first 4095 bytes are in the buffer, with a zero
behind them and nothing else changed; there have been no more than 4095 calls, each of them
asked for at least one byte; and the pieces are these bytes. -/
structure ReadRun.Reads (reply response : Bytes) (run : ReadRun) : Prop where
  response : run.response = reply.take 4095 ++ 0 :: response.drop ((reply.take 4095).length + 1)
  offset : run.offset = (reply.take 4095).length
  reads_le : run.requests.length ≤ 4095
  requests : ∀ n ∈ run.requests, 0 < n ∧ n ≤ 4095
  ne_nil : ∀ piece ∈ run.pieces, piece ≠ []
  pieces : run.pieces.flatten = reply.take 4095

/-- **Reading a reply**, however it is delivered. -/
theorem readResponse_eq (ssl : Delivery) (reply : Bytes) {response : Bytes}
    (hlength : response.length = 4096) :
    ∃ run, readResponse ssl reply response = some run ∧ run.Reads reply response := by
  obtain ⟨run, hrun, h⟩ := readLoop_overlay ssl hlength reply 0 [] (by decide)
  have hpieces : run.pieces.flatten = reply.take 4095 := h.pieces
  have hresponse : run.response = overlay response (reply.take 4095) := hpieces ▸ h.response
  have hoffset : run.offset = (reply.take 4095).length := hpieces ▸ h.offset
  have hroom : (reply.take 4095).length < response.length := by
    rw [List.length_take]
    omega
  have hwrite : writeAt run.response run.offset [0] =
      some (overlay response (reply.take 4095 ++ [0])) := by
    rw [hresponse, hoffset]
    exact writeAt_overlay hroom
  refine ⟨{ run with response := overlay response (reply.take 4095 ++ [0]) }, ?_, ?_, hoffset,
    h.reads_le, h.requests, h.ne_nil, hpieces⟩
  · rw [overlay_nil] at hrun
    unfold readResponse
    show (readLoop ssl 0 reply response 0).bind _ = _
    rw [show readLoop ssl 0 reply response 0 = some run from hrun, Option.bind_some, hwrite]
    rfl
  · show overlay response (reply.take 4095 ++ [0]) = _
    rw [overlay, List.append_assoc, List.length_append]
    rfl

/-! ### The loop in the local variables -/

section Pieces

variable {env : ProbeEnv}

/-- The local variables when the time of the first byte has been noted. -/
def Locals.stamped (env : ProbeEnv) (l : Locals) : Locals :=
  if l.firstByte = 0 then
    { l with firstByte := env.clock l.readings, readings := l.readings + 1 }
  else l

theorem stampFirstByte_eq (l : Locals) : stampFirstByte env l = .ok () (l.stamped env) := by
  have hget : (get : ProbeM Locals) l = .ok l l := rfl
  rw [stampFirstByte, bind_of_ok hget, Locals.stamped]
  split <;> rfl

/-- A turn of the loop that has received something. -/
theorem receive_eq {received : Bytes} (hne : received ≠ []) (offset : ℕ) (next : ProbeM Unit)
    (l : Locals) :
    receive env offset received next l =
      if 4095 ≤ offset + received.length then
        .ok () { l.stamped env with response := (l.stamped env).response ++ received }
      else next { l.stamped env with response := (l.stamped env).response ++ received } := by
  rw [receive, if_neg hne, bind_of_ok (stampFirstByte_eq l)]
  split <;> rfl

/-- A first byte is noted once. -/
theorem Locals.stamped_of_ne_zero {l : Locals} (h : l.firstByte ≠ 0) : l.stamped env = l :=
  if_neg h

/-- Noting it leaves what has been read. -/
theorem Locals.response_stamped (l : Locals) : (l.stamped env).response = l.response := by
  unfold Locals.stamped
  split <;> rfl

/-- **A turn of the loop** of which the piece is not empty: it takes as much of it as there
is room for, and is the last one if the buffer is full then. -/
theorem readReply_cons {piece : Bytes} (hpiece : piece ≠ []) (pieces : List Bytes) (l : Locals)
    (hroom : l.response.length < 4095) :
    readReply env (piece :: pieces) l =
      if 4095 ≤ l.response.length + piece.length then
        .ok () { l.stamped env with response := (l.response ++ piece).take 4095 }
      else readReply env pieces { l.stamped env with response := l.response ++ piece } := by
  have hget : (get : ProbeM Locals) l = .ok l l := rfl
  have hpos := List.length_pos_iff.mpr hpiece
  have hreceived : piece.take (4096 - l.response.length - 1) ≠ [] := by
    refine List.ne_nil_of_length_pos ?_
    rw [List.length_take]
    omega
  have hcut : (l.response ++ piece).take 4095 =
      l.response ++ piece.take (4096 - l.response.length - 1) := by
    rw [List.take_append, List.take_of_length_le hroom.le, Nat.sub_right_comm]
  rw [readReply, bind_of_ok hget, receive_eq hreceived, Locals.response_stamped, ← hcut,
    List.length_take]
  by_cases hfull : 4095 ≤ l.response.length + piece.length
  · rw [if_pos hfull, if_pos (by omega)]
  · have hwhole : (l.response ++ piece).take 4095 = l.response ++ piece := by
      refine List.take_of_length_le ?_
      rw [List.length_append]
      omega
    rw [if_neg hfull, if_neg (by omega), hwhole]

/-- **The loop appends the pieces**, up to the last byte of the buffer, and the time of the
first of them is noted if none has been. By induction on the pieces. -/
theorem readReply_eq (pieces : List Bytes) (hne : ∀ piece ∈ pieces, piece ≠ []) (l : Locals)
    (hfirst : l.firstByte = 0 → env.clock l.readings ≠ 0) (hroom : l.response.length < 4095) :
    readReply env pieces l = .ok ()
      (if pieces = [] then l
      else { l.stamped env with response := (l.response ++ pieces.flatten).take 4095 }) := by
  induction pieces generalizing l with
  | nil => rfl
  | cons piece pieces ih =>
    obtain ⟨hpiece, hpieces⟩ := List.forall_mem_cons.mp hne
    have hnonzero : (l.stamped env).firstByte ≠ 0 := by
      unfold Locals.stamped
      split
      next hzero => exact hfirst hzero
      next hzero => exact hzero
    rw [readReply_cons hpiece pieces l hroom, if_neg (List.cons_ne_nil _ _), List.flatten_cons,
      ← List.append_assoc]
    split
    next hfull =>
      have hcut : (l.response ++ piece ++ pieces.flatten).take 4095 =
          (l.response ++ piece).take 4095 :=
        List.take_append_of_le_length (by rwa [List.length_append])
      rw [hcut]
    next hfree =>
      have hlength : (l.response ++ piece).length < 4095 := by
        rw [List.length_append]
        omega
      have hstamped : Locals.stamped env { l.stamped env with response := l.response ++ piece } =
          { l.stamped env with response := l.response ++ piece } :=
        Locals.stamped_of_ne_zero hnonzero
      rw [ih hpieces { l.stamped env with response := l.response ++ piece }
        (fun hzero => absurd hzero hnonzero) hlength]
      split
      next hnil =>
        rw [hnil, List.flatten_nil, List.append_nil, List.take_of_length_le hlength.le]
      next => rw [hstamped]

/-- Pieces that are not empty are none exactly if they are pieces of nothing. -/
theorem eq_nil_iff_flatten {pieces : List Bytes} (hne : ∀ piece ∈ pieces, piece ≠ []) :
    pieces = [] ↔ pieces.flatten = [] := by
  constructor
  · rintro rfl
    rfl
  · intro hflatten
    refine List.eq_nil_iff_forall_not_mem.mpr fun piece hpiece => hne piece hpiece ?_
    exact List.flatten_eq_nil_iff.mp hflatten piece hpiece

/-- Of the environment, the loop knows the clock. -/
theorem readReply_with (ps pieces : List Bytes) :
    readReply { env with pieces := ps } pieces = readReply env pieces := by
  induction pieces with
  | nil => rfl
  | cons piece pieces ih =>
    rw [readReply, readReply, ih]
    rfl

/-- **The loop does not see how the reply has been split.** -/
theorem readReply_congr {pieces pieces' : List Bytes} (hne : ∀ piece ∈ pieces, piece ≠ [])
    (hne' : ∀ piece ∈ pieces', piece ≠ []) (hflatten : pieces.flatten = pieces'.flatten)
    (l : Locals) (hfirst : l.firstByte = 0 → env.clock l.readings ≠ 0)
    (hroom : l.response.length < 4095) : readReply env pieces l = readReply env pieces' l := by
  rw [readReply_eq pieces hne l hfirst hroom, readReply_eq pieces' hne' l hfirst hroom]
  simp only [eq_nil_iff_flatten hne, eq_nil_iff_flatten hne', hflatten]

end Pieces

/-! ### The probe -/

/-- What is known when the reading begins: nothing has been received, and the clock has been
read three times. -/
structure Locals.Unread (l : Locals) : Prop where
  response : l.response = []
  firstByte : l.firstByte = 0
  readings : l.readings = 3

section Probe

variable {env : ProbeEnv} {endpoint : Endpoint} {request : Bytes}

theorem unread_opening {u : Unit} {l : Locals}
    (h : opening env (.initial env) = .ok u l) : l.Unread := by
  rw [opening_eq] at h
  rcases htcp : env.tcpConnect with error | fd <;> rw [htcp] at h
  · cases h
  rcases hssl : env.sslNew with _ | _ <;> rw [hssl] at h
  · cases h
  rcases hconnect : env.sslConnect with queued | u <;> rw [hconnect] at h
  · cases h
  · cases h
    exact ⟨rfl, rfl, rfl⟩

theorem unread_asking :
    Keeps (fun l l' => l.Unread → l'.Unread) (asking env endpoint request) := by
  have htrans : ∀ l₁ l₂ l₃ : Locals, (l₁.Unread → l₂.Unread) → (l₂.Unread → l₃.Unread) →
      l₁.Unread → l₃.Unread := fun _ _ _ h h' => h' ∘ h
  have hstop : ∀ error, Keeps (fun l l' : Locals => l.Unread → l'.Unread)
      (do setError error; gotoFinished) := fun error =>
    Keeps.bind htrans (keeps_modify fun l hl => ⟨hl.response, hl.firstByte, hl.readings⟩) fun _ =>
      keeps_throw (fun _ => id) ()
  refine Keeps.bind htrans ?_ fun _ => ?_
  · refine Keeps.bind htrans
      (keeps_modify fun l hl => ⟨hl.response, hl.firstByte, hl.readings⟩) fun _ => ?_
    split
    · exact keeps_pure (fun _ => id) ()
    · exact hstop _
  · refine Keeps.bind htrans
      (keeps_modify fun l hl => ⟨hl.response, hl.firstByte, hl.readings⟩) fun _ => ?_
    cases env.sslWrite with
    | ok _ => exact keeps_pure (fun _ => id) ()
    | error queued => exact hstop _

/-- **What a probe knows when it is finished does not depend on the splitting of the
reply**, if the clock does not read zero when the first byte has arrived, which is how the
probe says that none has. -/
theorem probeLocals_pieces (env : ProbeEnv) (endpoint : Endpoint) (request : Bytes)
    {pieces pieces' : List Bytes} (hne : ∀ piece ∈ pieces, piece ≠ [])
    (hne' : ∀ piece ∈ pieces', piece ≠ []) (hflatten : pieces.flatten = pieces'.flatten)
    (hclock : env.clock 3 ≠ 0) :
    probeLocals { env with pieces := pieces } endpoint request =
      probeLocals { env with pieces := pieces' } endpoint request := by
  -- what comes before the reading does not know the pieces
  have hbody : ∀ ps, probeLocals { env with pieces := ps } endpoint request =
      final (opening env >>= fun _ => asking env endpoint request >>= fun _ =>
        answering { env with pieces := ps }) (.initial env) := fun ps => by
    rw [probeLocals, probeBody_eq]
    rfl
  rw [hbody, hbody, final_bind, final_bind]
  cases hopening : opening env (.initial env) with
  | error _ l => rfl
  | ok u l =>
    have hl := unread_opening hopening
    simp only [final_bind (asking env endpoint request)]
    cases hasking : asking env endpoint request l with
    | error _ l' => rfl
    | ok u l' =>
      have hl' : l'.Unread := unread_asking.ok hasking hl
      have hreading : readReply env pieces l' = readReply env pieces' l' := by
        refine readReply_congr hne hne' hflatten l' (fun _ => ?_) ?_
        · rw [hl'.readings]
          exact hclock
        · rw [hl'.response]
          decide
      show final (answering { env with pieces := pieces }) l' =
        final (answering { env with pieces := pieces' }) l'
      simp only [answering, readReply_with, final_bind (readReply env _), hreading]

/-- Nor does what it returns, writes and posts. -/
theorem probe_pieces (env : ProbeEnv) (options : ClientOptions) (endpoint : Endpoint)
    (sequence : ℕ) (record : Bool) {pieces pieces' : List Bytes}
    (hne : ∀ piece ∈ pieces, piece ≠ []) (hne' : ∀ piece ∈ pieces', piece ≠ [])
    (hflatten : pieces.flatten = pieces'.flatten) (hclock : env.clock 3 ≠ 0) :
    probe { env with pieces := pieces } options endpoint sequence record =
      probe { env with pieces := pieces' } options endpoint sequence record := by
  rw [probe_eq, probe_eq, finished, finished,
    probeLocals_pieces env endpoint _ hne hne' hflatten hclock]
  rfl

/-- The string in a buffer ends at its first zero. -/
theorem cString_append_zero (written rest : Bytes) :
    cString (written ++ 0 :: rest) = cString written := by
  unfold cString
  induction written with
  | nil => rfl
  | cons b written ih => rw [List.cons_append, List.takeWhile_cons, List.takeWhile_cons, ih]

/-- **The loop on the buffer is the one in the local variables**: what is searched for the
status line is the same string. -/
theorem cString_readReply {reply response : Bytes} {run : ReadRun}
    (hrun : run.Reads reply response) {l : Locals} (hl : l.Unread) (hclock : env.clock 3 ≠ 0) :
    cString (final (readReply env run.pieces) l).response = cString run.response := by
  have hroom : l.response.length < 4095 := by
    rw [hl.response]
    decide
  rw [hrun.response, cString_append_zero, final,
    readReply_eq run.pieces hrun.ne_nil l (fun _ => by rwa [hl.readings]) hroom]
  dsimp only
  split
  next hnil =>
    have hreply := hrun.pieces
    rw [hnil, List.flatten_nil] at hreply
    rw [← hreply, hl.response]
  next => rw [hl.response, List.nil_append, hrun.pieces, List.take_take, Nat.min_self]

end Probe

/-- **The reading does not depend on the boundaries of the records**: however a reply is
delivered, the loop ends after at most 4095 reads, none of which asks for nothing, has
written inside the buffer, and leaves the first 4095 bytes of the reply there; and what the
probe returns and reports is the same for every two ways of delivering it, the monotonic
clock not reading zero, which is how the probe says that no byte has come. -/
theorem reading_confluent (response : Vector UInt8 4096) :
    (∀ (ssl : Delivery) (reply : Bytes),
      ∃ run, readResponse ssl reply response.toList = some run ∧
        run.Reads reply response.toList) ∧
    ∀ (env : ProbeEnv) (options : ClientOptions) (endpoint : Endpoint) (sequence : ℕ)
      (record : Bool), env.clock 3 ≠ 0 →
      ∀ (reply : Bytes) (ssl ssl' : Delivery), ∀ run ∈ readResponse ssl reply response.toList,
        ∀ run' ∈ readResponse ssl' reply response.toList,
          probe { env with pieces := run.pieces } options endpoint sequence record =
            probe { env with pieces := run'.pieces } options endpoint sequence record := by
  have hlength : response.toList.length = 4096 := response.length_toList
  refine ⟨fun ssl reply => readResponse_eq ssl reply hlength,
    fun env options endpoint sequence record hclock reply ssl ssl' run hrun run' hrun' => ?_⟩
  obtain ⟨run₁, hrun₁, hreads⟩ := readResponse_eq ssl reply hlength
  obtain ⟨run₂, hrun₂, hreads'⟩ := readResponse_eq ssl' reply hlength
  obtain rfl := Option.some.inj (hrun₁.symm.trans hrun)
  obtain rfl := Option.some.inj (hrun₂.symm.trans hrun')
  exact probe_pieces env options endpoint sequence record hreads.ne_nil hreads'.ne_nil
    (hreads.pieces.trans hreads'.pieces.symm) hclock

/-- A delivery in pieces of one size, up to what is asked for and what is left. -/
def Delivery.inPieces (size : ℕ) : Delivery where
  deliver _ requested left := min (size + 1) (min requested left)
  pos _ _ _ hrequested hleft := by omega
  le_requested _ _ _ _ := by omega
  le_left _ _ _ := by omega

/-- The reply of a probe that goes well, delivered byte by byte and at once. -/
theorem reading_confluent_measured : ∃ run run' : ReadRun,
    readResponse (Delivery.inPieces 0) measured.pieces.flatten (Vector.replicate 4096 0).toList =
        some run ∧
      readResponse (Delivery.inPieces 4094) measured.pieces.flatten
          (Vector.replicate 4096 0).toList = some run' ∧
      probe { measured with pieces := run.pieces } (.default (lit "run-1"))
          ((ClientOptions.default (lit "run-1")).endpoint .hybrid) 1 true =
        probe { measured with pieces := run'.pieces } (.default (lit "run-1"))
          ((ClientOptions.default (lit "run-1")).endpoint .hybrid) 1 true := by
  obtain ⟨hreads, hconfluent⟩ := reading_confluent (Vector.replicate 4096 0)
  obtain ⟨run, hrun, -⟩ := hreads (Delivery.inPieces 0) measured.pieces.flatten
  obtain ⟨run', hrun', -⟩ := hreads (Delivery.inPieces 4094) measured.pieces.flatten
  exact ⟨run, run', hrun, hrun', hconfluent measured _ _ 1 true (by decide) _ _ _ run hrun run'
    hrun'⟩

end HybridTls
