import HybridTls.Routes
import HybridTls.Store.History
import HybridTls.Tls.Post
import HybridTls.Tls.RunBody
import HybridTls.Tls.ServerBody

/-!
# Messages to the dashboard

A message is what `post_json` sends: a path and a body, both of them bytes. The dashboard
finds the route by the path, reads the body as a dictionary, and takes from it the keys that
the route's model declares (`HybridTls.Message.request`).

Each of the four messages that the C programs send is read as the request that was meant:
`HybridTls.request_serverMessage`, `HybridTls.request_clientMessage`,
`HybridTls.request_runMessage` and `HybridTls.request_completeMessage`. So what one of them
can add to the history of the store is the post that was put into it
(`HybridTls.addedPost_client`, `HybridTls.addedPost_server`), and nothing if it is not a
measurement.
-/

namespace HybridTls

open Json

/-! ### Bodies -/

/-- A body as a dictionary. -/
def dictionary (body : Bytes) : Option (List (String × Json ℚ String)) :=
  match loads body with
  | some (.obj members) => some (mapMembers id text members)
  | _ => none

/-- What a dictionary has under a key: of several members with one name the last counts. -/
def member (d : List (String × Json ℚ String)) (name : String) : Option (Json ℚ String) :=
  (d.reverse.find? fun p => p.1 = name).map (·.2)

/-- A text as it is, or nothing for a null or a missing one. The conversions that a model
would make from values of other types are left out, here and below. -/
def asString : Option (Json ℚ String) → Option (Option String)
  | none | some .null => some none
  | some (.str s) => some (some s)
  | some _ => none

/-- An integer. -/
def asInteger : Option (Json ℚ String) → Option (Option ℤ)
  | none | some .null => some none
  | some (.num q) => if q.den = 1 then some (some q.num) else none
  | some _ => none

/-- A truth value. -/
def asBoolean : Option (Json ℚ String) → Option (Option Bool)
  | none | some .null => some none
  | some (.bool b) => some (some b)
  | some _ => none

/-- A text, where a null is told from a missing one. -/
def asNullable : Option (Json ℚ String) → Option (Option (Option String))
  | none => some none
  | some v => (asString (some v)).map some

/-- The keys of `RunCreate`. -/
def RunPayload.ofDictionary (d : List (String × Json ℚ String)) : Option RunPayload := do
  return {
    runId := ← asString (member d "run_id")
    clientName := ← asNullable (member d "client_name")
    opensslVersion := ← asString (member d "openssl_version")
    iterations := ← asInteger (member d "iterations")
    warmup := ← asInteger (member d "warmup")
    notes := ← asString (member d "notes") }

/-- The keys that both kinds of measurement share. -/
def SamplePayload.ofDictionary (d : List (String × Json ℚ String)) : Option SamplePayload := do
  return {
    sampleId := ← asString (member d "sample_id")
    runId := ← asString (member d "run_id")
    mode := ← asString (member d "mode")
    expectedGroup := ← asString (member d "expected_group")
    negotiatedGroup := ← asString (member d "negotiated_group")
    tlsVersion := ← asString (member d "tls_version")
    cipher := ← asString (member d "cipher") }

/-- The keys of `ServerMeasurement`. -/
def ServerPayload.ofDictionary (d : List (String × Json ℚ String)) : Option ServerPayload := do
  let sample ← SamplePayload.ofDictionary d
  return { sample with serverHandshakeUs := ← asInteger (member d "server_handshake_us") }

/-- The keys of `ClientMeasurement`. -/
def ClientPayload.ofDictionary (d : List (String × Json ℚ String)) : Option ClientPayload := do
  let sample ← SamplePayload.ofDictionary d
  return {
    sample with
    clientTcpUs := ← asInteger (member d "client_tcp_us")
    clientHandshakeUs := ← asInteger (member d "client_handshake_us")
    clientTtfbUs := ← asInteger (member d "client_ttfb_us")
    clientTotalUs := ← asInteger (member d "client_total_us")
    bytesSent := ← asInteger (member d "bytes_sent")
    bytesReceived := ← asInteger (member d "bytes_received")
    success := ← asBoolean (member d "success")
    error := ← asString (member d "error") }

/-! ### Paths -/

/-- A path parameter: a segment that is not empty. What it would be decoded from is left
out, so this is for segments without an escape. -/
def pathSegment (s : String) : Option PathSegment :=
  if h : s ≠ "" ∧ '/' ∉ s.toList then some ⟨s, h⟩ else none

/-- The run of `/api/runs/{run_id}/complete`. -/
def completedRun (path : Bytes) : Option PathSegment :=
  match path.splitOn 47 with
  | [root, api, runs, runId, complete] =>
    if root = [] ∧ api = lit "api" ∧ runs = lit "runs" ∧ complete = lit "complete" then
      pathSegment (text runId)
    else none
  | _ => none

/-- **A message**: the path and the body of a POST request. -/
structure Message where
  path : Bytes
  body : Bytes
  deriving DecidableEq, Repr

/-- The request a message is, if there is a route for it. -/
def Message.request (m : Message) : Option Request :=
  if m.path = lit "/api/runs" then
    some (.createRun ((dictionary m.body).bind RunPayload.ofDictionary))
  else if m.path = lit "/api/measurements/server" then
    some (.serverMeasurement ((dictionary m.body).bind ServerPayload.ofDictionary))
  else if m.path = lit "/api/measurements/client" then
    some (.clientMeasurement ((dictionary m.body).bind ClientPayload.ofDictionary))
  else (completedRun m.path).map .completeRun

/-! ### What the C programs send -/

/-- What `main` sends to create a run. -/
def ClientOptions.runMessage (options : ClientOptions) (version : Bytes) : Message :=
  ⟨lit "/api/runs", options.runJson version⟩

/-- What it sends to complete the run. -/
def ClientOptions.completeMessage (options : ClientOptions) : Message :=
  ⟨options.completePath, lit "\x7b\x7d"⟩

/-- What `record_client` sends. -/
def ClientValues.message (v : ClientValues) : Message := ⟨lit "/api/measurements/client", v.json⟩

/-- What `handle_connection` sends. -/
def Served.message (s : Served) (o : ServerOptions) : Message :=
  ⟨lit "/api/measurements/server", s.postBody o⟩

section Reading

@[simp] theorem asString_elim (s : Option String) :
    asString (some (s.elim .null .str)) = some s := by
  cases s <;> rfl

@[simp] theorem asString_str (s : String) : asString (some (.str s)) = some (some s) := rfl

@[simp] theorem asInteger_num (n : ℤ) : asInteger (some (.num n)) = some (some n) := by
  simp [asInteger]

@[simp] theorem asInteger_elim (n : Option ℤ) :
    asInteger (some (n.elim .null fun n => .num n)) = some n := by
  cases n with
  | none => rfl
  | some n => exact asInteger_num n

@[simp] theorem asBoolean_elim (b : Option Bool) :
    asBoolean (some (b.elim .null .bool)) = some b := by
  cases b <;> rfl

/-- **The members of a post are read as the post.** -/
theorem ofDictionary_server (p : ServerPost) :
    ServerPayload.ofDictionary p.members = some p.dump := by
  simp [ServerPayload.ofDictionary, SamplePayload.ofDictionary, ServerPost.members, member,
    ServerPost.dump, SamplePost.dump]

theorem ofDictionary_client (p : ClientPost) :
    ClientPayload.ofDictionary p.members = some p.dump := by
  simp [ClientPayload.ofDictionary, SamplePayload.ofDictionary, ClientPost.members, member,
    ClientPost.dump, SamplePost.dump]

theorem ofDictionary_run (p : RunPost) : RunPayload.ofDictionary p.members = some p.dump := by
  obtain ⟨runId, clientName, opensslVersion, iterations, warmup, notes⟩ := p
  cases clientName <;>
    simp [RunPayload.ofDictionary, RunPost.members, member, asNullable, RunPost.dump]

/-- A body that says what the members are is read as the members. -/
theorem dictionary_of_loads {body : Bytes} {members : List (String × Json ℚ String)}
    (h : (loads body).map (Json.map id text) = some (.obj members)) :
    dictionary body = some members := by
  obtain ⟨value, hvalue, hmap⟩ := Option.map_eq_some_iff.mp h
  unfold dictionary
  rw [hvalue]
  cases value with
  | obj fields =>
    rw [Json.map, Json.obj.injEq] at hmap
    exact congrArg some hmap
  | _ => simp [Json.map] at hmap

end Reading

section Requests

variable {options : ClientOptions} {v : ClientValues} {s : Served} {o : ServerOptions}

theorem request_runMessage (h : options.Accepted) (version : Bytes) :
    (options.runMessage version).request =
      some (.createRun (some (options.runPost version).dump)) := by
  have hbody := dictionary_of_loads (runJson_roundTrips h version).2
  rw [Message.request, ClientOptions.runMessage, if_pos rfl]
  simp only [hbody, Option.bind_some, ofDictionary_run]

theorem request_serverMessage (h : s.Fits o) :
    (s.message o).request = some (.serverMeasurement (some (s.post o).dump)) := by
  have hbody : dictionary (s.postBody o) = some (s.post o).members := by
    refine dictionary_of_loads ?_
    rw [h.roundTrips.fields, Option.map_some, Json.map, mapMembers_postFields]
  have hpath : lit "/api/measurements/server" ≠ lit "/api/runs" := by decide +kernel
  rw [Message.request, Served.message, if_neg hpath, if_pos rfl]
  simp only [hbody, Option.bind_some, ofDictionary_server]

theorem request_clientMessage (h : v.Fits) :
    v.message.request = some (.clientMeasurement (some v.post.dump)) := by
  have hbody : dictionary v.json = some v.post.members := by
    refine dictionary_of_loads ?_
    rw [(json_roundTrips h).fields, Option.map_some, Json.map, mapMembers_fields h.error]
  have hpath : lit "/api/measurements/client" ≠ lit "/api/runs" ∧
      lit "/api/measurements/client" ≠ lit "/api/measurements/server" := by
    decide +kernel
  rw [Message.request, ClientValues.message, if_neg hpath.1, if_neg hpath.2, if_pos rfl]
  simp only [hbody, Option.bind_some, ofDictionary_client]

/-- The identifier of a run is a segment of a path. -/
theorem pathSegment_text (h : validIdentifier options.runId) :
    text options.runId ≠ "" ∧ '/' ∉ (text options.runId).toList := by
  obtain ⟨hpos, -, hall⟩ := validIdentifier_iff.mp h
  refine ⟨fun hempty => ?_, fun hmem => ?_⟩
  · have hlen := congrArg String.length hempty
    rw [length_text] at hlen
    exact absurd hlen (by simpa using Nat.ne_of_gt hpos)
  · obtain ⟨b, hb, hchar⟩ := List.mem_map.mp (by simpa [text] using hmem)
    have hslash : ∀ b : UInt8, isIdentifierByte b → char b ≠ '/' :=
      forall_byte (by decide +kernel)
    exact hslash b (hall b hb) hchar

theorem request_completeMessage (h : options.Accepted) :
    options.completeMessage.request =
      some (.completeRun ⟨text options.runId, pathSegment_text h.runId⟩) := by
  obtain ⟨-, -, hall⟩ := validIdentifier_iff.mp h.runId
  have hslash : 47 ∉ options.runId := fun hmem => absurd (hall 47 hmem) (by decide)
  -- the segments of the path are joined by slashes, and none contains one
  have hjoin : options.completePath =
      [(47 : UInt8)].intercalate [[], lit "api", lit "runs", options.runId, lit "complete"] := by
    have hfront : lit "/api/runs/" = 47 :: (lit "api" ++ 47 :: (lit "runs" ++ [47])) := by
      decide +kernel
    have hback : lit "/complete" = 47 :: lit "complete" := by decide +kernel
    rw [completePath_eq h, hfront, hback]
    simp [List.intercalate]
  have hsegments : ∀ l ∈ [[], lit "api", lit "runs", options.runId, lit "complete"],
      (47 : UInt8) ∉ l := by
    simp only [List.forall_mem_cons, List.not_mem_nil, false_implies, implies_true, and_true]
    exact ⟨by simp, by decide +kernel, by decide +kernel, hslash, by decide +kernel⟩
  have hsplit : options.completePath.splitOn 47 =
      [[], lit "api", lit "runs", options.runId, lit "complete"] := by
    rw [hjoin, List.splitOn_intercalate 47 hsegments (by simp)]
  -- the other paths have fewer of them
  have hpath : ∀ p ∈ [lit "/api/runs", lit "/api/measurements/server",
      lit "/api/measurements/client"], options.completePath ≠ p := by
    have hfewer : ∀ p ∈ [lit "/api/runs", lit "/api/measurements/server",
        lit "/api/measurements/client"], (p.splitOn 47).length ≠ 5 := by
      decide +kernel
    rintro p hp heq
    exact hfewer p hp (by rw [← heq, hsplit]; rfl)
  simp only [List.forall_mem_cons] at hpath
  obtain ⟨hruns, hserver, hclient, -⟩ := hpath
  have hrun : completedRun options.completePath =
      some ⟨text options.runId, pathSegment_text h.runId⟩ := by
    rw [completedRun, hsplit]
    exact (if_pos ⟨rfl, rfl, rfl, rfl⟩).trans (dif_pos (pathSegment_text h.runId))
  rw [Message.request, ClientOptions.completeMessage, if_neg hruns, if_neg hserver,
    if_neg hclient, hrun]
  rfl

end Requests

/-! ### What the dashboard makes of them -/

/-- The operation a message calls, if it passes validation. -/
def Message.op? (m : Message) : Option Op := (m.request.bind Request.op?).map Prod.fst

/-- The dashboard processes a message: one without a route changes nothing. -/
def process (clock : ℕ → Timestamp) (w : World) (m : Message) (fault : ℕ → Option DbError) :
    World :=
  m.request.elim w fun request => (respond clock w request fault).2

/-- The post that a message adds to the history, if it adds one. -/
def addedPost (clock : ℕ → Timestamp) (w : World) (m : Message) (fault : ℕ → Option DbError) :
    Option Post :=
  m.op?.bind fun op => acceptedPost clock w ⟨op, fault⟩

/-- The status code of an answer. -/
def Response.status : Response → Bytes
  | .ok status _ => decimal status
  | .unprocessable => lit "422"
  | .serverError _ => lit "500"

/-- The status code that a message is answered with. -/
def answerStatus (clock : ℕ → Timestamp) (w : World) (m : Message) (fault : ℕ → Option DbError) :
    Bytes :=
  m.request.elim (lit "404") fun request => (respond clock w request fault).1.status

/-- The status codes of all the answers there are. -/
def answerStatuses : List Bytes := [lit "200", lit "201", lit "404", lit "422", lit "500"]

section Process

variable {clock : ℕ → Timestamp} {w : World} {m : Message} {fault : ℕ → Option DbError}
  {h : List Post} {v : ClientValues} {s : Served} {o : ServerOptions} {p : Post}

/-- **A message is the call of its operation**, or nothing. -/
theorem process_eq (clock : ℕ → Timestamp) (w : World) (m : Message)
    (fault : ℕ → Option DbError) :
    process clock w m fault = m.op?.elim w fun op => (exec clock w ⟨op, fault⟩).2 := by
  unfold process Message.op?
  cases m.request with
  | none => rfl
  | some request =>
    rw [Option.elim_some, snd_respond, Option.bind_some]
    cases request.op? <;> rfl

/-- What `respond` answers. -/
theorem fst_respond (clock : ℕ → Timestamp) (w : World) (request : Request)
    (fault : ℕ → Option DbError) :
    (respond clock w request fault).1 = request.op?.elim .unprocessable fun op =>
      match (exec clock w ⟨op.1, fault⟩).1 with
      | .ok _ => op.2
      | .error e => .serverError e := by
  unfold respond
  cases request.op? with
  | none => rfl
  | some op =>
    simp only [Option.elim_some]
    cases exec clock w ⟨op.1, fault⟩ with
    | mk result w' => cases result <;> rfl

/-- The answer of an operation that returns is a success. -/
theorem status_of_op? {request : Request} {op : Op} {answer : Response}
    (h : request.op? = some (op, answer)) :
    ∃ id, answer = .ok 200 id ∨ answer = .ok 201 id := by
  cases request with
  | completeRun runId =>
    obtain ⟨-, rfl⟩ := Prod.mk.inj (Option.some.inj h)
    exact ⟨_, Or.inl rfl⟩
  | createRun body =>
    simp only [Request.op?, Option.bind_eq_bind, Option.bind_eq_some_iff, Option.pure_def,
      Option.some.injEq, Prod.mk.injEq] at h
    obtain ⟨-, -, m, -, -, rfl⟩ := h
    exact ⟨_, Or.inr rfl⟩
  | serverMeasurement body =>
    simp only [Request.op?, Option.bind_eq_bind, Option.bind_eq_some_iff, Option.pure_def,
      Option.some.injEq, Prod.mk.injEq] at h
    obtain ⟨-, -, m, -, -, rfl⟩ := h
    exact ⟨_, Or.inr rfl⟩
  | clientMeasurement body =>
    simp only [Request.op?, Option.bind_eq_bind, Option.bind_eq_some_iff, Option.pure_def,
      Option.some.injEq, Prod.mk.injEq] at h
    obtain ⟨-, -, m, -, -, rfl⟩ := h
    exact ⟨_, Or.inr rfl⟩

/-- **An answer says what has been done**: it is one of the five there are, and a success
exactly if the operation has returned. -/
theorem answerStatus_spec :
    answerStatus clock w m fault ∈ answerStatuses ∧
      (IsSuccess (answerStatus clock w m fault) ↔
        ∃ op ∈ m.op?, (exec clock w ⟨op, fault⟩).1 = .ok ()) := by
  have hother : ∀ status ∈ [lit "404", lit "422", lit "500"],
      status ∈ answerStatuses ∧ ¬ IsSuccess status := by
    decide +kernel
  have hdone : ∀ status ∈ [decimal 200, decimal 201],
      status ∈ answerStatuses ∧ IsSuccess status := by
    decide +kernel
  simp only [List.forall_mem_cons] at hother hdone
  obtain ⟨hmissing, hinvalid, herror, -⟩ := hother
  obtain ⟨hok, hcreated, -⟩ := hdone
  unfold answerStatus Message.op?
  cases m.request with
  | none => exact ⟨hmissing.1, iff_of_false hmissing.2 (by rintro ⟨_, ⟨⟩, _⟩)⟩
  | some request =>
    rw [Option.elim_some, fst_respond, Option.bind_some]
    cases hop : request.op? with
    | none => exact ⟨hinvalid.1, iff_of_false hinvalid.2 (by rintro ⟨_, ⟨⟩, _⟩)⟩
    | some pair =>
      obtain ⟨op, answer⟩ := pair
      simp only [Option.elim_some, Option.map_some, Option.mem_some_iff, exists_eq_left']
      cases hres : (exec clock w ⟨op, fault⟩).1 with
      | error e => exact ⟨herror.1, iff_of_false herror.2 (by simp)⟩
      | ok u =>
        obtain ⟨id, rfl | rfl⟩ := status_of_op? hop
        · exact ⟨hok.1, iff_of_true hok.2 rfl⟩
        · exact ⟨hcreated.1, iff_of_true hcreated.2 rfl⟩

/-- The table tracks the history behind a message too. -/
theorem Tracks.process (hw : Tracks h w.store.measurements) :
    Tracks (h ++ (addedPost clock w m fault).toList)
      (process clock w m fault).store.measurements := by
  rw [process_eq, addedPost]
  cases m.op? with
  | none => simpa using hw
  | some op => exact hw.exec

/-- A message adds nothing but the post of its operation. -/
theorem post?_of_addedPost (hp : p ∈ addedPost clock w m fault) :
    ∃ op ∈ m.op?, op.post? = some p := by
  obtain ⟨op, hop, hp⟩ := Option.bind_eq_some_iff.mp hp
  refine ⟨op, hop, ?_⟩
  unfold acceptedPost at hp
  split at hp
  · exact hp
  · cases hp

/-- A client's message, if it passes validation. -/
theorem op?_clientMessage (hv : v.Fits) :
    v.message.op? = (ClientMeasurement.validate v.post.dump).map fun _ =>
      (Post.client v.post).op := by
  rw [Message.op?, request_clientMessage hv, Option.bind_some]
  simp only [Request.op?, Option.bind_eq_bind, Option.bind_some]
  cases hvalid : ClientMeasurement.validate v.post.dump with
  | none => rfl
  | some x =>
    have hpost := ClientMeasurement.validate_eq_some_iff.mp hvalid
    rw [Option.map_some, Post.op, hpost]
    rfl

theorem op?_serverMessage (hs : s.Fits o) :
    (s.message o).op? = (ServerMeasurement.validate (s.post o).dump).map fun _ =>
      (Post.server (s.post o)).op := by
  rw [Message.op?, request_serverMessage hs, Option.bind_some]
  simp only [Request.op?, Option.bind_eq_bind, Option.bind_some]
  cases hvalid : ServerMeasurement.validate (s.post o).dump with
  | none => rfl
  | some x =>
    have hpost := ServerMeasurement.validate_eq_some_iff.mp hvalid
    rw [Option.map_some, Post.op, hpost]
    rfl

/-- **What a client's message adds is what the client has measured.** -/
theorem addedPost_client (hv : v.Fits) (hp : p ∈ addedPost clock w v.message fault) :
    p = .client v.post := by
  obtain ⟨op, hop, hpost⟩ := post?_of_addedPost hp
  rw [op?_clientMessage hv] at hop
  obtain ⟨-, -, rfl⟩ := Option.map_eq_some_iff.mp hop
  rw [Post.post?_op] at hpost
  exact (Option.some.inj hpost).symm

/-- **What a server's message adds is what the server has measured.** -/
theorem addedPost_server (hs : s.Fits o) (hp : p ∈ addedPost clock w (s.message o) fault) :
    p = .server (s.post o) := by
  obtain ⟨op, hop, hpost⟩ := post?_of_addedPost hp
  rw [op?_serverMessage hs] at hop
  obtain ⟨-, -, rfl⟩ := Option.map_eq_some_iff.mp hop
  rw [Post.post?_op] at hpost
  exact (Option.some.inj hpost).symm

variable {options : ClientOptions}

/-- The message that creates a run does that, if it passes validation. -/
theorem eq_of_mem_op?_runMessage (hopt : options.Accepted) {version : Bytes} {op : Op}
    (hop : op ∈ (options.runMessage version).op?) :
    op = .createRun (options.runPost version).dump := by
  rw [Message.op?, request_runMessage hopt, Option.bind_some] at hop
  obtain ⟨pair, hpair, rfl⟩ := Option.map_eq_some_iff.mp hop
  simp only [Request.op?, Option.bind_eq_bind, Option.bind_some, Option.bind_eq_some_iff,
    Option.pure_def, Option.some.injEq] at hpair
  obtain ⟨x, hx, rfl⟩ := hpair
  -- validation alters nothing
  suffices hpost : x.post = options.runPost version by rw [hpost]
  simp only [RunCreate.validate, ClientOptions.runPost, RunPost.dump, Option.bind_eq_bind,
    Option.getD_some, Option.bind_some, Option.bind_eq_some_iff, check_eq_some_iff,
    checkOptional_eq_some_iff, Option.pure_def, Option.some.injEq] at hx
  obtain ⟨id, hid, name, hname, v, hv, n, hn, w, hw, notes, hnotes, rfl⟩ := hx
  simp only [RunCreate.post, hid, hname, hv, hn, hw, hnotes, ClientOptions.runPost]

/-- The message that completes a run does that. -/
theorem op?_completeMessage (hopt : options.Accepted) :
    options.completeMessage.op? = some (.completeRun (text options.runId)) := by
  rw [Message.op?, request_completeMessage hopt]
  rfl

end Process

end HybridTls
