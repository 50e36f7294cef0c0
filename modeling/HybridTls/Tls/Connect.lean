import HybridTls.Tls.Strings

/-!
# Connecting

`tcp_connect_host`: look the host up, and try its addresses in order until one answers.

Whatever happens, the descriptors that were opened are closed again but for the one that
is returned (`HybridTls.connectLoop_eq`), and a failure comes with a text
(`HybridTls.error_tcpConnectHost_ne_nil`).
-/

namespace HybridTls

/-- An address that `getaddrinfo` found: the descriptor `socket` opens for it, if it does,
and whether `connect` succeeds. -/
structure Address where
  socket : Option ℕ
  connects : Bool
  deriving DecidableEq, Repr

/-- **What a connection attempt meets.** -/
structure ConnectEnv where
  /-- `getaddrinfo`: the addresses, or the text of `gai_strerror`. -/
  addresses : Except Bytes (List Address)
  /-- The text of `strerror(errno)` behind the loop. -/
  strerror : Bytes

/-- What `tcp_connect_host` leaves behind. -/
structure Connection where
  /-- The descriptor, or the text for the error buffer. -/
  result : Except Bytes ℕ
  /-- The descriptors closed. -/
  closed : List ℕ

/-- The loop over the addresses: the descriptor that is connected, if any is, and those
that were closed. -/
def connectLoop : List Address → Option ℕ × List ℕ
  | [] => (none, [])
  | current :: rest =>
    match current.socket with
    | none => connectLoop rest
    | some socketFd =>
      if current.connects then (some socketFd, [])
      else
        let (found, closed) := connectLoop rest
        (found, socketFd :: closed)

/-- `tcp_connect_host`. -/
def tcpConnectHost (env : ConnectEnv) : Connection :=
  match env.addresses with
  | .error status => ⟨.error (lit "getaddrinfo: " ++ status), []⟩
  | .ok results =>
    match connectLoop results with
    | (some socketFd, closed) => ⟨.ok socketFd, closed⟩
    | (none, closed) => ⟨.error (lit "connect: " ++ env.strerror), closed⟩

/-- An address answers. -/
def Address.answers (a : Address) : Bool := a.socket.isSome && a.connects

/-- **The loop stops at the first address that answers**, and has closed what was opened
for those before it. -/
theorem connectLoop_eq (results : List Address) :
    connectLoop results = ((results.find? (·.answers)).bind (·.socket),
      (results.takeWhile fun a => !a.answers).filterMap (·.socket)) := by
  induction results with
  | nil => rfl
  | cons current rest ih =>
    obtain ⟨socket, connects⟩ := current
    rw [connectLoop, ih]
    cases socket with
    | none => simp [Address.answers]
    | some socketFd => cases connects <;> simp [Address.answers]

/-- A failure has a text. -/
theorem error_tcpConnectHost_ne_nil {env : ConnectEnv} {error : Bytes}
    (h : (tcpConnectHost env).result = .error error) : error ≠ [] := by
  have hlookup : lit "getaddrinfo: " ≠ [] := by decide
  have hconnect : lit "connect: " ≠ [] := by decide
  unfold tcpConnectHost at h
  split at h
  next =>
    obtain rfl := Except.error.inj h
    exact List.append_ne_nil_of_left_ne_nil hlookup _
  next =>
    split at h
    next => cases h
    next =>
      obtain rfl := Except.error.inj h
      exact List.append_ne_nil_of_left_ne_nil hconnect _

end HybridTls
