import HybridTls.Tls.Measurement
import HybridTls.Tls.Opening

/-!
# The subtractions behind a probe

When a probe is finished and records, it posts four durations, and prints a line that has
two of them. All of them are differences of readings of the clock, taken modulo 2⁶⁴
(`HybridTls.Difference`). The time of the handshake is computed twice: what is posted is
guarded – without a handshake behind the connection it is zero – and what is printed is
not.

Of a clock that does not go back, none of the subtractions that are posted wraps around
(`HybridTls.exact_of_mem_posted`); the printed one does, exactly if no handshake has been
tried and connecting took a microsecond or more (`HybridTls.unwrapped_iff`).
-/

namespace HybridTls

/-! ### Differences -/

/-- An unsigned subtraction of two times. -/
structure Difference where
  minuend : UInt64
  subtrahend : UInt64
  deriving DecidableEq, Repr

/-- Its result. -/
def Difference.value (d : Difference) : UInt64 := d.minuend - d.subtrahend

/-- **It does not wrap around.** -/
def Difference.Exact (d : Difference) : Prop := d.subtrahend ≤ d.minuend

/-- This is to say that the result is the difference of the numbers. -/
theorem Difference.exact_iff {d : Difference} :
    d.Exact ↔ (d.value.toNat : ℤ) = d.minuend.toNat - d.subtrahend.toNat := by
  rw [Difference.Exact, UInt64.le_iff_toNat_le]
  constructor
  · intro hle
    rw [Difference.value, UInt64.toNat_sub_of_le _ _ (UInt64.le_iff_toNat_le.mpr hle)]
    omega
  · intro hvalue
    have hnonneg : (0 : ℤ) ≤ d.value.toNat := Int.natCast_nonneg _
    omega

/-! ### What is computed behind the label -/

/-- The time to connect. -/
def Locals.tcp (l : Locals) : Difference := ⟨l.connected, l.started⟩

/-- The time of the handshake. -/
def Locals.handshake (l : Locals) : Difference := ⟨l.handshakeDone, l.connected⟩

/-- The time to the first byte. -/
def Locals.ttfb (l : Locals) : Difference := ⟨l.firstByte, l.started⟩

/-- The total time; the clock is read once more. -/
def Locals.total (l : Locals) (env : ProbeEnv) : Difference := ⟨env.clock l.readings, l.started⟩

/-- The subtractions in the arguments of `record_client`, those in a conditional only if
they are evaluated. -/
def Locals.postedDifferences (l : Locals) (env : ProbeEnv) : List Difference :=
  l.tcp :: (if l.connected ≤ l.handshakeDone then [l.handshake] else []) ++
    (if l.firstByte = 0 then [] else [l.ttfb]) ++ [l.total env]

/-- The subtractions in the arguments of `printf`. -/
def Locals.printedDifferences (l : Locals) (env : ProbeEnv) : List Difference :=
  [l.handshake, l.total env]

/-- The values that are posted are the results of these. -/
theorem values_eq (l : Locals) (env : ProbeEnv) (options : ClientOptions) (endpoint : Endpoint)
    (sampleId : Bytes) :
    let v := l.values env options endpoint sampleId
    v.tcpUs = l.tcp.value ∧
      v.handshakeUs = (if l.connected ≤ l.handshakeDone then l.handshake.value else 0) ∧
      v.ttfbUs = (if l.firstByte = 0 then 0 else l.ttfb.value) ∧
      v.totalUs = (l.total env).value :=
  ⟨rfl, rfl, rfl, rfl⟩

/-- **The line that is printed**; the times are divided by 1000 in it. -/
structure ProgressLine where
  mode : Bytes
  sequence : ℕ
  iterations : ℤ
  handshakeUs : UInt64
  totalUs : UInt64
  outcome : Bytes
  deriving DecidableEq, Repr

/-- The line of a probe that is finished. -/
def Locals.progress (l : Locals) (env : ProbeEnv) (options : ClientOptions) (endpoint : Endpoint)
    (sequence : ℕ) : ProgressLine where
  mode := endpoint.mode
  sequence := sequence
  iterations := options.iterations
  handshakeUs := l.handshake.value
  totalUs := (l.total env).value
  outcome := if l.success then lit "OK" else l.connectionError

/-- What `probe` prints. -/
def probePrinted (env : ProbeEnv) (options : ClientOptions) (endpoint : Endpoint) (sequence : ℕ)
    (record : Bool) : Option ProgressLine :=
  if record then
    some ((finished env options endpoint sequence record).progress env options endpoint sequence)
  else none

/-- The subtractions of times that `probe` evaluates. -/
def probeDifferences (env : ProbeEnv) (options : ClientOptions) (endpoint : Endpoint)
    (sequence : ℕ) (record : Bool) : List Difference :=
  if record then
    let l := finished env options endpoint sequence record
    l.postedDifferences env ++ l.printedDifferences env
  else []

/-- **No duration wraps around**, and the time of the handshake that is printed is the one
that is posted. -/
structure Unwrapped (env : ProbeEnv) (options : ClientOptions) (endpoint : Endpoint)
    (sequence : ℕ) (record : Bool) : Prop where
  exact : ∀ d ∈ probeDifferences env options endpoint sequence record, d.Exact
  handshake : ∀ v ∈ (probe env options endpoint sequence record).posted,
    ∀ line ∈ probePrinted env options endpoint sequence record, line.handshakeUs = v.handshakeUs

section Unwrapped

variable {env : ProbeEnv} {l : Locals}

theorem Locals.Timed.tcp_exact (h : l.Timed env) : l.tcp.Exact := h.connected

theorem Locals.Timed.total_exact (h : l.Timed env) : (l.total env).Exact :=
  UInt64.le_trans h.connected (h.past l.readings (Nat.le_refl _)).1

/-- What is posted never wraps around. -/
theorem exact_of_mem_posted (h : l.Timed env) {d : Difference}
    (hd : d ∈ l.postedDifferences env) : d.Exact := by
  simp only [Locals.postedDifferences, List.cons_append, List.mem_cons, List.mem_append,
    List.not_mem_nil, or_false] at hd
  rcases hd with rfl | (hd | hd) | rfl
  · exact h.tcp_exact
  · split at hd
    next hguard =>
      obtain rfl := List.mem_singleton.mp hd
      exact hguard
    next => cases hd
  · split at hd
    next => cases hd
    next hguard =>
      obtain rfl := List.mem_singleton.mp hd
      exact h.firstByte.resolve_left hguard
  · exact h.total_exact

/-- **The time of the handshake wraps around** if none has been tried, unless connecting
took no time. -/
theorem Locals.Opened.handshake_exact_iff (h : l.Opened env)
    (hclock : ∀ i j, i ≤ j → env.clock i ≤ env.clock j) :
    l.handshake.Exact ↔ env.Shakes ∨ env.clock 0 = env.clock 1 := by
  show l.connected ≤ l.handshakeDone ↔ _
  rw [h.connected]
  by_cases hshakes : env.Shakes
  · rw [h.shaken hshakes]
    exact iff_of_true (hclock 1 2 (by decide)) (Or.inl hshakes)
  · rw [h.unshaken hshakes]
    constructor
    · intro hle
      exact Or.inr (UInt64.le_antisymm (hclock 0 1 (by decide)) hle)
    · rintro (hs | heq)
      · exact absurd hs hshakes
      · rw [heq]
        exact UInt64.le_refl _

end Unwrapped

/-- **When no duration of a probe wraps around.** -/
theorem unwrapped_iff (env : ProbeEnv) (options : ClientOptions) (endpoint : Endpoint)
    (sequence : ℕ) (record : Bool) (hclock : ∀ i j, i ≤ j → env.clock i ≤ env.clock j) :
    Unwrapped env options endpoint sequence record ↔
      record = false ∨ env.Shakes ∨ env.clock 0 = env.clock 1 := by
  cases record with
  | false =>
    refine iff_of_true ⟨?_, ?_⟩ (Or.inl rfl)
    · rintro d ⟨⟩
    · rintro v ⟨⟩
  | true =>
    have htimed : (finished env options endpoint sequence true).Timed env :=
      timed_probeLocals hclock
    have hopened : (finished env options endpoint sequence true).Opened env := opened_probeLocals
    rw [← hopened.handshake_exact_iff hclock, or_iff_right (Ne.symm Bool.false_ne_true)]
    constructor
    · intro h
      refine h.exact _ (List.mem_append_right _ ?_)
      exact List.mem_cons_self
    · intro hexact
      refine ⟨fun d hd => ?_, ?_⟩
      · rcases List.mem_append.mp hd with hd | hd
        · exact exact_of_mem_posted htimed hd
        · rcases List.mem_pair.mp hd with rfl | rfl
          · exact hexact
          · exact htimed.total_exact
      · rintro _ ⟨⟩ _ ⟨⟩
        exact (if_pos hexact).symm

/-- None does of a probe that goes well. -/
theorem unwrapped_measured : Unwrapped measured (.default (lit "run-1"))
    ((ClientOptions.default (lit "run-1")).endpoint .hybrid) 1 true :=
  (unwrapped_iff measured _ _ 1 true monotone_clock_measured).mpr
    (Or.inr (Or.inl ⟨⟨4, rfl⟩, rfl⟩))

/-- An endpoint that refuses the connection, after a millisecond. -/
def refused : ProbeEnv :=
  { measured with tcpConnect := .error (lit "connect: Connection refused") }

/-- The time of a handshake that has not been tried is posted as zero, and printed as what
is 1000 below 2⁶⁴. -/
theorem not_unwrapped :
    ¬ ∀ (env : ProbeEnv) (options : ClientOptions) (endpoint : Endpoint) (sequence : ℕ)
      (record : Bool), (∀ i j, i ≤ j → env.clock i ≤ env.clock j) →
        Unwrapped env options endpoint sequence record := by
  intro h
  have hrefused := h refused (.default (lit "run-1"))
    ((ClientOptions.default (lit "run-1")).endpoint .hybrid) 1 true monotone_clock_measured
  have hprinted : (18446744073709550616 : UInt64) = 0 := hrefused.handshake _ rfl _ rfl
  exact absurd hprinted (by decide)

end HybridTls
