import HybridTls.Lib.Calendar
import HybridTls.Tls.RunBody
import HybridTls.Tls.SampleId

/-!
# The identifier of a run that is given none

`default_run_id` of the benchmark client: the second in which the process has started, and its
number.

Both are written in such a way that they can be read back, and what is written is an
identifier that every gate of the dashboard lets through
(`HybridTls.isIdentifier_defaultRunId`). So two processes that are given no identifier share
one exactly if they have the same number and have started in the same second, and so it is
with the samples of their runs (`HybridTls.defaultRunId_separates`). Two processes with one
number are possible where they do not run on one machine, as in containers.
-/

namespace HybridTls

open Calendar

/-! ### The code -/

/-- A number of a time, with zeros in front. -/
def numeral (width n : ℕ) : Bytes := (Decimal.padded width n).map byte

/-- What `strftime` writes of the time in UTC that `gmtime_r` has made of the clock. -/
def runStamp (now : DateTime) : Bytes :=
  lit "run-" ++ (numeral 4 now.year ++ (numeral 2 now.month ++ (numeral 2 now.day ++
    (lit "T" ++ (numeral 2 now.hour ++ (numeral 2 now.minute ++ (numeral 2 now.second ++
      lit "Z")))))))

/-- `default_run_id`, in a buffer of 128 bytes; the number of the process is a `long`. -/
def defaultRunId (now : DateTime) (pid : Int64) : Bytes :=
  runStamp now ++ snprintf (128 - (runStamp now).length) (lit "-" ++ signedDecimal pid.toInt)

/-! ### Numerals -/

theorem ascii_of_isDigit {c : Char} (h : c.isDigit) : c.toNat < 128 := by
  have := toNat_of_isDigit h
  omega

theorem numeral_injective (width : ℕ) : Function.Injective (numeral width) := by
  intro m n h
  have hchars := congrArg (List.map char) h
  rw [numeral, numeral,
    map_char_map_byte fun c hc => ascii_of_isDigit (Decimal.isDigit_of_mem_padded hc),
    map_char_map_byte fun c hc => ascii_of_isDigit (Decimal.isDigit_of_mem_padded hc)] at hchars
  exact Decimal.padded_injective width hchars

theorem length_numeral {width n : ℕ} (hwidth : 0 < width) (hn : n < 10 ^ width) :
    (numeral width n).length = width := by
  rw [numeral, List.length_map, Decimal.length_padded_eq hwidth hn]

/-- The bytes of a digit may stand in an identifier. -/
theorem isIdentifierByte_of_isDigit {c : Char} (h : c.isDigit) : isIdentifierByte (byte c) := by
  obtain ⟨hlo, hhi⟩ := toNat_of_isDigit h
  have hbyte : (byte c).toNat = c.toNat := by
    change c.toNat % 256 = c.toNat
    omega
  have hdigit : (48 : UInt8) ≤ byte c ∧ byte c ≤ 57 := by
    rw [UInt8.le_iff_toNat_le, UInt8.le_iff_toNat_le, hbyte]
    exact ⟨hlo, hhi⟩
  simp [isIdentifierByte, hdigit]

/-- `%ld` writes the numeral of a number. -/
theorem signedDecimal_eq (n : ℤ) : signedDecimal n = (Decimal.signed n).map byte := by
  rw [signedDecimal, Decimal.signed]
  split
  · rw [List.map_cons]
    rfl
  · rfl

theorem ascii_signed (n : ℤ) : ∀ c ∈ Decimal.signed n, c = '-' ∨ c.isDigit := by
  intro c hc
  have hdigit : ∀ k, c ∈ Nat.toDigits 10 k → c.isDigit := fun k h =>
    Nat.isDigit_of_mem_toDigits (by decide) (by decide) h
  unfold Decimal.signed at hc
  split at hc
  · rcases List.mem_cons.mp hc with rfl | hc
    · exact Or.inl rfl
    · exact Or.inr (hdigit _ hc)
  · exact Or.inr (hdigit _ hc)

theorem signedDecimal_injective : Function.Injective signedDecimal := by
  intro m n h
  have hascii : ∀ k, ∀ c ∈ Decimal.signed k, c.toNat < 128 := by
    intro k c hc
    rcases ascii_signed k c hc with rfl | hc
    · decide
    · exact ascii_of_isDigit hc
  have hchars := congrArg (List.map char) h
  rw [signedDecimal_eq, signedDecimal_eq, map_char_map_byte (hascii m),
    map_char_map_byte (hascii n)] at hchars
  exact Decimal.signed_injective hchars

/-- The number of a process has at most 19 digits. -/
theorem length_signedDecimal_le (pid : Int64) : (signedDecimal pid.toInt).length ≤ 20 := by
  have hlo := pid.le_toInt
  have hhi := pid.toInt_lt
  rw [signedDecimal_eq, List.length_map]
  exact Decimal.length_signed_le (by decide) (by omega)

/-! ### The identifier -/

section RunId

variable {now now' : DateTime} {pid pid' : Int64}

theorem length_runStamp (now : DateTime) : (runStamp now).length = 20 := by
  have hday : now.day < 10 ^ 2 :=
    (now.day_mem.2.trans (daysInMonth_le _ _)).trans_lt (by decide)
  have hrun : (lit "run-").length = 4 := by decide
  have ht : (lit "T").length = 1 := by decide
  have hz : (lit "Z").length = 1 := by decide
  simp only [runStamp, List.length_append, hrun, ht, hz,
    length_numeral (show 0 < 4 by decide) (now.year_mem.2.trans_lt (by decide)),
    length_numeral (show 0 < 2 by decide) (now.month_mem.2.trans_lt (by decide)),
    length_numeral (show 0 < 2 by decide) hday,
    length_numeral (show 0 < 2 by decide) (now.hour_lt.trans (by decide)),
    length_numeral (show 0 < 2 by decide) (now.minute_lt.trans (by decide)),
    length_numeral (show 0 < 2 by decide) (now.second_lt.trans (by decide))]

/-- **Nothing is cut off.** -/
theorem defaultRunId_eq (now : DateTime) (pid : Int64) :
    defaultRunId now pid = runStamp now ++ (lit "-" ++ signedDecimal pid.toInt) := by
  have hlen := length_signedDecimal_le pid
  have hhyphen : (lit "-").length = 1 := by decide
  rw [defaultRunId, length_runStamp, snprintf_of_lt]
  rw [List.length_append, hhyphen]
  omega

theorem isIdentifierByte_numeral (width n : ℕ) : ∀ b ∈ numeral width n, isIdentifierByte b := by
  intro b hb
  obtain ⟨c, hc, rfl⟩ := List.mem_map.mp hb
  exact isIdentifierByte_of_isDigit (Decimal.isDigit_of_mem_padded hc)

/-- **The identifier passes every gate.** -/
theorem isIdentifier_defaultRunId (now : DateTime) (pid : Int64) :
    IsIdentifier 120 (text (defaultRunId now pid)) := by
  have hlen := length_signedDecimal_le pid
  have hhyphen : (lit "-").length = 1 := by decide
  have hlit : ∀ s ∈ ["run-", "T", "Z", "-"], ∀ b ∈ lit s, isIdentifierByte b := by decide +kernel
  simp only [List.forall_mem_cons] at hlit
  obtain ⟨hrun, ht, hz, hsign, -⟩ := hlit
  have hnumber : ∀ b ∈ signedDecimal pid.toInt, isIdentifierByte b := by
    intro b hb
    rw [signedDecimal_eq] at hb
    obtain ⟨c, hc, rfl⟩ := List.mem_map.mp hb
    rcases ascii_signed _ c hc with rfl | hc
    · decide
    · exact isIdentifierByte_of_isDigit hc
  rw [isIdentifier_text_iff, defaultRunId_eq]
  refine ⟨?_, ?_, ?_⟩
  · rw [List.length_append, length_runStamp]
    omega
  · rw [List.length_append, List.length_append, length_runStamp, hhyphen]
    omega
  · simp only [runStamp, List.forall_mem_append]
    exact ⟨⟨hrun, isIdentifierByte_numeral _ _, isIdentifierByte_numeral _ _,
      isIdentifierByte_numeral _ _, ht, isIdentifierByte_numeral _ _,
      isIdentifierByte_numeral _ _, isIdentifierByte_numeral _ _, hz⟩, hsign, hnumber⟩

/-- **The stamp tells the second.** -/
theorem runStamp_eq_iff : runStamp now = runStamp now' ↔ now.seconds = now'.seconds := by
  have hyear : (numeral 4 now.year).length = (numeral 4 now'.year).length := by
    rw [length_numeral (by decide) (now.year_mem.2.trans_lt (by decide)),
      length_numeral (by decide) (now'.year_mem.2.trans_lt (by decide))]
  have htwo : ∀ {m n : ℕ}, m < 10 ^ 2 → n < 10 ^ 2 →
      (numeral 2 m).length = (numeral 2 n).length := fun hm hn => by
    rw [length_numeral (by decide) hm, length_numeral (by decide) hn]
  have hday : ∀ t : DateTime, t.day < 10 ^ 2 := fun t =>
    (t.day_mem.2.trans (daysInMonth_le _ _)).trans_lt (by decide)
  rw [DateTime.seconds_eq_iff]
  constructor
  · intro h
    -- number by number, from the left
    obtain ⟨h₁, h⟩ := List.append_inj (List.append_cancel_left h) hyear
    obtain ⟨h₂, h⟩ := List.append_inj h
      (htwo (now.month_mem.2.trans_lt (by decide)) (now'.month_mem.2.trans_lt (by decide)))
    obtain ⟨h₃, h⟩ := List.append_inj h (htwo (hday now) (hday now'))
    obtain ⟨h₄, h⟩ := List.append_inj (List.append_cancel_left h)
      (htwo (now.hour_lt.trans (by decide)) (now'.hour_lt.trans (by decide)))
    obtain ⟨h₅, h⟩ := List.append_inj h
      (htwo (now.minute_lt.trans (by decide)) (now'.minute_lt.trans (by decide)))
    obtain ⟨h₆, -⟩ := List.append_inj h
      (htwo (now.second_lt.trans (by decide)) (now'.second_lt.trans (by decide)))
    refine ⟨?_, numeral_injective 2 h₄, numeral_injective 2 h₅, numeral_injective 2 h₆⟩
    rw [Date.fields, Date.fields, numeral_injective 4 h₁, numeral_injective 2 h₂,
      numeral_injective 2 h₃]
  · rintro ⟨hdate, hhour, hminute, hsecond⟩
    simp only [Date.fields, List.cons.injEq, and_true] at hdate
    obtain ⟨hyear, hmonth, hday⟩ := hdate
    rw [runStamp, runStamp, hyear, hmonth, hday, hhour, hminute, hsecond]

theorem defaultRunId_eq_iff : defaultRunId now pid = defaultRunId now' pid' ↔
    now.seconds = now'.seconds ∧ pid = pid' := by
  rw [defaultRunId_eq, defaultRunId_eq, ← runStamp_eq_iff]
  constructor
  · intro h
    obtain ⟨hstamp, h⟩ := List.append_inj h
      ((length_runStamp now).trans (length_runStamp now').symm)
    exact ⟨hstamp, Int64.toInt_inj.mp (signedDecimal_injective (List.append_cancel_left h))⟩
  · rintro ⟨hstamp, rfl⟩
    rw [hstamp]

/-- **Which processes get into each other's way**, of those that are given no identifier: the
dashboard accepts the identifier of each, and a sample of one has the identifier of a sample of
another exactly if the two have started in the same second under the same number, and it is
the sample of the same mode and of the same iteration. -/
theorem defaultRunId_separates (now now' : DateTime) (pid pid' : Int64) :
    IsIdentifier 120 (text (defaultRunId now pid)) ∧
    (defaultRunId now pid = defaultRunId now' pid' ↔
      now.seconds = now'.seconds ∧ pid = pid') ∧
    ∀ (m m' : Mode) (i j : ℕ), i ≤ 1000000 → j ≤ 1000000 →
      (snprintf 180 (sampleIdText (defaultRunId now pid) (lit m.text) i) =
          snprintf 180 (sampleIdText (defaultRunId now' pid') (lit m'.text) j) ↔
        (now.seconds = now'.seconds ∧ pid = pid') ∧ m = m' ∧ i = j) := by
  refine ⟨isIdentifier_defaultRunId now pid, defaultRunId_eq_iff, fun m m' i j hi hj => ?_⟩
  have hlen := (isIdentifier_text_iff.mp (isIdentifier_defaultRunId now pid)).2.1
  have hlen' := (isIdentifier_text_iff.mp (isIdentifier_defaultRunId now' pid')).2.1
  rw [snprintf_sampleIdText hlen hi, snprintf_sampleIdText hlen' hj, ← defaultRunId_eq_iff]
  constructor
  · exact sampleIdText_inj
  · rintro ⟨hid, rfl, rfl⟩
    rw [hid]

end RunId

end HybridTls
