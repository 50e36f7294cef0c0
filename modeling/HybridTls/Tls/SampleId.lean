import HybridTls.Lib.Search
import HybridTls.Tls.Probe

/-!
# The identifier of a sample

`probe` identifies a sample by the run's identifier, the mode and the sequence
number, joined by hyphens (`HybridTls.sampleIdText`), and formats that into a
buffer of 180 bytes. For a run whose identifier the dashboard accepts

* nothing is cut off (`HybridTls.snprintf_sampleIdText`),
* the dashboard and `valid_identifier` accept the result
  (`HybridTls.isIdentifier_sampleIdText`).

A run's identifier may itself contain hyphens, mode names and digits. What keeps
the samples apart (`HybridTls.sampleIdText_inj`) is that the other two parts
contain no hyphen, so that the last hyphen and the one before it are known to be
the separators.
-/

namespace HybridTls

open Search

/-- The hyphen. -/
theorem lit_hyphen : lit "-" = [45] := by decide

theorem identifierByte_of_mem_mode (m : Mode) : ∀ b ∈ lit m.text, isIdentifierByte b :=
  List.all_eq_true.mp (by cases m <;> decide)

theorem hyphen_not_mem_mode (m : Mode) : 45 ∉ lit m.text := by
  cases m <;> decide

theorem length_mode_le (m : Mode) : (lit m.text).length ≤ 11 := by
  cases m <;> decide

theorem lit_mode_injective {m m' : Mode} (h : lit m.text = lit m'.text) : m = m' := by
  revert h
  cases m <;> cases m' <;> decide

theorem identifierByte_of_mem_pad6 {n : ℕ} {b : UInt8} (h : b ∈ pad6 n) : isIdentifierByte b := by
  obtain ⟨hlo, hhi⟩ := digit_of_mem_pad6 h
  have hdigit : (48 : UInt8) ≤ b ∧ b ≤ 57 := by
    rw [UInt8.le_iff_toNat_le, UInt8.le_iff_toNat_le]
    exact ⟨hlo, hhi⟩
  simp [isIdentifierByte, hdigit]

/-- The separators of an identifier. -/
theorem sampleIdText_eq (runId mode : Bytes) (sequence : ℕ) :
    sampleIdText runId mode sequence = (runId ++ 45 :: mode) ++ 45 :: pad6 sequence := by
  simp [sampleIdText, lit_hyphen]

section SampleId

variable {runId : Bytes} {m : Mode} {sequence : ℕ}

theorem length_sampleIdText_le (hrun : runId.length ≤ 120) (hseq : sequence ≤ 1000000) :
    (sampleIdText runId (lit m.text) sequence).length ≤ 140 := by
  have hmode := length_mode_le m
  have hnumber := length_pad6_le hseq
  simp only [sampleIdText_eq, List.length_append, List.length_cons]
  omega

/-- **The identifier fits its buffer.** -/
theorem snprintf_sampleIdText (hrun : runId.length ≤ 120) (hseq : sequence ≤ 1000000) :
    snprintf 180 (sampleIdText runId (lit m.text) sequence) =
      sampleIdText runId (lit m.text) sequence := by
  have hlen := length_sampleIdText_le (m := m) hrun hseq
  exact snprintf_of_lt (by omega)

theorem identifierByte_of_mem_sampleIdText (hrun : ∀ b ∈ runId, isIdentifierByte b) :
    ∀ b ∈ sampleIdText runId (lit m.text) sequence, isIdentifierByte b := by
  have hhyphen : isIdentifierByte 45 := by decide
  simp only [sampleIdText_eq, List.mem_append, List.mem_cons]
  rintro b ((h | rfl | h) | rfl | h)
  · exact hrun b h
  · exact hhyphen
  · exact identifierByte_of_mem_mode m b h
  · exact hhyphen
  · exact identifierByte_of_mem_pad6 h

/-- **The identifier of a sample is an identifier.** -/
theorem isIdentifier_sampleIdText (hrun : IsIdentifier 120 (text runId))
    (hseq : sequence ≤ 1000000) :
    IsIdentifier 160 (text (sampleIdText runId (lit m.text) sequence)) := by
  obtain ⟨hpos, hle, hall⟩ := isIdentifier_text_iff.mp hrun
  have hlen := length_sampleIdText_le (m := m) hle hseq
  refine isIdentifier_text_iff.mpr ⟨?_, by omega, identifierByte_of_mem_sampleIdText hall⟩
  rw [sampleIdText_eq, List.length_append, List.length_cons]
  omega

/-- **No two samples share an identifier**: the sequence number is behind the
last hyphen, and the mode behind the one before it. -/
theorem sampleIdText_inj {runId' : Bytes} {m' : Mode} {sequence' : ℕ}
    (h : sampleIdText runId (lit m.text) sequence =
      sampleIdText runId' (lit m'.text) sequence') :
    runId = runId' ∧ m = m' ∧ sequence = sequence' := by
  have hnumber : ∀ n, 45 ∉ pad6 n := fun n hn => by
    have hdigit := digit_of_mem_pad6 hn
    revert hdigit
    decide
  rw [sampleIdText_eq, sampleIdText_eq] at h
  -- the last separator, and then the last one before it
  obtain ⟨hfront, hseq⟩ := append_cons_inj (hnumber _) (hnumber _) h
  obtain ⟨hrun, hmode⟩ := append_cons_inj (hyphen_not_mem_mode m) (hyphen_not_mem_mode m') hfront
  exact ⟨hrun, lit_mode_injective hmode, pad6_injective hseq⟩

end SampleId

end HybridTls
