import HybridTls.Tls.Strings

/-!
# What the two C programs share

`valid_identifier` and `json_escape`, and the names of what was negotiated, which
both programs copy into buffers of the same sizes (`HybridTls.NamesFit`).

`HybridTls.jsonEscape` writes into a buffer and stops while there is still room
for an escape pair, so what it leaves out is a suffix of the input.
`HybridTls.jsonUnescape` reads an escaped string as a JSON parser does, given
that the only escapes are the two `json_escape` writes; what it gives back is no
longer than the input (`HybridTls.length_unescape_le`).
-/

namespace HybridTls

/-! ### Identifiers -/

/-- `valid_identifier`. -/
def validIdentifier (value : Bytes) : Bool :=
  !(value.length = 0 || value.length > 160) && value.all isIdentifierByte

theorem validIdentifier_iff {value : Bytes} :
    validIdentifier value ↔
      1 ≤ value.length ∧ value.length ≤ 160 ∧ ∀ b ∈ value, isIdentifierByte b := by
  simp only [validIdentifier, Bool.and_eq_true, Bool.not_eq_true', Bool.or_eq_false_iff,
    decide_eq_false_iff_not, List.all_eq_true, and_assoc]
  constructor
  · rintro ⟨hne, hle, hall⟩
    exact ⟨by omega, by omega, hall⟩
  · rintro ⟨hpos, hle, hall⟩
    exact ⟨by omega, by omega, hall⟩

/-- What the C programs call an identifier is what the dashboard calls an
identifier of up to 160 characters. -/
theorem validIdentifier_iff_isIdentifier {value : Bytes} :
    validIdentifier value ↔ IsIdentifier 160 (text value) :=
  validIdentifier_iff.trans isIdentifier_text_iff.symm

/-! ### Strings in JSON -/

/-- What `json_escape` writes for one byte: a quote and a backslash are escaped,
three control characters become blanks, and the others are dropped. -/
def escapeByte (b : UInt8) : Bytes :=
  if b = 34 || b = 92 then [92, b]
  else if b = 10 || b = 13 || b = 9 then [32]
  else if 32 ≤ b then [b]
  else []

/-- The loop of `json_escape`, `target` bytes having been written. -/
def jsonEscapeFrom (outputSize target : ℕ) : Bytes → Bytes
  | [] => []
  | b :: input =>
    -- room for an escape pair and the terminating zero, whatever the byte
    if target + 2 < outputSize then
      escapeByte b ++ jsonEscapeFrom outputSize (target + (escapeByte b).length) input
    else []

/-- `json_escape`. -/
def jsonEscape (input : Bytes) (outputSize : ℕ) : Bytes := jsonEscapeFrom outputSize 0 input

/-- Read an escaped string. -/
def jsonUnescape : Bytes → Bytes
  | [] => []
  | [b] => [b]
  | b :: c :: rest => if b = 92 then c :: jsonUnescape rest else b :: jsonUnescape (c :: rest)

/-- What is left of one byte when it has been escaped and read again. -/
def sanitizeByte (b : UInt8) : Bytes :=
  if b = 10 || b = 13 || b = 9 then [32] else if 32 ≤ b then [b] else []

theorem jsonUnescape_cons {b : UInt8} (hb : b ≠ 92) (rest : Bytes) :
    jsonUnescape (b :: rest) = b :: jsonUnescape rest := by
  cases rest with
  | nil => rfl
  | cons c rest => rw [jsonUnescape, if_neg hb]

/-- Reading takes the bytes that were written for one byte together. -/
theorem jsonUnescape_escapeByte (b : UInt8) (rest : Bytes) :
    jsonUnescape (escapeByte b ++ rest) = sanitizeByte b ++ jsonUnescape rest := by
  unfold escapeByte sanitizeByte
  by_cases hquote : b = 34 ∨ b = 92
  · rcases hquote with rfl | rfl <;> rfl
  have hslash : b ≠ 92 := fun h => hquote (Or.inr h)
  rw [if_neg (by simpa using hquote)]
  split
  · exact jsonUnescape_cons (by decide) rest
  · split
    · exact jsonUnescape_cons hslash rest
    · rfl

/-- A byte becomes an escape pair at most. -/
theorem length_escapeByte_le (b : UInt8) : (escapeByte b).length ≤ 2 := by
  unfold escapeByte
  split_ifs <;> simp

/-- **A string that fits is not cut off**: a byte before which the loop ends would have
written nothing, and so would those behind it. -/
theorem jsonEscapeFrom_of_le {outputSize target : ℕ} {input : Bytes}
    (h : target + (input.flatMap escapeByte).length + 2 ≤ outputSize) :
    jsonEscapeFrom outputSize target input = input.flatMap escapeByte := by
  induction input generalizing target with
  | nil => rfl
  | cons b input ih =>
    have hlength := h
    rw [List.flatMap_cons, List.length_append] at hlength
    rw [jsonEscapeFrom]
    split
    · rw [ih (by omega), List.flatMap_cons]
    · have hnil : ((b :: input).flatMap escapeByte).length = 0 := by omega
      exact (List.length_eq_zero_iff.mp hnil).symm

/-- **What has been escaped stands for what is left of the input**, for a reader that
takes the bytes written for one byte together. By induction on the input. -/
theorem read_flatMap_escapeByte {read : Bytes → Bytes} (hnil : read [] = [])
    (hread : ∀ b rest, read (escapeByte b ++ rest) = sanitizeByte b ++ read rest)
    (input : Bytes) : read (input.flatMap escapeByte) = input.flatMap sanitizeByte := by
  induction input with
  | nil => exact hnil
  | cons b input ih => rw [List.flatMap_cons, hread, ih, List.flatMap_cons]

theorem jsonUnescape_flatMap (input : Bytes) :
    jsonUnescape (input.flatMap escapeByte) = input.flatMap sanitizeByte :=
  read_flatMap_escapeByte rfl jsonUnescape_escapeByte input

theorem length_sanitizeByte_le (b : UInt8) : (sanitizeByte b).length ≤ 1 := by
  unfold sanitizeByte
  split
  · exact Nat.le_refl 1
  · split <;> simp

/-- **Escaping and reading makes no string longer.** -/
theorem length_unescape_le (input : Bytes) (outputSize : ℕ) :
    (jsonUnescape (jsonEscape input outputSize)).length ≤ input.length := by
  -- the position in the buffer varies along the loop
  suffices h : ∀ target,
      (jsonUnescape (jsonEscapeFrom outputSize target input)).length ≤ input.length from h 0
  induction input with
  | nil => exact fun _ => Nat.le_refl 0
  | cons b input ih =>
    intro target
    rw [jsonEscapeFrom]
    split
    · rw [jsonUnescape_escapeByte, List.length_append, List.length_cons]
      have hb := length_sanitizeByte_le b
      have hrest := ih (target + (escapeByte b).length)
      omega
    · exact Nat.zero_le _

/-! ### What was negotiated -/

/-- The names that OpenSSL gives – of the group, if it has one, the version and
the cipher – fit the schemas. -/
structure NamesFit (groupName : Option Bytes) (version cipherName : Bytes) : Prop where
  groupName : ∀ g ∈ groupName, g.length ≤ 80
  version : version.length ≤ 40
  cipherName : cipherName.length ≤ 100

/-- The name of a group, as both programs copy it. -/
def copyGroup (groupName : Option Bytes) : Bytes := snprintf 100 (groupName.getD (lit "unknown"))

section NamesFit

variable {groupName : Option Bytes} {version cipherName : Bytes}

theorem NamesFit.length_copyGroup_le (h : NamesFit groupName version cipherName) :
    (copyGroup groupName).length ≤ 80 := by
  refine Nat.le_trans (length_snprintf_le_length 100 _) ?_
  cases groupName with
  | none => decide
  | some g => exact h.groupName g rfl

theorem NamesFit.length_copyVersion_le (h : NamesFit groupName version cipherName) :
    (snprintf 50 version).length ≤ 40 :=
  Nat.le_trans (length_snprintf_le_length 50 version) h.version

theorem NamesFit.length_copyCipher_le (h : NamesFit groupName version cipherName) :
    (snprintf 120 cipherName).length ≤ 100 :=
  Nat.le_trans (length_snprintf_le_length 120 cipherName) h.cipherName

end NamesFit

end HybridTls
