import HybridTls.Lib.Decimal
import HybridTls.Schemas

/-!
# The strings of the C programs

A C string is the list of its bytes up to the terminating zero, and a buffer that
holds one is modelled by that string; `HybridTls.snprintf` is what is left of a
text in a buffer of a given size.

On the other side of the wire a string is a text. `HybridTls.text` reads the
bytes of an ASCII string as one, and this is where the two programs' notions of
an identifier meet: `HybridTls.isIdentifier_text_iff` says when the text of a C
string passes the dashboard's schemas.
-/

namespace HybridTls

/-- A C string, or a sequence of bytes received. -/
abbrev Bytes := List UInt8

/-! ### Bytes and characters -/

/-- The byte of an ASCII character. -/
def byte (c : Char) : UInt8 := c.toNat.toUInt8

/-- The character of an ASCII byte. -/
def char (b : UInt8) : Char := Char.ofNat b.toNat

/-- A string literal. -/
def lit (s : String) : Bytes := s.toList.map byte

/-- The text of an ASCII string. -/
def text (b : Bytes) : String := String.ofList (b.map char)

@[simp] theorem length_text (b : Bytes) : (text b).length = b.length := by
  simp [text]

/-- What holds of the numbers below 256 holds of the bytes. -/
theorem forall_byte {P : UInt8 → Prop} (h : ∀ n < 256, P n.toUInt8) (b : UInt8) : P b := by
  have hb := h b.toNat b.toNat_lt
  rwa [Nat.toUInt8, UInt8.ofNat_toNat] at hb

/-- An ASCII character is the character of its byte. -/
theorem char_byte {c : Char} (hc : c.toNat < 128) : char (byte c) = c := by
  have hbyte : (byte c).toNat = c.toNat := by
    change c.toNat % 256 = c.toNat
    omega
  rw [char, hbyte, Char.ofNat_toNat]

theorem map_char_map_byte {cs : List Char} (hcs : ∀ c ∈ cs, c.toNat < 128) :
    (cs.map byte).map char = cs := by
  rw [List.map_map]
  exact (List.map_congr_left fun c hc => char_byte (hcs c hc)).trans (List.map_id cs)

theorem text_lit {s : String} (hs : ∀ c ∈ s.toList, c.toNat < 128) : text (lit s) = s := by
  rw [text, lit, map_char_map_byte hs, String.ofList_toList]

/-! ### Formatting -/

/-- What a buffer of `size` bytes holds of a text formatted into it. -/
def snprintf (size : ℕ) (formatted : Bytes) : Bytes := formatted.take (size - 1)

theorem snprintf_of_lt {size : ℕ} {formatted : Bytes} (h : formatted.length < size) :
    snprintf size formatted = formatted :=
  List.take_of_length_le (by omega)

theorem length_snprintf_le (size : ℕ) (formatted : Bytes) :
    (snprintf size formatted).length ≤ size - 1 := by
  rw [snprintf, List.length_take]
  exact Nat.min_le_left _ _

theorem length_snprintf_le_length (size : ℕ) (formatted : Bytes) :
    (snprintf size formatted).length ≤ formatted.length := by
  rw [snprintf, List.length_take]
  exact Nat.min_le_right _ _

/-- `%06d` of a number that is not negative. -/
def pad6 (n : ℕ) : Bytes := (Decimal.padded 6 n).map byte

/-- A digit is the character of its byte. -/
theorem toNat_of_isDigit {c : Char} (h : c.isDigit) : 48 ≤ c.toNat ∧ c.toNat ≤ 57 := by
  simp only [Char.isDigit, Bool.and_eq_true, decide_eq_true_eq, ge_iff_le, UInt32.le_iff_toNat_le]
    at h
  exact h

theorem pad6_injective : Function.Injective pad6 := by
  intro m n h
  have hascii : ∀ k, ∀ c ∈ Decimal.padded 6 k, c.toNat < 128 := fun k c hc => by
    have := toNat_of_isDigit (Decimal.isDigit_of_mem_padded hc)
    omega
  have hchars := congrArg (List.map char) h
  rw [pad6, pad6, map_char_map_byte (hascii m), map_char_map_byte (hascii n)] at hchars
  exact Decimal.padded_injective 6 hchars

/-- The bytes of a number are digits. -/
theorem digit_of_mem_pad6 {n : ℕ} {b : UInt8} (h : b ∈ pad6 n) : 48 ≤ b.toNat ∧ b.toNat ≤ 57 := by
  obtain ⟨c, hc, rfl⟩ := List.mem_map.mp h
  have hdigit := toNat_of_isDigit (Decimal.isDigit_of_mem_padded hc)
  change 48 ≤ c.toNat % 256 ∧ c.toNat % 256 ≤ 57
  omega

theorem length_pad6_le {n : ℕ} (hn : n ≤ 1000000) : (pad6 n).length ≤ 7 := by
  rw [pad6, List.length_map]
  exact Decimal.length_padded_le (k := 7) (by decide) (by omega)

/-- `%zu` and `%llu`. -/
def decimal (n : ℕ) : Bytes := (Nat.toDigits 10 n).map byte

theorem digit_of_mem_decimal {n : ℕ} {b : UInt8} (h : b ∈ decimal n) :
    48 ≤ b.toNat ∧ b.toNat ≤ 57 := by
  obtain ⟨c, hc, rfl⟩ := List.mem_map.mp h
  have hdigit := toNat_of_isDigit (Nat.isDigit_of_mem_toDigits (by decide) (by decide) hc)
  change 48 ≤ c.toNat % 256 ∧ c.toNat % 256 ≤ 57
  omega

/-- A number has no zero in front. -/
theorem decimal_eq (n : ℕ) :
    decimal n = [48] ∨ ∃ b ds, decimal n = b :: ds ∧ b ≠ 48 := by
  rcases Nat.eq_zero_or_pos n with rfl | hn
  · exact Or.inl (by decide)
  · obtain ⟨c, ds, hdigits, hc⟩ := Decimal.head_toDigits hn
    refine Or.inr ⟨byte c, ds.map byte, by rw [decimal, hdigits, List.map_cons], fun h => hc ?_⟩
    have hascii : c.toNat < 128 := by
      have hmem : c ∈ Nat.toDigits 10 n := hdigits ▸ List.mem_cons_self
      have := toNat_of_isDigit (Nat.isDigit_of_mem_toDigits (by decide) (by decide) hmem)
      omega
    rw [← char_byte hascii, h]
    decide

theorem length_decimal_le {n k : ℕ} (hk : 0 < k) (hn : n < 10 ^ k) : (decimal n).length ≤ k := by
  rw [decimal, List.length_map]
  exact (Nat.length_toDigits_le_iff (by decide) hk).mpr hn

/-! ### Numbers -/

/-- `isspace` in the C locale. -/
def isSpace (b : UInt8) : Bool := b = 32 || (9 ≤ b && b ≤ 13)

/-- `isdigit`. -/
def isDigit (b : UInt8) : Bool := 48 ≤ b && b ≤ 57

/-- `atoi`: the number read by `strtol`, which stays within a `long`, made an
`int`. -/
def atoi (s : Bytes) : ℤ :=
  let (negative, rest) := match s.dropWhile isSpace with
    | 45 :: rest => (true, rest)
    | 43 :: rest => (false, rest)
    | rest => (false, rest)
  let magnitude : ℤ := (rest.takeWhile isDigit).foldl (fun n b => 10 * n + (b.toNat - 48)) 0
  let long := if negative then max (-magnitude) (-9223372036854775808)
    else min magnitude 9223372036854775807
  long.bmod 4294967296

/-! ### Identifiers -/

/-- The bytes `valid_identifier` admits. -/
def isIdentifierByte (b : UInt8) : Bool :=
  (97 ≤ b && b ≤ 122) || (65 ≤ b && b ≤ 90) || (48 ≤ b && b ≤ 57) || b = 95 || b = 45 || b = 46

/-- Both programs mean the same characters. -/
theorem isIdentifierChar_char : ∀ b : UInt8, isIdentifierChar (char b) = isIdentifierByte b :=
  forall_byte (by decide +kernel)

/-- **When a C string is an identifier of the dashboard.** -/
theorem isIdentifier_text_iff {n : ℕ} {s : Bytes} :
    IsIdentifier n (text s) ↔
      1 ≤ s.length ∧ s.length ≤ n ∧ ∀ b ∈ s, isIdentifierByte b := by
  have hpattern : matchesPattern (text s) ↔ s ≠ [] ∧ ∀ b ∈ s, isIdentifierByte b := by
    simp [matchesPattern, text, isIdentifierChar_char]
  simp only [IsIdentifier, length_text, hpattern]
  constructor
  · rintro ⟨hpos, hle, -, hall⟩
    exact ⟨hpos, hle, hall⟩
  · rintro ⟨hpos, hle, hall⟩
    exact ⟨hpos, hle, List.ne_nil_of_length_pos hpos, hall⟩

end HybridTls
