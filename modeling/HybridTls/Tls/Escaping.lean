import HybridTls.Lib.Buffer
import HybridTls.Tls.Probe

/-!
# Escaping in place

`json_escape` as it works on memory: it reads the input up to a zero, and writes into a
buffer of a given size, in which it keeps its position as a `size_t`. Reading behind the
memory of the input and writing outside the buffer are errors here, and the model returns
none on them (`HybridTls.jsonEscapeLoop`).

Neither happens, and the position does not overflow: the two regions of memory are parts
of one address space. So the buffer begins with what `HybridTls.jsonEscape` gives, with a
zero behind it (`HybridTls.jsonEscapeMemory_eq`). What this is can be read off the
function on strings: the escapes of a prefix of the input (`HybridTls.jsonEscape_eq_take`).
-/

namespace HybridTls

open Buffer

/-! ### The code -/

/-- What one byte of the input writes, and where it leaves the position. -/
def escapeInto (target : UInt64) (output : Bytes) (character : UInt8) : Option (UInt64 × Bytes) :=
  if character = 34 ∨ character = 92 then do
    let output ← put output target.toNat 92
    let output ← put output (target + 1).toNat character
    return (target + 2, output)
  else if character = 10 ∨ character = 13 ∨ character = 9 then do
    let output ← put output target.toNat 32
    return (target + 1, output)
  else if 32 ≤ character then do
    let output ← put output target.toNat character
    return (target + 1, output)
  else return (target, output)

/-- The loop of `json_escape`, and the terminating zero. The list is the memory of the
input from the next byte on. -/
def jsonEscapeLoop (outputSize target : UInt64) (output : Bytes) : Bytes → Option Bytes
  | [] => none
  | character :: input =>
    if character ≠ 0 ∧ target + 2 < outputSize then do
      let (target, output) ← escapeInto target output character
      jsonEscapeLoop outputSize target output input
    else put output target.toNat 0

/-- `json_escape` of the memory from `input` on, into the buffer `output`. -/
def jsonEscapeMemory (outputSize : UInt64) (output input : Bytes) : Option Bytes :=
  if outputSize = 0 then some output
  else jsonEscapeLoop outputSize 0 output input

/-- **A call of `json_escape`**: the input is terminated by a zero, the buffer has the size
that is passed, and both are in one address space. -/
structure EscapeCall where
  input : Bytes
  output : Bytes
  outputSize : UInt64
  terminated : 0 ∈ input
  length_output : output.length = outputSize.toNat
  outputSize_pos : 1 ≤ output.length
  fits : input.length + output.length ≤ 2 ^ 64

/-! ### What is written -/

/-- The function on strings, with conditions that are propositions. -/
theorem escapeByte_eq (b : UInt8) :
    escapeByte b =
      if b = 34 ∨ b = 92 then [92, b]
      else if b = 10 ∨ b = 13 ∨ b = 9 then [32]
      else if 32 ≤ b then [b]
      else [] := by
  simp only [escapeByte, Bool.or_eq_true, decide_eq_true_eq, or_assoc]

section Memory

variable {output written : Bytes} {target outputSize : UInt64}

/-- A position with room behind it is counted without overflow. -/
theorem toNat_add_of_lt {n : ℕ} {k : UInt64} (htarget : target.toNat = n)
    (h : n + k.toNat < 2 ^ 64) : (target + k).toNat = n + k.toNat := by
  rw [UInt64.toNat_add, htarget, Nat.mod_eq_of_lt h]

/-- **One byte**, if there is room for an escape pair behind what has been written. -/
theorem escapeInto_overlay (htarget : target.toNat = written.length)
    (hroom : written.length + 2 ≤ output.length) (hsize : output.length < 2 ^ 64)
    (character : UInt8) :
    ∃ target', escapeInto target (overlay output written) character =
        some (target', overlay output (written ++ escapeByte character)) ∧
      target'.toNat = (written ++ escapeByte character).length := by
  have hone : (target + 1).toNat = written.length + 1 :=
    toNat_add_of_lt htarget (show written.length + 1 < 2 ^ 64 by omega)
  have htwo : (target + 2).toNat = written.length + 2 :=
    toNat_add_of_lt htarget (show written.length + 2 < 2 ^ 64 by omega)
  have hput : ∀ b, put (overlay output written) written.length b =
      some (overlay output (written ++ [b])) := fun b => put_overlay (by omega)
  rw [escapeInto, escapeByte_eq, htarget, hone, List.length_append]
  split
  next =>
    have hsecond : put (overlay output (written ++ [92])) (written.length + 1) character =
        some (overlay output (written ++ [92, character])) := by
      have hlength : (written ++ [92]).length < output.length := by
        rw [List.length_append]
        exact hroom
      have := @put_overlay _ output (written ++ [92]) character hlength
      rwa [List.length_append, List.append_assoc] at this
    rw [hput]
    exact ⟨target + 2, by rw [Option.bind_eq_bind, Option.bind_some, hsecond]; rfl, htwo⟩
  next =>
    split
    next =>
      rw [hput]
      exact ⟨target + 1, rfl, hone⟩
    next =>
      split
      next =>
        rw [hput]
        exact ⟨target + 1, rfl, hone⟩
      next =>
        rw [List.append_nil]
        exact ⟨target, rfl, htarget⟩

/-- **The loop**, by induction on the memory that has not been read. -/
theorem jsonEscapeLoop_overlay (hlength : output.length = outputSize.toNat) (input : Bytes)
    (hzero : 0 ∈ input) (hfits : input.length + output.length ≤ 2 ^ 64)
    (htarget : target.toNat = written.length) (hroom : written.length < output.length) :
    jsonEscapeLoop outputSize target (overlay output written) input =
      some (overlay output
        (written ++ jsonEscapeFrom outputSize.toNat written.length (cString input) ++ [0])) := by
  induction input generalizing target written with
  | nil => cases hzero
  | cons character input ih =>
    rw [jsonEscapeLoop]
    by_cases hzero' : character = 0
    · have hstring : cString (character :: input) = [] := by simp [cString, hzero']
      rw [if_neg (by simp [hzero']), hstring, jsonEscapeFrom, List.append_nil, htarget]
      exact put_overlay hroom
    have hstring : cString (character :: input) = character :: cString input := by
      simp [cString, hzero']
    rw [List.length_cons] at hfits
    have htail : 0 ∈ input := (List.mem_cons.mp hzero).resolve_left (Ne.symm hzero')
    have hpos : 0 < input.length := List.length_pos_of_mem htail
    -- the memory of the input leaves room in the address space
    have htwo : (target + 2).toNat = written.length + 2 :=
      toNat_add_of_lt htarget (show written.length + 2 < 2 ^ 64 by omega)
    rw [hstring, jsonEscapeFrom]
    by_cases hlt : written.length + 2 < outputSize.toNat
    · rw [if_pos ⟨hzero', UInt64.lt_iff_toNat_lt.mpr (htwo ▸ hlt)⟩, if_pos hlt]
      obtain ⟨target', hescape, htarget'⟩ :=
        escapeInto_overlay htarget (by omega : written.length + 2 ≤ output.length) (by omega)
          character
      have hbyte := length_escapeByte_le character
      rw [hescape, Option.bind_eq_bind, Option.bind_some]
      have hnext := ih htail (by omega) htarget' (by rw [List.length_append]; omega)
      simp only [hnext, List.length_append, List.append_assoc]
    · rw [if_neg fun h => hlt (htwo ▸ UInt64.lt_iff_toNat_lt.mp h.2), if_neg hlt,
        List.append_nil, htarget]
      exact put_overlay hroom

end Memory

/-- **What a call leaves in the buffer**: the escaped string, a zero, and behind it what was
there before. -/
theorem jsonEscapeMemory_eq (call : EscapeCall) :
    jsonEscapeMemory call.outputSize call.output call.input =
      some (overlay call.output
        (jsonEscape (cString call.input) call.outputSize.toNat ++ [0])) := by
  have hpos := call.length_output ▸ call.outputSize_pos
  have hne : call.outputSize ≠ 0 := by
    intro hzero
    rw [hzero] at hpos
    exact absurd hpos (by decide)
  rw [jsonEscapeMemory, if_neg hne]
  exact @jsonEscapeLoop_overlay call.output [] 0 call.outputSize call.length_output call.input
    call.terminated call.fits rfl call.outputSize_pos

/-! ### What the escaped string is -/

section Escaped

variable {input : Bytes} {outputSize target : ℕ}

/-- A string that has been cut off is the escapes of what comes before the cut. -/
theorem jsonEscapeFrom_eq_take (outputSize target : ℕ) (input : Bytes) :
    ∃ k, jsonEscapeFrom outputSize target input = (input.take k).flatMap escapeByte := by
  induction input generalizing target with
  | nil => exact ⟨0, rfl⟩
  | cons b input ih =>
    rw [jsonEscapeFrom]
    split
    · obtain ⟨k, hk⟩ := ih (target + (escapeByte b).length)
      exact ⟨k + 1, by rw [hk, List.take_succ_cons, List.flatMap_cons]⟩
    · exact ⟨0, rfl⟩

theorem jsonEscape_eq_take (input : Bytes) (outputSize : ℕ) :
    ∃ k, jsonEscape input outputSize = (input.take k).flatMap escapeByte :=
  jsonEscapeFrom_eq_take outputSize 0 input

/-- There is room for the terminating zero. -/
theorem length_jsonEscapeFrom_lt (h : target < outputSize) :
    target + (jsonEscapeFrom outputSize target input).length < outputSize := by
  induction input generalizing target with
  | nil => exact h
  | cons b input ih =>
    rw [jsonEscapeFrom]
    split
    next hroom =>
      have hb := length_escapeByte_le b
      have hrest := ih (show target + (escapeByte b).length < outputSize by omega)
      rw [List.length_append]
      omega
    next => exact h

/-- **The body of a string in JSON**, with the two escapes that are written: no control
character, no quote that is not escaped, and no escape pair that is cut off. -/
inductive WellEscaped : Bytes → Prop
  | nil : WellEscaped []
  | plain {b : UInt8} {rest : Bytes} (hb : 32 ≤ b ∧ b ≠ 34 ∧ b ≠ 92)
      (hrest : WellEscaped rest) : WellEscaped (b :: rest)
  | pair {b : UInt8} {rest : Bytes} (hb : b = 34 ∨ b = 92) (hrest : WellEscaped rest) :
      WellEscaped (92 :: b :: rest)

/-- There is no control character in it. -/
theorem WellEscaped.printable {s : Bytes} (h : WellEscaped s) : ∀ b ∈ s, 32 ≤ b := by
  induction h with
  | nil => simp
  | plain hb _ ih => exact List.forall_mem_cons.mpr ⟨hb.1, ih⟩
  | pair hb _ ih =>
    refine List.forall_mem_cons.mpr ⟨by decide, List.forall_mem_cons.mpr ⟨?_, ih⟩⟩
    rcases hb with rfl | rfl <;> decide

/-- The escape of a byte, in front of such a string. -/
theorem WellEscaped.escapeByte_append {s : Bytes} (h : WellEscaped s) (b : UInt8) :
    WellEscaped (escapeByte b ++ s) := by
  rw [escapeByte_eq]
  split
  next hb => exact .pair hb h
  next hb =>
    split
    next => exact .plain (by decide) h
    next =>
      split
      next hprintable => exact .plain ⟨hprintable, not_or.mp hb⟩ h
      next => exact h

theorem wellEscaped_flatMap (input : Bytes) : WellEscaped (input.flatMap escapeByte) := by
  induction input with
  | nil => exact .nil
  | cons b input ih =>
    rw [List.flatMap_cons]
    exact ih.escapeByte_append b

end Escaped

/-- **What is required of the escaped string**: it is well formed, and what is read from it
is what is left of the input when it has been sanitised, up to where the buffer was full. -/
structure Faithful (input escaped : Bytes) (outputSize : ℕ) : Prop where
  wellEscaped : WellEscaped escaped
  printable : ∀ b ∈ escaped, 32 ≤ b
  isPrefix : jsonUnescape escaped <+: input.flatMap sanitizeByte
  whole : (input.flatMap escapeByte).length + 2 ≤ outputSize →
    jsonUnescape escaped = input.flatMap sanitizeByte

theorem faithful_jsonEscape (input : Bytes) (outputSize : ℕ) :
    Faithful input (jsonEscape input outputSize) outputSize := by
  obtain ⟨k, hk⟩ := jsonEscape_eq_take input outputSize
  have hwell : WellEscaped (jsonEscape input outputSize) := hk ▸ wellEscaped_flatMap _
  refine ⟨hwell, hwell.printable, ?_, fun hfits => ?_⟩
  · rw [hk, jsonUnescape_flatMap]
    obtain ⟨rest, hrest⟩ := List.take_prefix k input
    refine ⟨rest.flatMap sanitizeByte, ?_⟩
    rw [← List.flatMap_append, hrest]
  · have hwhole : jsonEscape input outputSize = input.flatMap escapeByte :=
      jsonEscapeFrom_of_le (by omega)
    rw [hwhole, jsonUnescape_flatMap]

/-- **`json_escape` is safe and faithful**: it returns, having written no more than the
size of the buffer, and has left a string there with its terminating zero that is what it
should be; what lies behind is as it was. -/
theorem jsonEscapeMemory_faithful (call : EscapeCall) :
    ∃ escaped output',
      jsonEscapeMemory call.outputSize call.output call.input = some output' ∧
      output' = escaped ++ 0 :: call.output.drop (escaped.length + 1) ∧
      escaped.length + 1 ≤ call.outputSize.toNat ∧
      cString output' = escaped ∧
      Faithful (cString call.input) escaped call.outputSize.toNat := by
  have hfaithful := faithful_jsonEscape (cString call.input) call.outputSize.toNat
  have hroom : (jsonEscape (cString call.input) call.outputSize.toNat).length + 1 ≤
      call.outputSize.toNat := by
    have hlt := @length_jsonEscapeFrom_lt (cString call.input) _ 0
      (call.length_output ▸ call.outputSize_pos)
    rwa [Nat.zero_add] at hlt
  refine ⟨_, _, jsonEscapeMemory_eq call, ?_, hroom, ?_, hfaithful⟩
  · simp [overlay]
  · have hnonzero : ∀ b ∈ jsonEscape (cString call.input) call.outputSize.toNat, b ≠ 0 := by
      rintro _ hb rfl
      exact absurd (hfaithful.printable 0 hb) (by decide)
    rw [cString, overlay, List.append_assoc, List.takeWhile_append_of_pos (by simpa using hnonzero)]
    simp

/-- A string with a quote in it, and a buffer that is too short for what is behind the quote. -/
def quoteCall : EscapeCall where
  input := lit "ab\"cd" ++ [0]
  output := [7, 7, 7, 7, 7, 7, 7]
  outputSize := 7
  terminated := by decide
  length_output := by decide
  outputSize_pos := by decide
  fits := by decide

/-- The quote is escaped, the last letter is left out, and the last byte of the buffer is as it
was. -/
theorem jsonEscapeMemory_faithful_quote :
    jsonEscapeMemory quoteCall.outputSize quoteCall.output quoteCall.input =
        some (lit "ab\\\"c" ++ [0, 7]) ∧
      Faithful (lit "ab\"cd") (lit "ab\\\"c") 7 := by
  have hrun : jsonEscapeMemory quoteCall.outputSize quoteCall.output quoteCall.input =
      some (lit "ab\\\"c" ++ [0, 7]) := by decide +kernel
  obtain ⟨escaped, output', houtput, -, -, rfl, hfaithful⟩ := jsonEscapeMemory_faithful quoteCall
  obtain rfl := Option.some.inj (hrun.symm.trans houtput)
  have hinput : cString quoteCall.input = lit "ab\"cd" := by decide +kernel
  have hescaped : cString (lit "ab\\\"c" ++ [0, 7]) = lit "ab\\\"c" := by decide +kernel
  rw [hinput, hescaped] at hfaithful
  exact ⟨hrun, hfaithful⟩

end HybridTls
