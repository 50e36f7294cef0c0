import Mathlib.Data.List.Basic
import Mathlib.Data.Nat.Notation

/-!
# JSON

The values of JSON, over a type of numbers and a type of strings of the reader's
choice; an object is the list of its members. And a reader of JSON texts.

The reader is a machine that takes one byte after the other (`Json.step`). Its stack has
the arrays and objects that are open, with what has been read of them, and its control
says what is expected next. So what it makes of a text does not depend on how the text
is divided (`Json.run_append`), and a text that is put together from parts is read part
by part.

Strings and numbers are kept as they are spelled; `Json.unescape` says which string a
spelling stands for. Bytes beyond ASCII are taken as they come, as parts of strings.
-/

/-- A JSON value. -/
inductive Json (ν σ : Type) where
  | null
  | bool (b : Bool)
  | num (n : ν)
  | str (s : σ)
  | arr (elems : List (Json ν σ))
  | obj (members : List (σ × Json ν σ))
  deriving Repr

namespace Json

/-- A value as it is read from a text. -/
abbrev Read := Json (List UInt8) (List UInt8)

/-! ### The reader -/

/-- White space. -/
def isBlank (b : UInt8) : Bool := b = 32 || b = 9 || b = 10 || b = 13

def isDigit (b : UInt8) : Bool := 48 ≤ b && b ≤ 57

def isHexDigit (b : UInt8) : Bool := isDigit b || (65 ≤ b && b ≤ 70) || (97 ≤ b && b ≤ 102)

/-- What has been read of a number. -/
inductive NumberPart where
  | sign
  | zero
  | whole
  | point
  | fraction
  | exponentMark
  | exponentSign
  | exponent
  deriving DecidableEq, Repr

/-- A number may end there. -/
def NumberPart.complete : NumberPart → Bool
  | .zero => true
  | .whole => true
  | .fraction => true
  | .exponent => true
  | _ => false

/-- How a number goes on. -/
def NumberPart.next (part : NumberPart) (b : UInt8) : Option NumberPart :=
  let mark := b = 101 ∨ b = 69
  match part with
  | .sign => if b = 48 then some .zero else if isDigit b then some .whole else none
  | .zero => if b = 46 then some .point else if mark then some .exponentMark else none
  | .whole =>
    if isDigit b then some .whole else if b = 46 then some .point
    else if mark then some .exponentMark else none
  | .point => if isDigit b then some .fraction else none
  | .fraction =>
    if isDigit b then some .fraction else if mark then some .exponentMark else none
  | .exponentMark =>
    if isDigit b then some .exponent else if b = 43 ∨ b = 45 then some .exponentSign else none
  | .exponentSign => if isDigit b then some .exponent else none
  | .exponent => if isDigit b then some .exponent else none

/-- What has been read of a string: all of it is plain, or a backslash has been read, or
some digits of a code are left. -/
inductive StringPart where
  | plain
  | escape
  | code (left : ℕ)
  deriving DecidableEq, Repr

/-- The words. -/
inductive Word where
  | true
  | false
  | null
  deriving DecidableEq, Repr

def Word.spelling : Word → List UInt8
  | .true => [116, 114, 117, 101]
  | .false => [102, 97, 108, 115, 101]
  | .null => [110, 117, 108, 108]

def Word.value : Word → Read
  | .true => .bool Bool.true
  | .false => .bool Bool.false
  | .null => .null

/-- An array or object that is open: an object in front of a name, or behind one. -/
inductive Frame where
  | arr (elems : List Read)
  | obj (members : List (List UInt8 × Read))
  | member (members : List (List UInt8 × Read)) (name : List UInt8)

/-- What is expected. -/
inductive Control where
  /-- A value, or the end of an array that has none. -/
  | value (empty : Bool)
  /-- A name, or the end of an object that has none. -/
  | name (empty : Bool)
  | colon (name : List UInt8)
  /-- The rest of a string, which is a name or a value. -/
  | string (isName : Bool) (part : StringPart) (read : List UInt8)
  | number (part : NumberPart) (read : List UInt8)
  /-- The rest of a word, of which `read` bytes have been read. -/
  | word (w : Word) (read : ℕ)
  /-- A comma, or the end of the array or object. -/
  | comma
  /-- Nothing more. -/
  | nothing (v : Read)

/-- A state of the reader. -/
structure State where
  control : Control
  stack : List Frame

/-- A value is complete. -/
def deliver (v : Read) : List Frame → Option State
  | [] => some ⟨.nothing v, []⟩
  | .arr elems :: stack => some ⟨.comma, .arr (elems ++ [v]) :: stack⟩
  | .member members name :: stack => some ⟨.comma, .obj (members ++ [(name, v)]) :: stack⟩
  | .obj _ :: _ => none

/-- The first byte of a value. -/
def startValue (stack : List Frame) (b : UInt8) : Option State :=
  if b = 34 then some ⟨.string false .plain [], stack⟩
  else if b = 123 then some ⟨.name true, .obj [] :: stack⟩
  else if b = 91 then some ⟨.value true, .arr [] :: stack⟩
  else if b = 45 then some ⟨.number .sign [b], stack⟩
  else if b = 48 then some ⟨.number .zero [b], stack⟩
  else if isDigit b then some ⟨.number .whole [b], stack⟩
  else if b = 116 then some ⟨.word .true 1, stack⟩
  else if b = 102 then some ⟨.word .false 1, stack⟩
  else if b = 110 then some ⟨.word .null 1, stack⟩
  else none

/-- A byte behind a value. -/
def stepBehind (q : State) (b : UInt8) : Option State :=
  if isBlank b then some q
  else match q.control, q.stack with
    | .comma, .arr elems :: stack =>
      if b = 44 then some ⟨.value false, .arr elems :: stack⟩
      else if b = 93 then deliver (.arr elems) stack
      else none
    | .comma, .obj members :: stack =>
      if b = 44 then some ⟨.name false, .obj members :: stack⟩
      else if b = 125 then deliver (.obj members) stack
      else none
    | _, _ => none

/-- A byte of a string. -/
def stepString (isName : Bool) (part : StringPart) (read : List UInt8) (stack : List Frame)
    (b : UInt8) : Option State :=
  let next := fun part => some ⟨.string isName part (read ++ [b]), stack⟩
  match part with
  | .plain =>
    if b = 34 then if isName then some ⟨.colon read, stack⟩ else deliver (.str read) stack
    else if b = 92 then next .escape
    else if b < 32 then none
    else next .plain
  | .escape =>
    if b = 117 then next (.code 4)
    else if [34, 92, 47, 98, 102, 110, 114, 116].contains b then next .plain
    else none
  | .code left =>
    if isHexDigit b then if left ≤ 1 then next .plain else next (.code (left - 1))
    else none

/-- A byte where a value is expected. -/
def stepValue (empty : Bool) (stack : List Frame) (b : UInt8) : Option State :=
  if isBlank b then some ⟨.value empty, stack⟩
  else if b = 93 then
    match empty, stack with
    | true, .arr elems :: stack => deliver (.arr elems) stack
    | _, _ => none
  else startValue stack b

/-- A byte where a name is expected. -/
def stepName (empty : Bool) (stack : List Frame) (b : UInt8) : Option State :=
  if isBlank b then some ⟨.name empty, stack⟩
  else if b = 34 then some ⟨.string true .plain [], stack⟩
  else if b = 125 then
    match empty, stack with
    | true, .obj members :: stack => deliver (.obj members) stack
    | _, _ => none
  else none

/-- A byte behind a name. -/
def stepColon (name : List UInt8) (stack : List Frame) (b : UInt8) : Option State :=
  if isBlank b then some ⟨.colon name, stack⟩
  else if b = 58 then
    match stack with
    | .obj members :: stack => some ⟨.value false, .member members name :: stack⟩
    | _ => none
  else none

/-- A byte of a number, or the one behind it. -/
def stepNumber (part : NumberPart) (read : List UInt8) (stack : List Frame) (b : UInt8) :
    Option State :=
  match part.next b with
  | some part' => some ⟨.number part' (read ++ [b]), stack⟩
  | none => if part.complete then (deliver (.num read) stack).bind (stepBehind · b) else none

/-- A byte of a word. -/
def stepWord (w : Word) (read : ℕ) (stack : List Frame) (b : UInt8) : Option State :=
  if w.spelling[read]? = some b then
    if read + 1 = w.spelling.length then deliver w.value stack
    else some ⟨.word w (read + 1), stack⟩
  else none

/-- **The reader takes a byte**; none where the text is not JSON. -/
def step (q : State) (b : UInt8) : Option State :=
  match q.control with
  | .value empty => stepValue empty q.stack b
  | .name empty => stepName empty q.stack b
  | .colon name => stepColon name q.stack b
  | .string isName part read => stepString isName part read q.stack b
  | .number part read => stepNumber part read q.stack b
  | .word w read => stepWord w read q.stack b
  | .comma => stepBehind q b
  | .nothing _ => stepBehind q b

/-- The reader takes a text. -/
def run (q : State) (text : List UInt8) : Option State := text.foldlM step q

/-- What has been read when there are no more bytes. -/
def State.result (q : State) : Option Read :=
  match q.control, q.stack with
  | .nothing v, [] => some v
  | .number part read, [] => if part.complete then some (.num read) else none
  | _, _ => none

/-- **The value of a text**, if it is well-formed. -/
def parse (text : List UInt8) : Option Read := (run ⟨.value false, []⟩ text).bind State.result

/-! ### Reading a text part by part -/

section Run

variable {q q' : State} {text rest : List UInt8} {stack : List Frame} {b : UInt8}
  {members : List (List UInt8 × Read)} {name v read : List UInt8} {isName : Bool}

theorem run_cons : run q (b :: text) = (step q b).bind (run · text) := rfl

theorem run_cons_eq_none (h : step q b = none) : run q (b :: text) = none := by
  rw [run_cons, h]
  rfl

/-- **A text in two parts.** -/
theorem run_append : run q (text ++ rest) = (run q text).bind (run · rest) := by
  rw [run, List.foldlM_append]
  rfl

theorem run_append_of_run (h : run q text = some q') : run q (text ++ rest) = run q' rest := by
  rw [run_append, h]
  rfl

/-- The bytes that stand for themselves in a string. -/
def isPlain (b : UInt8) : Bool := 32 ≤ b && b ≠ 34 && b ≠ 92

theorem stepString_plain (h : isPlain b) :
    stepString isName .plain read stack b = some ⟨.string isName .plain (read ++ [b]), stack⟩ := by
  simp only [isPlain, Bool.and_eq_true, decide_eq_true_eq] at h
  obtain ⟨⟨hlow, hquote⟩, hslash⟩ := h
  have hnot : ¬ b < 32 := UInt8.not_lt.mpr hlow
  simp [stepString, hquote, hslash, hnot]

/-- **Plain bytes go into the string.** -/
theorem run_plain (h : ∀ b ∈ v, isPlain b) :
    run ⟨.string isName .plain read, stack⟩ v =
      some ⟨.string isName .plain (read ++ v), stack⟩ := by
  induction v generalizing read with
  | nil => simp [run]
  | cons b v ih =>
    have hb : step ⟨.string isName .plain read, stack⟩ b =
        some ⟨.string isName .plain (read ++ [b]), stack⟩ :=
      stepString_plain (h b List.mem_cons_self)
    rw [run_cons, hb, Option.bind_some, ih fun c hc => h c (List.mem_cons_of_mem _ hc)]
    simp

/-- A byte that stands for itself, a quote or a backslash: no other belongs in a string. -/
theorem stepString_control (hplain : isPlain b = false) (hquote : b ≠ 34) (hslash : b ≠ 92) :
    stepString isName .plain read stack b = none := by
  have hlow : b < 32 := by
    rw [← UInt8.not_le]
    intro hle
    simp [isPlain, hle, hquote, hslash] at hplain
  simp [stepString, hquote, hslash, hlow]

/-- **Without a quote or a backslash** a text is part of the string, or there is a control
character in it. -/
theorem run_unquoted (hquote : 34 ∉ v) (hslash : 92 ∉ v) :
    run ⟨.string isName .plain read, stack⟩ v =
      if v.all isPlain then some ⟨.string isName .plain (read ++ v), stack⟩ else none := by
  split
  next hall => exact run_plain (List.all_eq_true.mp hall)
  next hnot =>
    induction v generalizing read with
    | nil => simp at hnot
    | cons b v ih =>
      simp only [List.mem_cons, not_or] at hquote hslash
      cases hb : isPlain b with
      | false =>
        exact run_cons_eq_none
          (stepString_control hb (Ne.symm hquote.1) (Ne.symm hslash.1))
      | true =>
        have hv : ¬ v.all isPlain := fun hv => hnot (by rw [List.all_cons, hb, hv]; rfl)
        have hstep : step ⟨.string isName .plain read, stack⟩ b =
            some ⟨.string isName .plain (read ++ [b]), stack⟩ := stepString_plain hb
        rw [run_cons, hstep, Option.bind_some]
        exact ih hquote.2 hslash.2 hv

/-- **A name and its colon.** -/
theorem run_name (h : ∀ b ∈ name, isPlain b) :
    run ⟨.comma, .obj members :: stack⟩ (44 :: 34 :: (name ++ [34, 58])) =
      some ⟨.value false, .member members name :: stack⟩ := by
  change run ⟨.string true .plain [], .obj members :: stack⟩ (name ++ [34, 58]) = _
  rw [run_append_of_run (run_plain h)]
  rfl

/-- **The digits of a number**, of which the first has been read, up to a byte that does
not belong to it. -/
theorem run_digits {part : NumberPart} {c : UInt8} (hpart : part.complete)
    (hnext : part.next c = none) (hdigit : ∀ b ∈ v, part.next b = some part)
    (rest : List UInt8) :
    run ⟨.number part read, .member members name :: stack⟩ (v ++ c :: rest) =
      run ⟨.comma, .obj (members ++ [(name, .num (read ++ v))]) :: stack⟩ (c :: rest) := by
  induction v generalizing read with
  | nil =>
    have hend : step ⟨.number part read, .member members name :: stack⟩ c =
        step ⟨.comma, .obj (members ++ [(name, .num read)]) :: stack⟩ c := by
      change stepNumber part read _ c = stepBehind _ c
      rw [stepNumber, hnext]
      simp only [hpart, if_true]
      rfl
    rw [List.nil_append, run_cons, run_cons, hend, List.append_nil]
  | cons b v ih =>
    have hb : step ⟨.number part read, .member members name :: stack⟩ b =
        some ⟨.number part (read ++ [b]), .member members name :: stack⟩ := by
      change stepNumber part read _ b = _
      rw [stepNumber, hdigit b List.mem_cons_self]
    rw [List.cons_append, run_cons, hb, Option.bind_some,
      ih fun c hc => hdigit c (List.mem_cons_of_mem _ hc), List.append_assoc, List.singleton_append]

/-- **A member that is a number in decimal notation**, up to a comma or the end of the
object. -/
theorem run_number (hzero : v = [48] ∨ ∃ b ds, v = b :: ds ∧ b ≠ 48 ∧ ∀ c ∈ v, isDigit c)
    {c : UInt8} (hc : c = 44 ∨ c = 125) (rest : List UInt8) :
    run ⟨.value false, .member members name :: stack⟩ (v ++ c :: rest) =
      run ⟨.comma, .obj (members ++ [(name, .num v)]) :: stack⟩ (c :: rest) := by
  rcases hzero with rfl | ⟨b, ds, rfl, hb, hdigits⟩
  · change run ⟨.number .zero [48], .member members name :: stack⟩ ([] ++ c :: rest) =
      run ⟨.comma, .obj (members ++ [(name, .num ([48] ++ []))]) :: stack⟩ (c :: rest)
    exact run_digits rfl (by rcases hc with rfl | rfl <;> rfl) (by simp) rest
  · have hstart : step ⟨.value false, .member members name :: stack⟩ b =
        some ⟨.number .whole [b], .member members name :: stack⟩ := by
      have hd : isDigit b := hdigits b List.mem_cons_self
      have hne : ∀ k, isDigit k = false → b ≠ k := by
        rintro k hk rfl
        rw [hd] at hk
        cases hk
      change stepValue false _ b = _
      simp [stepValue, startValue, isBlank, hd, hb, hne 32 rfl, hne 9 rfl, hne 10 rfl, hne 13 rfl,
        hne 93 rfl, hne 34 rfl, hne 123 rfl, hne 91 rfl, hne 45 rfl]
    rw [List.cons_append, run_cons, hstart, Option.bind_some]
    refine run_digits rfl (by rcases hc with rfl | rfl <;> rfl) (fun d hd => ?_) rest
    simp [NumberPart.next, hdigits d (List.mem_cons_of_mem _ hd)]

/-! ### In front of a quote -/

/-- The reader is in a string that is the value of a member. -/
def State.InMember (q : State) : Prop :=
  ∃ read members name stack, q = ⟨.string false .plain read, .member members name :: stack⟩

theorem stepBehind_eq_none {c : UInt8} (hblank : isBlank c = false) (hcomma : c ≠ 44)
    (harr : c ≠ 93) (hobj : c ≠ 125) : stepBehind q c = none := by
  unfold stepBehind
  rw [if_neg (by simp [hblank])]
  split <;> simp [hcomma, harr, hobj]

/-- Behind a value there is no quote. -/
theorem stepBehind_quote (q : State) : stepBehind q 34 = none :=
  stepBehind_eq_none rfl (by decide) (by decide) (by decide)

theorem stepNumber_quote (part : NumberPart) (read : List UInt8) (stack : List Frame) :
    stepNumber part read stack 34 = none := by
  have hnext : part.next 34 = none := by
    cases part <;> rfl
  simp [stepNumber, hnext, stepBehind_quote]

theorem stepWord_quote (w : Word) (n : ℕ) (stack : List Frame) : stepWord w n stack 34 = none := by
  have hnot : ¬ w.spelling[n]? = some 34 := fun h => by
    have hmem := List.mem_of_getElem? h
    revert hmem
    cases w <;> decide
  rw [stepWord, if_neg hnot]

theorem stepBehind_letter {c : UInt8} (hc : 97 ≤ c ∧ c ≤ 122) : stepBehind q c = none := by
  have hne : ∀ k : UInt8, ¬ (97 ≤ k ∧ k ≤ 122) → c ≠ k := fun k hk heq => hk (heq ▸ hc)
  refine stepBehind_eq_none ?_ (hne 44 (by decide)) (hne 93 (by decide)) (hne 125 (by decide))
  simp [isBlank, hne 32 (by decide), hne 9 (by decide), hne 10 (by decide), hne 13 (by decide)]

theorem stepColon_letter {c : UInt8} (hc : 97 ≤ c ∧ c ≤ 122) : stepColon name stack c = none := by
  have hne : ∀ k : UInt8, ¬ (97 ≤ k ∧ k ≤ 122) → c ≠ k := fun k hk heq => hk (heq ▸ hc)
  simp [stepColon, isBlank, hne 32 (by decide), hne 9 (by decide), hne 10 (by decide),
    hne 13 (by decide), hne 58 (by decide)]

theorem run_colon_letter {c : UInt8} (hc : 97 ≤ c ∧ c ≤ 122) (name : List UInt8)
    (stack : List Frame) : run ⟨.colon name, stack⟩ (c :: rest) = none :=
  run_cons_eq_none (stepColon_letter hc)

/-- No letter is behind a value. -/
theorem run_deliver_letter {c : UInt8} (hc : 97 ≤ c ∧ c ≤ 122) (v : Read) (stack : List Frame) :
    (deliver v stack).bind (run · (c :: rest)) = none := by
  rcases stack with _ | ⟨_ | _ | _, stack⟩
  · exact run_cons_eq_none (stepBehind_letter hc)
  · exact run_cons_eq_none (stepBehind_letter hc)
  · rfl
  · exact run_cons_eq_none (stepBehind_letter hc)

/-- **Anywhere else a quote and the next member do not fit**, whatever is behind them. -/
theorem run_next_member {c : UInt8} (hq : ¬ q.InMember) (hc : 97 ≤ c ∧ c ≤ 122)
    (hname : ∀ b ∈ c :: name, isPlain b) :
    run q (34 :: 44 :: 34 :: (c :: name ++ 34 :: 58 :: rest)) = none := by
  obtain ⟨control, stack⟩ := q
  cases control with
  | value empty => exact run_deliver_letter hc (.str [44]) stack
  | name empty => exact run_colon_letter hc [44] stack
  | colon name => rfl
  | string isName part read =>
    cases part with
    | plain =>
      cases isName with
      | true => rfl
      | false =>
        rcases stack with _ | ⟨elems | _ | ⟨members, name⟩, stack⟩
        · rfl
        · -- the name becomes an element, and no colon is behind an element
          change run ⟨.string false .plain [], .arr (elems ++ [.str read]) :: stack⟩
            (c :: name ++ 34 :: 58 :: rest) = none
          rw [run_append_of_run (run_plain hname)]
          rfl
        · rfl
        · exact absurd ⟨read, members, name, stack, rfl⟩ hq
    | escape =>
      cases isName with
      | true => exact run_colon_letter hc (read ++ [34] ++ [44]) stack
      | false => exact run_deliver_letter hc (.str (read ++ [34] ++ [44])) stack
    | code left => rfl
  | number part read => exact run_cons_eq_none (stepNumber_quote part read stack)
  | word w n => exact run_cons_eq_none (stepWord_quote w n stack)
  | comma => exact run_cons_eq_none (stepBehind_quote _)
  | nothing v => exact run_cons_eq_none (stepBehind_quote _)

/-- A quote and the end of the object do not fit either. -/
theorem run_end (hq : ¬ q.InMember) : (run q [34, 125]).bind State.result = none := by
  have hquote : ∀ {q : State}, step q 34 = none → (run q [34, 125]).bind State.result = none :=
    fun h => by rw [run_cons_eq_none h, Option.bind_none]
  obtain ⟨control, stack⟩ := q
  cases control with
  | value empty => rfl
  | name empty => rfl
  | colon name => rfl
  | string isName part read =>
    cases part with
    | plain =>
      cases isName with
      | true => rfl
      | false =>
        rcases stack with _ | ⟨_ | _ | ⟨members, name⟩, stack⟩
        · rfl
        · rfl
        · rfl
        · exact absurd ⟨read, members, name, stack, rfl⟩ hq
    | escape => rfl
    | code left => rfl
  | number part read => exact hquote (stepNumber_quote part read stack)
  | word w n => exact hquote (stepWord_quote w n stack)
  | comma => exact hquote (stepBehind_quote _)
  | nothing v => exact hquote (stepBehind_quote _)

/-- Behind the value of a member, the text goes on in the object. -/
theorem run_inMember : run ⟨.string false .plain read, .member members name :: stack⟩ (34 :: text) =
    run ⟨.comma, .obj (members ++ [(name, .str read)]) :: stack⟩ text := rfl

/-- The end of an object. -/
theorem run_endObject : run ⟨.comma, .obj members :: stack⟩ [125] =
    deliver (.obj members) stack := by
  change (deliver (.obj members) stack).bind (run · []) = _
  cases deliver (.obj members) stack <;> rfl

/-- What has been read when a value is complete and there are no more bytes: the value,
unless something is still open. -/
theorem result_deliver (v : Read) :
    (deliver v stack).bind State.result = if stack = [] then some v else none := by
  rcases stack with _ | ⟨_ | _ | _, stack⟩ <;> rfl

end Run

/-! ### Spellings -/

/-- The value of a hexadecimal digit. -/
def hexValue (b : UInt8) : ℕ :=
  if isDigit b then b.toNat - 48 else if 97 ≤ b then b.toNat - 87 else b.toNat - 55

/-- The bytes of a code. -/
def encode (n : ℕ) : List UInt8 :=
  if n < 128 then [n.toUInt8]
  else if n < 2048 then [(192 + n / 64).toUInt8, (128 + n % 64).toUInt8]
  else [(224 + n / 4096).toUInt8, (128 + n / 64 % 64).toUInt8, (128 + n % 64).toUInt8]

/-- The string that a spelling stands for. Of a pair of surrogates each is encoded by
itself. -/
def unescape : List UInt8 → List UInt8
  | 92 :: 117 :: a :: b :: c :: d :: rest =>
    encode (((hexValue a * 16 + hexValue b) * 16 + hexValue c) * 16 + hexValue d) ++ unescape rest
  | 92 :: b :: rest =>
    (if b = 98 then 8 else if b = 102 then 12 else if b = 110 then 10 else if b = 114 then 13
      else if b = 116 then 9 else b) :: unescape rest
  | b :: rest => b :: unescape rest
  | [] => []

theorem unescape_cons {b : UInt8} (hb : b ≠ 92) (v : List UInt8) :
    unescape (b :: v) = b :: unescape v := by
  rw [unescape]
  · rintro _ _ _ _ _ rfl
    exact absurd rfl hb
  · rintro _ _ rfl
    exact absurd rfl hb

/-- An escaped quote or backslash stands for itself. -/
theorem unescape_escaped {b : UInt8} (hb : b = 34 ∨ b = 92) (v : List UInt8) :
    unescape (92 :: b :: v) = b :: unescape v := by
  rw [unescape]
  · rcases hb with rfl | rfl <;> rfl
  · rintro _ _ _ _ _ rfl
    exact absurd hb (by decide)

/-- Without a backslash a string is spelled as it is. -/
theorem unescape_of_not_mem {v : List UInt8} (h : 92 ∉ v) : unescape v = v := by
  induction v with
  | nil => rfl
  | cons b v ih =>
    simp only [List.mem_cons, not_or] at h
    rw [unescape_cons (Ne.symm h.1), ih h.2]

end Json
