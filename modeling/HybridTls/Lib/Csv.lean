import Mathlib.Data.List.Basic

/-!
# Tables as text

The writer and the reader of Python's `csv`, for the dialects that quote what has to be
quoted and double the quotes inside.

The writer puts a field in quotes if it contains a delimiter, a quote or a line break
(`Csv.fieldText`), and a record that consists of one empty field too, since an empty line is
a record without fields (`Csv.rowText`). The reader is an automaton that is fed with the
characters of one line after the other, and with a mark at the end of each
(`Csv.process`, `Csv.tokens`). A line break inside quotes ends a line of the file, but not
the record.

What is written is read back (`Csv.read_write`), whatever is in the fields, as long as none
is longer than the reader admits.
-/

namespace Csv

/-- Two characters with a meaning of their own, and the length of the longest field. -/
structure Dialect where
  delimiter : Char
  quotechar : Char
  fieldLimit : ℕ
  ne : delimiter ≠ quotechar
  delimiter_ne : delimiter ≠ '\n' ∧ delimiter ≠ '\r'
  quotechar_ne : quotechar ≠ '\n' ∧ quotechar ≠ '\r'

/-- The dialect `excel`, with the limit there is unless another one is set. -/
def excel : Dialect where
  delimiter := ','
  quotechar := '"'
  fieldLimit := 131072
  ne := by decide
  delimiter_ne := by decide
  quotechar_ne := by decide

variable (d : Dialect)

/-- A character that ends a line. -/
def isNewline (c : Char) : Bool := c = '\n' || c = '\r'

/-! ### Writing -/

/-- A character that has to be in quotes. -/
def isSpecial (c : Char) : Bool := c = d.delimiter || c = d.quotechar || isNewline c

/-- The inside of a field in quotes. -/
def escape (field : List Char) : List Char :=
  field.flatMap fun c => if c = d.quotechar then [c, c] else [c]

/-- A field as it is written. -/
def fieldText (field : List Char) : List Char :=
  if field.any (isSpecial d) then d.quotechar :: (escape d field ++ [d.quotechar]) else field

/-- The fields of a record, with delimiters between them. -/
def fieldsText (fields : List (List Char)) : List Char :=
  [d.delimiter].intercalate (fields.map (fieldText d))

/-- `writerow`. -/
def rowText (fields : List (List Char)) : List Char :=
  -- a single empty field is quoted
  (if fields = [[]] then [d.quotechar, d.quotechar] else fieldsText d fields) ++ ['\r', '\n']

/-- `writerows`. -/
def write (rows : List (List (List Char))) : List Char := rows.flatMap (rowText d)

/-! ### Reading -/

/-- The states of the reader. -/
inductive State where
  | startRecord
  | startField
  | inField
  | inQuotedField
  | quoteInQuotedField
  | eatCrnl
  deriving DecidableEq, Repr

/-- The reader, in the middle of a record: the field it is at, and those before it. -/
structure Reader where
  state : State
  field : List Char
  fields : List (List Char)
  deriving DecidableEq, Repr

/-- What the reader raises. -/
inductive Error where
  /-- A field is longer than the limit. -/
  | fieldLimit
  /-- There is something behind a line break that has ended a record. -/
  | newline
  deriving DecidableEq, Repr

/-- `parse_reset`. -/
def Reader.empty : Reader := ⟨.startRecord, [], []⟩

/-- `parse_save_field`. -/
def Reader.save (r : Reader) (state : State) : Reader := ⟨state, [], r.fields ++ [r.field]⟩

/-- `parse_add_char`. -/
def Reader.add (r : Reader) (c : Char) (state : State) : Except Error Reader :=
  if d.fieldLimit ≤ r.field.length then .error .fieldLimit
  else .ok ⟨state, r.field ++ [c], r.fields⟩

/-- A line break ends the record, and so does the end of the line. -/
def ends (c : Option Char) : Bool := c.all isNewline

/-- The record is saved at its end. -/
def Reader.finish (r : Reader) (c : Option Char) : Reader :=
  r.save (if c.isNone then .startRecord else .eatCrnl)

/-- What the reader does in front of a field. -/
def Reader.start (r : Reader) (c : Option Char) : Except Error Reader :=
  if ends c then .ok (r.finish c)
  else match c with
    | none => .ok r
    | some c =>
      if c = d.quotechar then .ok { r with state := .inQuotedField }
      else if c = d.delimiter then .ok (r.save .startField)
      else r.add d c .inField

/-- `parse_process_char`; the end of a line is no character. -/
def process (r : Reader) (c : Option Char) : Except Error Reader :=
  match r.state with
  | .startRecord =>
    match c with
    | none => .ok r
    | some c => if isNewline c then .ok { r with state := .eatCrnl } else r.start d (some c)
  | .startField => r.start d c
  | .inField =>
    if ends c then .ok (r.finish c)
    else match c with
      | none => .ok r
      | some c => if c = d.delimiter then .ok (r.save .startField) else r.add d c .inField
  | .inQuotedField =>
    match c with
    | none => .ok r
    | some c =>
      if c = d.quotechar then .ok { r with state := .quoteInQuotedField }
      else r.add d c .inQuotedField
  | .quoteInQuotedField =>
    match c with
    | none => .ok (r.finish none)
    | some c =>
      if c = d.quotechar then r.add d c .inQuotedField
      else if c = d.delimiter then .ok (r.save .startField)
      else if isNewline c then .ok (r.finish (some c))
      -- what follows a quoted field is taken for a part of it
      else r.add d c .inField
  | .eatCrnl =>
    match c with
    | none => .ok { r with state := .startRecord }
    | some c => if isNewline c then .ok r else .error .newline

/-- The lines of a file that is opened with `newline=""`, with their ends. -/
def lines : List Char → List (List Char)
  | [] => []
  | '\n' :: rest => ['\n'] :: lines rest
  | '\r' :: '\n' :: rest => ['\r', '\n'] :: lines rest
  | '\r' :: rest => ['\r'] :: lines rest
  | c :: rest =>
    match lines rest with
    | [] => [[c]]
    | line :: more => (c :: line) :: more

/-- What the reader is fed with. -/
def tokens (text : List Char) : List (Option Char) :=
  (lines text).flatMap fun line => line.map some ++ [none]

/-- What a reader yields: the records of a file, or those before an error. -/
structure Records where
  rows : List (List (List Char))
  error : Option Error
  deriving DecidableEq, Repr

/-- Another record in front. -/
def Records.cons (fields : List (List Char)) (r : Records) : Records :=
  { r with rows := fields :: r.rows }

/-- The records from a reader in the middle of one on. -/
def readFrom (r : Reader) : List (Option Char) → Records
  | [] =>
    -- the file may have ended inside quotes
    ⟨if r.field ≠ [] ∨ r.state = .inQuotedField then [r.fields ++ [r.field]] else [], none⟩
  | some c :: ts =>
    match process d r (some c) with
    | .error e => ⟨[], some e⟩
    | .ok r => readFrom r ts
  | none :: ts =>
    match process d r none with
    | .error e => ⟨[], some e⟩
    | .ok r => if r.state = .startRecord then (readFrom .empty ts).cons r.fields else readFrom r ts

/-- The records of a file, one by one. -/
def records (text : List Char) : Records := readFrom d .empty (tokens text)

/-- The records of a file, all at once. -/
def read (text : List Char) : Except Error (List (List (List Char))) :=
  match (records d text).error with
  | none => .ok (records d text).rows
  | some e => .error e

/-! ### Lines -/

section Lines

variable {rest : List Char} {c : Char}

theorem tokens_newline : tokens ('\n' :: rest) = some '\n' :: none :: tokens rest := by
  simp [tokens, lines]

theorem tokens_crlf :
    tokens ('\r' :: '\n' :: rest) = some '\r' :: some '\n' :: none :: tokens rest := by
  simp [tokens, lines]

theorem tokens_return (h : rest.head? ≠ some '\n') :
    tokens ('\r' :: rest) = some '\r' :: none :: tokens rest := by
  have hlines : lines ('\r' :: rest) = ['\r'] :: lines rest := by
    rw [lines]
    rintro rest' rfl
    simp at h
  rw [tokens, hlines]
  rfl

theorem lines_cons (hc : isNewline c = false) :
    lines (c :: rest) = match lines rest with
      | [] => [[c]]
      | line :: more => (c :: line) :: more := by
  simp only [isNewline, Bool.or_eq_false_iff, decide_eq_false_iff_not] at hc
  rw [lines]
  · exact hc.1
  · rintro _ h
    exact absurd h hc.2
  · exact hc.2

theorem lines_ne_nil (hrest : rest ≠ []) : lines rest ≠ [] := by
  fun_cases lines rest <;> simp_all

/-- A character is on the line of what follows. -/
theorem tokens_cons (hc : isNewline c = false) (hrest : rest ≠ []) :
    tokens (c :: rest) = some c :: tokens rest := by
  obtain ⟨line, more, hlines⟩ := List.exists_cons_of_ne_nil (lines_ne_nil hrest)
  rw [tokens, tokens, lines_cons hc, hlines]
  rfl

end Lines

/-! ### What is written is read -/

section RoundTrip

variable {d : Dialect} {rest field : List Char} {c : Char} {f : List Char}
  {fs : List (List Char)} {ts : List (Option Char)}

theorem readFrom_some {r r' : Reader} (h : process d r (some c) = .ok r') :
    readFrom d r (some c :: ts) = readFrom d r' ts := by
  rw [readFrom, h]

/-- The end of a line inside quotes is nothing. -/
theorem readFrom_none_quoted :
    readFrom d ⟨.inQuotedField, f, fs⟩ (none :: ts) = readFrom d ⟨.inQuotedField, f, fs⟩ ts := by
  simp [readFrom, process]

theorem add_eq {r : Reader} {state : State} (h : r.field.length < d.fieldLimit) :
    r.add d c state = .ok ⟨state, r.field ++ [c], r.fields⟩ := by
  rw [Reader.add, if_neg (by omega)]

/-- Inside quotes, what is no quote is added. -/
theorem readFrom_quoted_char (hc : c ≠ d.quotechar) (hlen : f.length < d.fieldLimit) :
    readFrom d ⟨.inQuotedField, f, fs⟩ (some c :: ts) =
      readFrom d ⟨.inQuotedField, f ++ [c], fs⟩ ts := by
  refine readFrom_some ?_
  simp only [process, if_neg hc]
  exact add_eq hlen

theorem escape_cons (hc : c ≠ d.quotechar) : escape d (c :: field) = c :: escape d field := by
  simp [escape, hc]

/-- What is written for a field begins with a line break only if the field does. -/
theorem head?_escape_ne (h : field.head? ≠ some '\n') :
    (escape d field ++ d.quotechar :: rest).head? ≠ some '\n' := by
  cases field with
  | nil => simpa [escape] using d.quotechar_ne.1
  | cons c field =>
    have hc : c ≠ '\n' := by simpa using h
    by_cases hquote : c = d.quotechar <;> simp [escape, hquote, hc, d.quotechar_ne.1]

/-- **The inside of a field in quotes is read**, up to the quote behind it, by induction on its
length: where it has a line break, a line ends. -/
theorem readFrom_escape {n : ℕ} (hn : field.length = n)
    (hlen : f.length + field.length ≤ d.fieldLimit) (hrest : rest ≠ []) :
    readFrom d ⟨.inQuotedField, f, fs⟩ (tokens (escape d field ++ d.quotechar :: rest)) =
      readFrom d ⟨.quoteInQuotedField, f ++ field, fs⟩ (tokens rest) := by
  have hquote : isNewline d.quotechar = false := by simp [isNewline, d.quotechar_ne]
  induction n using Nat.strongRecOn generalizing field f with
  | ind n ih =>
    cases field with
    | nil =>
      rw [List.append_nil, escape, List.flatMap_nil, List.nil_append, tokens_cons hquote hrest]
      exact readFrom_some (by simp [process])
    | cons c field =>
      rw [List.length_cons] at hn hlen
      have hnext := @ih field.length (by omega) field (f ++ [c]) rfl
        (by rw [List.length_append, List.length_singleton]; omega)
      rw [List.append_assoc, List.singleton_append] at hnext
      by_cases hc : c = d.quotechar
      · -- a quote is doubled
        subst hc
        have hescape : escape d (d.quotechar :: field) =
            d.quotechar :: d.quotechar :: escape d field := by
          simp [escape]
        have hfirst : process d ⟨.inQuotedField, f, fs⟩ (some d.quotechar) =
            .ok ⟨.quoteInQuotedField, f, fs⟩ := by
          simp [process]
        have hsecond : process d ⟨.quoteInQuotedField, f, fs⟩ (some d.quotechar) =
            .ok ⟨.inQuotedField, f ++ [d.quotechar], fs⟩ := by
          simp only [process, if_true]
          exact add_eq (by simp only; omega)
        rw [hescape, List.cons_append, List.cons_append, tokens_cons hquote (by simp),
          tokens_cons hquote (by simp), readFrom_some hfirst, readFrom_some hsecond, hnext]
      rw [escape_cons hc, List.cons_append]
      by_cases hline : c = '\n'
      · subst hline
        rw [tokens_newline, readFrom_quoted_char hc (by omega), readFrom_none_quoted, hnext]
      by_cases hreturn : c = '\r'
      · subst hreturn
        by_cases hhead : field.head? = some '\n'
        · -- the two of them end one line
          obtain ⟨field, rfl⟩ : ∃ field', field = '\n' :: field' := by
            cases field with
            | nil => simp at hhead
            | cons c field => exact ⟨field, by simpa using hhead⟩
          rw [List.length_cons] at hn hlen
          have hpair := @ih field.length (by omega) field (f ++ ['\r', '\n']) rfl
            (by simp only [List.length_append, List.length_cons, List.length_nil]; omega)
          rw [escape_cons d.quotechar_ne.1.symm, List.cons_append, tokens_crlf,
            readFrom_quoted_char hc (by omega),
            readFrom_quoted_char d.quotechar_ne.1.symm
              (by rw [List.length_append, List.length_singleton]; omega),
            readFrom_none_quoted]
          simpa using hpair
        · rw [tokens_return (head?_escape_ne hhead), readFrom_quoted_char hc (by omega),
            readFrom_none_quoted, hnext]
      · have hplain : isNewline c = false := by simp [isNewline, hline, hreturn]
        rw [tokens_cons hplain (by simp), readFrom_quoted_char hc (by omega), hnext]

/-- **A field without anything special is read** up to what ends it. -/
theorem readFrom_plain (hplain : ∀ c ∈ field, isSpecial d c = false)
    (hlen : f.length + field.length ≤ d.fieldLimit) (hrest : rest ≠ []) :
    readFrom d ⟨.inField, f, fs⟩ (tokens (field ++ rest)) =
      readFrom d ⟨.inField, f ++ field, fs⟩ (tokens rest) := by
  induction field generalizing f with
  | nil => simp
  | cons c field ih =>
    rw [List.length_cons] at hlen
    have hc := hplain c List.mem_cons_self
    simp only [isSpecial, Bool.or_eq_false_iff, decide_eq_false_iff_not] at hc
    obtain ⟨⟨hdelimiter, hquote⟩, hnewline⟩ := hc
    have hprocess : process d ⟨.inField, f, fs⟩ (some c) = .ok ⟨.inField, f ++ [c], fs⟩ := by
      simp only [process, ends, Option.all_some, hnewline, Bool.false_eq_true, if_false,
        if_neg hdelimiter]
      exact add_eq (by simp only; omega)
    rw [List.cons_append, tokens_cons hnewline (by simp [hrest]), readFrom_some hprocess,
      ih (fun c hc => hplain c (List.mem_cons_of_mem _ hc))
        (by rw [List.length_append, List.length_singleton]; omega)]
    simp

/-- The states in which a field has been read. -/
def State.HasField (state : State) : Prop :=
  state = .startField ∨ state = .inField ∨ state = .quoteInQuotedField

/-- **A field is read as it has been written.** -/
theorem readFrom_fieldText (fs : List (List Char)) (hlen : field.length ≤ d.fieldLimit)
    (hrest : rest ≠ []) : ∃ state : State, state.HasField ∧
      readFrom d ⟨.startField, [], fs⟩ (tokens (fieldText d field ++ rest)) =
        readFrom d ⟨state, field, fs⟩ (tokens rest) := by
  have hquote : isNewline d.quotechar = false := by simp [isNewline, d.quotechar_ne]
  unfold fieldText
  split
  next hspecial =>
    refine ⟨.quoteInQuotedField, Or.inr (Or.inr rfl), ?_⟩
    have hopen : process d ⟨.startField, [], fs⟩ (some d.quotechar) =
        .ok ⟨.inQuotedField, [], fs⟩ := by
      simp [process, Reader.start, ends, hquote]
    rw [List.cons_append, List.append_assoc, List.singleton_append,
      tokens_cons hquote (by simp), readFrom_some hopen,
      readFrom_escape rfl (by simpa using hlen) hrest, List.nil_append]
  next hplain =>
    have hplain : ∀ c ∈ field, isSpecial d c = false := by simpa using hplain
    cases field with
    | nil => exact ⟨.startField, Or.inl rfl, rfl⟩
    | cons c field =>
      refine ⟨.inField, Or.inr (Or.inl rfl), ?_⟩
      rw [List.length_cons] at hlen
      have hc := hplain c List.mem_cons_self
      simp only [isSpecial, Bool.or_eq_false_iff, decide_eq_false_iff_not] at hc
      obtain ⟨⟨hdelimiter, hquoted⟩, hnewline⟩ := hc
      have hfirst : process d ⟨.startField, [], fs⟩ (some c) = .ok ⟨.inField, [c], fs⟩ := by
        simp only [process, Reader.start, ends, Option.all_some, hnewline, Bool.false_eq_true,
          if_false, if_neg hdelimiter, if_neg hquoted]
        exact add_eq (by simp only [List.length_nil]; omega)
      rw [List.cons_append, tokens_cons hnewline (by simp [hrest]), readFrom_some hfirst,
        readFrom_plain (fun c hc => hplain c (List.mem_cons_of_mem _ hc))
          (by rw [List.length_singleton]; omega) hrest, List.singleton_append]

/-- Behind a field a delimiter begins the next one. -/
theorem process_delimiter {state : State} (h : state.HasField) :
    process d ⟨state, f, fs⟩ (some d.delimiter) = .ok ⟨.startField, [], fs ++ [f]⟩ := by
  have hnewline : isNewline d.delimiter = false := by simp [isNewline, d.delimiter_ne]
  rcases h with rfl | rfl | rfl <;>
    simp [process, Reader.start, ends, hnewline, d.ne, Reader.save]

/-- And the end of the line ends the record. -/
theorem readFrom_crlf {state : State} (h : state.HasField) :
    readFrom d ⟨state, f, fs⟩ (tokens ('\r' :: '\n' :: rest)) =
      (records d rest).cons (fs ++ [f]) := by
  have hfirst : process d ⟨state, f, fs⟩ (some '\r') = .ok ⟨.eatCrnl, [], fs ++ [f]⟩ := by
    have hnewline : isNewline '\r' = true := rfl
    rcases h with rfl | rfl | rfl <;>
      simp [process, Reader.start, ends, hnewline, Reader.finish, Reader.save,
        d.delimiter_ne.2.symm, d.quotechar_ne.2.symm]
  have hsecond : process d ⟨.eatCrnl, [], fs ++ [f]⟩ (some '\n') =
      .ok ⟨.eatCrnl, [], fs ++ [f]⟩ := rfl
  rw [tokens_crlf, readFrom_some hfirst, readFrom_some hsecond]
  rfl

/-- **The fields of a record are read**, by induction on the fields still to come. -/
theorem readFrom_fieldsText {fields : List (List Char)} (hne : fields ≠ [])
    (hlen : ∀ field ∈ fields, field.length ≤ d.fieldLimit) :
    readFrom d ⟨.startField, [], fs⟩ (tokens (fieldsText d fields ++ '\r' :: '\n' :: rest)) =
      (records d rest).cons (fs ++ fields) := by
  have hdelimiter : isNewline d.delimiter = false := by simp [isNewline, d.delimiter_ne]
  induction fields generalizing fs with
  | nil => exact absurd rfl hne
  | cons field fields ih =>
    have hfield := hlen field List.mem_cons_self
    cases fields with
    | nil =>
      have hend : '\r' :: '\n' :: rest ≠ [] := by simp
      obtain ⟨state, hstate, hread⟩ := readFrom_fieldText fs hfield hend
      have htext : fieldsText d [field] = fieldText d field := by simp [fieldsText]
      rw [htext, hread, readFrom_crlf hstate]
    | cons next fields =>
      have htext : fieldsText d (field :: next :: fields) =
          fieldText d field ++ d.delimiter :: fieldsText d (next :: fields) := by
        simp [fieldsText, List.intercalate_cons_cons]
      rw [htext, List.append_assoc, List.cons_append]
      have hend : d.delimiter :: (fieldsText d (next :: fields) ++ '\r' :: '\n' :: rest) ≠ [] := by
        simp
      obtain ⟨state, hstate, hread⟩ := readFrom_fieldText fs hfield hend
      rw [hread, tokens_cons hdelimiter (by simp), readFrom_some (process_delimiter hstate),
        ih (by simp) fun field hf => hlen field (List.mem_cons_of_mem _ hf)]
      simp

/-- Before a record that is not empty the reader is in front of its first field. -/
theorem readFrom_startRecord (hc : isNewline c = false) :
    readFrom d .empty (some c :: ts) = readFrom d ⟨.startField, [], []⟩ (some c :: ts) := by
  have hprocess : process d .empty (some c) = process d ⟨.startField, [], []⟩ (some c) := by
    simp only [process, Reader.empty, hc, Bool.false_eq_true, if_false]
    rfl
  rw [readFrom, readFrom, hprocess]

/-- A record begins with no line break, if it has two fields or one that is not empty. -/
theorem fieldsText_eq_cons {fields : List (List Char)} (hne : fields ≠ []) (hone : fields ≠ [[]]) :
    ∃ c text, fieldsText d fields = c :: text ∧ isNewline c = false := by
  have hdelimiter : isNewline d.delimiter = false := by simp [isNewline, d.delimiter_ne]
  have hquote : isNewline d.quotechar = false := by simp [isNewline, d.quotechar_ne]
  obtain ⟨field, fields, rfl⟩ := List.exists_cons_of_ne_nil hne
  cases field with
  | nil =>
    -- there is another field behind a delimiter
    cases fields with
    | nil => exact absurd rfl hone
    | cons next fields =>
      refine ⟨d.delimiter, fieldsText d (next :: fields), ?_, hdelimiter⟩
      simp [fieldsText, List.intercalate_cons_cons, fieldText]
  | cons c field =>
    obtain ⟨rest, hrest⟩ : ∃ rest, fieldsText d ((c :: field) :: fields) =
        fieldText d (c :: field) ++ rest := by
      cases fields <;> simp [fieldsText, List.intercalate_cons_cons]
    rw [hrest, fieldText]
    split
    next => exact ⟨_, _, rfl, hquote⟩
    next hplain =>
      have hc : isSpecial d c = false := by
        simp only [List.any_cons, Bool.or_eq_true, not_or, Bool.not_eq_true] at hplain
        exact hplain.1
      simp only [isSpecial, Bool.or_eq_false_iff] at hc
      exact ⟨c, _, rfl, hc.2⟩

/-- **A record is read as it has been written.** -/
theorem records_rowText {fields : List (List Char)}
    (hlen : ∀ field ∈ fields, field.length ≤ d.fieldLimit) :
    records d (rowText d fields ++ rest) = (records d rest).cons fields := by
  have hquote : isNewline d.quotechar = false := by simp [isNewline, d.quotechar_ne]
  unfold rowText
  split
  next hone =>
    subst hone
    have hopen : process d .empty (some d.quotechar) = .ok ⟨.inQuotedField, [], []⟩ := by
      simp [process, Reader.empty, Reader.start, ends, hquote]
    have hclose : process d ⟨.inQuotedField, [], []⟩ (some d.quotechar) =
        .ok ⟨.quoteInQuotedField, [], []⟩ := by
      simp [process]
    rw [records]
    simp only [List.cons_append, List.nil_append]
    rw [tokens_cons hquote (by simp), tokens_cons hquote (by simp), readFrom_some hopen,
      readFrom_some hclose, readFrom_crlf (Or.inr (Or.inr rfl))]
    rfl
  next hone =>
    rw [List.append_assoc, records]
    cases hfields : fields with
    | nil =>
      have hempty : process d .empty (some '\r') = .ok ⟨.eatCrnl, [], []⟩ := rfl
      have heaten : process d ⟨.eatCrnl, [], []⟩ (some '\n') = .ok ⟨.eatCrnl, [], []⟩ := rfl
      have htext : fieldsText d [] = [] := rfl
      rw [htext, List.nil_append]
      simp only [List.cons_append, List.nil_append]
      rw [tokens_crlf, readFrom_some hempty, readFrom_some heaten]
      rfl
    | cons field more =>
      rw [← hfields]
      have hne : fields ≠ [] := hfields ▸ List.cons_ne_nil _ _
      obtain ⟨c, text, htext, hc⟩ := fieldsText_eq_cons (d := d) hne hone
      have hread : readFrom d ⟨.startField, [], []⟩
          (tokens (fieldsText d fields ++ '\r' :: '\n' :: rest)) =
            (records d rest).cons ([] ++ fields) :=
        readFrom_fieldsText hne hlen
      rw [htext, List.cons_append, tokens_cons hc (by simp), ← readFrom_startRecord hc,
        List.nil_append] at hread
      rw [htext]
      simp only [List.cons_append, List.nil_append]
      rwa [tokens_cons hc (by simp)]

/-- **What is written is read**, record by record, and there is no error. -/
theorem records_write {rows : List (List (List Char))}
    (hlen : ∀ fields ∈ rows, ∀ field ∈ fields, field.length ≤ d.fieldLimit) :
    records d (write d rows) = ⟨rows, none⟩ := by
  induction rows with
  | nil => rfl
  | cons fields rows ih =>
    have hrows := ih fun fields hf => hlen fields (List.mem_cons_of_mem _ hf)
    have htext : write d (fields :: rows) = rowText d fields ++ write d rows := rfl
    rw [htext, records_rowText (hlen fields List.mem_cons_self), hrows, Records.cons]

/-- **What is written is read back**, whatever is in the fields. -/
theorem read_write {rows : List (List (List Char))}
    (hlen : ∀ fields ∈ rows, ∀ field ∈ fields, field.length ≤ d.fieldLimit) :
    read d (write d rows) = .ok rows := by
  rw [read, records_write hlen]

end RoundTrip

end Csv
