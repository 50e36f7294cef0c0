import HybridTls.Lib.Json
import Mathlib.Algebra.Field.Rat
import Mathlib.Data.List.Forall2
import Mathlib.Data.List.TakeWhile

/-!
# Texts of objects

What a text says, with the numbers it has and the strings that its spellings stand for
(`Json.loads`), and how to read the text of an object that a program has put together
from the texts of its members.

A text spells a value (`Json.Spells`) if the reader takes it for the value behind the
colon of a member, whatever has been read before and whatever comes behind the comma or
the end of the object. Texts that spell values make up a text that is read as the object
of the values (`Json.parse_objectText`), and what is left is what each kind of value is
spelled like.
-/

namespace Json

/-! ### Values -/

section Map

variable {ν ν' σ σ' : Type} (f : ν → ν') (g : σ → σ')

mutual

/-- Other numbers and strings for those of a value. -/
def map : Json ν σ → Json ν' σ'
  | .null => .null
  | .bool b => .bool b
  | .num n => .num (f n)
  | .str s => .str (g s)
  | .arr elems => .arr (mapElems elems)
  | .obj members => .obj (mapMembers members)

/-- Of the elements of an array. -/
def mapElems : List (Json ν σ) → List (Json ν' σ')
  | [] => []
  | v :: elems => map v :: mapElems elems

/-- Of the members of an object. -/
def mapMembers : List (σ × Json ν σ) → List (σ' × Json ν' σ')
  | [] => []
  | (name, v) :: members => (g name, map v) :: mapMembers members

end

end Map

/-- The number that decimal digits stand for. -/
def digitsValue (ds : List UInt8) : ℕ := ds.foldl (fun n b => 10 * n + (b.toNat - 48)) 0

/-- **The number of a spelling**: the digits, with or without a fraction, times a power of
ten. -/
def numberValue (spelling : List UInt8) : ℚ :=
  let (negative, rest) := match spelling with
    | 45 :: rest => (true, rest)
    | rest => (false, rest)
  let whole := rest.takeWhile isDigit
  let (fraction, rest) := match rest.dropWhile isDigit with
    | 46 :: rest => (rest.takeWhile isDigit, rest.dropWhile isDigit)
    | rest => ([], rest)
  let exponent : ℤ := match rest with
    | _ :: 45 :: ds => -digitsValue ds
    | _ :: 43 :: ds => digitsValue ds
    | _ :: ds => digitsValue ds
    | [] => 0
  let magnitude := (digitsValue (whole ++ fraction) : ℚ) * 10 ^ (exponent - fraction.length)
  if negative then -magnitude else magnitude

/-- **What a text says**, if it is well-formed. -/
def loads (text : List UInt8) : Option (Json ℚ (List UInt8)) :=
  (parse text).map (map numberValue unescape)

/-- Digits are spelled as they are. -/
theorem numberValue_digits {v : List UInt8} (h : ∀ b ∈ v, isDigit b) :
    numberValue v = digitsValue v := by
  have htake : v.takeWhile isDigit = v := List.takeWhile_eq_self_iff.mpr h
  have hdrop : v.dropWhile isDigit = [] := List.dropWhile_eq_nil_iff.mpr h
  have hsign : ∀ rest, v ≠ 45 :: rest := by
    rintro rest rfl
    exact absurd (h 45 List.mem_cons_self) (by decide)
  unfold numberValue
  split
  next negative rest heq =>
    split at heq
    next rest' => exact absurd rfl (hsign rest')
    next =>
      obtain ⟨rfl, rfl⟩ := Prod.mk.inj heq
      simp [htake, hdrop]

/-! ### Spellings of values -/

section Spells

variable {text v : List UInt8} {value : Read}

/-- **A text spells a value** of a member. -/
def Spells (text : List UInt8) (value : Read) : Prop :=
  ∀ (members : List (List UInt8 × Read)) (name : List UInt8) (stack : List Frame) (c : UInt8)
    (rest : List UInt8), c = 44 ∨ c = 125 →
    run ⟨.value false, .member members name :: stack⟩ (text ++ c :: rest) =
      run ⟨.comma, .obj (members ++ [(name, value)]) :: stack⟩ (c :: rest)

theorem spells_word (w : Word) : Spells w.spelling w.value := by
  intro members name stack c rest _
  cases w <;> rfl

theorem spells_number (h : v = [48] ∨ ∃ b ds, v = b :: ds ∧ b ≠ 48 ∧ ∀ c ∈ v, isDigit c) :
    Spells v (.num v) :=
  fun _ _ _ _ rest hc => run_number h hc rest

/-- A spelling goes into a string as it is, and the string goes on behind it. -/
def Inside (v : List UInt8) : Prop :=
  ∀ (isName : Bool) (read : List UInt8) (stack : List Frame),
    run ⟨.string isName .plain read, stack⟩ v = some ⟨.string isName .plain (read ++ v), stack⟩

theorem inside_plain (h : ∀ b ∈ v, isPlain b) : Inside v := fun _ _ _ => run_plain h

/-- An escaped quote or backslash. -/
theorem inside_escaped {b : UInt8} (hb : b = 34 ∨ b = 92) : Inside [92, b] := by
  intro isName read stack
  have hread : read ++ [92] ++ [b] = read ++ [92, b] := by
    rw [List.append_assoc, List.singleton_append]
  rw [← hread]
  rcases hb with rfl | rfl <;> rfl

/-- Spellings one behind the other. -/
theorem Inside.flatMap {α : Type} {f : α → List UInt8} {xs : List α} (h : ∀ x ∈ xs, Inside (f x)) :
    Inside (xs.flatMap f) := by
  intro isName read stack
  induction xs generalizing read with
  | nil => simp [run]
  | cons x xs ih =>
    rw [List.flatMap_cons, run_append_of_run (h x List.mem_cons_self isName read stack),
      ih fun y hy => h y (List.mem_cons_of_mem _ hy), List.append_assoc]

/-- A spelling between quotes. -/
def quoted (v : List UInt8) : List UInt8 := 34 :: (v ++ [34])

theorem spells_quoted (h : Inside v) : Spells (quoted v) (.str v) := by
  intro members name stack c rest _
  change run ⟨.string false .plain [], .member members name :: stack⟩ (v ++ [34] ++ c :: rest) = _
  rw [List.append_assoc, run_append_of_run (h false [] _)]
  rfl

theorem spells_plain (h : ∀ b ∈ v, isPlain b) : Spells (quoted v) (.str v) :=
  spells_quoted (inside_plain h)

end Spells

/-! ### Objects -/

/-- The text of the members behind the first, and of the end of the object. -/
def membersText : List (List UInt8 × List UInt8) → List UInt8
  | [] => [125]
  | (name, text) :: texts => 44 :: 34 :: (name ++ [34, 58]) ++ (text ++ membersText texts)

/-- **The text of an object**, of the texts of its members. -/
def objectText : List (List UInt8 × List UInt8) → List UInt8
  | [] => [123, 125]
  | (name, text) :: texts => 123 :: 34 :: (name ++ [34, 58]) ++ (text ++ membersText texts)

/-- A text and a name spell a member. -/
structure SpellsMember (text : List UInt8 × List UInt8) (member : List UInt8 × Read) : Prop where
  name : text.1 = member.1
  plain : ∀ b ∈ text.1, isPlain b
  value : Spells text.2 member.2

section Objects

variable {texts : List (List UInt8 × List UInt8)} {members members' : List (List UInt8 × Read)}
  {stack : List Frame}

/-- Behind a value, a comma or the end of the object comes next. -/
theorem membersText_eq_cons (texts : List (List UInt8 × List UInt8)) :
    ∃ c rest, membersText texts = c :: rest ∧ (c = 44 ∨ c = 125) := by
  cases texts with
  | nil => exact ⟨125, [], rfl, Or.inr rfl⟩
  | cons text texts => exact ⟨44, _, rfl, Or.inl rfl⟩

/-- The value of a member, and the members behind it. -/
theorem Spells.run_membersText {text name : List UInt8} {value : Read} (h : Spells text value) :
    run ⟨.value false, .member members name :: stack⟩ (text ++ membersText texts) =
      run ⟨.comma, .obj (members ++ [(name, value)]) :: stack⟩ (membersText texts) := by
  obtain ⟨c, rest, heq, hc⟩ := membersText_eq_cons texts
  rw [heq]
  exact h members name stack c rest hc

theorem run_membersText (h : List.Forall₂ SpellsMember texts members') :
    run ⟨.comma, .obj members :: stack⟩ (membersText texts) =
      deliver (.obj (members ++ members')) stack := by
  induction h generalizing members with
  | nil =>
    rw [List.append_nil]
    exact run_endObject
  | @cons text member texts members' hmember _ ih =>
    obtain ⟨name, text⟩ := text
    obtain ⟨_, value⟩ := member
    obtain rfl : name = _ := hmember.name
    rw [membersText, run_append_of_run (run_name hmember.plain), hmember.value.run_membersText, ih,
      List.append_assoc, List.singleton_append]

theorem length_membersText (texts : List (List UInt8 × List UInt8)) :
    (membersText texts).length = 1 + (texts.map (·.1.length)).sum +
      (texts.map (·.2.length)).sum + 4 * texts.length := by
  induction texts with
  | nil => rfl
  | cons text texts ih =>
    simp only [membersText, List.length_append, List.length_cons, List.length_nil, ih,
      List.map_cons, List.sum_cons]
    omega

/-- What an object needs besides its names and its values: two quotes, a colon and a comma
or brace for each, and another brace. -/
theorem length_objectText (hne : texts ≠ []) :
    (objectText texts).length = 1 + (texts.map (·.1.length)).sum +
      (texts.map (·.2.length)).sum + 4 * texts.length := by
  cases texts with
  | nil => exact absurd rfl hne
  | cons text texts =>
    simp only [objectText, List.length_append, List.length_cons, List.length_nil,
      length_membersText, List.map_cons, List.sum_cons]
    omega

/-- **The text of an object is read as the object.** -/
theorem parse_objectText (h : List.Forall₂ SpellsMember texts members) :
    parse (objectText texts) = some (.obj members) := by
  cases h with
  | nil => rfl
  | @cons text member texts members hmember hrest =>
    obtain ⟨name, text⟩ := text
    obtain ⟨_, value⟩ := member
    obtain rfl : name = _ := hmember.name
    have hopening : run ⟨.value false, []⟩ (123 :: 34 :: (name ++ [34, 58])) =
        some ⟨.value false, [.member [] name]⟩ := by
      change run ⟨.string true .plain [], [.obj []]⟩ (name ++ [34, 58]) = _
      rw [run_append_of_run (run_plain hmember.plain)]
      rfl
    rw [parse, objectText, run_append_of_run hopening, hmember.value.run_membersText,
      run_membersText hrest]
    rfl

end Objects

end Json
