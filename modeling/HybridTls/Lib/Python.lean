import HybridTls.Lib.Cutting
import HybridTls.Lib.Letters
import Mathlib.Data.Int.Notation
import Mathlib.Data.List.DropRight
import Mathlib.Data.List.Forall2
import Mathlib.Data.List.Infix
import Mathlib.Data.Nat.Notation

/-!
# Python's built-ins

What a translation of a Python program needs of the language: computations that
may raise, the indexing of lists and dictionaries, and some methods of texts.

White space is that of `str.isspace`, and digits are those of `str.isdigit` and
`str.isdecimal`, and so the complete lists.
-/

namespace Python

/-! ### Exceptions -/

/-- The built-in exceptions. -/
inductive Exn where
  | attributeError
  | indexError
  | keyError (key : String)
  | typeError
  | valueError
  deriving DecidableEq, Repr

/-- A computation that may raise. -/
abbrev Py := Except Exn

section Py

variable {α β : Type} {x : Py α} {f : α → Py β} {a : α} {b : β}

@[simp] theorem pure_eq_ok : (pure a : Py α) = .ok a := rfl

@[simp] theorem throw_eq_error {e : Exn} : (throw e : Py α) = .error e := rfl

@[simp] theorem bind_eq_ok : (x >>= f) = .ok b ↔ ∃ a, x = .ok a ∧ f a = .ok b := by
  cases x with
  | error e => simp [bind, Except.bind]
  | ok a => simp [bind, Except.bind]

end Py

/-! ### Lists -/

section MapM

variable {α β : Type} {f : α → Py β}

/-- **A comprehension returns what its elements return.** -/
theorem mapM_eq_ok {xs : List α} {ys : List β} :
    xs.mapM f = .ok ys ↔ List.Forall₂ (fun x y => f x = .ok y) xs ys := by
  induction xs generalizing ys with
  | nil => simp [eq_comm]
  | cons x xs ih =>
    simp only [List.mapM_cons, bind_eq_ok, pure_eq_ok, Except.ok.injEq]
    constructor
    · rintro ⟨y, hy, ys', hys', rfl⟩
      exact .cons hy (ih.mp hys')
    · rintro (_ | ⟨hy, hys'⟩)
      exact ⟨_, hy, _, ih.mpr hys', rfl⟩

/-- What holds between the elements of three lists, two by two. -/
theorem forall₂_trans {γ : Type} {R : α → β → Prop} {S : β → γ → Prop} {xs : List α} {ys : List β}
    {zs : List γ} (hR : List.Forall₂ R xs ys) (hS : List.Forall₂ S ys zs) :
    List.Forall₂ (fun x z => ∃ y, R x y ∧ S y z) xs zs := by
  induction hR generalizing zs with
  | nil =>
    cases hS
    exact .nil
  | cons hxy _ ih =>
    obtain _ | ⟨hyz, hrest⟩ := hS
    exact .cons ⟨_, hxy, hyz⟩ (ih hrest)

/-- What corresponds to each other is in the lists. -/
theorem forall₂_mem {R : α → β → Prop} {xs : List α} {ys : List β} (h : List.Forall₂ R xs ys) :
    List.Forall₂ (fun x y => R x y ∧ x ∈ xs ∧ y ∈ ys) xs ys :=
  List.forall₂_iff_zip.mpr ⟨h.length_eq, fun hxy => ⟨List.forall₂_zip h hxy, List.of_mem_zip hxy⟩⟩

/-- Counting what agrees gives the same counts. -/
theorem countP_eq_of_forall₂ {R : α → β → Prop} {p : α → Bool} {q : β → Bool}
    {xs : List α} {ys : List β} (h : List.Forall₂ R xs ys)
    (hpq : ∀ x y, R x y → (p x ↔ q y)) : xs.countP p = ys.countP q := by
  induction h with
  | nil => rfl
  | cons hxy _ ih =>
    rw [List.countP_cons, List.countP_cons, ih]
    simp only [hpq _ _ hxy]

/-- Counting what follows from it gives no smaller counts. -/
theorem countP_le_of_forall₂ {R : α → β → Prop} {p : α → Bool} {q : β → Bool}
    {xs : List α} {ys : List β} (h : List.Forall₂ R xs ys)
    (hpq : ∀ x y, R x y → p x → q y) : xs.countP p ≤ ys.countP q := by
  induction h with
  | nil => exact Nat.le_refl 0
  | cons hxy _ ih =>
    rw [List.countP_cons, List.countP_cons]
    split
    next hp => rw [if_pos (hpq _ _ hxy hp)]; omega
    next => omega

/-- It returns if none of them raises. -/
theorem exists_mapM {xs : List α} (h : ∀ x ∈ xs, ∃ y, f x = .ok y) : ∃ ys, xs.mapM f = .ok ys := by
  induction xs with
  | nil => exact ⟨[], rfl⟩
  | cons x xs ih =>
    obtain ⟨y, hy⟩ := h x List.mem_cons_self
    obtain ⟨ys, hys⟩ := ih fun x' hx' => h x' (List.mem_cons_of_mem _ hx')
    exact ⟨y :: ys, mapM_eq_ok.mpr (.cons hy (mapM_eq_ok.mp hys))⟩

/-- None of them raises if it returns. -/
theorem exists_of_mapM_eq_ok {xs : List α} {ys : List β} (h : xs.mapM f = .ok ys) {x : α}
    (hx : x ∈ xs) : ∃ y, f x = .ok y := by
  have hall := mapM_eq_ok.mp h
  induction hall with
  | nil => cases hx
  | cons hxy hrest ih =>
    obtain rfl | hx := List.mem_cons.mp hx
    · exact ⟨_, hxy⟩
    · exact ih (mapM_eq_ok.mpr hrest) hx

end MapM

section List

variable {α : Type}

/-- `xs[i]`, where a negative index counts from the end. -/
def getItem (xs : List α) (i : ℤ) : Py α :=
  let j := if i < 0 then i + xs.length else i
  if j < 0 then .error .indexError
  else match xs[j.toNat]? with
    | some a => .ok a
    | none => .error .indexError

/-- An index within the list. -/
theorem getItem_eq_ok {xs : List α} {i : ℤ} (h₀ : 0 ≤ i) (h : i < xs.length) :
    getItem xs i = .ok (xs.get ⟨i.toNat, by omega⟩) := by
  have hi : i.toNat < xs.length := by omega
  have hnot : ¬ i < 0 := by omega
  simp only [getItem, if_neg hnot, List.getElem?_eq_getElem hi, List.get_eq_getElem]

end List

/-! ### Dictionaries -/

/-- A dictionary, in the order in which its keys were inserted. -/
abbrev Dict (κ α : Type) := List (κ × α)

/-- `d[key]`. -/
def Dict.getItem {α : Type} (d : Dict String α) (key : String) : Py α :=
  match d.lookup key with
  | some a => .ok a
  | none => .error (.keyError key)

section Dict

variable {κ α : Type} [DecidableEq κ]

/-- `d[key] = a`. -/
def Dict.setItem (d : Dict κ α) (key : κ) (a : α) : Dict κ α :=
  match d with
  | [] => [(key, a)]
  | (k, b) :: d => if k = key then (k, a) :: d else (k, b) :: Dict.setItem d key a

variable {d : Dict κ α} {key : κ} {a : α}

theorem Dict.lookup_cons (k k' : κ) (b : α) :
    List.lookup k ((k', b) :: d) = if k = k' then some b else d.lookup k := by
  rw [List.lookup_cons]
  by_cases h : k = k'
  · simp [h]
  · simp [h, beq_false_of_ne h]

theorem Dict.setItem_ne_nil : d.setItem key a ≠ [] := by
  cases d with
  | nil => simp [Dict.setItem]
  | cons e d =>
    rw [Dict.setItem]
    split <;> simp

/-- **Looking up after an assignment.** -/
theorem Dict.lookup_setItem (k : κ) :
    (d.setItem key a).lookup k = if k = key then some a else d.lookup k := by
  induction d with
  | nil => exact Dict.lookup_cons k key a
  | cons e d ih =>
    obtain ⟨k', b⟩ := e
    rw [Dict.setItem, Dict.lookup_cons]
    split
    next heq =>
      rw [Dict.lookup_cons, heq]
      split
      · rfl
      · rfl
    next hne =>
      rw [Dict.lookup_cons, ih]
      by_cases h : k = k'
      · rw [if_pos h, if_pos h, if_neg fun hk => hne (h.symm.trans hk)]
      · rw [if_neg h, if_neg h]

/-- **Looking up after a loop of assignments**: the last one to the key counts. -/
theorem Dict.lookup_foldl_setItem {ι : Type} {f : ι → κ} {g : ι → α} (xs : List ι) (k : κ) :
    (xs.foldl (fun d x => d.setItem (f x) (g x)) d).lookup k =
      ((xs.reverse.find? fun x => f x = k).map g).or (d.lookup k) := by
  induction xs generalizing d with
  | nil => rfl
  | cons x xs ih =>
    rw [List.foldl_cons, ih, Dict.lookup_setItem, List.reverse_cons, List.find?_append]
    cases xs.reverse.find? fun x => f x = k with
    | some y => rfl
    | none =>
      by_cases h : f x = k
      · simp [h]
      · simp [h, Ne.symm h]

end Dict

/-! ### Texts -/

/-- `str.isspace`, of a character. -/
def isSpace (c : Char) : Bool :=
  (9 ≤ c.toNat && c.toNat ≤ 13) || (28 ≤ c.toNat && c.toNat ≤ 32) ||
    (8192 ≤ c.toNat && c.toNat ≤ 8202) ||
    [133, 160, 5760, 8232, 8233, 8239, 8287, 12288].contains c.toNat

/-- `str.strip`. -/
def strip (s : String) : String :=
  String.ofList ((s.toList.dropWhile isSpace).rdropWhile isSpace)

/-- `s.startswith(t)`. -/
def startsWith (s t : String) : Bool := t.toList.isPrefixOf s.toList

/-- `s.split(sep)`, at one character. -/
def split (s : String) (sep : Char) : List String := (s.toList.splitOn sep).map String.ofList

/-- `s.replace(old, new)`. -/
def replace (s old new : String) : String :=
  String.ofList (Cutting.replace old.toList new.toList s.toList)

/-- `s.strip(chars)`. -/
def stripChars (s chars : String) : String :=
  String.ofList (Cutting.trim (fun c => chars.toList.contains c) s.toList)

/-- `t in s`. -/
def contains (s t : String) : Bool := t.toList <:+: s.toList

section Strip

variable {s : String}

/-- What neither begins nor ends in white space is kept whole. -/
theorem strip_eq_self (hhead : ∀ c ∈ s.toList.head?, isSpace c = false)
    (hlast : ∀ c ∈ s.toList.getLast?, isSpace c = false) : strip s = s := by
  have htrim : Cutting.trim isSpace s.toList = s.toList :=
    Cutting.trim_eq_self_iff.mpr ⟨hhead, hlast⟩
  rw [strip, ← Cutting.trim, htrim, String.ofList_toList]

theorem head?_strip (s : String) : ∀ c ∈ (strip s).toList.head?, isSpace c = false := by
  intro c hc
  rw [strip, String.toList_ofList] at hc
  obtain ⟨t, ht⟩ := List.rdropWhile_prefix isSpace (l := s.toList.dropWhile isSpace)
  have hc' : (s.toList.dropWhile isSpace).head? = some c := by
    rw [← ht, List.head?_append, hc]
    rfl
  have hhead := List.head?_dropWhile_not isSpace s.toList
  rw [hc'] at hhead
  exact hhead

theorem getLast?_strip (s : String) : ∀ c ∈ (strip s).toList.getLast?, isSpace c = false := by
  intro c hc
  rw [strip, String.toList_ofList] at hc
  have hne : (s.toList.dropWhile isSpace).rdropWhile isSpace ≠ [] := by
    intro hnil
    simp [hnil] at hc
  rw [List.getLast?_eq_some_getLast hne] at hc
  obtain rfl := Option.some.inj hc
  simpa using List.rdropWhile_last_not isSpace _ hne

@[simp] theorem strip_strip (s : String) : strip (strip s) = strip s :=
  strip_eq_self (head?_strip s) (getLast?_strip s)

end Strip

/-! ### Digits -/

/-- The zeros of the decimal digits, of which every script has ten in a row. -/
def zeros : List ℕ :=
  [48, 1632, 1776, 1984, 2406, 2534, 2662, 2790, 2918, 3046, 3174, 3302, 3430, 3558, 3664, 3792,
    3872, 4160, 4240, 6112, 6160, 6470, 6608, 6784, 6800, 6992, 7088, 7232, 7248, 42528, 43216,
    43264, 43472, 43504, 43600, 44016, 65296, 66720, 68912, 69734, 69872, 69942, 70096, 70384,
    70736, 70864, 71248, 71360, 71472, 71904, 72016, 72784, 73040, 73120, 73552, 92768, 92864,
    93008, 120782, 120792, 120802, 120812, 120822, 123200, 123632, 124144, 125264, 130032]

/-- The digits that are no decimal digits, such as superscripts and those in circles: the
first and the last of each row. -/
def otherDigits : List (ℕ × ℕ) :=
  [(178, 179), (185, 185), (4969, 4977), (6618, 6618), (8304, 8304), (8308, 8313), (8320, 8329),
    (9312, 9320), (9332, 9340), (9352, 9360), (9450, 9450), (9461, 9469), (9471, 9471), (10102,
    10110), (10112, 10120), (10122, 10130), (68160, 68163), (69216, 69224), (69714, 69722),
    (127232, 127242)]

/-- The value of a decimal digit. -/
def decimalValue (c : Char) : Option ℕ :=
  (zeros.find? fun z => z ≤ c.toNat && c.toNat < z + 10).map fun z => c.toNat - z

/-- A character of which `str.isdigit` is true. -/
def isDigitChar (c : Char) : Bool :=
  (decimalValue c).isSome || otherDigits.any fun r => r.1 ≤ c.toNat && c.toNat ≤ r.2

/-- `str.isdigit`. -/
def isdigit (s : String) : Bool := s ≠ "" && s.toList.all isDigitChar

/-- `str.isdecimal`. -/
def isdecimal (s : String) : Bool := s ≠ "" && s.toList.all fun c => (decimalValue c).isSome

/-- The number that decimal digits stand for. -/
def ofDigits (s : String) : ℕ := s.toList.foldl (fun n c => 10 * n + (decimalValue c).getD 0) 0

/-- `sys.get_int_max_str_digits()`. -/
def intMaxStrDigits : ℕ := 4300

/-- `int(s)`, of a text without white space, a sign or underscores. -/
def int (s : String) : Py ℕ :=
  if isdecimal s && s.length ≤ intMaxStrDigits then .ok (ofDigits s) else .error .valueError

section Digits

variable {s : String}

theorem isdigit_of_isdecimal (h : isdecimal s) : isdigit s := by
  simp only [isdecimal, isdigit, Bool.and_eq_true, List.all_eq_true] at h ⊢
  exact ⟨h.1, fun c hc => by rw [isDigitChar, h.2 c hc, Bool.true_or]⟩

/-- **What `int` accepts of the texts that are digits.** -/
theorem int_eq_ok_iff {n : ℕ} :
    int s = .ok n ↔ isdecimal s ∧ s.length ≤ intMaxStrDigits ∧ n = ofDigits s := by
  rw [int]
  split
  next h =>
    simp only [Bool.and_eq_true, decide_eq_true_eq] at h
    simp [h, eq_comm]
  next h =>
    simp only [Bool.and_eq_true, decide_eq_true_eq, not_and] at h
    simp only [reduceCtorEq, false_iff, not_and]
    exact fun hdecimal hlen => absurd hlen (h hdecimal)

end Digits

end Python
