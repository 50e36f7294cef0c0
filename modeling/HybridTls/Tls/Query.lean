import HybridTls.Tls.Server

/-!
# The query of a request

What the TLS server finds out about a request, against what the query says.

A query is a list of parameters, each with a name and a value
(`HybridTls.GetRequest`), and the value of a name is that of the first parameter with
exactly this name. The server has no such list. It takes what stands behind the first
occurrence of the name and an equality sign, and this may be the end of another name,
part of a value or of the path, or of a header: a stray occurrence.

So what is extracted is what the query says unless the first occurrence is a stray one,
and even then if the request goes on there as it does behind the parameter, or with nothing
that could be extracted (`HybridTls.GetRequest.NamesPlainly`). And a request is recorded
that does not ask for it if `record=1` has strayed into it, be it into the path, to the end
of a name and the beginning of its value, into a value or behind the query
(`HybridTls.GetRequest.RecordAt`), and if it names a sample and a run besides. Both are about
the bytes of the request, and nothing else makes query parsing inexact
(`HybridTls.query_exact_iff`).
-/

namespace HybridTls

open Search

/-! ### Requests -/

/-- The bytes of which names and values are made. -/
def isQueryByte (b : UInt8) : Bool := isValueByte b && b ≠ 0

/-- A request of the form `GET <path>?<name>=<value>&... HTTP/1.1`, with headers behind
it. -/
structure GetRequest where
  path : Bytes
  params : List (Bytes × Bytes)
  headers : Bytes
  path_ok : ∀ b ∈ path, b ≠ 0 ∧ b ≠ 13 ∧ b ≠ 10 ∧ b ≠ 32 ∧ b ≠ 63
  name_ok : ∀ p ∈ params, ∀ b ∈ p.1, isQueryByte b ∧ b ≠ 61
  value_ok : ∀ p ∈ params, ∀ b ∈ p.2, isQueryByte b
  headers_ok : 0 ∉ headers

/-- `name=value`. -/
def paramText (p : Bytes × Bytes) : Bytes := p.1 ++ 61 :: p.2

/-- The parameters, with `&` between them. -/
def queryText : List (Bytes × Bytes) → Bytes
  | [] => []
  | [p] => paramText p
  | p :: q :: params => paramText p ++ 38 :: queryText (q :: params)

namespace GetRequest

/-- What is in front of the query. -/
def front (r : GetRequest) : Bytes := lit "GET " ++ r.path ++ [63]

/-- What is behind it. -/
def back (r : GetRequest) : Bytes := lit " HTTP/1.1" ++ r.headers

/-- The request as it is sent. -/
def text (r : GetRequest) : Bytes := r.front ++ (queryText r.params ++ r.back)

/-- The value of a name: that of the first parameter with this name. -/
def value (r : GetRequest) (name : Bytes) : Option Bytes :=
  (r.params.find? fun p => p.1 = name).map (·.2)

/-- What is in front of the first parameter with this name. -/
def before (r : GetRequest) (name : Bytes) : Bytes :=
  r.front ++ (r.params.takeWhile fun p => p.1 ≠ name).flatMap fun p => paramText p ++ [38]

end GetRequest

/-! ### What is found -/

/-- An identifier that fits a buffer. -/
def Fits (size : ℕ) (v : Bytes) : Prop := validIdentifier v ∧ v.length < size

/-- A text goes on with a value: behind the value it ends, or there is a byte that no value
has. -/
def GoesOn (after v : Bytes) : Prop :=
  ∃ rest, after = v ++ rest ∧ (∀ b ∈ v, isValueByte b) ∧ ∀ b ∈ rest.head?, isValueByte b = false

theorem goesOn_iff {after v : Bytes} : GoesOn after v ↔ after.takeWhile isValueByte = v :=
  takeWhile_eq_iff.symm

/-- Behind the first occurrence of the pattern of a name, a text goes on with an identifier
that fits. -/
def Stands (text name : Bytes) (size : ℕ) (v : Bytes) : Prop :=
  ∃ before after, FirstOccurrence (queryPattern name) text before after ∧
    GoesOn after v ∧ Fits size v

section Extract

variable {request name v : Bytes} {size : ℕ} (output : Bytes)

theorem copyValue_eq_true_iff {value : Bytes} :
    copyValue value output size = (true, v) ↔ v = value ∧ Fits size v := by
  unfold copyValue Fits
  split
  next hlen =>
    simp only [Prod.mk.injEq, Bool.false_eq_true, false_and, false_iff]
    rintro ⟨rfl, hvalid, hfits⟩
    have hpos := (validIdentifier_iff.mp hvalid).1
    omega
  next hlen =>
    have hfits : value.length < size := by omega
    simp only [Prod.mk.injEq]
    constructor
    · rintro ⟨hvalid, rfl⟩
      exact ⟨rfl, hvalid, hfits⟩
    · rintro ⟨rfl, hvalid, -⟩
      exact ⟨hvalid, rfl⟩

/-- **What `extract_query_value` extracts** is what stands behind the first occurrence. -/
theorem extractQueryValue_eq_true_iff :
    extractQueryValue request name output size = (true, v) ↔ Stands request name size v := by
  unfold extractQueryValue
  split
  next hnone =>
    simp only [Prod.mk.injEq, Bool.false_eq_true, false_and, false_iff]
    rintro ⟨before, after, hfirst, -⟩
    rw [hfirst.strstr] at hnone
    cases hnone
  next start hstart =>
    obtain ⟨before, after, hfirst, rfl⟩ := firstOccurrence_of_strstr hstart
    rw [List.drop_left, copyValue_eq_true_iff]
    constructor
    · rintro ⟨hv, hfits⟩
      exact ⟨before, after, hfirst, goesOn_iff.mpr hv.symm, hfits⟩
    · rintro ⟨before', after', hfirst', hv, hfits⟩
      rw [(hfirst.unique hfirst').2]
      exact ⟨(goesOn_iff.mp hv).symm, hfits⟩

theorem extractQueryValue_fst_iff :
    (extractQueryValue request name output size).1 ↔ ∃ v, Stands request name size v := by
  simp only [← extractQueryValue_eq_true_iff output]
  constructor
  · exact fun h => ⟨_, Prod.ext h rfl⟩
  · rintro ⟨v, hv⟩
    rw [hv]

/-- **When a request is recorded.** -/
theorem identify_recordSample_iff :
    (identify request).recordSample ↔ lit "record=1" <:+: request ∧
      (∃ v, Stands request (lit "sample_id") 180 v) ∧
        ∃ v, Stands request (lit "run_id") 140 v := by
  rw [← isSome_strstr_iff, ← extractQueryValue_fst_iff [], ← extractQueryValue_fst_iff [], identify]
  cases strstr (lit "record=1") request with
  | none => simp
  | some start =>
    cases hsample : (extractQueryValue request (lit "sample_id") [] 180).1 <;> simp [hsample]

end Extract

/-! ### Where a parameter is -/

section Place

variable {r : GetRequest} {name v : Bytes} {size : ℕ}

/-- What is behind a parameter in a query. -/
def moreParams (params : List (Bytes × Bytes)) : Bytes := params.flatMap fun p => 38 :: paramText p

theorem queryText_cons (p : Bytes × Bytes) (params : List (Bytes × Bytes)) :
    queryText (p :: params) = paramText p ++ moreParams params := by
  induction params generalizing p with
  | nil => simp [queryText, moreParams]
  | cons q params ih => simp [queryText, ih, moreParams]

/-- **A parameter in a query.** -/
theorem queryText_append (ps qs : List (Bytes × Bytes)) (p : Bytes × Bytes) :
    queryText (ps ++ p :: qs) =
      (ps.flatMap fun p => paramText p ++ [38]) ++ (paramText p ++ moreParams qs) := by
  induction ps with
  | nil => exact queryText_cons p qs
  | cons q ps ih =>
    have hcons : queryText (q :: (ps ++ p :: qs)) =
        paramText q ++ 38 :: queryText (ps ++ p :: qs) := by
      cases ps <;> rfl
    rw [List.cons_append, hcons, ih]
    simp

/-- Behind the value of a parameter there is a byte that ends one. -/
theorem takeWhile_value (hv : ∀ b ∈ v, isValueByte b) (qs : List (Bytes × Bytes)) (rest : Bytes) :
    (v ++ (moreParams qs ++ (lit " HTTP/1.1" ++ rest))).takeWhile isValueByte = v := by
  cases qs with
  | nil => exact takeWhile_append_cons hv (by decide)
  | cons q qs => exact takeWhile_append_cons hv (by decide)

/-- **The first parameter with a name**: where it is, and what is behind it. -/
theorem exists_text_eq (h : r.value name = some v) :
    ∃ rest, r.text = r.before name ++ (name ++ (61 :: (v ++ rest))) ∧
      (v ++ rest).takeWhile isValueByte = v := by
  simp only [GetRequest.value, Option.map_eq_some_iff] at h
  obtain ⟨p, hfind, rfl⟩ := h
  obtain ⟨hname, ps, qs, hparams, hfirst⟩ := List.find?_eq_some_iff_append.mp hfind
  obtain rfl : p.1 = name := by simpa using hname
  have hbefore : r.params.takeWhile (fun q => q.1 ≠ p.1) = ps := by
    rw [hparams]
    exact takeWhile_append_cons (by simpa using hfirst) (by simp)
  refine ⟨moreParams qs ++ r.back, ?_, takeWhile_value (fun b hb => ?_) qs r.headers⟩
  · rw [GetRequest.text, GetRequest.before, hbefore, hparams, queryText_append]
    simp [paramText]
  · have hbyte := r.value_ok p (hparams ▸ List.mem_append_right _ List.mem_cons_self) b hb
    simp only [isQueryByte, Bool.and_eq_true] at hbyte
    exact hbyte.1

/-- The pattern of a name occurs where there is a parameter with this name. -/
theorem infix_of_value (h : r.value name = some v) : queryPattern name <:+: r.text := by
  obtain ⟨rest, htext, -⟩ := exists_text_eq h
  have hpattern : queryPattern name <+: name ++ (61 :: (v ++ rest)) := by
    exact (List.take_prefix _ _).trans ⟨v ++ rest, by simp [lit_equals]⟩
  rw [htext]
  exact hpattern.isInfix.trans (List.suffix_append _ _).isInfix

/-- The occurrence behind `before` is that of the first parameter with this name. -/
def GetRequest.AtParameter (r : GetRequest) (name before : Bytes) : Prop :=
  name.length ≤ 62 ∧ (r.value name).isSome ∧ before = r.before name

/-- **At the parameter stands its value.** -/
theorem value_of_atParameter {before after : Bytes}
    (hfirst : FirstOccurrence (queryPattern name) r.text before after)
    (hat : r.AtParameter name before) : r.value name = some (after.takeWhile isValueByte) := by
  obtain ⟨hlen, hvalue, rfl⟩ := hat
  obtain ⟨v, hv⟩ := Option.isSome_iff_exists.mp hvalue
  obtain ⟨rest, htext, htake⟩ := exists_text_eq hv
  have hpattern : queryPattern name = name ++ [61] :=
    snprintf_of_lt (by
      rw [lit_equals, List.length_append, List.length_singleton]
      omega)
  have hsplit := hfirst.split
  rw [htext, hpattern, List.append_assoc] at hsplit
  have hafter : v ++ rest = after := by
    simpa using List.append_cancel_left (List.append_cancel_left hsplit)
  rw [← hafter, htake, hv]

/-- **A name stands plainly in a request**: its first occurrence is the beginning of the first
parameter with this name; or it is a stray one, but the request goes on there with the value
of that parameter, or it does not go on with an identifier that fits and there is no such
value either. -/
def GetRequest.NamesPlainly (r : GetRequest) (name : Bytes) (size : ℕ) : Prop :=
  ∀ before after, FirstOccurrence (queryPattern name) r.text before after →
    r.AtParameter name before ∨ (∃ v, r.value name = some v ∧ GoesOn after v) ∨
      ((∀ v, GoesOn after v → ¬ Fits size v) ∧ ∀ v ∈ r.value name, ¬ Fits size v)

/-- **The parameter is extracted exactly**: what `extract_query_value` succeeds with is
the value of the name, if that is an identifier that fits. -/
def GetRequest.ExtractsExactly (r : GetRequest) (name : Bytes) (size : ℕ) : Prop :=
  ∀ output v, extractQueryValue r.text name output size = (true, v) ↔
    r.value name = some v ∧ Fits size v

/-- **When a parameter is extracted exactly.** -/
theorem extractsExactly_iff : r.ExtractsExactly name size ↔ r.NamesPlainly name size := by
  simp only [GetRequest.ExtractsExactly, extractQueryValue_eq_true_iff]
  constructor
  · intro hexact before after hfirst
    refine Or.inr ?_
    by_cases hfits : Fits size (after.takeWhile isValueByte)
    · exact Or.inl ⟨_, ((hexact [] _).mp ⟨before, after, hfirst, goesOn_iff.mpr rfl, hfits⟩).1,
        goesOn_iff.mpr rfl⟩
    · refine Or.inr ⟨fun v hv => goesOn_iff.mp hv ▸ hfits, fun v hv hfits' => hfits ?_⟩
      obtain ⟨before', after', hfirst', hgoes, -⟩ := (hexact [] v).mpr ⟨hv, hfits'⟩
      rwa [(hfirst.unique hfirst').2, goesOn_iff.mp hgoes]
  · intro hplain _ v
    -- an identifier that fits stands at the first occurrence only if it is the value there
    have hvalue : ∀ before after w, FirstOccurrence (queryPattern name) r.text before after →
        GoesOn after w → (Fits size w ∨ ∃ v ∈ r.value name, Fits size v) →
          r.value name = some w := by
      intro before after w hfirst hw hfits
      rcases hplain before after hfirst with hat | ⟨v, hv, hgoes⟩ | ⟨hnot, hnot'⟩
      · rw [value_of_atParameter hfirst hat, goesOn_iff.mp hw]
      · rw [hv, ← goesOn_iff.mp hgoes, goesOn_iff.mp hw]
      · rcases hfits with hfits | ⟨v, hv, hfits⟩
        · exact absurd hfits (hnot w hw)
        · exact absurd hfits (hnot' v hv)
    constructor
    · rintro ⟨before, after, hfirst, hgoes, hfits⟩
      exact ⟨hvalue before after v hfirst hgoes (Or.inl hfits), hfits⟩
    · rintro ⟨hv, hfits⟩
      obtain ⟨before, after, hfirst⟩ := exists_firstOccurrence (infix_of_value hv)
      have hsame := hvalue before after _ hfirst (goesOn_iff.mpr rfl) (Or.inr ⟨v, hv, hfits⟩)
      exact ⟨before, after, hfirst, goesOn_iff.mpr (Option.some.inj (hsame.symm.trans hv)), hfits⟩

/-- A request is a C string. -/
theorem GetRequest.zero_not_mem_text (r : GetRequest) : 0 ∉ r.text := by
  have hparam : ∀ p ∈ r.params, 0 ∉ paramText p := fun p hp h => by
    rcases List.mem_append.mp h with h | h
    · exact absurd (r.name_ok p hp 0 h).1 (by decide)
    · rcases List.mem_cons.mp h with h | h
      · exact absurd h (by decide)
      · exact absurd (r.value_ok p hp 0 h) (by decide)
  have hquery : 0 ∉ queryText r.params := by
    cases hparams : r.params with
    | nil => simp [queryText]
    | cons p params =>
      rw [hparams] at hparam
      simp only [queryText_cons, moreParams, List.mem_append, List.mem_flatMap, List.mem_cons]
      rintro (h | ⟨q, hq, h | h⟩)
      · exact hparam p List.mem_cons_self h
      · exact absurd h (by decide)
      · exact hparam q (List.mem_cons_of_mem _ hq) h
  have hget : (0 : UInt8) ∉ lit "GET " := by decide
  have hversion : (0 : UInt8) ∉ lit " HTTP/1.1" := by decide
  simp only [GetRequest.text, GetRequest.front, GetRequest.back, List.mem_append,
    List.mem_singleton, not_or]
  exact ⟨⟨⟨hget, fun h => (r.path_ok 0 h).1 rfl⟩, by decide⟩, hquery, hversion, r.headers_ok⟩

/-- What the server looks at when the first `n` bytes of the request are delivered: not more
of them than its buffer has room for. -/
def GetRequest.seen (r : GetRequest) (n : ℕ) : Bytes := r.text.take (min 2047 n)

/-- What is delivered is looked at as a C string, and it is one. -/
theorem GetRequest.cString_delivered (r : GetRequest) (n : ℕ) :
    cString ((r.text.take n).take 2047) = r.seen n := by
  rw [List.take_take, GetRequest.seen, cString, List.takeWhile_eq_self_iff]
  intro b hb
  have hne : b ≠ 0 := fun hzero => r.zero_not_mem_text (hzero ▸ List.mem_of_mem_take hb)
  simpa using hne

/-! ### Where a request mentions recording -/

/-- **Where `record=1` stands in a request**, by what is in front of it: in the path; at the end
of the name of a parameter and the beginning of its value; in the value of one; or behind the
query. -/
inductive GetRequest.RecordAt (r : GetRequest) : Bytes → Prop
  | path (x y : Bytes) (h : r.path = x ++ (lit "record=1" ++ y)) : r.RecordAt (lit "GET " ++ x)
  | name (ps qs : List (Bytes × Bytes)) (x y : Bytes)
      (h : r.params = ps ++ (x ++ lit "record", lit "1" ++ y) :: qs) :
      r.RecordAt (r.front ++ ps.flatMap (paramText · ++ [38]) ++ x)
  | value (ps qs : List (Bytes × Bytes)) (name x y : Bytes)
      (h : r.params = ps ++ (name, x ++ (lit "record=1" ++ y)) :: qs) :
      r.RecordAt (r.front ++ ps.flatMap (paramText · ++ [38]) ++ (name ++ 61 :: x))
  | back (x y : Bytes) (h : r.back = x ++ (lit "record=1" ++ y)) :
      r.RecordAt (r.front ++ queryText r.params ++ x)

theorem not_mem_record {b : UInt8} (hb : b = 63 ∨ b = 38 ∨ b = 32) : b ∉ lit "record=1" := by
  rcases hb with rfl | rfl | rfl <;> decide

/-- **In a parameter**: at the end of its name, or in its value. -/
theorem record_in_paramText {p : Bytes × Bytes} {x y : Bytes} (hname : 61 ∉ p.1)
    (h : paramText p = x ++ (lit "record=1" ++ y)) :
    (p.1 = x ++ lit "record" ∧ p.2 = lit "1" ++ y) ∨
      ∃ x', x = p.1 ++ 61 :: x' ∧ p.2 = x' ++ (lit "record=1" ++ y) := by
  have hrecord : lit "record=1" = lit "record" ++ 61 :: lit "1" := by decide
  rcases List.append_eq_append_iff.mp h with ⟨x', rfl, hx'⟩ | ⟨z, hz, hrest⟩
  · cases x' with
    | nil => exact absurd (List.head_eq_of_cons_eq hx') (by decide)
    | cons b x' =>
      rw [List.cons_append, List.cons.injEq] at hx'
      exact Or.inr ⟨x', by rw [hx'.1], hx'.2⟩
  · -- the equality sign behind the name is the one in `record=1`
    have hz' : 61 ∉ z := fun hmem => hname (hz ▸ List.mem_append_right x hmem)
    rw [hrecord, List.append_assoc, List.cons_append] at hrest
    have hprefix : lit "record" ++ 61 :: (lit "1" ++ y) <+: z ++ 61 :: p.2 := by rw [hrest]
    obtain ⟨rfl, -⟩ := (isPrefix_append_cons_iff (by decide) hz').mp hprefix
    exact Or.inl ⟨hz, (List.cons.inj (List.append_cancel_left hrest)).2.symm⟩

/-- **In the query**: in one of the parameters. -/
theorem record_in_queryText {params : List (Bytes × Bytes)} {x y : Bytes}
    (h : queryText params = x ++ (lit "record=1" ++ y)) :
    ∃ ps p qs x' y', params = ps ++ p :: qs ∧ x = ps.flatMap (paramText · ++ [38]) ++ x' ∧
      paramText p = x' ++ (lit "record=1" ++ y') := by
  induction params generalizing x with
  | nil =>
    have hlen := congrArg List.length h
    simp [queryText, lit] at hlen
  | cons p params ih =>
    cases params with
    | nil => exact ⟨[], p, [], x, y, rfl, rfl, h⟩
    | cons q params =>
      rcases (append_cons_eq_append_iff (not_mem_record (by simp))).mp h with
        ⟨y', hp, -⟩ | ⟨x', rfl, hrest⟩
      · exact ⟨[], p, q :: params, x, y', rfl, rfl, hp⟩
      · obtain ⟨ps, p', qs, x'', y', hparams, rfl, hp'⟩ := ih hrest
        exact ⟨p :: ps, p', qs, x'', y', by rw [hparams, List.cons_append], by simp, hp'⟩

/-- **In the request.** -/
theorem recordAt_iff {before : Bytes} :
    r.RecordAt before ↔ ∃ after, r.text = before ++ (lit "record=1" ++ after) := by
  have hget : lit "GET " = lit "GET" ++ [32] := by decide
  have hback : r.back = 32 :: (lit "HTTP/1.1" ++ r.headers) := rfl
  constructor
  · rintro (⟨x, y, h⟩ | ⟨ps, qs, x, y, h⟩ | ⟨ps, qs, name, x, y, h⟩ | ⟨x, y, h⟩)
    · exact ⟨y ++ [63] ++ (queryText r.params ++ r.back), by
        rw [GetRequest.text, GetRequest.front, h]
        simp⟩
    · have hrecord : lit "record=1" = lit "record" ++ 61 :: lit "1" := by decide
      exact ⟨y ++ (moreParams qs ++ r.back), by
        rw [GetRequest.text, h, queryText_append, paramText, hrecord]
        simp⟩
    · exact ⟨y ++ (moreParams qs ++ r.back), by
        rw [GetRequest.text, h, queryText_append, paramText]
        simp⟩
    · exact ⟨y, by
        rw [GetRequest.text, h]
        simp⟩
  · rintro ⟨after, h⟩
    have htext : r.text = (lit "GET " ++ r.path) ++ 63 :: (queryText r.params ++ r.back) := by
      simp [GetRequest.text, GetRequest.front]
    rw [htext] at h
    rcases (append_cons_eq_append_iff (not_mem_record (by simp))).mp h with
      ⟨y, hfront, -⟩ | ⟨x, rfl, hrest⟩
    · -- in front of the query, it is in the path
      rw [hget, List.append_assoc, List.singleton_append] at hfront
      rcases (append_cons_eq_append_iff (not_mem_record (by simp))).mp hfront with
        ⟨y', hshort, -⟩ | ⟨x, rfl, hpath⟩
      · have hlen := congrArg List.length hshort
        simp [lit] at hlen
        omega
      · simpa [hget] using GetRequest.RecordAt.path x y hpath
    · have hpart : ∀ z, (lit "GET " ++ r.path) ++ 63 :: z = r.front ++ z := by
        simp [GetRequest.front]
      rw [hpart]
      rw [hback] at hrest
      rcases (append_cons_eq_append_iff (not_mem_record (by simp))).mp hrest with
        ⟨y, hquery, -⟩ | ⟨x', rfl, hversion⟩
      · obtain ⟨ps, p, qs, x', y', hparams, rfl, hp⟩ := record_in_queryText hquery
        have hmem : p ∈ r.params := hparams ▸ List.mem_append_right ps List.mem_cons_self
        have hname : 61 ∉ p.1 := fun hmem' => (r.name_ok p hmem 61 hmem').2 rfl
        rw [← List.append_assoc]
        rcases record_in_paramText hname hp with ⟨hfst, hsnd⟩ | ⟨z, rfl, hsnd⟩
        · exact .name ps qs x' y' (by rw [hparams, ← hfst, ← hsnd])
        · exact .value ps qs p.1 z y' (by rw [hparams, ← hsnd])
      · rw [← List.append_assoc]
        exact .back (32 :: x') after (by rw [hback, hversion]; rfl)

/-- **In what the server looks at.** -/
theorem record_infix_seen_iff {n : ℕ} :
    lit "record=1" <:+: r.seen n ↔
      ∃ before, r.RecordAt before ∧ before.length + 8 ≤ min 2047 n := by
  have hlen : (lit "record=1").length = 8 := by decide
  simp only [GetRequest.seen, infix_take_iff, recordAt_iff, hlen]
  constructor
  · rintro ⟨before, after, h, hle⟩
    exact ⟨before, ⟨after, h⟩, hle⟩
  · rintro ⟨before, ⟨after, h⟩, hle⟩
    exact ⟨before, after, h, hle⟩

/-- **The flag is set exactly**: a connection over which the first `n` bytes of the request are
delivered is recorded only if the query has a parameter `record` whose value is 1. -/
def GetRequest.RecordsExactly (r : GetRequest) (n : ℕ) : Prop :=
  ∀ env s, handleConnection env = some s → env.request = some (r.text.take n) →
    s.recordSample → (lit "record", lit "1") ∈ r.params

/-- **A request asks plainly**, as far as it is looked at: it has that parameter; or `record=1`
does not stand in it; or it does not go on with an identifier that fits where `sample_id=`
stands first, or where `run_id=` does. -/
def GetRequest.AsksPlainly (r : GetRequest) (n : ℕ) : Prop :=
  (lit "record", lit "1") ∈ r.params ∨
    (¬ ∃ before, r.RecordAt before ∧ before.length + 8 ≤ min 2047 n) ∨
      (¬ ∃ v, Stands (r.seen n) (lit "sample_id") 180 v) ∨
        ¬ ∃ v, Stands (r.seen n) (lit "run_id") 140 v

/-- **When the flag is set exactly.** -/
theorem recordsExactly_iff {n : ℕ} : r.RecordsExactly n ↔ r.AsksPlainly n := by
  have hflag : (identify (r.seen n)).recordSample ↔
      (∃ before, r.RecordAt before ∧ before.length + 8 ≤ min 2047 n) ∧
        (∃ v, Stands (r.seen n) (lit "sample_id") 180 v) ∧
          ∃ v, Stands (r.seen n) (lit "run_id") 140 v := by
    rw [identify_recordSample_iff, record_infix_seen_iff]
  have hasks : r.AsksPlainly n ↔
      ((identify (r.seen n)).recordSample → (lit "record", lit "1") ∈ r.params) := by
    rw [hflag, GetRequest.AsksPlainly, imp_iff_not_or, not_and_or, not_and_or]
    exact or_comm
  rw [hasks]
  constructor
  · intro hexact hrecord
    refine hexact (ServerEnv.receiving 0 (r.text.take n)) _ rfl rfl ?_
    change (identify (cString ((r.text.take n).take 2047))).recordSample
    rwa [r.cString_delivered]
  · intro hparam env s hs hrequest hrecord
    obtain ⟨received, hreceived, rfl⟩ := handleConnection_eq_some hs
    obtain rfl := Option.some.inj (hrequest.symm.trans hreceived)
    change (identify (cString ((r.text.take n).take 2047))).recordSample at hrecord
    rw [r.cString_delivered] at hrecord
    exact hparam hrecord

end Place

/-- **When query parsing is exact**, of a name, a buffer, and a request of which any part is
delivered: where the name stands plainly in the request, and the request asks plainly. -/
theorem query_exact_iff (r : GetRequest) (name : Bytes) (size n : ℕ) :
    r.ExtractsExactly name size ∧ r.RecordsExactly n ↔
      r.NamesPlainly name size ∧ r.AsksPlainly n :=
  and_congr extractsExactly_iff recordsExactly_iff

/-- A request with parameters whose names end like those that are looked for. -/
def strayRequest : GetRequest where
  path := lit "/"
  params := [(lit "norecord", lit "1"), (lit "my_sample_id", lit "a"), (lit "sample_id", lit "b"),
    (lit "run_id", lit "r")]
  headers := lit "\r\nHost: localhost\r\n\r\n"
  path_ok := by decide +kernel
  name_ok := by decide +kernel
  value_ok := by decide +kernel
  headers_ok := by decide

/-- It is recorded although it has no parameter `record`, and under an identifier that is
the value of another name. -/
theorem not_query_exact :
    extractQueryValue strayRequest.text (lit "sample_id") [] 180 = (true, lit "a") ∧
      strayRequest.value (lit "sample_id") = some (lit "b") ∧
      (∃ s, handleConnection (ServerEnv.receiving 0 strayRequest.text) = some s ∧
        s.recordSample ∧ s.sampleId = lit "a") ∧
      ∀ v, (lit "record", v) ∉ strayRequest.params := by
  refine ⟨by decide +kernel, by decide +kernel, ⟨_, rfl, by decide +kernel, by decide +kernel⟩, ?_⟩
  intro v hv
  have hname : lit "record" ∈ strayRequest.params.map Prod.fst := List.mem_map_of_mem hv
  exact absurd hname (by decide)

end HybridTls
