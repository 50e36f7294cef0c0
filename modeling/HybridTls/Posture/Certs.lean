import HybridTls.Lib.Json
import HybridTls.Lib.Memo
import HybridTls.Lib.Python
import Mathlib.Data.Rat.Init

/-!
# The scan output

`_certs`, which reads the certificate details of the scan output into a cache.

The documents are whatever JSON the files hold, and the loop over the records takes
a document for what it expects to find: a method of a dictionary raises where there
is none (`HybridTls.Doc.get`), and so does a loop over what is not a sequence
(`HybridTls.Doc.iterate`). A document of which all this goes well is readable
(`HybridTls.ScanFile.readable`).

The cache is assigned before it is filled. A call that raises leaves in it what has
been read so far, which the calls after it return; so the calls agree with each
other exactly when the documents that are looked at are readable
(`HybridTls.certs_transparent_iff`). In particular a document that is a list is not,
although the code has a branch for it.
-/

namespace HybridTls

open Python Raising

/-! ### Documents -/

/-- A number of a document. `NaN` is always the same object, and so equal to itself
as a key. -/
inductive Number where
  | finite (q : ℚ)
  | infinite (negative : Bool)
  | nan
  deriving DecidableEq, Repr

/-- A document, as `json.loads` returns it. -/
abbrev Doc := Json Number String

namespace Doc

/-- `bool(value)`. -/
def truthy : Doc → Bool
  | .null => false
  | .bool b => b
  | .num n => n ≠ .finite 0
  | .str s => s ≠ ""
  | .arr elems => !elems.isEmpty
  | .obj members => !members.isEmpty

/-- `value or default`. -/
def orElse (value default : Doc) : Doc := if value.truthy then value else default

/-- `value.get(key, default)`: only dictionaries have the method. -/
def get (value : Doc) (key : String) (default : Doc) : Py Doc :=
  match value with
  | .obj members => .ok ((members.lookup key).getD default)
  | _ => .error .attributeError

/-- What a loop over a value goes through: the elements of a list, the keys of a
dictionary, the characters of a text. -/
def iterate : Doc → Py (List Doc)
  | .arr elems => .ok elems
  | .obj members => .ok (members.map fun m => .str m.1)
  | .str s => .ok (s.toList.map fun c => .str (String.singleton c))
  | _ => .error .typeError

end Doc

/-- A key of the cache. Numbers are equal as keys when they are equal as numbers, and
`True` is 1. -/
inductive Label where
  | none
  | number (n : Number)
  | text (s : String)
  deriving DecidableEq, Repr

/-- A value used as a key, which takes a hash. -/
def Doc.key : Doc → Py Label
  | .null => .ok .none
  | .bool b => .ok (.number (.finite (if b then 1 else 0)))
  | .num n => .ok (.number n)
  | .str s => .ok (.text s)
  | .arr _ => .error .typeError
  | .obj _ => .error .typeError

/-! ### The cache -/

/-- An entry of the cache. -/
structure CertRecord where
  certKey : Doc
  certSigAlg : Doc
  tls13 : Doc
  pqc : Doc
  srsa : Doc
  deriving Repr

/-- The content of the cache. -/
abbrev CertMap := Dict Label CertRecord

/-- A file of the scan output: not there, not JSON, or a document. -/
inductive ScanFile where
  | missing
  | invalid
  | json (doc : Doc)

/-- What is stored of a record, if it has a label. -/
def certEntry (rec : Doc) : Py (Option (Label × CertRecord)) := do
  let lab ← rec.get "label" .null
  let cert := (← rec.get "certificate" .null).orElse (.obj [])
  if lab.truthy then
    -- the value is computed before the key
    let entry : CertRecord := {
      certKey := (← cert.get "cert_key" .null).orElse (.str "")
      certSigAlg := (← cert.get "cert_sig_alg" .null).orElse (.str "")
      tls13 := ← rec.get "tls13" .null
      pqc := ← rec.get "pqc" .null
      srsa := ← rec.get "static_rsa" .null }
    return some (← lab.key, entry)
  else return none

/-- The body of the loop over the records. -/
def addRecord (rec : Doc) : EStateM Exn (Option CertMap) Unit := do
  match ← ofExcept (certEntry rec) with
  | some (lab, entry) => modify (·.map (·.setItem lab entry))
  | none => pure ()

/-- The records of a document. -/
def records (doc : Doc) : Py (List Doc) := do
  -- a document that is a list has been refused by then
  let results ← doc.get "results" (match doc with | .arr _ => doc | _ => .arr [])
  results.iterate

/-- The loop over the files. -/
def readFiles : List ScanFile → EStateM Exn (Option CertMap) Unit
  | [] => pure ()
  | .missing :: files => readFiles files
  | .invalid :: files => readFiles files
  | .json doc :: files => do
    (← ofExcept (records doc)).forM addRecord
    if (← get).any (· ≠ []) then pure () else readFiles files

/-- `_certs`, of `measured_scan.json` and `measured_full.json`. -/
def certs (scan full : ScanFile) : EStateM Exn (Option CertMap) CertMap :=
  Memo.memo [] (readFiles [scan, full])

/-! ### What can be read -/

/-- A value that has a hash. -/
def Doc.isKey : Doc → Bool
  | .arr _ => false
  | .obj _ => false
  | _ => true

/-- A dictionary. -/
def Doc.isObject : Doc → Bool
  | .obj _ => true
  | _ => false

/-- `members[key]`, or nothing. -/
def Doc.member (members : List (String × Doc)) (key : String) : Doc :=
  (members.lookup key).getD .null

/-- A record with a label. -/
def Doc.labelled : Doc → Bool
  | .obj members => (Doc.member members "label").truthy
  | _ => false

/-- A record of which nothing raises: a dictionary, and if it has a label, the label
can be a key and the certificate is a dictionary, or nothing. -/
def Doc.readableRecord : Doc → Bool
  | .obj members =>
    let lab := Doc.member members "label"
    let cert := Doc.member members "certificate"
    !lab.truthy || (lab.isKey && (!cert.truthy || cert.isObject))
  | _ => false

/-- What there is to read in a document: the elements of a list. Nothing else has an
element that could be a record, and so it has to be empty. -/
def Doc.readableResults : Doc → Bool
  | .arr elems => elems.all Doc.readableRecord
  | .str s => s = ""
  | .obj members => members.isEmpty
  | _ => false

/-- The `results` of a document that is a dictionary. -/
def Doc.results (members : List (String × Doc)) : Doc :=
  (members.lookup "results").getD (.arr [])

/-- A file that is read without raising. -/
def ScanFile.readable : ScanFile → Bool
  | .json (.obj members) => (Doc.results members).readableResults
  | .json _ => false
  | _ => true

/-- A file with a record that has a label. -/
def ScanFile.labelled : ScanFile → Bool
  | .json (.obj members) =>
    match Doc.results members with
    | .arr elems => elems.any Doc.labelled
    | _ => false
  | _ => false

/-- The files that are looked at are readable; none is looked at behind the first with
a label. -/
def Readable : List ScanFile → Prop
  | [] => True
  | file :: files => file.readable ∧ (file.labelled ∨ Readable files)

/-! ### Reading -/

section Reading

variable {rec doc lab cert : Doc} {recs : List Doc} {m : CertMap}

@[simp] theorem Doc.get_obj {members : List (String × Doc)} (key : String) (default : Doc) :
    Doc.get (.obj members) key default = .ok ((members.lookup key).getD default) := rfl

/-- What has a hash can be a key. -/
theorem Doc.key_of_isKey (h : lab.isKey) : ∃ k, lab.key = .ok k := by
  cases lab with
  | arr | obj => simp [Doc.isKey] at h
  | _ => exact ⟨_, rfl⟩

theorem Doc.key_of_not_isKey (h : lab.isKey = false) : lab.key = .error .typeError := by
  cases lab with
  | arr | obj => rfl
  | _ => simp [Doc.isKey] at h

/-- A certificate that is a dictionary, or nothing, has the method. -/
theorem Doc.orElse_of_isObject (h : !cert.truthy || cert.isObject) :
    ∃ members, Doc.orElse cert (.obj []) = .obj members := by
  unfold Doc.orElse
  split
  next htruthy =>
    cases cert with
    | obj members => exact ⟨members, rfl⟩
    | _ => simp [htruthy, Doc.isObject] at h
  next => exact ⟨[], rfl⟩

/-- Nothing else has it. -/
theorem Doc.get_orElse_of_not (h : cert.truthy ∧ cert.isObject = false) (key : String)
    (default : Doc) : Doc.get (Doc.orElse cert (.obj [])) key default = .error .attributeError := by
  rw [Doc.orElse, if_pos h.1]
  cases cert with
  | obj => simp [Doc.isObject] at h
  | _ => rfl

/-- **A readable record is read**, and there is an entry for it if it has a label. -/
theorem certEntry_of_readable (h : rec.readableRecord) :
    ∃ entry, certEntry rec = .ok entry ∧ (entry.isSome ↔ rec.labelled) := by
  cases rec with
  | obj members =>
    change (!(Doc.member members "label").truthy || _) at h
    simp only [certEntry, Doc.get_obj, Doc.labelled]
    cases htruthy : (Doc.member members "label").truthy with
    | false =>
      rw [Doc.member] at htruthy
      exact ⟨none, by simp [htruthy, bind, Except.bind], by simp⟩
    | true =>
      simp only [htruthy, Bool.not_true, Bool.false_or, Bool.and_eq_true] at h
      obtain ⟨k, hk⟩ := Doc.key_of_isKey h.1
      obtain ⟨cert, hcert⟩ := Doc.orElse_of_isObject h.2
      rw [Doc.member] at htruthy hk hcert
      simp [htruthy, hk, hcert, bind, Except.bind]
  | _ => simp [Doc.readableRecord] at h

/-- A record that is not readable raises. -/
theorem certEntry_of_not_readable (h : rec.readableRecord = false) :
    ∃ e, certEntry rec = .error e := by
  cases rec with
  | obj members =>
    simp only [Doc.readableRecord, Bool.or_eq_false_iff, Bool.not_eq_false',
      Bool.and_eq_false_iff] at h
    obtain ⟨htruthy, h⟩ := h
    simp only [certEntry, Doc.get_obj]
    by_cases hcert : (Doc.member members "certificate").truthy ∧
        (Doc.member members "certificate").isObject = false
    · have hget := Doc.get_orElse_of_not hcert
      rw [Doc.member] at htruthy hget
      exact ⟨.attributeError, by simp [htruthy, hget, bind, Except.bind]⟩
    · have hkey := Doc.key_of_not_isKey (h.resolve_right hcert)
      have hobject : !(Doc.member members "certificate").truthy ||
          (Doc.member members "certificate").isObject := by
        simpa [or_iff_not_imp_left] using hcert
      obtain ⟨cert, hcert'⟩ := Doc.orElse_of_isObject hobject
      rw [Doc.member] at htruthy hcert' hkey
      exact ⟨.typeError, by simp [htruthy, hcert', hkey, bind, Except.bind]⟩
  | _ => exact ⟨.attributeError, rfl⟩

/-- **The step**: a record that is read goes into the cache if it has a label. -/
theorem addRecord_of_readable (h : rec.readableRecord) :
    ∃ m', addRecord rec (some m) = .ok () (some m') ∧ (m' ≠ [] ↔ m ≠ [] ∨ rec.labelled) := by
  obtain ⟨entry, hentry, hlabelled⟩ := certEntry_of_readable h
  rw [addRecord, hentry]
  cases entry with
  | none => exact ⟨m, rfl, by simp [← hlabelled]⟩
  | some entry => exact ⟨m.setItem entry.1 entry.2, rfl, by
    simp [← hlabelled, Dict.setItem_ne_nil]⟩

theorem addRecord_of_not_readable (h : rec.readableRecord = false) (cache : Option CertMap) :
    ∃ e, addRecord rec cache = .error e cache := by
  obtain ⟨e, he⟩ := certEntry_of_not_readable h
  rw [addRecord, he]
  exact ⟨e, rfl⟩

/-- **The run**: records that are all readable are read. -/
theorem forM_addRecord_of_readable (h : ∀ rec ∈ recs, rec.readableRecord) :
    ∃ m', recs.forM addRecord (some m) = .ok () (some m') ∧
      (m' ≠ [] ↔ m ≠ [] ∨ ∃ rec ∈ recs, rec.labelled) := by
  induction recs generalizing m with
  | nil => exact ⟨m, rfl, by simp⟩
  | cons rec recs ih =>
    obtain ⟨m₁, hrec, hm₁⟩ := addRecord_of_readable (m := m) (h rec List.mem_cons_self)
    obtain ⟨m', hrecs, hm'⟩ := ih (m := m₁) fun r hr => h r (List.mem_cons_of_mem _ hr)
    refine ⟨m', bind_eq_ok.mpr ⟨(), some m₁, hrec, hrecs⟩, ?_⟩
    simp only [hm', hm₁, List.mem_cons, exists_eq_or_imp, or_assoc]

/-- Before one that is not, the loop ends. -/
theorem forM_addRecord_of_not_readable (h : ∃ rec ∈ recs, Doc.readableRecord rec = false) :
    ∀ cache, ∃ e cache', recs.forM addRecord cache = .error e cache' := by
  induction recs with
  | nil => simp at h
  | cons rec recs ih =>
    intro cache
    cases hrec : addRecord rec cache with
    | error e cache₁ => exact ⟨e, cache₁, bind_eq_error.mpr (Or.inl hrec)⟩
    | ok u cache₁ =>
      have hrest : ∃ r ∈ recs, Doc.readableRecord r = false := by
        obtain ⟨r, hr, hnot⟩ := h
        rcases List.mem_cons.mp hr with rfl | hr
        · obtain ⟨e, he⟩ := addRecord_of_not_readable hnot cache
          cases hrec.symm.trans he
        · exact ⟨r, hr, hnot⟩
      obtain ⟨e, cache', he⟩ := ih hrest cache₁
      exact ⟨e, cache', bind_eq_error.mpr (Or.inr ⟨(), cache₁, hrec, he⟩)⟩

/-- The records of a document that can be read. -/
theorem records_of_readable (h : (ScanFile.json doc).readable) :
    ∃ recs, records doc = .ok recs ∧ (∀ rec ∈ recs, rec.readableRecord) ∧
      ((ScanFile.json doc).labelled ↔ ∃ rec ∈ recs, rec.labelled) := by
  cases doc with
  | obj members =>
    change (Doc.results members).readableResults at h
    change ∃ recs, (Doc.results members).iterate = .ok recs ∧ _
    simp only [ScanFile.labelled]
    cases hresults : Doc.results members with
    | arr elems =>
      rw [hresults, Doc.readableResults, List.all_eq_true] at h
      exact ⟨elems, rfl, h, List.any_eq_true⟩
    | str s =>
      obtain rfl : s = "" := by simpa [hresults, Doc.readableResults] using h
      exact ⟨[], rfl, by simp, by simp⟩
    | obj members' =>
      obtain rfl : members' = [] := by simpa [hresults, Doc.readableResults] using h
      exact ⟨[], rfl, by simp, by simp⟩
    | _ => simp [hresults, Doc.readableResults] at h
  | _ => simp [ScanFile.readable] at h

/-- Of one that cannot be read either there are none, or one of them is not readable. -/
theorem records_of_not_readable (h : (ScanFile.json doc).readable = false) :
    (∃ e, records doc = .error e) ∨
      ∃ recs, records doc = .ok recs ∧ ∃ rec ∈ recs, Doc.readableRecord rec = false := by
  cases doc with
  | obj members =>
    change (Doc.results members).readableResults = false at h
    change (∃ e, (Doc.results members).iterate = .error e) ∨
      ∃ recs, (Doc.results members).iterate = .ok recs ∧ _
    cases hresults : Doc.results members with
    | arr elems =>
      rw [hresults, Doc.readableResults, List.all_eq_false] at h
      obtain ⟨rec, hrec, hnot⟩ := h
      exact Or.inr ⟨elems, rfl, rec, hrec, by simpa using hnot⟩
    -- neither a character nor a key is a dictionary
    | str s =>
      have hne : s ≠ "" := by simpa [hresults, Doc.readableResults] using h
      obtain ⟨c, hc⟩ := List.exists_mem_of_ne_nil s.toList (by simpa using hne)
      exact Or.inr ⟨_, rfl, .str (String.singleton c), List.mem_map_of_mem hc, rfl⟩
    | obj members' =>
      have hne : members' ≠ [] := by simpa [hresults, Doc.readableResults] using h
      obtain ⟨member, hmem⟩ := List.exists_mem_of_ne_nil members' hne
      exact Or.inr ⟨_, rfl, .str member.1, List.mem_map_of_mem hmem, rfl⟩
    | _ => exact Or.inl ⟨.typeError, rfl⟩
  | _ => exact Or.inl ⟨.attributeError, rfl⟩

/-- **Reading the files returns exactly when they are readable.** -/
theorem readFiles_returns_iff {files : List ScanFile} :
    (∃ cache, readFiles files (some []) = .ok () cache) ↔ Readable files := by
  induction files with
  | nil => exact ⟨fun _ => trivial, fun _ => ⟨some [], rfl⟩⟩
  | cons file files ih =>
    cases file with
    | missing => simpa [readFiles, Readable, ScanFile.readable, ScanFile.labelled] using ih
    | invalid => simpa [readFiles, Readable, ScanFile.readable, ScanFile.labelled] using ih
    | json doc =>
      rw [Readable]
      cases hreadable : (ScanFile.json doc).readable with
      | true =>
        obtain ⟨recs, hrecords, hrecs, hlabelled⟩ := records_of_readable hreadable
        obtain ⟨m, hm, hne⟩ := forM_addRecord_of_readable (m := []) hrecs
        rw [← hlabelled] at hne
        have hrun : readFiles (.json doc :: files) (some []) =
            (if m ≠ [] then pure () else readFiles files : EStateM Exn (Option CertMap) Unit)
              (some m) := by
          rw [readFiles, hrecords]
          change EStateM.bind (recs.forM addRecord) _ (some []) = _
          rw [EStateM.bind, hm]
          change (if (some m).any (· ≠ []) then _ else _ : EStateM Exn (Option CertMap) Unit) _ = _
          simp
        rw [hrun]
        by_cases hm₀ : m = []
        · have hnot : ¬ (ScanFile.json doc).labelled := fun h => hne.mpr (Or.inr h) hm₀
          simpa [hm₀, hnot] using ih
        · have hlab : (ScanFile.json doc).labelled := by simpa using hne.mp hm₀
          simp only [if_pos hm₀, hlab, true_or, and_true, iff_true]
          exact ⟨some m, rfl⟩
      | false =>
        simp only [Bool.false_eq_true, false_and, iff_false]
        rintro ⟨cache, hcache⟩
        rw [readFiles] at hcache
        obtain ⟨recs, s₁, hrecs, hcache⟩ := bind_eq_ok.mp hcache
        obtain ⟨u, s₂, hloop, -⟩ := bind_eq_ok.mp hcache
        rcases records_of_not_readable hreadable with ⟨e, he⟩ | ⟨recs', hrecs', hnot⟩
        · rw [he] at hrecs
          cases hrecs
        · rw [hrecs'] at hrecs
          cases hrecs
          obtain ⟨e, cache', he⟩ := forM_addRecord_of_not_readable hnot (some [])
          cases hloop.symm.trans he

/-- Reading does not take the cache away. -/
theorem keepsCache_readFiles (files : List ScanFile) : Memo.KeepsCache (readFiles files) := by
  have hrecord : ∀ rec, Memo.KeepsCache (addRecord rec) := fun rec =>
    (Memo.keepsCache_ofExcept _).bind fun
      | none => Memo.keepsCache_pure ()
      | some _ => Memo.keepsCache_modify
  induction files with
  | nil => exact Memo.keepsCache_pure ()
  | cons file files ih =>
    cases file with
    | missing => exact ih
    | invalid => exact ih
    | json doc =>
      refine (Memo.keepsCache_ofExcept _).bind fun recs => (Memo.KeepsCache.forM hrecord recs).bind
        fun _ => Memo.keepsCache_get.bind fun cache => ?_
      split
      · exact Memo.keepsCache_pure ()
      · exact ih

/-- Where `_certs` returns, every call behind it returns the same. -/
theorem certs_eq_ok {scan full : ScanFile} {cache cache' : Option CertMap}
    (h : certs scan full cache = .ok m cache') : cache' = some m :=
  Memo.memo_eq_ok (keepsCache_readFiles _) h

end Reading

/-- **When the cache is transparent.** All calls of `_certs` return the same, or all
raise, exactly when the first call does not raise: of the first file there is nothing
that is not as the loop expects it, nor of the second if it is looked at. -/
theorem certs_transparent_iff (scan full : ScanFile) :
    Memo.Transparent (certs scan full) none ↔
      scan.readable ∧ (scan.labelled ∨ full.readable) := by
  have hfiles : Readable [scan, full] ↔ scan.readable ∧ (scan.labelled ∨ full.readable) := by
    simp [Readable]
  rw [← hfiles, ← readFiles_returns_iff]
  exact Memo.transparent_memo_iff (keepsCache_readFiles _)

/-- Of a document that is a list of records the first call raises, and the second
returns an empty map. -/
theorem certs_not_transparent :
    ¬ Memo.Transparent (certs (.json (.arr [.obj [("label", .str "a")]])) .missing) none := by
  have hzero : Memo.call (certs (.json (.arr [.obj [("label", .str "a")]])) .missing) none 0 =
      .error .attributeError := rfl
  have hone : Memo.call (certs (.json (.arr [.obj [("label", .str "a")]])) .missing) none 1 =
      .ok [] := rfl
  rintro (⟨m, hall⟩ | hall)
  · cases hzero.symm.trans (hall 0)
  · obtain ⟨e, he⟩ := hall 1
    cases hone.symm.trans he

end HybridTls
