import HybridTls.Posture.Cbom
import HybridTls.Posture.Compliance
import HybridTls.Posture.Files
import HybridTls.Posture.Queue
import HybridTls.Posture.Roadmap
import HybridTls.Routes
import HybridTls.Store.Snapshot

/-!
# The pages

The pages of the dashboard, as `create_app` puts them together: what each of them passes to its
template, out of the files in the directory of the data and of the store
(`HybridTls.showPage`), and the download of a bill of materials (`HybridTls.cbomJson`).

Each page loads the files again, and what it shows is computed from the vendors in a way of
its own. But the pages are about the same targets: nothing that one of them shows is missing
from another one, or there twice, the totals agree, and what can be downloaded are the bills of
the targets that are shown (`HybridTls.pages_agree`).
-/

namespace HybridTls

open Python

/-! ### What is loaded -/

/-- The files that the pages are made of. -/
structure DataFiles where
  vendors : List Char
  hndlInputs : Option (List Char)
  hndlInputs10y : Option (List Char)
  scan : ScanFile
  full : ScanFile

/-- `load_targets`, of the file. -/
def loadTargetsFile (data : DataFiles) : Except FileError (List Target) := do
  return (← loadVendorsFile data.vendors).map Vendor.toTarget

/-- The inputs, as far as scoring looks at them. -/
def scoredInputs (inputs : Dict String HndlEntry) : Dict String HndlInput :=
  inputs.map fun entry => (entry.1, entry.2.toHndlInput)

/-- `load_scored`, of the files. -/
def loadScoredFile (data : DataFiles) :
    EStateM FileError (Option CertMap) (List ScoredRow) := do
  let vendors ← ofExcept (loadVendorsFile data.vendors)
  let inputs ← ofExcept (loadHndlFile data.hndlInputs)
  let rows ← (vendors.mapM (scoreRow data.scan data.full (scoredInputs inputs))).adaptExcept .exn
  return ranked rows

/-! ### What is shown -/

/-- What `_page_context` gives to every page, and the title. -/
structure PageContext where
  title : String
  activeNav : String
  initial : DashboardData
  targets : List Target
  qvi : QviSummary

/-- What a page has besides. -/
inductive PageBody where
  | plain
  /-- The rows take the place of the targets. -/
  | score (page : ScorePage)
  | hndl (records : List ExposureRecord) (summary : ExposureSummary) (scenario label : String)
  | compliance (results : List ComplianceResult) (summary : Dict String Tally)
  | roadmap (roadmap : Roadmap)

/-- The pages, with the parameters of their queries. -/
inductive Page where
  | overview
  | scanner
  | benchmark
  | score (view : Option String)
  | migrationCost
  | docs
  | hndl (scenario : String)
  | compliance
  | roadmap

/-- What is looked at for a page besides the files: the store, the parameter `run_id`, and the
year. -/
structure Visit where
  store : Store
  runId : Option String
  year : ℤ

/-- An exception of Python. -/
def raised {α : Type} (x : Py α) : Except FileError α := x.mapError .exn

section Pages

variable (data : DataFiles) (visit : Visit)

/-- `_page_context`, with the title that a page gives to it. -/
def pageContext (title activeNav : String) : Except FileError PageContext := do
  let targets ← loadTargetsFile data
  let initial ← raised (visit.store.dashboardData visit.runId)
  return { title, activeNav, initial, targets, qvi := qviSummary targets }

/-- `hndl_page`. -/
def hndlPage (scenario : String) : Except FileError (PageContext × PageBody) := do
  let targets ← loadTargetsFile data
  let inputs ← loadHndlFile (if scenario = "10y" then data.hndlInputs10y else data.hndlInputs)
  let label := if scenario = "10y" then
      "Minimum regulatory floor (5y transaction & loan, 10y policy records)"
    else "Institution-typical retention (8y transaction, 15y loan, 25y policy)"
  let records := buildExposure visit.year targets inputs
  let context ← pageContext data visit "HNDL Exposure" "hndl"
  return (context, .hndl records (exposureSummary records) scenario label)

/-- `compliance_page`. -/
def compliancePage : Except FileError (PageContext × PageBody) := do
  let targets ← loadTargetsFile data
  let results := computeCompliance (targets.map Target.dict)
  let context ← pageContext data visit "Compliance" "compliance"
  return (context, .compliance results (← raised (complianceSummary results)))

/-- `roadmap_page`. -/
def roadmapPage : Except FileError (PageContext × PageBody) := do
  let targets ← loadTargetsFile data
  let inputs ← loadHndlFile data.hndlInputs
  let context ← pageContext data visit "Roadmap" "roadmap"
  return (context, .roadmap (buildRoadmap (buildExposure visit.year targets inputs)))

/-- `score_page`. -/
def scorePageFile (view : Option String) :
    EStateM FileError (Option CertMap) (PageContext × PageBody) := do
  let page := scorePage view (← loadScoredFile data)
  let context ← ofExcept (pageContext data visit page.title page.activeNav)
  return (context, .score page)

/-- The pages that have nothing of their own. -/
def plainPage (title activeNav : String) : Except FileError (PageContext × PageBody) := do
  return (← pageContext data visit title activeNav, .plain)

/-- **A page is shown**: what its template gets, and the cache of the scan behind it. -/
def showPage : Page → EStateM FileError (Option CertMap) (PageContext × PageBody)
  | .overview => ofExcept (plainPage data visit "Overview" "overview")
  | .scanner => ofExcept (plainPage data visit "Scanner" "scanner")
  | .benchmark => ofExcept (plainPage data visit "Crypto Engine" "benchmark")
  | .score view => scorePageFile data visit view
  | .migrationCost => ofExcept (plainPage data visit "Migration Cost" "migration")
  | .docs => ofExcept (plainPage data visit "Docs" "docs")
  | .hndl scenario => ofExcept (hndlPage data visit scenario)
  | .compliance => ofExcept (compliancePage data visit)
  | .roadmap => ofExcept (roadmapPage data visit)

/-- `cbom_json`: none is the answer that there is no such target. -/
def cbomJson (uuid now : String) (targetName : PathSegment) : Except FileError (Option Cbom) := do
  let targets ← loadTargetsFile data
  return (targets.find? fun t => t.target = targetName.1).map (buildCbom uuid now)

end Pages

/-! ### Inversion -/

section Inversion

variable {ε α β : Type} {x : Except ε α} {f : α → Except ε β} {b : β}

theorem except_bind_eq_ok : (x >>= f) = .ok b ↔ ∃ a, x = .ok a ∧ f a = .ok b := by
  cases x with
  | error e => simp [bind, Except.bind]
  | ok a => simp [bind, Except.bind]

theorem raised_eq_ok {x : Py α} {a : α} : raised x = .ok a ↔ x = .ok a := by
  cases x with
  | error e => simp [raised, Except.mapError]
  | ok a => simp [raised, Except.mapError]

/-- The targets are those of the vendors. -/
theorem loadTargetsFile_eq_ok {data : DataFiles} {ts : List Target}
    (h : loadTargetsFile data = .ok ts) :
    ∃ vendors, loadVendorsFile data.vendors = .ok vendors ∧ ts = vendors.map Vendor.toTarget := by
  obtain ⟨vendors, hvendors, h⟩ := except_bind_eq_ok.mp h
  exact ⟨vendors, hvendors, (Except.ok.inj h).symm⟩

end Inversion

/-! ### What the pages show -/

/-- **What the context of every page says**, of the targets. -/
structure PageContext.Shows (context : PageContext) (visit : Visit) (ts : List Target) : Prop where
  targets : context.targets = ts
  qvi : context.qvi = qviSummary ts
  initial : visit.store.dashboardData visit.runId = .ok context.initial

/-- **A page is about the targets**: each of them is there once, and the totals are theirs. -/
def PageBody.IsAbout (ts : List Target) : PageBody → Prop
  | .plain => True
  | .score page => (page.targets.map (·.target)).Perm (ts.map (·.target)) ∧ page.s.n = ts.length
  | .hndl records summary _ _ =>
    records.map (·.toTarget) = ts ∧ summary.total = ts.length ∧
      summary.exposed ≤ (qviSummary ts).tier2 + (qviSummary ts).tier3
  | .compliance results summary =>
    results.map (·.target) = ts.map (fun t => some t.target) ∧
      List.Forall₂ TierAgrees ts results ∧
      ∀ m ∈ mandates, ∃ t, summary.getItem m.id = .ok t ∧ t.pass + t.fail = ts.length
  | .roadmap r =>
    ((r.prioritized.map (·.toExposureRecord) ++ r.needsInput).map (·.toTarget)).Perm ts

section Shown

variable {data : DataFiles} {visit : Visit} {ts : List Target} {context : PageContext}
  {body : PageBody}

theorem shows_pageContext (hts : loadTargetsFile data = .ok ts) {title activeNav : String}
    (h : pageContext data visit title activeNav = .ok context) : context.Shows visit ts := by
  simp only [pageContext, except_bind_eq_ok, raised_eq_ok] at h
  obtain ⟨ts', hts', initial, hinitial, h⟩ := h
  obtain rfl := Except.ok.inj (hts.symm.trans hts')
  cases h
  exact ⟨rfl, rfl, hinitial⟩

theorem isAbout_plainPage (hts : loadTargetsFile data = .ok ts) {title activeNav : String}
    (h : plainPage data visit title activeNav = .ok (context, body)) :
    context.Shows visit ts ∧ body.IsAbout ts := by
  obtain ⟨context', hcontext, h⟩ := except_bind_eq_ok.mp h
  cases h
  exact ⟨shows_pageContext hts hcontext, trivial⟩

/-- The records are of the targets. -/
theorem map_toTarget_buildExposure (year : ℤ) (ts : List Target) (inputs : Dict String HndlEntry) :
    (buildExposure year ts inputs).map (·.toTarget) = ts := by
  rw [buildExposure, List.map_map]
  exact List.map_id ts

/-- A target that is ready is not exposed. -/
theorem exposed_le (year : ℤ) (ts : List Target) (inputs : Dict String HndlEntry) :
    (exposureSummary (buildExposure year ts inputs)).exposed ≤
      (qviSummary ts).tier2 + (qviSummary ts).tier3 := by
  have hnot : ∀ t : Target, (exposeTarget year inputs t).exposureStatus.text = "EXPOSED" →
      t.tier ≠ .tier1 := by
    intro t ht htier
    rw [ExposureStatus.text_eq_exposed_iff, exposureStatus_eq] at ht
    have hready : ¬ AtRisk t (stubOf inputs t) := fun h => h.1 htier
    split at ht
    · cases ht
    · split_ifs at ht
  have hcount : (exposureSummary (buildExposure year ts inputs)).exposed ≤
      ts.countP fun t => t.tier ≠ .tier1 := by
    simp only [exposureSummary, buildExposure, List.countP_map]
    refine List.countP_mono_left fun t _ ht => ?_
    simpa using hnot t (by simpa using ht)
  have htotal := qviSummary_total ts
  have hready : (qviSummary ts).tier1 = ts.countP fun t => t.tier = .tier1 :=
    tierCounts_eq ts .tier1
  have hlen := List.length_eq_countP_add_countP (l := ts) fun t => decide (t.tier = .tier1)
  have hall : (qviSummary ts).total = ts.length := rfl
  simp only [decide_eq_true_eq, ne_eq] at hcount hlen
  omega

theorem isAbout_hndlPage (hts : loadTargetsFile data = .ok ts) {scenario : String}
    (h : hndlPage data visit scenario = .ok (context, body)) :
    context.Shows visit ts ∧ body.IsAbout ts := by
  simp only [hndlPage, except_bind_eq_ok] at h
  obtain ⟨ts', hts', inputs, -, context', hcontext, h⟩ := h
  obtain rfl := Except.ok.inj (hts.symm.trans hts')
  cases h
  exact ⟨shows_pageContext hts hcontext, map_toTarget_buildExposure _ _ _, List.length_map _,
    exposed_le _ _ _⟩

theorem isAbout_compliancePage (hts : loadTargetsFile data = .ok ts)
    (h : compliancePage data visit = .ok (context, body)) :
    context.Shows visit ts ∧ body.IsAbout ts := by
  simp only [compliancePage, except_bind_eq_ok, raised_eq_ok] at h
  obtain ⟨ts', hts', context', hcontext, summary, hsummary, h⟩ := h
  obtain rfl := Except.ok.inj (hts.symm.trans hts')
  cases h
  refine ⟨shows_pageContext hts hcontext, ?_, ?_, ?_⟩
  · rw [computeCompliance, List.map_map, List.map_map]
    rfl
  · obtain ⟨vendors, hvendors, rfl⟩ := loadTargetsFile_eq_ok hts
    obtain ⟨rows, -, hloads⟩ := loadVendorsFile_eq_ok_iff.mp hvendors
    have hall : ∀ v ∈ vendors, TierAgrees v.toTarget (complianceOf v.toTarget.dict) :=
      ((List.forall₂_and_left _ _).mp
        (hloads.vendors.flip.imp fun _ _ hv => ⟨tierAgrees hv, hv⟩)).1
    simp only [computeCompliance, List.forall₂_map_left_iff, List.forall₂_map_right_iff]
    exact List.forall₂_same.mpr hall
  · obtain ⟨perMandate, hreturns, hcounts⟩ := complianceSummary_returns (ts.map Target.dict)
    obtain rfl := Except.ok.inj (hsummary.symm.trans hreturns)
    intro m hm
    refine ⟨_, hcounts m hm, ?_⟩
    rw [← List.length_map (f := Target.dict),
      List.length_eq_countP_add_countP fun t => m.passed t]
    simp

theorem isAbout_roadmapPage (hts : loadTargetsFile data = .ok ts)
    (h : roadmapPage data visit = .ok (context, body)) :
    context.Shows visit ts ∧ body.IsAbout ts := by
  simp only [roadmapPage, except_bind_eq_ok] at h
  obtain ⟨ts', hts', inputs, -, context', hcontext, h⟩ := h
  obtain rfl := Except.ok.inj (hts.symm.trans hts')
  cases h
  refine ⟨shows_pageContext hts hcontext, ?_⟩
  have hpartition := (buildRoadmap_sound visit.year ts inputs).partition.map (·.toTarget)
  rwa [map_toTarget_buildExposure] at hpartition

/-- Nothing is lost by the rankings. -/
theorem isAbout_scorePageFile (hts : loadTargetsFile data = .ok ts) {view : Option String}
    {cache cache' : Option CertMap}
    (h : scorePageFile data visit view cache = .ok (context, body) cache') :
    context.Shows visit ts ∧ body.IsAbout ts := by
  obtain ⟨rows, s₁, hrows, h⟩ := Raising.bind_eq_ok.mp h
  obtain ⟨context', s₂, hcontext, h⟩ := Raising.bind_eq_ok.mp h
  obtain ⟨hcontext, -⟩ := Raising.ofExcept_eq_ok.mp hcontext
  obtain ⟨h, -⟩ := Raising.pure_eq_ok.mp h
  cases h
  obtain ⟨vendors, s₃, hvendors, hrows⟩ := Raising.bind_eq_ok.mp hrows
  obtain ⟨hload, rfl⟩ := Raising.ofExcept_eq_ok.mp hvendors
  obtain ⟨inputs, s₄, -, hrows⟩ := Raising.bind_eq_ok.mp hrows
  obtain ⟨scored, s₅, hscored, hrows⟩ := Raising.bind_eq_ok.mp hrows
  obtain ⟨rfl, -⟩ := Raising.pure_eq_ok.mp hrows
  have hall := consistent_of_scoreRows (Raising.adaptExcept_eq_ok.mp hscored)
  obtain ⟨vendors', hvendors', rfl⟩ := loadTargetsFile_eq_ok hts
  obtain rfl := Except.ok.inj (hload.symm.trans hvendors')
  -- before they are ranked, the rows are in the order of the vendors
  have hnames : List.Forall₂ (· = ·) (scored.map (·.target))
      ((vendors.map Vendor.toTarget).map (·.target)) := by
    simp only [List.forall₂_map_left_iff, List.forall₂_map_right_iff]
    exact hall.flip.imp fun _ _ h => h.1
  rw [List.forall₂_eq_eq_eq] at hnames
  have hperm : (scorePage view (ranked scored)).targets.Perm scored := by
    have hranked : (ranked scored).Perm scored := List.perm_insertionSort _ scored
    unfold scorePage
    dsimp only
    split
    · exact (Ranking.rankBy_perm _ _).trans hranked
    · exact hranked
  refine ⟨shows_pageContext hts hcontext, hnames ▸ hperm.map _, ?_⟩
  have hn : (scorePage view (ranked scored)).s.n =
      (scorePage view (ranked scored)).targets.length := rfl
  rw [hn, hperm.length_eq, List.length_map, hall.length_eq]

end Shown

/-! ### All pages -/

section Failing

variable {data : DataFiles} {e : FileError}

theorem ofExcept_error {α : Type} {x : Except FileError α} (h : x = .error e)
    (cache : Option CertMap) :
    (ofExcept x : EStateM FileError (Option CertMap) α) cache = .error e cache := by
  rw [h]
  rfl

/-- **Without the vendors there is no page.** -/
theorem showPage_eq_error (h : loadTargetsFile data = .error e) (visit : Visit) (page : Page)
    (cache : Option CertMap) : showPage data visit page cache = .error e cache := by
  have hplain : ∀ title activeNav, plainPage data visit title activeNav = .error e := by
    intro title activeNav
    rw [plainPage, pageContext, h]
    rfl
  have hvendors : loadVendorsFile data.vendors = .error e := by
    rw [loadTargetsFile] at h
    cases hload : loadVendorsFile data.vendors with
    | error e' =>
      rw [hload] at h
      exact congrArg _ (Except.error.inj h)
    | ok vendors =>
      rw [hload] at h
      cases h
  cases page with
  | score view =>
    have hrows : loadScoredFile data cache = .error e cache := by
      rw [loadScoredFile, hvendors]
      rfl
    exact Raising.bind_eq_error.mpr (Or.inl hrows)
  | hndl scenario => exact ofExcept_error (by rw [hndlPage, h]; rfl) cache
  | compliance => exact ofExcept_error (by rw [compliancePage, h]; rfl) cache
  | roadmap => exact ofExcept_error (by rw [roadmapPage, h]; rfl) cache
  | _ => exact ofExcept_error (hplain _ _) cache

end Failing

/-- **Each page that is shown is about the targets.** -/
theorem isAbout_showPage {data : DataFiles} {visit : Visit} {ts : List Target}
    {page : Page} {context : PageContext} {body : PageBody} {cache cache' : Option CertMap}
    (hts : loadTargetsFile data = .ok ts)
    (h : showPage data visit page cache = .ok (context, body) cache') :
    context.Shows visit ts ∧ body.IsAbout ts := by
  cases page with
  | score view => exact isAbout_scorePageFile hts h
  | hndl scenario => exact isAbout_hndlPage hts (Raising.ofExcept_eq_ok.mp h).1
  | compliance => exact isAbout_compliancePage hts (Raising.ofExcept_eq_ok.mp h).1
  | roadmap => exact isAbout_roadmapPage hts (Raising.ofExcept_eq_ok.mp h).1
  | _ => exact isAbout_plainPage hts (Raising.ofExcept_eq_ok.mp h).1

/-- **The bills of materials are those of the targets.** -/
theorem cbomJson_answers {data : DataFiles} {ts : List Target} (hts : loadTargetsFile data = .ok ts)
    (uuid now : String) (name : PathSegment) :
    ∃ answer, cbomJson data uuid now name = .ok answer ∧
      (answer.isSome ↔ name.1 ∈ ts.map (·.target)) ∧
      ∀ doc ∈ answer, doc.metadata.component.name = name.1 ∧
        ∃ t ∈ ts, doc = buildCbom uuid now t := by
  refine ⟨(ts.find? fun t => t.target = name.1).map (buildCbom uuid now), ?_, ?_, ?_⟩
  · rw [cbomJson, hts]
    rfl
  · rw [Option.isSome_map, List.find?_isSome]
    simp [eq_comm]
  · rintro doc hdoc
    obtain ⟨t, ht, rfl⟩ := Option.map_eq_some_iff.mp hdoc
    have htarget : t.target = name.1 := by simpa using List.find?_some ht
    exact ⟨htarget, t, List.mem_of_find?_eq_some ht, rfl⟩

/-- **The pages agree.** If the vendors cannot be loaded, no page is shown and nothing can be
downloaded, all for the same reason. Else every page that is shown is about the same targets,
whichever files it has looked at besides, and whatever is in the cache: each target is there
once, the totals are the same, and the tiers are in keeping with what is shown as exposed or as
compliant; and under a name a bill of materials can be downloaded exactly if a target has it. -/
theorem pages_agree (data : DataFiles) :
    (∀ e, loadTargetsFile data = .error e → ∀ visit page cache uuid now name,
      showPage data visit page cache = .error e cache ∧
        cbomJson data uuid now name = .error e) ∧
    ∀ ts, loadTargetsFile data = .ok ts →
      (∀ visit page cache context body cache',
        showPage data visit page cache = .ok (context, body) cache' →
          context.Shows visit ts ∧ body.IsAbout ts) ∧
      ∀ uuid now name, ∃ answer, cbomJson data uuid now name = .ok answer ∧
        (answer.isSome ↔ name.1 ∈ ts.map (·.target)) ∧
        ∀ doc ∈ answer, doc.metadata.component.name = name.1 ∧
          ∃ t ∈ ts, doc = buildCbom uuid now t := by
  refine ⟨fun e h visit page cache uuid now name => ?_, fun ts hts => ⟨?_, ?_⟩⟩
  · refine ⟨showPage_eq_error h visit page cache, ?_⟩
    rw [cbomJson, h]
    rfl
  · intro visit page cache context body cache' h
    exact isAbout_showPage hts h
  · exact cbomJson_answers hts

end HybridTls
