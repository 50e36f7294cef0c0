import HybridTls.System.Pages

/-!
# The pages of a running dashboard

A process of the dashboard shows one page after the other, while its files are edited
(`HybridTls.site`). It reads the files again for each page; only what the scan has found it
keeps once it has been read, for as long as it runs. So what is shown is what a new process
would show of the files as they are – but for the scores, which are those of a scan that has
been there at some time, and do not change with the scan any more once a page has shown them
(`HybridTls.site_answers`).
-/

namespace HybridTls

open Python Raising Transition

/-! ### The process -/

/-- A running process: the files as they are, and what it has kept of the scan. -/
structure Site where
  data : DataFiles
  cache : Option CertMap

/-- A process that has just been started. -/
def Site.start (data : DataFiles) : Site := ⟨data, none⟩

/-- What happens: the files are edited, or somebody looks at a page. -/
inductive SiteEvent where
  | edit (data : DataFiles)
  | look (visit : Visit) (page : Page)

/-- What is answered. -/
def Site.answer (s : Site) (visit : Visit) (page : Page) :
    Except FileError (PageContext × PageBody) :=
  Memo.outcome (showPage s.data visit page) s.cache

def Site.step (s : Site) : SiteEvent → Site
  | .edit data => { s with data }
  | .look visit page => { s with cache := final (showPage s.data visit page) s.cache }

/-- **The process**, with the files that are there when it is started. -/
def site (data : DataFiles) : Machine Site SiteEvent where
  init := .start data
  step := Site.step

/-- The files that have been in place. -/
def inPlace (data : DataFiles) (events : List SiteEvent) : List DataFiles :=
  data :: events.filterMap fun
    | .edit data => some data
    | .look _ _ => none

/-- The files with the output of another scan. -/
def DataFiles.withScan (data old : DataFiles) : DataFiles :=
  { data with scan := old.scan, full := old.full }

/-- A page of scores. -/
def Page.scores : Page → Bool
  | .score _ => true
  | _ => false

/-! ### Scores -/

section Scores

variable {scan full : ScanFile} {inputs : Dict String HndlInput} {cache cache' : Option CertMap}
  {m : CertMap} {vendors : List Vendor}

/-- The scores of the vendors, out of what the scan has found. -/
def scoresOf (m : CertMap) (inputs : Dict String HndlInput) (vendors : List Vendor) :
    Py (List ScoredRow) :=
  vendors.mapM fun v => scoreVendor (m.lookup (.text v.vendor)) (inputs.lookup v.vendor) v

/-- One row. -/
theorem scoreRow_eq (hcerts : certs scan full cache = .ok m cache') (v : Vendor) :
    scoreRow scan full inputs v cache =
      match scoreVendor (m.lookup (.text v.vendor)) (inputs.lookup v.vendor) v with
      | .ok r => .ok r (some m)
      | .error e => .error e (some m) := by
  obtain rfl := certs_eq_ok hcerts
  rw [scoreRow, bind_of_ok hcerts]
  cases scoreVendor (m.lookup (.text v.vendor)) (inputs.lookup v.vendor) v <;> rfl

/-- **All rows**: they are scored with what has been kept, and it is kept if there is a row. -/
theorem scoreRows_eq (hcerts : certs scan full cache = .ok m cache') :
    vendors.mapM (scoreRow scan full inputs) cache =
      match scoresOf m inputs vendors with
      | .ok rows => .ok rows (if vendors = [] then cache else some m)
      | .error e => .error e (some m) := by
  induction vendors generalizing cache cache' with
  | nil => rfl
  | cons v vendors ih =>
    rw [List.mapM_cons, scoresOf, List.mapM_cons]
    have hrow : scoreRow scan full inputs v cache = _ := scoreRow_eq hcerts v
    cases hv : scoreVendor (m.lookup (.text v.vendor)) (inputs.lookup v.vendor) v with
    | error e =>
      rw [hv] at hrow
      exact bind_eq_error.mpr (Or.inl hrow)
    | ok r =>
      rw [hv] at hrow
      -- behind the first row the cache is there
      have hkept : certs scan full (some m) = .ok m (some m) := Memo.memo_some
      have hrest := ih hkept
      rw [ite_self] at hrest
      rw [bind_of_ok hrow]
      unfold scoresOf at hrest
      cases hrows : vendors.mapM fun v =>
          scoreVendor (m.lookup (.text v.vendor)) (inputs.lookup v.vendor) v with
      | error e =>
        rw [hrows] at hrest
        exact bind_eq_error.mpr (Or.inl hrest)
      | ok rows =>
        rw [hrows] at hrest
        rw [bind_of_ok hrest]
        rfl

theorem outcome_scoreRows (hcerts : certs scan full cache = .ok m cache') :
    Memo.outcome (vendors.mapM (scoreRow scan full inputs)) cache = scoresOf m inputs vendors := by
  unfold Memo.outcome
  rw [scoreRows_eq hcerts]
  cases scoresOf m inputs vendors <;> rfl

end Scores

/-! ### What is answered -/

/-- `load_scored`, with what has been kept of the scan. -/
def keptRows (data : DataFiles) (m : CertMap) : Except FileError (List ScoredRow) := do
  let vendors ← loadVendorsFile data.vendors
  let inputs ← loadHndlFile data.hndlInputs
  let rows ← raised (scoresOf m (scoredInputs inputs) vendors)
  return ranked rows

/-- `score_page`, with what has been kept of the scan. -/
def keptPage (data : DataFiles) (visit : Visit) (m : CertMap) (view : Option String) :
    Except FileError (PageContext × PageBody) := do
  let page := scorePage view (← keptRows data m)
  let context ← pageContext data visit page.title page.activeNav
  return (context, .score page)

section Answers

variable {data old : DataFiles} {visit : Visit} {page : Page} {s : Site} {m : CertMap}
  {cache cache' : Option CertMap}

theorem outcome_loadScoredFile (hcerts : certs data.scan data.full cache = .ok m cache') :
    Memo.outcome (loadScoredFile data) cache = keptRows data m := by
  simp only [loadScoredFile, keptRows, Memo.outcome_bind, Memo.outcome_ofExcept, final_ofExcept,
    Memo.outcome_adaptExcept, outcome_scoreRows hcerts, Memo.outcome_pure]
  rfl

/-- **The scores are made of the files and of what has been kept of the scan.** -/
theorem answer_score (hcerts : certs s.data.scan s.data.full s.cache = .ok m cache')
    (visit : Visit) (view : Option String) :
    s.answer visit (.score view) = keptPage s.data visit m view := by
  simp only [Site.answer, showPage, scorePageFile, keptPage, Memo.outcome_bind,
    outcome_loadScoredFile hcerts, Memo.outcome_ofExcept, Memo.outcome_pure]
  rfl

/-- The other pages do not look at the scan. -/
theorem answer_withScan (h : page.scores = false) (visit : Visit) (old : DataFiles) :
    s.answer visit page = (Site.start (s.data.withScan old)).answer visit page := by
  cases page with
  | score view => cases h
  | _ =>
    simp only [Site.answer, showPage, Memo.outcome_ofExcept]
    rfl

/-- **What has been kept of a scan stands for it.** -/
theorem answer_eq (hcerts : certs s.data.scan s.data.full s.cache = .ok m cache)
    (hold : certs old.scan old.full none = .ok m cache') (visit : Visit) (page : Page) :
    s.answer visit page = (Site.start (s.data.withScan old)).answer visit page := by
  rcases hpage : page.scores with _ | _
  · exact answer_withScan hpage visit old
  · cases page with
    | score view =>
      have hstart : certs (Site.start (s.data.withScan old)).data.scan
          (Site.start (s.data.withScan old)).data.full
          (Site.start (s.data.withScan old)).cache = .ok m cache' := hold
      rw [answer_score hcerts, answer_score hstart]
      rfl
    | _ => cases hpage

end Answers

/-! ### What is kept -/

/-- A computation leaves the cache as it has been, or with what has been read. -/
def KeepsScan {α : Type} (cache : Option CertMap) (m : CertMap)
    (x : EStateM FileError (Option CertMap) α) : Prop :=
  Keeps (fun s s' => (s = cache ∨ s = some m) → s' = cache ∨ s' = some m) x

section Kept

variable {data : DataFiles} {cache cache' : Option CertMap} {m : CertMap} {α β : Type}

theorem keepsScan_ofExcept (x : Except FileError α) :
    KeepsScan cache m (ofExcept x : EStateM FileError (Option CertMap) α) := by
  intro s hs
  rwa [final_ofExcept]

theorem KeepsScan.bind {x : EStateM FileError (Option CertMap) α}
    {f : α → EStateM FileError (Option CertMap) β} (hx : KeepsScan cache m x)
    (hf : ∀ a, KeepsScan cache m (f a)) : KeepsScan cache m (x >>= f) := by
  refine Keeps.bind ?_ hx hf
  intro s t u hst htu hs
  exact htu (hst hs)

theorem keepsScan_pure (a : α) :
    KeepsScan cache m (pure a : EStateM FileError (Option CertMap) α) := fun _ hs => hs

/-- The rows are scored with what has been kept, or read. -/
theorem keepsScan_scoreRows (hcerts : certs data.scan data.full cache = .ok m cache')
    (vendors : List Vendor) (inputs : Dict String HndlInput) :
    KeepsScan cache m ((vendors.mapM (scoreRow data.scan data.full inputs)).adaptExcept .exn) := by
  intro s hs
  obtain ⟨s', hs'⟩ : ∃ s', certs data.scan data.full s = .ok m s' := by
    rcases hs with rfl | rfl
    · exact ⟨_, hcerts⟩
    · exact ⟨some m, Memo.memo_some⟩
  rw [final_adaptExcept, final, scoreRows_eq hs']
  rcases scoresOf m inputs vendors with e | rows
  · exact Or.inr rfl
  · dsimp only
    split
    · exact hs
    · exact Or.inr rfl

/-- **A page leaves the cache as it has been, or with what it has read.** -/
theorem final_showPage (hcerts : certs data.scan data.full cache = .ok m cache') (visit : Visit)
    (page : Page) : final (showPage data visit page) cache = cache ∨
      final (showPage data visit page) cache = some m := by
  have hscored : KeepsScan cache m (loadScoredFile data) :=
    (keepsScan_ofExcept _).bind fun vendors => (keepsScan_ofExcept _).bind fun inputs =>
      (keepsScan_scoreRows hcerts vendors _).bind fun rows => keepsScan_pure _
  have hpage : KeepsScan cache m (showPage data visit page) := by
    cases page with
    | score view =>
      exact hscored.bind fun rows => (keepsScan_ofExcept _).bind fun context => keepsScan_pure _
    | _ => exact keepsScan_ofExcept _
  exact hpage cache (Or.inl rfl)

/-- **Who has seen scores has made the process keep the scan.** -/
theorem final_of_shown (hcerts : certs data.scan data.full cache = .ok m cache') {visit : Visit}
    {view : Option String} {context : PageContext} {body : PageBody}
    (hshown : Memo.outcome (showPage data visit (.score view)) cache = .ok (context, body))
    (htargets : context.targets ≠ []) :
    final (showPage data visit (.score view)) cache = some m := by
  obtain ⟨c, hc⟩ : ∃ c, showPage data visit (.score view) cache = .ok (context, body) c := by
    unfold Memo.outcome at hshown
    split at hshown
    next a c hc =>
      cases hshown
      exact ⟨c, hc⟩
    next => cases hshown
  rw [final, hc]
  obtain ⟨rows, s₁, hrows, h⟩ := bind_eq_ok.mp hc
  obtain ⟨context', s₂, hcontext, h⟩ := bind_eq_ok.mp h
  obtain ⟨hpage, rfl⟩ := ofExcept_eq_ok.mp hcontext
  obtain ⟨h, rfl⟩ := pure_eq_ok.mp h
  cases h
  obtain ⟨vendors, s₃, hvendors, hrows⟩ := bind_eq_ok.mp hrows
  obtain ⟨hload, rfl⟩ := ofExcept_eq_ok.mp hvendors
  obtain ⟨inputs, s₄, hinputs, hrows⟩ := bind_eq_ok.mp hrows
  obtain ⟨-, rfl⟩ := ofExcept_eq_ok.mp hinputs
  obtain ⟨scored, s₅, hscored, hrows⟩ := bind_eq_ok.mp hrows
  obtain ⟨-, rfl⟩ := pure_eq_ok.mp hrows
  -- there is a vendor, and so a row
  have hts : loadTargetsFile data = .ok (vendors.map Vendor.toTarget) := by
    rw [loadTargetsFile, hload]
    rfl
  have hne : vendors ≠ [] := by
    rintro rfl
    exact htargets (shows_pageContext hts hpage).targets
  have hkept := adaptExcept_eq_ok.mp hscored
  rw [scoreRows_eq hcerts, if_neg hne] at hkept
  split at hkept
  · cases hkept
    rfl
  · cases hkept

end Kept

/-! ### A process that runs -/

/-- A process has kept nothing of a scan, or what it has read of one that has been there. -/
structure Site.Remembers (s : Site) (files : List DataFiles) : Prop where
  data : s.data ∈ files
  cache : ∀ m ∈ s.cache, ∃ old ∈ files, certs old.scan old.full none = .ok m (some m)

section Running

variable {data : DataFiles} {files : List DataFiles} {s : Site} {m : CertMap}

theorem exists_certs {scan full : ScanFile} (h : Readable [scan, full]) :
    ∃ m, certs scan full none = .ok m (some m) := by
  obtain ⟨cache, hcache⟩ := readFiles_returns_iff.mpr h
  have hcerts : certs scan full none = .ok (cache.getD []) cache := by
    rw [certs, Memo.memo_none, hcache]
  exact ⟨_, certs_eq_ok hcerts ▸ hcerts⟩

/-- **Of which scan the scores are**, in a process that remembers. -/
theorem Site.Remembers.exists_scan (hs : s.Remembers files)
    (hreadable : ∀ d ∈ files, Readable [d.scan, d.full]) :
    ∃ old ∈ files, ∃ m, certs old.scan old.full none = .ok m (some m) ∧
      certs s.data.scan s.data.full s.cache = .ok m (some m) := by
  rcases hcache : s.cache with _ | m
  · obtain ⟨m, hm⟩ := exists_certs (hreadable _ hs.data)
    exact ⟨s.data, hs.data, m, hm, hm⟩
  · obtain ⟨old, hold, hm⟩ := hs.cache m hcache
    exact ⟨old, hold, m, hm, Memo.memo_some⟩

/-- The files that are edited in are among some. -/
def SiteEvent.Among (files : List DataFiles) (event : SiteEvent) : Prop :=
  ∀ d, event = .edit d → d ∈ files

/-- **Every step keeps it.** -/
theorem Site.Remembers.step (hreadable : ∀ d ∈ files, Readable [d.scan, d.full])
    {event : SiteEvent} (hevent : event.Among files) (hs : s.Remembers files) :
    (s.step event).Remembers files := by
  rcases event with d | ⟨visit, page⟩
  · exact ⟨hevent d rfl, hs.cache⟩
  · refine ⟨hs.data, fun m hm => ?_⟩
    obtain ⟨old, hold, m', hread, hcerts⟩ := hs.exists_scan hreadable
    rcases final_showPage hcerts visit page with hfinal | hfinal
    · exact hs.cache m (hfinal ▸ hm)
    · obtain rfl : m' = m := Option.some.inj (hfinal.symm.trans hm)
      exact ⟨old, hold, hread⟩

theorem remembers_run {events : List SiteEvent}
    (hreadable : ∀ d ∈ inPlace data events, Readable [d.scan, d.full]) :
    ((site data).run events).Remembers (inPlace data events) := by
  refine Machine.invariant_of_inputs (M := site data)
    (P := fun s => s.Remembers (inPlace data events))
    (Q := fun event => event.Among (inPlace data events)) ?_ ?_ ?_
  · refine ⟨List.mem_cons_self, ?_⟩
    rintro m ⟨⟩
  · exact fun s event hevent hs => hs.step hreadable hevent
  · rintro event hevent d rfl
    exact List.mem_cons_of_mem _ (List.mem_filterMap.mpr ⟨_, hevent, rfl⟩)

/-- **What has been kept is kept for good.** -/
theorem cache_runFrom (hs : s.cache = some m) (events : List SiteEvent) :
    ((site data).runFrom s events).cache = some m := by
  refine Machine.related (M := site data)
    (R := fun s s' : Site => s.cache = some m → s'.cache = some m) (fun s h => h)
      (fun h h' hs => h' (h hs)) ?_ s events hs
  intro s event hs
  rcases event with d | ⟨visit, page⟩
  · exact hs
  · have hcerts : certs s.data.scan s.data.full s.cache = .ok m (some m) := by
      rw [hs]
      exact Memo.memo_some
    rcases final_showPage hcerts visit page with h | h
    · exact h.trans hs
    · exact h

/-- Somebody has seen scores. -/
def ShownScores (data : DataFiles) (events : List SiteEvent) : Prop :=
  ∃ before visit view after context body,
    events = before ++ .look visit (.score view) :: after ∧
      ((site data).run before).answer visit (.score view) = .ok (context, body) ∧
        context.targets ≠ []

/-- By then the process has kept a scan. -/
theorem exists_cache_of_shown {events : List SiteEvent}
    (hreadable : ∀ d ∈ inPlace data events, Readable [d.scan, d.full])
    (hshown : ShownScores data events) : ∃ m, ((site data).run events).cache = some m := by
  obtain ⟨before, visit, view, after, context, body, rfl, hanswer, htargets⟩ := hshown
  have hbefore : ∀ d ∈ inPlace data before, Readable [d.scan, d.full] := by
    intro d hd
    refine hreadable d ?_
    simp only [inPlace, List.filterMap_append, List.mem_cons, List.mem_append] at hd ⊢
    tauto
  obtain ⟨old, -, m, -, hcerts⟩ := (remembers_run hbefore).exists_scan hbefore
  refine ⟨m, ?_⟩
  rw [Machine.run_append, Machine.runFrom_cons]
  exact cache_runFrom (final_of_shown hcerts hanswer htargets) after

/-- **The pages of a running process**, whatever is edited and looked at, if every scan that has
been in place can be read. Pages without scores are those that a new process would show. Pages
with scores are those that a new process would show if the scan were still the one that was in
place at some time; and once somebody has seen scores, it is that scan for as long as the
process runs, whatever is edited later on. -/
theorem site_answers {data : DataFiles} {events : List SiteEvent}
    (hreadable : ∀ d ∈ inPlace data events, Readable [d.scan, d.full]) :
    (∀ visit page, page.scores = false → ((site data).run events).answer visit page =
      (Site.start ((site data).run events).data).answer visit page) ∧
    ∃ old ∈ inPlace data events,
      (∀ visit page, ((site data).run events).answer visit page =
        (Site.start (((site data).run events).data.withScan old)).answer visit page) ∧
      (ShownScores data events → ∀ more visit page,
        ((site data).run (events ++ more)).answer visit page =
          (Site.start (((site data).run (events ++ more)).data.withScan old)).answer
            visit page) := by
  refine ⟨fun visit page hpage => answer_withScan hpage visit _, ?_⟩
  obtain ⟨old, hold, m, hread, hcerts⟩ := (remembers_run hreadable).exists_scan hreadable
  refine ⟨old, hold, fun visit page => answer_eq hcerts hread visit page, ?_⟩
  intro hshown more visit page
  obtain ⟨m', hm'⟩ := exists_cache_of_shown hreadable hshown
  obtain rfl : m' = m := by
    have hsome : certs ((site data).run events).data.scan ((site data).run events).data.full
        (some m') = .ok m' (some m') := Memo.memo_some
    rw [hm', hsome] at hcerts
    cases hcerts
    rfl
  have hkept : ((site data).run (events ++ more)).cache = some m' := by
    rw [Machine.run_append]
    exact cache_runFrom hm' more
  have hlater : certs ((site data).run (events ++ more)).data.scan
      ((site data).run (events ++ more)).data.full ((site data).run (events ++ more)).cache =
        .ok m' (some m') := by
    rw [hkept]
    exact Memo.memo_some
  exact answer_eq hlater hread visit page

end Running

/-- One vendor, and no scan. -/
def unscanned : DataFiles where
  vendors := Csv.write Csv.excel ([vendorColumns ++ ["pqc_provider"],
    ["Yes", "No", "No", "No", "Bank", "x25519", ""]].map fun row => row.map String.toList)
  hndlInputs := none
  hndlInputs10y := none
  scan := .missing
  full := .missing

/-- Somebody looks at the scores, and then there is a scan. -/
def rescanned : List SiteEvent :=
  [.look ⟨.empty, none, 2026⟩ (.score none), .edit { unscanned with scan := migratedScan }]

/-- The scores have been seen. -/
theorem shownScores_rescanned : ShownScores unscanned rescanned := by
  have hshown : ((Site.start unscanned).answer ⟨.empty, none, 2026⟩ (.score none)).toOption.any
      (fun shown => !shown.1.targets.isEmpty) = true := by decide +kernel
  cases hanswer : (Site.start unscanned).answer ⟨.empty, none, 2026⟩ (.score none) with
  | error e =>
    rw [hanswer] at hshown
    cases hshown
  | ok shown =>
    rw [hanswer] at hshown
    refine ⟨[], _, none, _, shown.1, shown.2, rfl, hanswer, ?_⟩
    simpa [Except.toOption] using hshown

/-- So they are those of one of the two for good, whatever comes after the scan. -/
theorem site_answers_rescanned : ∃ old ∈ inPlace unscanned rescanned, ∀ more visit page,
    ((site unscanned).run (rescanned ++ more)).answer visit page =
      (Site.start (((site unscanned).run (rescanned ++ more)).data.withScan old)).answer
        visit page := by
  have hreadable : ∀ d ∈ inPlace unscanned rescanned, Readable [d.scan, d.full] := by
    intro d hd
    obtain rfl | rfl : d = unscanned ∨ d = { unscanned with scan := migratedScan } := by
      simpa [inPlace, rescanned] using hd
    · exact ⟨rfl, Or.inr ⟨rfl, Or.inr trivial⟩⟩
    · exact ⟨rfl, Or.inl rfl⟩
  obtain ⟨old, hold, -, hkept⟩ := (site_answers hreadable).2
  exact ⟨old, hold, hkept shownScores_rescanned⟩

end HybridTls
