import UrlRewrite.CommandLine.Answer

/-!
# The verdict on a plan

A request of a plan passes if it can be evaluated and has the outcome that the plan expects, as far
as it expects one (`RequestCase.Passes`). This is said without reports, by what becomes of the
request.

* `Site.passed_report_iff` says that reports have the same verdict, which they reach by listing what
  is wrong. Both of their forms show it, lines of text by their mark (`Report.mark_prefix_iff`) and
  tables by their failures (`Report.field_failures_iff`).
* `Answer.Tells` says what a whole answer tells: its exit code, its counts and what stands for each
  request. A clock gives the moment at which each request arrives, which need not be the same for
  two of them.
* `Readers.answer_tells` is about all arguments that lead to a plan and to a configuration
  (`Readers.Loads`), whatever they and the notations of plans are read by, and wherever files come
  from. If the arguments are read, the exit code says whether they lead that far
  (`Readers.exists_loads_iff`).
-/

namespace UrlRewrite

/-! ### What is expected -/

/-- An outcome and the scope that it comes from are what is expected: whatever is expected is there
and is the same. -/
structure Expectation.MetBy (x : Expectation) (o : Outcome) (host : Text) : Prop where
  uri : ∀ uri, x.uri = some uri → o.rewrite.uri? = some uri
  status : ∀ code, x.status = some code → o.rewrite.status? = some code
  host : ∀ name, x.host = some name → host = name

/-- A request of a plan can be evaluated, and what becomes of it is what is expected. -/
def RequestCase.Passes (c : RequestCase) (site : Site) (now : Moment) : Prop :=
  ∃ e, site.evaluate now c.request = .ok e ∧
    ∀ x, c.expected = some x → x.MetBy e.outcome (site.scope c.request).label

/-- Where nothing is expected, it is only by an error that a request does not pass. -/
theorem RequestCase.not_passes_iff_of_unexpected {c : RequestCase}
    (h : c.expected = none) (site : Site) (now : Moment) :
    ¬ c.Passes site now ↔ ∃ e, site.evaluate now c.request = .error e := by
  rw [Passes, h]
  cases site.evaluate now c.request <;> simp

theorem Site.host_of_evaluate {site : Site} {now : Moment} {r : Request} {e : Evaluation}
    (h : site.evaluate now r = .ok e) : e.host = (site.scope r).label := by
  rw [Site.evaluate] at h
  split at h
  · cases h
  · obtain rfl := Except.ok.inj h
    rfl

/-! ### Reports -/

namespace Report

theorem deviation_eq_nil_iff {α : Type} [DecidableEq α] {name : String} {write : α → Text}
    {expected got : Option α} :
    deviation name write expected got = [] ↔ ∀ a, expected = some a → got = some a := by
  rw [deviation]
  cases expected <;> simp

theorem deviations_eq_nil_iff {x : Expectation} {e : Evaluation} :
    deviations x e = [] ↔ x.MetBy e.outcome e.host := by
  rw [deviations, List.append_eq_nil_iff, List.append_eq_nil_iff, deviation_eq_nil_iff,
    deviation_eq_nil_iff, deviation_eq_nil_iff]
  constructor
  · rintro ⟨⟨huri, hstatus⟩, hhost⟩
    exact ⟨huri, hstatus, fun name hname => Option.some.inj (hhost name hname)⟩
  · rintro ⟨huri, hstatus, hhost⟩
    exact ⟨⟨huri, hstatus⟩, fun name hname => congrArg some (hhost name hname)⟩

/-- A report in lines of text is marked exactly if it does not pass. -/
theorem mark_prefix_iff (r : Report) : "[FAIL] ".toList <+: r.toText ↔ r.passed = false := by
  cases hpassed : r.passed with
  | false => simp [toText, mark, hpassed]
  | true => cases hchecked : r.checked <;> simp [toText, mark, hpassed, hchecked]

/-- A report as a table has failures exactly if it does not pass. -/
theorem field_failures_iff (r : Report) :
    r.toDatum.field "failures" ≠ .list [] ↔ r.passed = false := by
  have hfield : r.toDatum.field "failures" = .ofTexts r.failures := by simp [toDatum]
  rw [hfield, passed, List.isEmpty_eq_false_iff, Ne, Datum.ofTexts, Datum.list.injEq,
    List.map_eq_nil_iff]

end Report

/-- **The verdict of a report** is that on the request. -/
theorem Site.passed_report_iff {site : Site} {now : Moment} {c : RequestCase} :
    (site.report now c).passed = true ↔ c.Passes site now := by
  rw [Report.passed, List.isEmpty_iff, Report.failures, report, RequestCase.Passes]
  cases heval : site.evaluate now c.request with
  | error e => simp
  | ok e =>
    cases hexpected : c.expected with
    | none => simp
    | some x => simp [Report.deviations_eq_nil_iff, host_of_evaluate heval]

instance (c : RequestCase) (site : Site) (now : Moment) : Decidable (c.Passes site now) :=
  decidable_of_iff _ Site.passed_report_iff

/-! ### Answers -/

section Counts

variable (site : Site) (clock : Nat → Moment) (cases : List RequestCase)

/-- How many requests pass. -/
def RequestCase.passing : Nat := cases.zipIdx.countP fun p => p.1.Passes site (clock p.2)

/-- How many requests do not pass. -/
def RequestCase.failing : Nat := cases.zipIdx.countP fun p => ¬ p.1.Passes site (clock p.2)

end Counts

/-- **What an answer tells** of the requests of a plan, each of which arrives at the moment that a
clock gives for its place in the plan. -/
structure Answer.Tells (a : Answer) (json : Bool) (config : Text) (site : Site)
    (clock : Nat → Moment) (cases : List RequestCase) : Prop where
  /-- It is a success exactly if all requests pass. -/
  exitCode_eq_zero_iff : a.exitCode = 0 ↔ ∀ p ∈ cases.zipIdx, p.1.Passes site (clock p.2)
  /-- It is a failure exactly if a request does not pass. -/
  exitCode_eq_one_iff : a.exitCode = 1 ↔ ∃ p ∈ cases.zipIdx, ¬ p.1.Passes site (clock p.2)
  /-- Every request is counted once. -/
  counted :
    RequestCase.passing site clock cases + RequestCase.failing site clock cases = cases.length
  /-- The lines of text are those of one request after the other, and of the counts. -/
  text : json = false → a.output =
    (cases.zipIdx.flatMap fun p => (site.report (clock p.2) p.1).toText ++ ['\n']) ++
      '\n' :: Text.ofNat (RequestCase.passing site clock cases) ++ " passed, ".toList ++
        Text.ofNat (RequestCase.failing site clock cases) ++ " failed\n".toList
  /-- The table has the counts, and a table for one request after the other. -/
  table : json = true → ∃ d : Datum, a.output = d.toJson ++ ['\n'] ∧
    d.field "config" = .text config ∧
    d.field "passed" = .integer (RequestCase.passing site clock cases) ∧
    d.field "failed" = .integer (RequestCase.failing site clock cases) ∧
    d.field "results" = .list (cases.zipIdx.map fun p => (site.report (clock p.2) p.1).toDatum)
  /-- Both forms show which requests do not pass. -/
  marks : ∀ p ∈ cases.zipIdx,
    ("[FAIL] ".toList <+: (site.report (clock p.2) p.1).toText ↔ ¬ p.1.Passes site (clock p.2)) ∧
    ((site.report (clock p.2) p.1).toDatum.field "failures" ≠ .list [] ↔
      ¬ p.1.Passes site (clock p.2))
  /-- Where nothing is expected, it is by an error. -/
  unexpected : ∀ p ∈ cases.zipIdx, p.1.expected = none →
    (¬ p.1.Passes site (clock p.2) ↔ ∃ e, site.evaluate (clock p.2) p.1.request = .error e)

/-- The reports on the requests of a plan, in their order. -/
def Site.reports (site : Site) (clock : Nat → Moment) (cases : List RequestCase) : List Report :=
  cases.zipIdx.map fun p => site.report (clock p.2) p.1

section Reports

variable (json : Bool) (config : Text) (site : Site) (clock : Nat → Moment)
    (cases : List RequestCase)

/-- As many reports are positive as requests pass. -/
theorem length_filter_passed :
    ((site.reports clock cases).filter (·.passed)).length =
      RequestCase.passing site clock cases := by
  rw [Site.reports, ← List.countP_eq_length_filter, List.countP_map, RequestCase.passing]
  exact List.countP_congr fun p _ => by
    rw [Function.comp, decide_eq_true_iff, Site.passed_report_iff]

/-- As many reports are negative as requests do not pass. -/
theorem length_filter_not_passed :
    ((site.reports clock cases).filter (!·.passed)).length =
      RequestCase.failing site clock cases := by
  rw [Site.reports, ← List.countP_eq_length_filter, List.countP_map, RequestCase.failing]
  exact List.countP_congr fun p _ => by simp [Site.passed_report_iff, ← Bool.not_eq_true]

theorem RequestCase.failing_eq_zero_iff :
    failing site clock cases = 0 ↔ ∀ p ∈ cases.zipIdx, p.1.Passes site (clock p.2) := by
  simp [failing, List.countP_eq_zero]

/-- The answer that gives the reports of a site tells of the requests what becomes of them on the
site. -/
theorem Answer.tells_ofReports :
    (ofReports json config (site.reports clock cases)).Tells json config site clock cases where
  exitCode_eq_zero_iff := by
    rw [ofReports, length_filter_not_passed, ← RequestCase.failing_eq_zero_iff]
    simp
  exitCode_eq_one_iff := by
    have hnot : (∃ p ∈ cases.zipIdx, ¬ p.1.Passes site (clock p.2)) ↔
        ¬ RequestCase.failing site clock cases = 0 := by
      rw [RequestCase.failing_eq_zero_iff]
      simp
    rw [ofReports, length_filter_not_passed, hnot]
    simp
  counted := by
    -- each case either passes or fails
    have hsum := cases.zipIdx.length_eq_countP_add_countP fun p => p.1.Passes site (clock p.2)
    rw [List.length_zipIdx] at hsum
    rw [RequestCase.passing, RequestCase.failing, hsum]
    simp
  text hjson := by
    simp only [ofReports, hjson, reportText, length_filter_passed, length_filter_not_passed]
    simp [Site.reports, List.flatMap_map]
  table hjson := by
    refine ⟨reportDatum config (site.reports clock cases) (RequestCase.passing site clock cases)
      (RequestCase.failing site clock cases), ?_, ?_, ?_, ?_, ?_⟩
    · simp [ofReports, hjson, length_filter_passed, length_filter_not_passed]
    all_goals simp [reportDatum, Site.reports]
  marks p _ := by
    rw [Report.mark_prefix_iff, Report.field_failures_iff, ← Site.passed_report_iff,
      Bool.not_eq_true]
    exact ⟨Iff.rfl, Iff.rfl⟩
  unexpected p _ h := p.1.not_passes_iff_of_unexpected h site (clock p.2)

end Reports

/-! ### Loaded plans -/

/-- Where moments are given by a function, the requests of a job are evaluated at these moments. -/
theorem Job.run_of_readConfig {files : Text → Except FileError Text} (clock : Nat → Moment)
    (json : Bool) {job : Job} {site : Site}
    (h : readConfig (m := Id) (pure <| files ·) job.config = .ok site) :
    job.run (m := Id) (pure <| files ·) (pure <| clock ·) json =
      .ok (.ofReports json job.config ((job.plan.equip site).reports clock job.plan.cases)) := by
  simp only [Job.run, bind, h]
  exact congrArg (fun reports => Except.ok (Answer.ofReports json job.config reports))
    List.mapM_pure

/-- A job whose configuration cannot be read does not run. -/
theorem Job.run_eq_error {files : Text → Except FileError Text} {clock : Nat → Moment} {json : Bool}
    {job : Job} {e : CommandError}
    (h : readConfig (m := Id) (pure <| files ·) job.config = .error e) :
    job.run (m := Id) (pure <| files ·) (pure <| clock ·) json = .error e := by
  simp only [Job.run, bind, h]
  rfl

namespace Readers

variable {readers : Readers} {files : Text → Except FileError Text} {clock : Nat → Moment}
  {arguments : List Text} {options : Options} {job : Job} {site : Site}

/-- Arguments lead to requests of a plan and to a configuration to evaluate them on. -/
structure Loads (readers : Readers) (files : Text → Except FileError Text) (arguments : List Text)
    (options : Options) (job : Job) (site : Site) : Prop where
  reads : readers.options arguments = .ok options
  makes : ∃ plan, readPlan (m := Id) readers (pure <| files ·) options = .ok plan ∧
    Job.make options plan = .ok job
  configures : readConfig (m := Id) (pure <| files ·) job.config = .ok site

/-- Whatever is loaded is evaluated. -/
theorem answer_of_loads (h : readers.Loads files arguments options job site) :
    readers.answer files clock arguments =
      .ofReports options.json job.config ((job.plan.equip site).reports clock job.plan.cases) := by
  obtain ⟨hoptions, ⟨plan, hplan, hjob⟩, hsite⟩ := h
  have hrun := Job.run_of_readConfig clock options.json hsite
  simp only [Readers.answer, UrlRewrite.answer, hoptions, Id.run, bind]
  simp only [hplan, hjob, hrun]
  rfl

/-- If the arguments are read and nothing is loaded, nothing is evaluated. -/
theorem loads_or_error (clock : Nat → Moment) (h : readers.options arguments = .ok options) :
    (∃ job site, readers.Loads files arguments options job site) ∨
      ∃ e, readers.answer files clock arguments = .ofError e := by
  rw [Readers.answer, UrlRewrite.answer, h]
  simp only [Id.run, bind]
  -- an error of the plan, of the job or of the configuration is the answer
  cases hplan : readPlan (m := Id) readers (pure <| files ·) options with
  | error e => exact .inr ⟨_, rfl⟩
  | ok plan =>
    simp only
    cases hjob : Job.make options plan with
    | error e => exact .inr ⟨_, rfl⟩
    | ok job =>
      simp only
      cases hsite : readConfig (m := Id) (pure <| files ·) job.config with
      | error e =>
        rw [Job.run_eq_error hsite]
        exact .inr ⟨_, rfl⟩
      | ok site => exact .inl ⟨job, site, h, ⟨plan, hplan, hjob⟩, hsite⟩

/-- If the arguments are read, the exit code says whether anything has been evaluated. -/
theorem exists_loads_iff (clock : Nat → Moment) (h : readers.options arguments = .ok options) :
    (∃ job site, readers.Loads files arguments options job site) ↔
      (readers.answer files clock arguments).exitCode ≠ 2 := by
  constructor
  · rintro ⟨job, site, hloads⟩
    rw [answer_of_loads hloads, Answer.ofReports]
    dsimp only
    split <;> decide
  · intro hcode
    refine (loads_or_error clock h).resolve_right ?_
    rintro ⟨e, he⟩
    exact hcode (by rw [he]; rfl)

end Readers

end UrlRewrite
