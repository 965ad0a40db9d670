import UrlRewrite.CommandLine.Options
import UrlRewrite.Datum.Toml
import UrlRewrite.Datum.Yaml
import UrlRewrite.FileTree
import UrlRewrite.Plan.Reader
import UrlRewrite.Report
import UrlRewrite.Source.Continuation
import UrlRewrite.Source.Include

/-!
# Answers to command lines

What the program makes of its arguments: it takes a plan, or a single request, evaluates the
requests on a configuration and reports on each of them. The exit code is 0 if all reports pass, 1
if one does not, and 2 if nothing could be evaluated.

Files are read, and the time is taken, by functions that work in any monad, so that answers can be
computed for a file tree (`FileTree.answer`) as well as for the files of a system. The clock is
asked for each request anew.

Arguments and the notations of plans are read by libraries of others, and so `answer` takes what
they read as a parameter (`Readers`). `Readers.standard` knows the arguments of the program, and
plans in the part of both notations that `Datum.ofToml?` and `Datum.ofYaml?` read.
-/

namespace UrlRewrite

/-- Why nothing could be evaluated. -/
inductive CommandError where
  | planFile (path : Text) (cause : FileError)
  | plan (cause : PlanError)
  | noConfig
  | nothingToEvaluate
  | configFile (path : Text) (cause : FileError)
  | source (cause : SourceError)
  | config (cause : ConfigError)
deriving DecidableEq, Repr

namespace CommandError

def message : CommandError → Text
  | planFile path cause =>
    "failed to read configuration ".toList ++ Text.quote path ++ ": ".toList ++ cause.message
  | plan cause => cause.message.toList
  | noConfig => "no apache configuration given, pass --config or a test plan".toList
  | nothingToEvaluate => "nothing to evaluate, pass --uri or list requests in the plan".toList
  | configFile path cause => "failed to read ".toList ++ path ++ ": ".toList ++ cause.message
  | source cause => cause.message.toList
  | config cause => cause.message.toList

end CommandError

/-- What the program gives out, and its exit code. Lines of its log, which it writes behind the
errors if that is wanted, are no part of the answer. -/
structure Answer where
  exitCode : Nat
  output : Text := []
  errors : Text := []
deriving DecidableEq, Repr

namespace Answer

/-- The answer that gives the reason why nothing is evaluated. -/
def ofMessage (s : Text) : Answer := { exitCode := 2, errors := "error: ".toList ++ s ++ ['\n'] }

/-- The answer if nothing could be evaluated. -/
def ofError (e : CommandError) : Answer := ofMessage e.message

/-- Reports as lines of text, with the counts at the end. -/
def reportText (reports : List Report) (passed failed : Nat) : Text :=
  reports.flatMap (fun r => r.toText ++ ['\n']) ++ '\n' :: Text.ofNat passed ++
    " passed, ".toList ++
    Text.ofNat failed ++ " failed\n".toList

/-- Reports as a table of data, with the counts and the path of the configuration. -/
def reportDatum (config : Text) (reports : List Report) (passed failed : Nat) : Datum :=
  .ofFields [("config", .text config), ("failed", .integer failed), ("passed", .integer passed),
    ("results", .list (reports.map (·.toDatum)))]

/-- The answer that gives reports. -/
def ofReports (json : Bool) (config : Text) (reports : List Report) : Answer :=
  let failed := (reports.filter (!·.passed)).length
  let passed := (reports.filter (·.passed)).length
  { exitCode := if failed = 0 then 0 else 1
    output :=
      if json then (reportDatum config reports passed failed).toJson ++ ['\n']
      else reportText reports passed failed }

end Answer

/-- A plan whose gaps the options have filled, and the path of the configuration. -/
structure Job where
  config : Text
  plan : Plan

namespace Job

/-- The single request that options describe. -/
def requestCase? (o : Options) : Option RequestCase :=
  o.uri.map fun uri => {
    uri
    method := o.method.getD "GET".toList
    host := o.host.getD "localhost".toList
    headers := Plan.sortRows o.headers }

/-- What is to be done with a plan and options. The options count before the plan, whose
configuration is seen from the directory of the plan. -/
def make (o : Options) (p : Plan) : Except CommandError Job :=
  let directory := ((o.plan.bind Path.parent?).getD [])
  match o.config.or (p.config.map (Path.join directory)) with
  | none => .error .noConfig
  | some config =>
    let server := { p.server with ip := o.ip.getD p.server.ip, port := o.port.getD p.server.port }
    let cases := (requestCase? o).elim p.cases ([·])
    if cases.isEmpty then .error .nothingToEvaluate else .ok ⟨config, { p with server, cases }⟩

end Job

/-- What libraries of others read for the program. -/
structure Readers where
  /-- Reads arguments, or answers them in place of the program. -/
  options : List Text → Except Answer Options
  /-- Reads a plan in TOML notation. -/
  toml : Text → Except PlanError Plan
  /-- Reads a plan in YAML notation. -/
  yaml : Text → Except PlanError Plan

namespace Readers

/-- Reads a plan in the notation that the extension of its path names. -/
def plan (readers : Readers) (path : Text) : Text → Except PlanError Plan :=
  if Path.extension? path = some "toml".toList then readers.toml else readers.yaml

/-- Arguments as the program takes them, and plans in a part of both notations. -/
def standard : Readers where
  options arguments := (Options.read arguments).mapError fun e => .ofMessage e.message.toList
  toml := Plan.readBy Datum.ofToml?
  yaml := Plan.readBy Datum.ofYaml?

end Readers

section Reading

variable {m : Type → Type} [Monad m] (readers : Readers)
    (readFile : Text → m (Except FileError Text))
  (clock : Nat → m Moment)

/-- Reads the plan that options name; without one, the plan is empty. -/
def readPlan (o : Options) : m (Except CommandError Plan) :=
  match o.plan with
  | none => pure (.ok {})
  | some path => do
    match ← readFile path with
    | .error e => return .error (.planFile path e)
    | .ok s => return (readers.plan path s).mapError CommandError.plan

/-- Reads a configuration, with its includes put in place and its continued lines joined. The paths
of includes are seen from the directory of the configuration. -/
def readConfig (path : Text) : m (Except CommandError Site) := do
  match ← readFile path with
  | .error e => return .error (.configFile path e)
  | .ok s =>
    let directory := (Path.parent? path).getD []
    let resolve (included : Text) : m (Option Text) :=
      Except.toOption <$> readFile (Path.join directory included)
    match (← Source.expandIncludes resolve s).bind Source.joinContinued with
    | .error e => return .error (.source e)
    | .ok s => return (Site.read s).mapError CommandError.config

/-- Evaluates the requests of a job on its configuration, each at the moment that the clock then
shows, and reports on them. -/
def Job.run (json : Bool) (job : Job) : m (Except CommandError Answer) := do
  match ← readConfig readFile job.config with
  | .error e => return .error e
  | .ok site =>
    let reports ← job.plan.cases.zipIdx.mapM fun (c, i) => do
      return (job.plan.equip site).report (← clock i) c
    return .ok (.ofReports json job.config reports)

/-- What the program answers to its arguments. -/
def answer (arguments : List Text) : m Answer := do
  match readers.options arguments with
  | .error reply => return reply
  | .ok options =>
    match ← readPlan readers readFile options with
    | .error e => return .ofError e
    | .ok plan =>
      match Job.make options plan with
      | .error e => return .ofError e
      | .ok job =>
        match ← job.run readFile clock options.json with
        | .error e => return .ofError e
        | .ok reply => return reply

end Reading

/-- What the program answers where files are given by a function, and by another one the moment at
which each request of a plan arrives. -/
def Readers.answer (readers : Readers) (files : Text → Except FileError Text) (clock : Nat → Moment)
    (arguments : List Text) : Answer :=
  Id.run (UrlRewrite.answer readers (pure <| files ·) (pure <| clock ·) arguments)

/-- What the program answers where the files are those of a tree and all requests arrive at one
moment. -/
def FileTree.answer (t : FileTree) (now : Moment) (arguments : List Text) : Answer :=
  Readers.standard.answer t.read (fun _ => now) arguments

end UrlRewrite
