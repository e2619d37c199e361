import Sketch.Arguments
import Sketch.Canvas.Plotter
import Sketch.Canvas.Recording
import Sketch.FileTree
import Sketch.Session
import Sketch.Text.Quoted

/-! The command line: runs a script on a plotter, or on a recording canvas whose operations are
listed, or checks it; the exit status says how that ended. -/
namespace Sketch.CommandLine

structure Report where
  status : Nat
  output : String := ""
  complaints : String := ""
  log : List Entry := []
  calls : List Instruction := []

inductive Crash where
  | canvas (fault : Fault)
  | notText
  | tooDeep
  deriving Repr, DecidableEq

inductive Outcome where
  | usage (status : Nat)
  | finished (report : Report)
  | crashed (crash : Crash)

def unlines (lines : List String) : String :=
  String.join (lines.map (· ++ "\n"))

def stopComplaint (error : Located Diagnosis) : String :=
  let number := error.number.elim "" toString
  unlines
    [s!"{error.cause.kind.name} at line {number}: {error.cause.message}",
     "  " ++ error.line.getD ""]

def issueComplaint (issue : Issue) : String :=
  unlines
    [s!"line {issue.line.number}: {issue.cause.kind.name}: {issue.cause.message}",
     "  " ++ issue.line.text]

def logLevel (verbose : Bool) : Level :=
  if verbose then .debug else .warning

def runHeadless (program : String) (strict verbose : Bool) : Outcome :=
  let ran := runScript ({} : Recording) strict program
  let log := shownLog (logLevel verbose) ran.session.log
  let output := unlines (ran.session.canvas.operations.map Primitive.listed)
  match ran with
  | .done _ => .finished { status := 0, output, log }
  | .stopped (.script error) _ =>
    .finished { status := 1, output, complaints := stopComplaint error.report, log }
  | .stopped (.canvas fault) _ => .crashed (.canvas fault)
  | .stopped .tooDeep _ => .crashed .tooDeep

/-- Runs a script on the plotter. `closed` says that the user will close the screen. -/
def runPlotter (program : String) (strict verbose closed : Bool) : Outcome :=
  let level := logLevel verbose
  match runScript ({} : Plotter) strict program with
  | .done s =>
    let (ending, plotter) := s.canvas.hold closed
    let s := if ending = .closedByUser then s.note .debug ending.message else s
    .finished
      { status := 0, output := unlines [ending.message], log := shownLog level s.log
        calls := plotter.calls }
  | .stopped (.script error) s =>
    .finished
      { status := 1, complaints := stopComplaint error.report, log := shownLog level s.log
        calls := s.canvas.calls }
  | .stopped (.canvas fault) _ => .crashed (.canvas fault)
  | .stopped .tooDeep _ => .crashed .tooDeep

def check (program : String) (all : Bool) : Outcome :=
  match checkProgram program all with
  | [] => .finished { status := 0, output := unlines [checkMessage []] }
  | issues => .finished { status := 1, complaints := String.join (issues.map issueComplaint) }

def scriptPath : Invocation → String
  | .run script .. => (Path.parse script).tidy
  | .check script _ => (Path.parse script).tidy

def unreadable (path : String) (error : FileError) : Report where
  status := 2
  complaints := unlines
    [s!"Cannot read {path}: [Errno {error.code}] {error.message}: " ++ Text.quote path]

def carryOut (invocation : Invocation) (loaded : Except LoadError String) (closed : Bool) : Outcome :=
  match loaded with
  | .error (.file error) => .finished (unreadable (scriptPath invocation) error)
  | .error .notText => .crashed .notText
  | .ok program =>
    match invocation with
    | .run _ headless strict verbose =>
      if headless then runHeadless program strict verbose
      else runPlotter program strict verbose closed
    | .check _ all => check program all

/-- The whole command line over a way to load scripts. -/
def run (load : String → Except LoadError String) (closed : Bool) (args : List String) : Outcome :=
  match Arguments.parse args with
  | .error usage => .usage usage.status
  | .ok invocation => carryOut invocation (load (scriptPath invocation)) closed

end Sketch.CommandLine
