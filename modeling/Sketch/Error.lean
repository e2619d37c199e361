import Sketch.Keyword
import Sketch.Text.Quoted

/-! What can go wrong in a script. A cause says what happened; its diagnosis is the kind and the
message that a host sees; a located error also knows the line that was running. -/
namespace Sketch

inductive Kind where
  | duplicateDefinition | undefinedVariable | undefinedMethod | arityMismatch
  | malformedCondition | unknownOperator | invalidOperand | unknownCommand | malformedCommand
  | mismatchedBlock | nestedBlock | recursion
  deriving Repr, DecidableEq

namespace Kind

def name : Kind → String
  | duplicateDefinition => "DuplicateDefinition"
  | undefinedVariable => "UndefinedVariable"
  | undefinedMethod => "UndefinedMethod"
  | arityMismatch => "ArityMismatch"
  | malformedCondition => "MalformedCondition"
  | unknownOperator => "UnknownOperator"
  | invalidOperand => "InvalidOperand"
  | unknownCommand => "UnknownCommand"
  | malformedCommand => "MalformedCommand"
  | mismatchedBlock => "MismatchedBlock"
  | nestedBlock => "NestedBlockNotSupported"
  | recursion => "RecursionNotSupported"

def all : List Kind :=
  [duplicateDefinition, undefinedVariable, undefinedMethod, arityMismatch, malformedCondition,
   unknownOperator, invalidOperand, unknownCommand, malformedCommand, mismatchedBlock, nestedBlock,
   recursion]

def ofName? (name : String) : Option Kind :=
  all.find? (·.name == name)

end Kind

structure Diagnosis where
  kind : Kind
  message : String
  deriving Repr, DecidableEq

inductive Cause where
  | unknownCommand (word : String)
  | cannotParse (text : String) (column : Nat)
  | unknownColor (name : String)
  | keywordAsMethod (name : String)
  | repeatedParameter (method : String)
  | malformedCondition (text : String)
  | unknownOperator (operator : String)
  | invalidOperand (token : String)
  | undefinedVariable (name : String)
  | duplicateVariable (name : String)
  | undefinedMethod (name : String)
  | duplicateMethod (name : String)
  | arityMismatch (name : String) (expected given : Nat)
  /-- A call of a running method; `path` holds the running calls, outermost first, and this one. -/
  | recursion (name : String) (path : List String)
  | strayEndif
  | unclosedIf
  | strayCloser (kind : BlockKind)
  | openedInside (kind outer : BlockKind)
  | nested (kind : BlockKind)
  deriving Repr, DecidableEq

namespace Cause

def kind : Cause → Kind
  | unknownCommand _ => .unknownCommand
  | cannotParse .. | unknownColor _ | keywordAsMethod _ | repeatedParameter _ => .malformedCommand
  | malformedCondition _ => .malformedCondition
  | unknownOperator _ => .unknownOperator
  | invalidOperand _ => .invalidOperand
  | undefinedVariable _ => .undefinedVariable
  | duplicateVariable _ | duplicateMethod _ => .duplicateDefinition
  | undefinedMethod _ => .undefinedMethod
  | arityMismatch .. => .arityMismatch
  | recursion .. => .recursion
  | strayEndif | unclosedIf | strayCloser _ => .mismatchedBlock
  | openedInside .. | nested _ => .nestedBlock

def message : Cause → String
  | unknownCommand word => "Unknown command: " ++ Text.quote word
  | cannotParse text column => s!"Cannot parse '{text}' (column {column})."
  | unknownColor name => s!"Unknown color '{name}'."
  | keywordAsMethod name => s!"'{name}' is a command keyword and cannot name a method."
  | repeatedParameter method => s!"Method '{method}' declares the same parameter twice."
  | malformedCondition text => s!"Invalid condition: '{text}'"
  | unknownOperator operator => s!"Invalid comparison operator: '{operator}'"
  | invalidOperand token => s!"Unable to parse '{token}' as a number or variable."
  | undefinedVariable name => s!"Variable '{name}' is not defined."
  | duplicateVariable name => s!"Variable '{name}' is already defined."
  | undefinedMethod name => s!"Method '{name}' is not defined."
  | duplicateMethod name => s!"Method '{name}' is already defined."
  | arityMismatch name expected given =>
    s!"Method '{name}' takes {expected} argument(s) but {given} were given."
  | recursion name path =>
    s!"Method '{name}' cannot be called from itself (" ++ " -> ".intercalate path ++ ")."
  | strayEndif => "Mismatched endif statement."
  | unclosedIf => "Mismatched 'if' and 'endif' statements."
  | strayCloser kind => s!"Mismatched {kind.closer.word} statement."
  | openedInside kind outer =>
    s!"Cannot open a {kind.opener.word} while a {outer.opener.word} is being defined."
  | nested kind => s!"Nested {kind.opener.word} definitions are not supported."

def diagnosis (cause : Cause) : Diagnosis :=
  ⟨cause.kind, cause.message⟩

end Cause

/-- A cause with the line that was running and its number, once they are known. -/
structure Located (ε : Type) where
  cause : ε
  line : Option String := none
  number : Option Int := none
  deriving Repr, DecidableEq

namespace Located

/-- Names the line, unless one is named already: the innermost line names itself first. -/
def attach {ε : Type} (error : Located ε) (line : String) (number : Option Int) : Located ε :=
  match error.line with
  | none => { error with line := some line, number := number }
  | some _ => error

def map {α β : Type} (f : α → β) (error : Located α) : Located β :=
  ⟨f error.cause, error.line, error.number⟩

def text (error : Located Diagnosis) : String :=
  let report := s!"{error.cause.kind.name}: {error.cause.message}"
  match error.line, error.number with
  | none, _ => report
  | some line, none => s!"{report} (line: '{line}')"
  | some line, some number => s!"{report} (line {number}: '{line}')"

end Located

abbrev ScriptError := Located Cause

def ScriptError.report (error : ScriptError) : Located Diagnosis :=
  error.map Cause.diagnosis

def ScriptError.text (error : ScriptError) : String :=
  error.report.text

end Sketch
