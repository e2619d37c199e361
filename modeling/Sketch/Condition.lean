import Sketch.Error
import Sketch.Text.Lines

/-! Conditions of `if`: two operands with a comparison between them, set apart by single spaces. -/
namespace Sketch

inductive Comparison where
  | greater | greaterEqual | less | lessEqual | equal | notEqual
  deriving Repr, DecidableEq

namespace Comparison

def symbol : Comparison → String
  | greater => ">"
  | greaterEqual => ">="
  | less => "<"
  | lessEqual => "<="
  | equal => "=="
  | notEqual => "!="

def all : List Comparison :=
  [greater, greaterEqual, less, lessEqual, equal, notEqual]

def ofSymbol? (symbol : String) : Option Comparison :=
  all.find? (·.symbol == symbol)

/-- Comparison of doubles: every one but `notEqual` is false of a number that is not one. -/
def holds : Comparison → Float → Float → Bool
  | greater, left, right => right < left
  | greaterEqual, left, right => right ≤ left
  | less, left, right => left < right
  | lessEqual, left, right => left ≤ right
  | equal, left, right => left == right
  | notEqual, left, right => left != right

end Comparison

structure Condition where
  left : String
  comparison : Comparison
  right : String
  deriving Repr, DecidableEq

namespace Condition

def text (condition : Condition) : String :=
  condition.left ++ " " ++ condition.comparison.symbol ++ " " ++ condition.right

/-- Reads a condition; two spaces in a row have an empty part between them. -/
def parse (text : String) : Except Cause Condition :=
  match Text.splitAt ' ' text.toList with
  | [left, symbol, right] =>
    match Comparison.ofSymbol? (String.ofList symbol) with
    | some comparison => .ok ⟨String.ofList left, comparison, String.ofList right⟩
    | none => .error (.unknownOperator (String.ofList symbol))
  | _ => .error (.malformedCondition text)

end Condition

end Sketch
