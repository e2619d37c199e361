import Sketch.Text.Lines
import Sketch.Variables

/-! What a running script can name: variables, methods in the order of their definition, and the
calls that are running now. A call gives its parameters values for as long as it runs. -/
namespace Sketch

structure Method where
  name : String
  params : List String
  body : List SourceLine
  deriving Repr, DecidableEq

structure Scope where
  vars : Variables := {}
  methods : List Method := []
  /-- The names of the running methods, innermost first. -/
  active : List String := []
  deriving Repr

namespace Scope

def method? (scope : Scope) (name : String) : Option Method :=
  scope.methods.find? (·.name == name)

def lookup (scope : Scope) (name : String) : Except Cause Method :=
  match scope.method? name with
  | some method => .ok method
  | none => .error (.undefinedMethod name)

def define (scope : Scope) (method : Method) : Except Cause Scope :=
  if (scope.method? method.name).isSome then .error (.duplicateMethod method.name)
  else .ok { scope with methods := scope.methods ++ [method] }

/-- A call that has begun: its method, the values its parameters hide, and the scope of its body. -/
structure Entered where
  method : Method
  hidden : Hidden
  scope : Scope

/-- Begins a call. The method must be there, take so many arguments and not be running. -/
def enter (scope : Scope) (name : String) (args : List Float) : Except Cause Entered := do
  let method ← scope.lookup name
  if args.length ≠ method.params.length then
    .error (.arityMismatch name method.params.length args.length)
  else if scope.active.contains name then
    .error (.recursion name (scope.active.reverse ++ [name]))
  else
    let bindings := Variables.ofPairs (method.params.zip args)
    .ok {
      method
      hidden := scope.vars.hide bindings
      scope := { scope with
        vars := scope.vars.bind bindings
        active := name :: scope.active } }

def leave (scope : Scope) (hidden : Hidden) : Scope :=
  { scope with vars := scope.vars.restore hidden, active := scope.active.tail }

end Scope

end Sketch
