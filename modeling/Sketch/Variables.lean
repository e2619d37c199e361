import Sketch.Condition
import Sketch.Numeral

/-! Variables in the order in which they came to be. Changing a variable keeps its place; one that
was removed and comes back goes last. -/
namespace Sketch

structure Variables where
  entries : List (String × Float) := []
  deriving Repr

/-- The values that a binding hides, in the order of its names; none where a name was free. -/
abbrev Hidden := List (String × Option Float)

namespace Variables

def valueIn (name : String) : List (String × Float) → Option Float
  | [] => none
  | (key, value) :: rest => if key = name then some value else valueIn name rest

def get? (vars : Variables) (name : String) : Option Float :=
  valueIn name vars.entries

def contains (vars : Variables) (name : String) : Bool :=
  (vars.get? name).isSome

def names (vars : Variables) : List String :=
  vars.entries.map (·.1)

/-- Gives a name a value: in place if it has one, else at the end. -/
def put (vars : Variables) (name : String) (value : Float) : Variables :=
  if vars.contains name then
    ⟨vars.entries.map fun entry => if entry.1 = name then (name, value) else entry⟩
  else ⟨vars.entries ++ [(name, value)]⟩

def erase (vars : Variables) (name : String) : Variables :=
  ⟨vars.entries.filter (·.1 != name)⟩

private theorem valueIn_append (name : String) (entries more : List (String × Float)) :
    valueIn name (entries ++ more) = (valueIn name entries).or (valueIn name more) := by
  induction entries with
  | nil => rfl
  | cons entry rest ih =>
    simp only [List.cons_append, valueIn]
    split <;> simp [ih]

private theorem valueIn_replace (entries : List (String × Float)) (name key : String) (value : Float) :
    valueIn key (entries.map fun entry => if entry.1 = name then (name, value) else entry) =
      if key = name then (valueIn name entries).map fun _ => value else valueIn key entries := by
  induction entries with
  | nil => simp [valueIn]
  | cons entry rest ih => grind [valueIn]

theorem get?_put (vars : Variables) (name key : String) (value : Float) :
    (vars.put name value).get? key = if key = name then some value else vars.get? key := by
  by_cases present : vars.contains name
  · obtain ⟨old, found⟩ := Option.isSome_iff_exists.1 present
    simp only [get?] at found
    simp [put, present, get?, valueIn_replace, found]
  · have missing : valueIn name vars.entries = none := by simpa [contains, get?] using present
    simp only [put, present, get?]
    grind [valueIn, valueIn_append]

theorem get?_erase (vars : Variables) (name key : String) :
    (vars.erase name).get? key = if key = name then none else vars.get? key := by
  unfold erase get?
  induction vars.entries with
  | nil => simp [valueIn]
  | cons entry rest ih => grind [valueIn]

def get (vars : Variables) (name : String) : Except Cause Float :=
  match vars.get? name with
  | some value => .ok value
  | none => .error (.undefinedVariable name)

def define (vars : Variables) (name : String) (value : Float) : Except Cause Variables :=
  if vars.contains name then .error (.duplicateVariable name) else .ok (vars.put name value)

def assign (vars : Variables) (name : String) (value : Float) : Except Cause Variables :=
  if vars.contains name then .ok (vars.put name value) else .error (.undefinedVariable name)

/-- The value of an operand: that of a variable if it names one, else that of a numeral. -/
def resolve (vars : Variables) (token : String) : Except Cause Float :=
  match vars.get? token with
  | some value => .ok value
  | none =>
    match Numeral.ofText? token with
    | some numeral => .ok numeral.value
    | none => .error (.invalidOperand token)

/-- Values of names, the last one counting where a name comes twice. -/
def ofPairs (pairs : List (String × Float)) : Variables :=
  pairs.foldl (fun vars pair => vars.put pair.1 pair.2) {}

def hide (vars bindings : Variables) : Hidden :=
  bindings.names.map fun name => (name, vars.get? name)

def bind (vars bindings : Variables) : Variables :=
  bindings.entries.foldl (fun vars entry => vars.put entry.1 entry.2) vars

/-- Undoes a binding: a hidden value comes back, a name that was free is free again. -/
def restore (vars : Variables) (hidden : Hidden) : Variables :=
  hidden.foldl (fun vars entry => match entry.2 with
    | some value => vars.put entry.1 value
    | none => vars.erase entry.1) vars

end Variables

/-- Both operands are resolved, the left one first, and then compared. -/
def Condition.evaluate (condition : Condition) (vars : Variables) : Except Cause Bool := do
  let left ← vars.resolve condition.left
  let right ← vars.resolve condition.right
  .ok (condition.comparison.holds left right)

end Sketch
