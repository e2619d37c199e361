/-! The log of a session: short messages, each with how much it matters. -/
namespace Sketch

inductive Level where
  | debug | info | warning
  deriving Repr, DecidableEq

namespace Level

def name : Level → String
  | debug => "DEBUG"
  | info => "INFO"
  | warning => "WARNING"

def all : List Level := [debug, info, warning]

def ofName? (name : String) : Option Level :=
  all.find? (·.name == name)

def rank : Level → Nat
  | debug => 0
  | info => 1
  | warning => 2

end Level

structure Entry where
  level : Level
  message : String
  deriving Repr, DecidableEq

def Entry.text (entry : Entry) : String :=
  entry.level.name ++ " " ++ entry.message

def shownLog (least : Level) (log : Array Entry) : List Entry :=
  log.toList.filter fun entry => least.rank ≤ entry.level.rank

end Sketch
