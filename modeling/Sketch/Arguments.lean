import Sketch.Text.Digit

/-! Arguments of the command line: `run SCRIPT` and `check SCRIPT` with their flags. Flags may stand
before or after the script, long flags may be shortened as long as only one fits, short ones may be
run together, and after `--` everything is taken as it is. -/
namespace Sketch

inductive Flag where
  | help | headless | strictEndif | verbose | all
  deriving Repr, DecidableEq

/-- How arguments fail: a call for help, or a mistake. -/
inductive Usage where
  | help | mistake
  deriving Repr, DecidableEq

def Usage.status : Usage → Nat
  | help => 0
  | mistake => 2

inductive Invocation where
  | run (script : String) (headless strict verbose : Bool)
  | check (script : String) (all : Bool)
  deriving Repr, DecidableEq

namespace Arguments

abbrev Flags := List (String × Flag)

def commonFlags : Flags :=
  [("-h", .help), ("--help", .help)]

def runFlags : Flags :=
  commonFlags ++ [("--headless", .headless), ("--strict-endif", .strictEndif), ("-v", .verbose),
    ("--verbose", .verbose)]

def checkFlags : Flags :=
  commonFlags ++ [("--all", .all)]

inductive Word where
  | plain (text : String)
  | separator
  /-- A flag, with what is written right after it or after an equals sign. -/
  | flag (spelling : String) (flag : Flag) (attached : Option (List Char))
  | unknown
  deriving Repr, DecidableEq

def beforeEquals (text : List Char) : List Char :=
  text.takeWhile (· != '=')

def equalsValue? (text : List Char) : Option (List Char) :=
  match text.dropWhile (· != '=') with
  | [] => none
  | _ :: value => some value

/-- The flags that a word can be short for. -/
def candidates (flags : Flags) (text : List Char) : List Word :=
  if text.take 2 = ['-', '-'] then
    flags.filterMap fun (spelling, flag) =>
      if (beforeEquals text).isPrefixOf spelling.toList then
        some (.flag spelling flag (equalsValue? text))
      else none
  else
    flags.filterMap fun (spelling, flag) =>
      if spelling.toList = text.take 2 then some (.flag spelling flag (some (text.drop 2)))
      else if text.isPrefixOf spelling.toList then some (.flag spelling flag none)
      else none

def dropLineFeed (text : List Char) : List Char :=
  if text.getLast? = some '\n' then text.dropLast else text

/-- A minus sign and digits, with a point at most before the last of them; a line feed may follow. -/
def isNegativeNumber : List Char → Bool
  | '-' :: text =>
    let number := dropLineFeed text
    match number.dropWhile Text.isDigit with
    | [] => !number.isEmpty
    | '.' :: decimals => !decimals.isEmpty && decimals.all Text.isDigit
    | _ => false
  | _ => false

def classify (flags : Flags) (word : String) : Except Usage Word :=
  let text := word.toList
  if text.head? ≠ some '-' then .ok (.plain word)
  else match flags.lookup word with
    | some flag => .ok (.flag word flag none)
    | none =>
      if text.length = 1 then .ok (.plain word)
      else match flags.lookup (String.ofList (beforeEquals text)), equalsValue? text with
        | some flag, some attached =>
          .ok (.flag (String.ofList (beforeEquals text)) flag (some attached))
        | _, _ =>
          match candidates flags text with
          | [found] => .ok found
          | _ :: _ :: _ => .error .mistake
          | [] =>
            if isNegativeNumber text || text.contains ' ' then .ok (.plain word) else .ok .unknown

def classifyAll (flags : Flags) : List String → Except Usage (List Word)
  | [] => .ok []
  | word :: words =>
    if word = "--" then .ok (.separator :: words.map .plain)
    else do
      let first ← classify flags word
      let rest ← classifyAll flags words
      .ok (first :: rest)

/-- Short flags written one after the other: every character must be one. -/
def shortFlags (flags : Flags) : List Char → Except Usage (List Flag)
  | [] => .ok []
  | c :: rest =>
    match flags.lookup (String.ofList ['-', c]) with
    | none => .error .mistake
    | some flag => do
      let more ← shortFlags flags rest
      .ok (flag :: more)

/-- All the flags of one word. No flag takes a value, so only a short one may have something
attached to it, and that must be further short flags. -/
def spellOut (flags : Flags) (spelling : String) (flag : Flag) :
    Option (List Char) → Except Usage (List Flag)
  | none => .ok [flag]
  | some attached =>
    if attached.isEmpty || spelling.length ≠ 2 then .error .mistake
    else do
      let more ← shortFlags flags attached
      .ok (flag :: more)

structure Found where
  script : Option String := none
  flags : List Flag := []
  leftOver : Bool := false
  deriving Repr, DecidableEq

def Found.add (found : Found) (more : List Flag) : Except Usage Found :=
  if more.contains .help then .error .help
  else .ok { found with flags := found.flags ++ more }

/-- Goes through the words of a command in order. A script is taken with the separator before or
after it; a call for help ends everything at once. -/
def gather (flags : Flags) (found : Found) : List Word → Except Usage Found
  | [] => .ok found
  | .flag spelling flag attached :: words => do
    let more ← spellOut flags spelling flag attached
    let found ← found.add more
    gather flags found words
  | .unknown :: words => gather flags { found with leftOver := true } words
  | .plain text :: .separator :: words =>
    if found.script.isNone then gather flags { found with script := some text } words
    else gather flags { found with leftOver := true } words
  | .plain text :: words =>
    if found.script.isNone then gather flags { found with script := some text } words
    else gather flags { found with leftOver := true } words
  | .separator :: words =>
    match words with
    | .plain _ :: _ => gather flags found words
    | _ => gather flags { found with leftOver := true } words

def gatherAll (flags : Flags) (words : List String) : Except Usage Found := do
  let words ← classifyAll flags words
  gather flags {} words

def parseCommand (name : String) (words : List String) : Except Usage Invocation :=
  if name = "run" then do
    let found ← gatherAll runFlags words
    match found.script, found.leftOver with
    | some script, false =>
      .ok (.run script (found.flags.contains .headless) (found.flags.contains .strictEndif)
        (found.flags.contains .verbose))
    | _, _ => .error .mistake
  else if name = "check" then do
    let found ← gatherAll checkFlags words
    match found.script, found.leftOver with
    | some script, false => .ok (.check script (found.flags.contains .all))
    | _, _ => .error .mistake
  else .error .mistake

/-- Finds the name of a command. A word before it that is no flag is a mistake, but only once no
call for help comes. -/
def parseFrom (leftOver : Bool) : List String → Except Usage Invocation
  | [] => .error .mistake
  | word :: words =>
    if word = "--" then .error .mistake
    else do
      match ← classify commonFlags word with
      | .plain name =>
        let invocation ← parseCommand name words
        if leftOver then .error .mistake else .ok invocation
      | .flag spelling flag attached =>
        let more ← spellOut commonFlags spelling flag attached
        let _ ← Found.add {} more
        parseFrom leftOver words
      | _ => parseFrom true words

def parse (words : List String) : Except Usage Invocation :=
  parseFrom false words

end Arguments

end Sketch
