import Sketch.Color
import Sketch.Command
import Sketch.Text.Blank
import Sketch.Token

/-! The line language: which texts spell which commands. The rules say what a text is made of and
know nothing of the reader, its cursor or the order in which it tries tokens. -/
namespace Sketch
open Text

def IsGap (text : List Char) : Prop :=
  text ≠ [] ∧ ∀ c ∈ text, c = ' ' ∨ c = '\t'

def IsName (text : List Char) : Prop :=
  ∃ first rest, text = first :: rest ∧ isNameStart first ∧ ∀ c ∈ rest, isNameChar c

def IsDigits (text : List Char) : Prop :=
  text ≠ [] ∧ ∀ c ∈ text, isDigit c

def IsSign (text : List Char) : Prop :=
  text = [] ∨ text = ['+'] ∨ text = ['-']

inductive IsMantissa : List Char → Prop
  | whole {digits : List Char} (written : IsDigits digits) : IsMantissa digits
  | pointed {digits fraction : List Char} (written : IsDigits digits)
      (more : ∀ c ∈ fraction, isDigit c) : IsMantissa (digits ++ '.' :: fraction)
  | fraction {digits : List Char} (written : IsDigits digits) : IsMantissa ('.' :: digits)

inductive IsExponent : List Char → Prop
  | none : IsExponent []
  | some {mark : Char} {sign digits : List Char} (marked : mark = 'e' ∨ mark = 'E')
      (signed : IsSign sign) (written : IsDigits digits) : IsExponent (mark :: (sign ++ digits))

def IsNumber (text : List Char) : Prop :=
  ∃ sign mantissa exponent, text = sign ++ (mantissa ++ exponent) ∧
    IsSign sign ∧ IsMantissa mantissa ∧ IsExponent exponent

def IsOperand (text : List Char) : Prop :=
  IsNumber text ∨ IsName text

/-- The word of a keyword with each letter in either case. -/
def IsWord (keyword : Keyword) (text : List Char) : Prop :=
  text.map Char.toLower = keyword.word.toList

instance (keyword : Keyword) (text : List Char) : Decidable (IsWord keyword text) :=
  inferInstanceAs (Decidable (_ = _))

def IsFreeName (text : List Char) : Prop :=
  IsName text ∧ ∀ keyword, ¬ IsWord keyword text

inductive Spaced : List String → List Char → Prop
  | nil : Spaced [] []
  | cons {gap : List Char} {part : String} {parts : List String} {rest : List Char}
      (gapped : IsGap gap) (more : Spaced parts rest) :
      Spaced (part :: parts) (gap ++ (part.toList ++ rest))

/-- The arguments of a call after the first one, each after a comma and perhaps a gap, and the
closing parenthesis. -/
inductive Continued : List String → List Char → Prop
  | close : Continued [] [')']
  | more {gap : List Char} {arg : String} {args : List String} {rest : List Char}
      (gapped : gap = [] ∨ IsGap gap) (later : Continued args rest) :
      Continued (arg :: args) (',' :: (gap ++ (arg.toList ++ rest)))

inductive Bracketed : List String → List Char → Prop
  | none : Bracketed [] ['(', ')']
  | some {arg : String} {args : List String} {rest : List Char} (later : Continued args rest) :
      Bracketed (arg :: args) ('(' :: (arg.toList ++ rest))

namespace Command

/-- The operands of a command that is written as its keyword and nothing but operands. -/
def operands? : Command → Option (List String)
  | moveTo x y | drawTo x y | rectangle x y => some [x, y]
  | circle x | lineWidth x | rotate x => some [x]
  | triangle x₁ y₁ x₂ y₂ x₃ y₃ => some [x₁, y₁, x₂, y₂, x₃, y₃]
  | reset | clear | endCondition | loop | endLoop | endMethod => some []
  | color _ | fill _ | text _ | declare .. | assign .. | condition _ | method .. | call .. => none

end Command

/-- The text, without blanks at its ends, is a way to write the command. -/
inductive Spells : Command → List Char → Prop
  | operands {command : Command} {keyword : Keyword} {operands : List String} {word rest : List Char}
      (begun : command.keyword? = some keyword) (taken : command.operands? = some operands)
      (spelled : IsWord keyword word) (each : ∀ operand ∈ operands, IsOperand operand.toList)
      (spaced : Spaced operands rest) : Spells command (word ++ rest)
  | color {name : String} {word rest : List Char} (spelled : IsWord .color word)
      (named : IsName name.toList) (known : lower name ∈ knownColors) (spaced : Spaced [name] rest) :
      Spells (.color (lower name)) (word ++ rest)
  | fill {switch : String} {enabled : Bool} {word rest : List Char} (spelled : IsWord .fill word)
      (switched : switch.toList.map Char.toLower = if enabled then ['o', 'n'] else ['o', 'f', 'f'])
      (spaced : Spaced [switch] rest) : Spells (.fill enabled) (word ++ rest)
  | noText {word : List Char} (spelled : IsWord .text word) : Spells (.text "") word
  | text {word gap content : List Char} (spelled : IsWord .text word) (gapped : IsGap gap)
      (given : content ≠ []) (oneLine : '\n' ∉ content) :
      Spells (.text (String.ofList (trim content))) (word ++ (gap ++ content))
  | declare {name value : String} {word rest : List Char} (spelled : IsWord .declare word)
      (named : IsName name.toList) (operand : IsOperand value.toList)
      (spaced : Spaced [name, value] rest) : Spells (.declare name value) (word ++ rest)
  | assign {name value : String} {word rest : List Char} (spelled : IsWord .assign word)
      (named : IsName name.toList) (operand : IsOperand value.toList)
      (spaced : Spaced [name, value] rest) : Spells (.assign name value) (word ++ rest)
  | condition {test : Condition} {word gap content : List Char} (spelled : IsWord .condition word)
      (gapped : IsGap gap) (oneLine : '\n' ∉ content) (parted : trim content = test.text.toList)
      (single : ' ' ∉ test.left.toList ∧ ' ' ∉ test.right.toList) :
      Spells (.condition test) (word ++ (gap ++ content))
  | method {name : String} {params : List String} {word rest : List Char}
      (spelled : IsWord .method word) (named : IsFreeName name.toList)
      (each : ∀ param ∈ params, IsName param.toList) (distinct : params.Nodup)
      (spaced : Spaced (name :: params) rest) : Spells (.method name params) (word ++ rest)
  | call {name : String} {args : List String} {rest : List Char} (named : IsFreeName name.toList)
      (each : ∀ arg ∈ args, IsOperand arg.toList) (bracketed : Bracketed args rest) :
      Spells (.call name args) (name.toList ++ rest)

end Sketch
