import TensorBundle.Binary
import TensorBundle.Text
import TensorBundle.Text.Encoding
/-!
Documents: the values that a manifest holds, and how they are written: as a literal, in which
messages show them on one line, and as JSON in ASCII. Integers are unbounded and kept apart from the
numbers written with a point or an exponent. An object lists its members in the order in which their
names first appeared; no name appears twice in an object that was read.
-/
namespace TensorBundle

inductive Json where
  | null
  | bool (value : Bool)
  | int (value : Int)
  | real (value : Binary)
  | text (value : Text)
  | array (items : List Json)
  | object (members : List (Text × Json))
  deriving Inhabited

namespace Json

/-- Binds a name: a name already bound keeps its place and takes the new value, a new one goes to
the end. -/
def bindMember (name : Text) (value : Json) : List (Text × Json) → List (Text × Json)
  | [] => [(name, value)]
  | (key, old) :: rest =>
    if key = name then (key, value) :: rest else (key, old) :: bindMember name value rest

def member? (name : Text) : List (Text × Json) → Option Json
  | [] => none
  | (key, value) :: rest => if key = name then some value else member? name rest

def int? : Json → Option Int
  | .int n => some n
  | _ => none

def text? : Json → Option Text
  | .text t => some t
  | _ => none

def ints? (items : List Json) : Option (List Int) := items.mapM int?

def texts? (items : List Json) : Option (List Text) := items.mapM text?

end Json
end TensorBundle

namespace TensorBundle.Json

mutual

def literal : Json → Text
  | .null => "None"
  | .bool true => "True"
  | .bool false => "False"
  | .int n => Text.integer n
  | .real x => Decimal.plainStyle.render Binary.double x
  | .text t => t.quoted
  | .array items => Text.bracketed (literals items)
  | .object members => "\x7b" ++ Text.join ", " (memberLiterals members) ++ "\x7d"

def literals : List Json → List Text
  | [] => []
  | item :: rest => literal item :: literals rest

def memberLiterals : List (Text × Json) → List Text
  | [] => []
  | (name, value) :: rest => (name.quoted ++ ": " ++ literal value) :: memberLiterals rest

end

mutual

def isWritable : Json → Bool
  | .int n => Text.isWritable n
  | .array items => areWritable items
  | .object members => areWritableMembers members
  | _ => true

def areWritable : List Json → Bool
  | [] => true
  | item :: rest => isWritable item && areWritable rest

def areWritableMembers : List (Text × Json) → Bool
  | [] => true
  | (_, value) :: rest => isWritable value && areWritableMembers rest

end

def plain : Json → Text
  | .text t => t
  | value => value.literal

def escapeCode (c : Code) : Text :=
  if c = Code.ofChar '"' then "\\\""
  else if c = Code.ofChar '\\' then "\\\\"
  else if c = Code.ofChar '\n' then "\\n"
  else if c = Code.ofChar '\r' then "\\r"
  else if c = Code.ofChar '\t' then "\\t"
  else if c.val = 0x0C then "\\f"
  else if c.val = 0x08 then "\\b"
  else if 0x20 ≤ c.val ∧ c.val ≤ 0x7E then [c]
  else if c.val < 0x10000 then "\\u" ++ Text.hex 4 c.val
  else "\\u" ++ Text.hex 4 c.toPair.1 ++ "\\u" ++ Text.hex 4 c.toPair.2

def printText (t : Text) : Text := "\"" ++ t.flatMap escapeCode ++ "\""

def numberStyle : Decimal.Style :=
  { Decimal.plainStyle with notANumber := "NaN", infinity := "Infinity" }

/-- What stands in front of the entries of a list or an object at the given depth. -/
def lineStart (indent : Option Nat) (depth : Nat) : Text :=
  match indent with
  | none => []
  | some width => Code.ofChar '\n' :: List.replicate (width * depth) (Code.ofChar ' ')

def enclose (indent : Option Nat) (depth : Nat) (opening closing : Text) (entries : List Text) :
    Text :=
  match entries with
  | [] => opening ++ closing
  | _ =>
    let separator : Text := match indent with
      | none => ", "
      | some _ => "," ++ lineStart indent (depth + 1)
    opening ++ lineStart indent (depth + 1) ++ Text.join separator entries ++ lineStart indent depth
      ++ closing

mutual

def printAt (indent : Option Nat) (depth : Nat) : Json → Text
  | .null => "null"
  | .bool true => "true"
  | .bool false => "false"
  | .int n => Text.integer n
  | .real x => numberStyle.render Binary.double x
  | .text t => printText t
  | .array items => enclose indent depth "[" "]" (printItems indent (depth + 1) items)
  | .object members => enclose indent depth "\x7b" "\x7d" (printMembers indent (depth + 1) members)

def printItems (indent : Option Nat) (depth : Nat) : List Json → List Text
  | [] => []
  | item :: rest => printAt indent depth item :: printItems indent depth rest

def printMembers (indent : Option Nat) (depth : Nat) : List (Text × Json) → List Text
  | [] => []
  | (name, value) :: rest =>
    (printText name ++ ": " ++ printAt indent depth value) :: printMembers indent depth rest

end

def print (indent : Option Nat) (document : Json) : Text := printAt indent 0 document

end TensorBundle.Json
