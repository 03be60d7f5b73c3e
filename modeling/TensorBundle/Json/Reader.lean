import TensorBundle.Json.Literal
import TensorBundle.Binary
import TensorBundle.Text
/-!
Reading JSON. Beyond the standard the words `NaN`, `Infinity` and `-Infinity` are numbers, and
halves of surrogate pairs may stand alone; two escapes that form a pair are one code point.
-/
namespace TensorBundle.Json

inductive Problem where
  | byteOrderMark
  | expectingValue
  | expectingName
  | expectingColon
  | expectingComma
  | extraData
  | unterminatedString
  | controlCharacter
  | invalidEscape
  | invalidUnicodeEscape
  deriving DecidableEq, Repr

def Problem.message : Problem → Text
  | .byteOrderMark => "Unexpected UTF-8 BOM (decode using utf-8-sig)"
  | .expectingValue => "Expecting value"
  | .expectingName => "Expecting property name enclosed in double quotes"
  | .expectingColon => "Expecting ':' delimiter"
  | .expectingComma => "Expecting ',' delimiter"
  | .extraData => "Extra data"
  | .unterminatedString => "Unterminated string starting at"
  | .controlCharacter => "Invalid control character at"
  | .invalidEscape => "Invalid \\escape"
  | .invalidUnicodeEscape => "Invalid \\uXXXX escape"

/-- Why reading stopped; `left` code points of the text, from the place at fault on, were unread. -/
inductive Stop where
  | problem (kind : Problem) (left : Nat)
  | tooManyDigits (count : Nat)
  deriving DecidableEq, Repr

/-- What reading a part of a text gives: a value and the rest of the text, or a reason to stop. -/
abbrev Scan (α : Type) := Except Stop (α × Text)

def stopAt {α : Type} (kind : Problem) (rest : Text) : Except Stop α :=
  .error (.problem kind rest.length)

def isSpace (c : Code) : Bool := c.val == 0x20 || c.val == 0x09 || c.val == 0x0A || c.val == 0x0D

def skipSpace (t : Text) : Text := t.dropWhile isSpace

def unescape? (c : Code) : Option Code :=
  if c = Code.ofChar '"' ∨ c = Code.ofChar '\\' ∨ c = Code.ofChar '/' then some c
  else if c = Code.ofChar 'b' then some (Code.ofNat 0x08)
  else if c = Code.ofChar 'f' then some (Code.ofNat 0x0C)
  else if c = Code.ofChar 'n' then some (Code.ofNat 0x0A)
  else if c = Code.ofChar 'r' then some (Code.ofNat 0x0D)
  else if c = Code.ofChar 't' then some (Code.ofNat 0x09)
  else none

def hexUnit? (a b c d : Code) : Option Code := do
  let a ← Text.hexValue? a
  let b ← Text.hexValue? b
  let c ← Text.hexValue? c
  let d ← Text.hexValue? d
  pure (Code.ofNat (((a * 16 + b) * 16 + c) * 16 + d))

/-- Adds a code point that was written as an escape to the code points read so far, last first.
Behind the escape of a high surrogate the escape of a low one completes the pair. -/
def pushEscaped (afterHigh : Bool) (c : Code) (done : Text) : Text :=
  match done with
  | high :: earlier =>
    if afterHigh && c.isLowSurrogate then Code.ofPair high c :: earlier else c :: done
  | [] => [c]

/-- Reads the rest of a string. `start` is the number of code points from its opening quote on, and
`afterHigh` tells whether the last code point read was the escape of a high surrogate. -/
def scanText (start : Nat) (afterHigh : Bool) (done : Text) : Text → Scan Text
  | [] => .error (.problem .unterminatedString start)
  | c :: rest =>
    if c = Code.ofChar '"' then .ok (done.reverse, rest)
    else if c = Code.ofChar '\\' then
      match rest with
      | [] => .error (.problem .unterminatedString start)
      | letter :: rest' =>
        if letter = Code.ofChar 'u' then
          match rest' with
          | h₁ :: h₂ :: h₃ :: h₄ :: rest'' =>
            match hexUnit? h₁ h₂ h₃ h₄, rest'' with
            | none, _ | _, [] => stopAt .invalidUnicodeEscape rest
            | some unit, _ =>
              scanText start (unit.isHighSurrogate) (pushEscaped afterHigh unit done) rest''
          | _ => stopAt .invalidUnicodeEscape rest
        else match unescape? letter with
          | some code => scanText start false (code :: done) rest'
          | none => stopAt .invalidEscape (c :: rest)
    else if c.val < 0x20 then stopAt .controlCharacter (c :: rest)
    else scanText start false (c :: done) rest

def digitOf? (c : Code) : Option Nat :=
  if 0x30 ≤ c.val ∧ c.val ≤ 0x39 then some (c.val - 0x30) else none

def splitDigits : Text → List Nat × Text
  | [] => ([], [])
  | c :: rest => match digitOf? c with
    | none => ([], c :: rest)
    | some d => let (digits, tail) := splitDigits rest; (d :: digits, tail)

def splitWhole (t : Text) : List Nat × Text :=
  match splitDigits t with
  | (0 :: _, _) => ([0], t.tail)
  | split => split

def splitFraction (t : Text) : Option (List Nat × Text) :=
  match t with
  | c :: rest =>
    if c = Code.ofChar '.' then
      match splitDigits rest with
      | ([], _) => none
      | split => some split
    else none
  | [] => none

def splitExponent (t : Text) : Option (Int × Text) :=
  match t with
  | c :: rest =>
    if c = Code.ofChar 'e' ∨ c = Code.ofChar 'E' then
      let (negative, digits) := Text.splitSign rest
      match splitDigits digits with
      | ([], _) => none
      | (digits, tail) =>
        let magnitude : Int := Text.valueOfDigits digits
        some (if negative then -magnitude else magnitude, tail)
    else none
  | [] => none

def scanNumber (t : Text) : Scan Json :=
  let (negative, unsigned) := match t with
    | c :: rest => if c = Code.ofChar '-' then (true, rest) else (false, t)
    | [] => (false, t)
  let (whole, afterWhole) := splitWhole unsigned
  if whole = [] then stopAt .expectingValue t
  else
    let fraction := splitFraction afterWhole
    let (places, afterFraction) := fraction.getD ([], afterWhole)
    match fraction, splitExponent afterFraction with
    | none, none =>
      if Text.digitLimit < whole.length then .error (.tooManyDigits whole.length)
      else
        let magnitude : Int := Text.valueOfDigits whole
        .ok (.int (if negative then -magnitude else magnitude), afterWhole)
    | _, exponent =>
      let digits := whole ++ places
      let (power, rest) := exponent.getD (0, afterFraction)
      .ok (.real (Decimal.toBinary Binary.double negative (Text.valueOfDigits digits) digits.length
        (power - places.length)), rest)

def words : List (Text × Json) :=
  [("null", .null), ("true", .bool true), ("false", .bool false), ("NaN", .real .nan),
    ("Infinity", .real (.infinite false)), ("-Infinity", .real (.infinite true))]

def after? : Text → Text → Option Text
  | [], t => some t
  | c :: start, d :: t => if c = d then after? start t else none
  | _ :: _, [] => none

def scanScalar (t : Text) : Scan Json :=
  match words.findSome? fun (word, value) => (after? word t).map (value, ·) with
  | some found => .ok found
  | none => scanNumber t

mutual

/-- Reads the document at the front of a text, which has no blank in front. The first argument
bounds the steps; twice the length of the text is enough. -/
def scanValue : Nat → Text → Scan Json
  | 0, t => stopAt .expectingValue t
  | fuel + 1, t => match t with
    | [] => stopAt .expectingValue t
    | c :: rest =>
      if c = Code.ofChar '"' then
        (scanText t.length false [] rest).map fun (found, tail) => (.text found, tail)
      else if c = Code.ofChar '[' then
        match skipSpace rest with
        | [] => stopAt .expectingValue []
        | d :: tail =>
          if d = Code.ofChar ']' then .ok (.array [], tail) else scanItems fuel [] (d :: tail)
      else if c = Code.ofChar '\x7b' then
        match skipSpace rest with
        | [] => stopAt .expectingName []
        | d :: tail =>
          if d = Code.ofChar '\x7d' then .ok (.object [], tail) else scanMembers fuel [] (d :: tail)
      else scanScalar t

/-- Reads the items of a list from one of them on; `done` holds the earlier ones, last first. -/
def scanItems : Nat → List Json → Text → Scan Json
  | 0, _, t => stopAt .expectingValue t
  | fuel + 1, done, t => match scanValue fuel t with
    | .error stop => .error stop
    | .ok (item, rest) => match skipSpace rest with
      | [] => stopAt .expectingComma []
      | c :: tail =>
        if c = Code.ofChar ']' then .ok (.array (item :: done).reverse, tail)
        else if c = Code.ofChar ',' then scanItems fuel (item :: done) (skipSpace tail)
        else stopAt .expectingComma (c :: tail)

/-- Reads the members of an object from one of them on; `done` holds the earlier ones. -/
def scanMembers : Nat → List (Text × Json) → Text → Scan Json
  | 0, _, t => stopAt .expectingValue t
  | fuel + 1, done, t => match t with
    | [] => stopAt .expectingName []
    | c :: rest =>
      if c = Code.ofChar '"' then
        match scanText t.length false [] rest with
        | .error stop => .error stop
        | .ok (name, afterName) => match skipSpace afterName with
          | [] => stopAt .expectingColon []
          | d :: afterColon =>
            if d = Code.ofChar ':' then
              match scanValue fuel (skipSpace afterColon) with
              | .error stop => .error stop
              | .ok (value, afterValue) => match skipSpace afterValue with
                | [] => stopAt .expectingComma []
                | e :: tail =>
                  if e = Code.ofChar '\x7d' then .ok (.object (bindMember name value done), tail)
                  else if e = Code.ofChar ',' then
                    scanMembers fuel (bindMember name value done) (skipSpace tail)
                  else stopAt .expectingComma (e :: tail)
            else stopAt .expectingColon (d :: afterColon)
      else stopAt .expectingName t

end

inductive Fault where
  | malformed (problem : Problem) (offset : Nat)
  | tooManyDigits (count : Nat)
  deriving DecidableEq, Repr

def Stop.fault (t : Text) : Stop → Fault
  | .problem kind left => .malformed kind (t.length - left)
  | .tooManyDigits count => .tooManyDigits count

def scanDocument (t : Text) : Except Stop Json :=
  if t.head? = some (Code.ofNat 0xFEFF) then stopAt .byteOrderMark t
  else match scanValue (2 * t.length + 2) (skipSpace t) with
    | .error stop => .error stop
    | .ok (document, rest) => match skipSpace rest with
      | [] => .ok document
      | tail => stopAt .extraData tail

def read (t : Text) : Except Fault Json := (scanDocument t).mapError (Stop.fault t)

def lineOf (t : Text) (offset : Nat) : Nat := (t.take offset).count (Code.ofChar '\n') + 1

def columnOf (t : Text) (offset : Nat) : Nat :=
  ((t.take offset).reverse.takeWhile (· ≠ Code.ofChar '\n')).length + 1

def located (t : Text) (problem : Problem) (offset : Nat) : Text :=
  problem.message ++ ": line " ++ Text.natural (lineOf t offset) ++ " column "
    ++ Text.natural (columnOf t offset) ++ " (char " ++ Text.natural offset ++ ")"

end TensorBundle.Json
