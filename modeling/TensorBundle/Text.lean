/-!
Text as a list of code points, and integers written in decimal. The surrogate range is included,
because the `\u` escapes of a manifest can name half of a surrogate pair and such a text is kept as
it is.
-/
namespace TensorBundle

abbrev Code := Fin 0x110000

/-- The code point of a number; past the last code point they count on from the first. -/
def Code.ofNat (n : Nat) : Code := Fin.ofNat 0x110000 n

abbrev Text := List Code

def Code.ofChar (c : Char) : Code :=
  ⟨c.toNat, by
    have h := c.valid
    simp only [UInt32.isValidChar, Nat.isValidChar] at h
    have e : c.val.toNat = c.toNat := rfl
    omega⟩

def Code.isHighSurrogate (c : Code) : Bool := 0xD800 ≤ c.val && c.val < 0xDC00

def Code.isLowSurrogate (c : Code) : Bool := 0xDC00 ≤ c.val && c.val < 0xE000

def Code.ofPair (high low : Code) : Code :=
  Code.ofNat (0x10000 + (high.val - 0xD800) * 0x400 + (low.val - 0xDC00))

def Code.toPair (c : Code) : Nat × Nat :=
  (0xD800 + (c.val - 0x10000) / 0x400, 0xDC00 + (c.val - 0x10000) % 0x400)

namespace Text

def ofString (s : String) : Text := s.toList.map Code.ofChar

instance : Coe String Text := ⟨ofString⟩

def digit (d : Nat) : Code := Code.ofNat (0x30 + d % 10)

def prependDigits (n : Nat) (rest : Text) : Text :=
  if n < 10 then digit n :: rest else prependDigits (n / 10) (digit (n % 10) :: rest)
termination_by n

def natural (n : Nat) : Text := prependDigits n []

def integer (n : Int) : Text :=
  if n < 0 then Code.ofChar '-' :: natural n.natAbs else natural n.natAbs

def hexDigit (d : Nat) : Code :=
  if d % 16 < 10 then Code.ofNat (0x30 + d % 16) else Code.ofNat (0x57 + d % 16)

def hex : (width : Nat) → Nat → Text
  | 0, _ => []
  | width + 1, n => hex width (n / 16) ++ [hexDigit n]

def hexValue? (c : Code) : Option Nat :=
  if 0x30 ≤ c.val && c.val ≤ 0x39 then some (c.val - 0x30)
  else if 0x41 ≤ c.val && c.val ≤ 0x46 then some (c.val - 0x37)
  else if 0x61 ≤ c.val && c.val ≤ 0x66 then some (c.val - 0x57)
  else none

def join (separator : Text) : List Text → Text
  | [] => []
  | [t] => t
  | t :: rest => t ++ separator ++ join separator rest

def lines (ts : List Text) : Text := join "\n" ts

def bracketed (ts : List Text) : Text := "[" ++ join ", " ts ++ "]"

def lowerAscii (t : Text) : Text :=
  t.map fun c => if 0x41 ≤ c.val && c.val ≤ 0x5A then Code.ofNat (c.val + 0x20) else c

/-- Whether a text comes before another or is the same: at the first code point that differs it has
the smaller one, or it is a beginning of the other. -/
def precedes : Text → Text → Bool
  | [], _ => true
  | _ :: _, [] => false
  | a :: s, b :: t => if a = b then precedes s t else decide (a.val < b.val)

def sorted (ts : List Text) : List Text := ts.mergeSort precedes

def toString (t : Text) : String :=
  String.ofList (t.map fun c =>
    if 0xD800 ≤ c.val && c.val < 0xE000 then Char.ofNat 0xFFFD else Char.ofNat c.val)

end Text

def Code.isWideBlank (c : Code) : Bool :=
  c.val == 0x85 || c.val == 0xA0 || c.val == 0x1680 || (0x2000 ≤ c.val && c.val ≤ 0x200A) ||
  c.val == 0x2028 || c.val == 0x2029 || c.val == 0x202F || c.val == 0x205F || c.val == 0x3000

def Code.isNarrowBlank (c : Code) : Bool := c.val == 0x20 || (0x09 ≤ c.val && c.val ≤ 0x0D)

def Code.isBlank (c : Code) : Bool :=
  c.isNarrowBlank || (0x1C ≤ c.val && c.val ≤ 0x1F) || c.isWideBlank

def Text.trimBy (drop : Code → Bool) (t : Text) : Text :=
  ((t.dropWhile drop).reverse.dropWhile drop).reverse

def Text.trim (t : Text) : Text := t.trimBy Code.isBlank

/-- The code points of the digit zero in all scripts that have decimal digits (Unicode 14). -/
def Code.zeroDigits : List Nat := [
  0x30, 0x660, 0x6F0, 0x7C0, 0x966, 0x9E6, 0xA66, 0xAE6, 0xB66, 0xBE6, 0xC66, 0xCE6, 0xD66, 0xDE6,
   0xE50, 0xED0, 0xF20, 0x1040, 0x1090, 0x17E0, 0x1810, 0x1946, 0x19D0, 0x1A80, 0x1A90, 0x1B50,
   0x1BB0, 0x1C40, 0x1C50, 0xA620, 0xA8D0, 0xA900, 0xA9D0, 0xA9F0, 0xAA50, 0xABF0, 0xFF10, 0x104A0,
   0x10D30, 0x11066, 0x110F0, 0x11136, 0x111D0, 0x112F0, 0x11450, 0x114D0, 0x11650, 0x116C0,
   0x11730, 0x118E0, 0x11950, 0x11C50, 0x11D50, 0x11DA0, 0x16A60, 0x16AC0, 0x16B50, 0x1D7CE,
   0x1D7D8, 0x1D7E2, 0x1D7EC, 0x1D7F6, 0x1E140, 0x1E2F0, 0x1E950, 0x1FBF0]

def Code.digitValue? (c : Code) : Option Nat :=
  (Code.zeroDigits.find? fun start => start ≤ c.val && c.val < start + 10).map (c.val - ·)

namespace Text

def digitLimit : Nat := 4300

/-- Whether an integer may be written out: `integer` and `natural` are meant for these only. -/
@[irreducible] def isWritable (n : Int) : Bool := n.natAbs < Nat.pow 10 digitLimit

def valueOfDigits (digits : List Nat) : Nat := digits.foldl (fun n d => n * 10 + d) 0

inductive IntegerFault where
  | malformed
  | tooManyDigits (count : Nat)
  deriving DecidableEq, Repr

/-- Whether every underscore stands between two digits and the text ends in a digit; `afterDigit`
tells whether a digit stands in front of it. The text holds digits and underscores only. -/
def isGrouped (afterDigit : Bool) : Text → Bool
  | [] => afterDigit
  | c :: rest =>
    if c = Code.ofChar '_' then afterDigit && isGrouped false rest else isGrouped true rest

def isNumeral (c : Code) : Bool := c == Code.ofChar '_' || c.digitValue?.isSome

def splitSign : Text → Bool × Text
  | [] => (false, [])
  | c :: rest =>
    if c = Code.ofChar '-' then (true, rest)
    else if c = Code.ofChar '+' then (false, rest) else (false, c :: rest)

def toInteger (t : Text) : Except IntegerFault Int :=
  let (negative, number) := splitSign (t.trimBy fun c => c.isNarrowBlank || c.isWideBlank)
  let numeral := number.takeWhile isNumeral
  let digits := numeral.filterMap Code.digitValue?
  if !isGrouped false numeral then .error .malformed
  else if digitLimit < digits.length then .error (.tooManyDigits digits.length)
  else if numeral.length < number.length then .error .malformed
  else .ok (if negative then -(valueOfDigits digits : Int) else valueOfDigits digits)

end Text
end TensorBundle
