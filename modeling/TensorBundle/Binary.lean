import TensorBundle.Text
/-!
Binary floating-point numbers, and how they are written in decimal. Arithmetic is exact here: sums
and products of finite numbers are the numbers that arithmetic says, and only `Format.round` brings
one into a format, to the nearest number of the format and on a tie to the even one. In decimal a
number has the fewest digits that identify it in its format, or a fixed count of places.
-/
namespace TensorBundle.Bytes

def bigEndian (bytes : List UInt8) : Nat := bytes.foldl (fun n b => n * 256 + b.toNat) 0

def littleEndian : List UInt8 → Nat
  | [] => 0
  | b :: rest => b.toNat + 256 * littleEndian rest

def ofNat : (count : Nat) → Nat → List UInt8
  | 0, _ => []
  | count + 1, n => UInt8.ofNat n :: ofNat count (n / 256)

end TensorBundle.Bytes

namespace TensorBundle

/-- Not a number, an infinity, or plus or minus `significand * 2 ^ exponent`. -/
inductive Binary where
  | nan
  | infinite (negative : Bool)
  | finite (negative : Bool) (significand : Nat) (exponent : Int)
  deriving DecidableEq, Repr, Inhabited

namespace Binary

def roundQuotient (num den : Nat) : Nat :=
  let quotient := num / den
  let twice := 2 * (num % den)
  if twice < den then quotient
  else if den < twice then quotient + 1
  else if quotient % 2 = 0 then quotient else quotient + 1

/-- A format: how many bits its significands have, the exponent of its smallest step and that of the
step of its largest numbers, and the bits of an encoded number. -/
structure Format where
  precision : Nat
  least : Int
  greatest : Int
  width : Nat
  deriving DecidableEq, Repr

def single : Format := ⟨24, -149, 104, 32⟩

def double : Format := ⟨53, -1074, 971, 64⟩

def Format.stepOf (f : Format) (m : Nat) (q : Int) : Int :=
  max (q + (m.log2 + 1 : Nat) - f.precision) f.least

def Format.roundFinite (f : Format) (negative : Bool) (m : Nat) (q : Int) : Binary :=
  if m = 0 then .finite negative 0 f.least
  else
    let step := f.stepOf m q
    let significand :=
      if step ≤ q then m * Nat.pow 2 (q - step).toNat
      else roundQuotient m (Nat.pow 2 (step - q).toNat)
    -- Rounding up may reach one bit more than the format keeps.
    let (significand, step) :=
      if significand = Nat.pow 2 f.precision then (Nat.pow 2 (f.precision - 1), step + 1)
      else (significand, step)
    if f.greatest < step then .infinite negative else .finite negative significand step

def Format.round (f : Format) : Binary → Binary
  | .finite negative m q => f.roundFinite negative m q
  | x => x

/-- The number of the format nearest to plus or minus `num / den`. The quotient is taken to two bits
more than the format keeps, and a last bit tells whether anything was left over. -/
def Format.ofRatio (f : Format) (negative : Bool) (num den : Nat) : Binary :=
  let shift := f.precision + 2 + den.log2 - num.log2
  let scaled := num * Nat.pow 2 shift
  let sticky := if scaled % den = 0 then 0 else 1
  f.roundFinite negative (2 * (scaled / den) + sticky) (-(shift : Int) - 1)

def ofInt (n : Int) : Binary := .finite (n < 0) n.natAbs 0

/-- The integer that a finite number is when written with the given exponent, which is at most its
own. -/
def scaledTo (negative : Bool) (m : Nat) (q exponent : Int) : Int :=
  let scaled : Int := (m * Nat.pow 2 (q - exponent).toNat : Nat)
  if negative then -scaled else scaled

def add : Binary → Binary → Binary
  | .nan, _ | _, .nan => .nan
  | .infinite a, .infinite b => if a = b then .infinite a else .nan
  | .infinite a, .finite .. => .infinite a
  | .finite .., .infinite b => .infinite b
  | .finite a m p, .finite b n q =>
    let exponent := min p q
    let total := scaledTo a m p exponent + scaledTo b n q exponent
    -- Numbers that cancel give plus zero.
    if total = 0 then .finite (a && b) 0 exponent
    else .finite (total < 0) total.natAbs exponent

def neg : Binary → Binary
  | .nan => .nan
  | .infinite a => .infinite !a
  | .finite a m q => .finite (!a) m q

def sub (x y : Binary) : Binary := add x y.neg

def mul : Binary → Binary → Binary
  | .nan, _ | _, .nan => .nan
  | .infinite a, .infinite b => .infinite (a != b)
  | .infinite a, .finite b n _ => if n = 0 then .nan else .infinite (a != b)
  | .finite a m _, .infinite b => if m = 0 then .nan else .infinite (a != b)
  | .finite a m p, .finite b n q => .finite (a != b) (m * n) (p + q)

def truncate? : Binary → Option Int
  | .finite negative m q =>
    let magnitude : Int :=
      (if 0 ≤ q then m * Nat.pow 2 q.toNat else m / Nat.pow 2 (-q).toNat : Nat)
    some (if negative then -magnitude else magnitude)
  | _ => none

end Binary
end TensorBundle

namespace TensorBundle.Binary

def Format.fractionWidth (f : Format) : Nat := f.precision - 1

def Format.topExponent (f : Format) : Nat := Nat.pow 2 (f.width - f.precision) - 1

def Format.ofBits (f : Format) (bits : Nat) : Binary :=
  let negative := bits / Nat.pow 2 (f.width - 1) % 2 = 1
  let exponent := bits / Nat.pow 2 f.fractionWidth % Nat.pow 2 (f.width - f.precision)
  let fraction := bits % Nat.pow 2 f.fractionWidth
  if exponent = f.topExponent then if fraction = 0 then .infinite negative else .nan
  else if exponent = 0 then .finite negative fraction f.least
  else .finite negative (Nat.pow 2 f.fractionWidth + fraction) (f.least + (exponent - 1 : Nat))

def Format.toBits (f : Format) : Binary → Nat
  | .nan => f.topExponent * Nat.pow 2 f.fractionWidth + Nat.pow 2 (f.fractionWidth - 1)
  | .infinite negative =>
    negative.toNat * Nat.pow 2 (f.width - 1) + f.topExponent * Nat.pow 2 f.fractionWidth
  | .finite negative m q =>
    let magnitude :=
      if m < Nat.pow 2 f.fractionWidth then m
      else (q - f.least).toNat * Nat.pow 2 f.fractionWidth + m
    negative.toNat * Nat.pow 2 (f.width - 1) + magnitude

end TensorBundle.Binary

namespace TensorBundle

structure Decimal where
  digits : Nat
  exponent : Int
  deriving DecidableEq, Repr

namespace Decimal

def compareScaled (a : Nat) (i : Int) (m : Nat) (j : Int) : Ordering :=
  compare (a * Nat.pow 10 i.toNat * Nat.pow 2 (-j).toNat)
    (m * Nat.pow 2 j.toNat * Nat.pow 10 (-i).toNat)

def identifies (f : Binary.Format) (m : Nat) (q : Int) (d : Decimal) : Bool :=
  -- Below a power of two the numbers are twice as close, unless the step is the least.
  let low := if m = Nat.pow 2 (f.precision - 1) ∧ f.least < q then 4 * m - 1 else 4 * m - 2
  let below := compareScaled d.digits d.exponent low (q - 2)
  let above := compareScaled d.digits d.exponent (4 * m + 2) (q - 2)
  -- The ends of the interval round to the even significand.
  if m % 2 = 0 then below != .lt && above != .gt else below == .gt && above == .lt

/-- The least `k` with `m * 2 ^ q < 10 ^ k`, for a positive `m`: an estimate from the binary
logarithm is low by two at most. -/
def scale (m : Nat) (q : Int) : Int :=
  let estimate := Int.fdiv ((q + m.log2) * 30103) 100000
  ([estimate, estimate + 1].find? fun k => compareScaled 1 k m q == .gt).getD (estimate + 2)

def floorAt (m : Nat) (q : Int) (exponent : Int) : Nat :=
  m * Nat.pow 2 q.toNat * Nat.pow 10 (-exponent).toNat /
    (Nat.pow 2 (-q).toNat * Nat.pow 10 exponent.toNat)

def candidate? (f : Binary.Format) (m : Nat) (q : Int) (exponent : Int) : Option Decimal :=
  let floor := floorAt m q exponent
  let down : Decimal := ⟨floor, exponent⟩
  let up : Decimal := ⟨floor + 1, exponent⟩
  match identifies f m q down, identifies f m q up with
  | true, true =>
    match compareScaled (2 * floor + 1) exponent (2 * m) q with
    | .gt => some down
    | .lt => some up
    | .eq => if floor % 2 = 0 then some down else some up
  | true, false => some down
  | false, true => some up
  | false, false => none

def strip (digits : Nat) (exponent : Int) : Decimal :=
  if h : 0 < digits ∧ digits % 10 = 0 then strip (digits / 10) (exponent + 1)
  else ⟨digits, exponent⟩
termination_by digits
decreasing_by exact Nat.div_lt_self h.1 (by decide)

def exactly (m : Nat) (q : Int) : Decimal :=
  if 0 ≤ q then ⟨m * Nat.pow 2 q.toNat, 0⟩ else ⟨m * Nat.pow 5 (-q).toNat, q⟩

/-- The shortest decimal that identifies `m * 2 ^ q` in the format, for a positive `m`. Seventeen
digits suffice for every format here; past them the value itself is given. -/
def shortest (f : Binary.Format) (m : Nat) (q : Int) : Decimal :=
  let top := scale m q
  let found := (List.range 17).findSome? fun n => candidate? f m q (top - (n + 1 : Nat))
  let d := found.getD (exactly m q)
  strip d.digits d.exponent

end Decimal
end TensorBundle

namespace TensorBundle.Decimal

/-- How digits are laid out. The leading digit has the decimal exponent that decides between the two
forms; an exponent is written with a sign and at least the given number of digits. -/
structure Style where
  positionalFrom : Int
  positionalBelow : Int
  exponentWidth : Nat
  notANumber : Text
  infinity : Text

/-- The numbers of messages, summaries and documents: positional from 10^-4 up to 10^16, always with
a point in that form, otherwise with a signed exponent of two digits or more. -/
def plainStyle : Style := ⟨-4, 16, 2, "nan", "inf"⟩

def padded (width : Nat) (t : Text) : Text := List.replicate (width - t.length) (Text.digit 0) ++ t

def Style.layout (style : Style) (d : Decimal) : Text :=
  let digits := Text.natural d.digits
  let leading := d.exponent + digits.length - 1
  if d.digits = 0 then "0.0"
  else if style.positionalFrom ≤ leading ∧ leading < style.positionalBelow then
    if 0 ≤ d.exponent then digits ++ List.replicate d.exponent.toNat (Text.digit 0) ++ ".0"
    else if 0 ≤ leading then
      let whole := digits.length - (-d.exponent).toNat
      digits.take whole ++ "." ++ digits.drop whole
    else "0." ++ List.replicate (-leading - 1).toNat (Text.digit 0) ++ digits
  else
    let mantissa := match digits with
      | [c] => [c]
      | c :: rest => [c] ++ "." ++ rest
      | [] => []
    let sign : Text := if leading < 0 then "-" else "+"
    mantissa ++ "e" ++ sign ++ padded style.exponentWidth (Text.natural leading.natAbs)

def Style.render (style : Style) (f : Binary.Format) : Binary → Text
  | .nan => style.notANumber
  | .infinite negative => if negative then "-" ++ style.infinity else style.infinity
  | .finite negative m q =>
    let magnitude := style.layout (if m = 0 then ⟨0, 0⟩ else shortest f m q)
    if negative then "-" ++ magnitude else magnitude

def places (count : Nat) (negative : Bool) (m : Nat) (q : Int) : Text :=
  let scaled :=
    Binary.roundQuotient (m * Nat.pow 2 q.toNat * Nat.pow 10 count) (Nat.pow 2 (-q).toNat)
  let digits := Text.natural scaled
  let digits := List.replicate (count + 1 - digits.length) (Text.digit 0) ++ digits
  let whole := digits.length - count
  let magnitude := digits.take whole ++ "." ++ digits.drop whole
  if negative then "-" ++ magnitude else magnitude

def sizeUnits : List Text := ["bytes", "KiB", "MiB", "GiB", "TiB", "PiB", "EiB"]

def sizePlaces (bytes unit : Nat) : Nat :=
  if Binary.roundQuotient (bytes * 100) unit < 1000 then 2
  else if Binary.roundQuotient (bytes * 10) unit < 1000 then 1
  else 0

def size (bytes : Nat) : Text :=
  let filled := max bytes.log2 1 / 10
  let index :=
    if Binary.roundQuotient bytes (Nat.pow 1024 filled) = 1024 then filled + 1 else filled
  let amount :=
    if index = 0 then Text.natural bytes
    else places (sizePlaces bytes (Nat.pow 1024 index)) false bytes (-(10 * index : Nat))
  amount ++ " " ++ sizeUnits[index]?.getD "EiB"

/-- The number of the format nearest to plus or minus `digits * 10 ^ exponent`, where `digits` is
written with `count` digits at most. Far outside the range of the widest format the power of ten is
not computed: the number is then an infinity or zero. -/
def toBinary (f : Binary.Format) (negative : Bool) (digits count : Nat) (exponent : Int) : Binary :=
  if digits = 0 then .finite negative 0 f.least
  else if 400 < exponent then .infinite negative
  else if exponent + count < -400 then .finite negative 0 f.least
  else if 0 ≤ exponent then f.roundFinite negative (digits * Nat.pow 10 exponent.toNat) 0
  else f.ofRatio negative digits (Nat.pow 10 (-exponent).toNat)

end TensorBundle.Decimal
