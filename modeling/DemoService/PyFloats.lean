import DemoService.NearestDouble
import DemoService.PyJson

/-! Python's floats as the doubles that number lexemes of JSON stand for: their integer parts, and
the shortest decimals that `repr` writes for them. -/

namespace PyFloats

open CodePoints NearestDouble PyJson

section Nearest

/-- A double that is not negative: so many times a power of two, or infinite. -/
inductive Magnitude
  | finite (mantissa : Nat) (exponent : Int)
  | infinite
  deriving DecidableEq, Repr

/-- The quotient `n / d` in units of a power of the base. -/
def inUnits (base n d : Nat) (exponent : Int) : Nat × Nat :=
  (n * base ^ (-exponent).toNat, d * base ^ exponent.toNat)

/-- The exponent of the largest power of two that is no more than `n / d`. -/
def binaryExponent (n d : Nat) : Int :=
  let guess : Int := Nat.log2 n - Nat.log2 d
  let scaled := inUnits 2 n d guess
  if scaled.2 ≤ scaled.1 then guess else guess - 1

/-- The last bit of a double next to `n / d`: the 53rd from the first one, and none below
`2 ^ -1074`. -/
def lastBit (n d : Nat) : Int := max (binaryExponent n d - 52) (-1074)

/-- The double nearest to `n / d`, ties to even. -/
def nearest (n d : Nat) : Magnitude :=
  let exponent := lastBit n d
  let scaled := inUnits 2 n d exponent
  let mantissa := roundHalfEven scaled.1 scaled.2
  if 2 ^ 1024 ≤ mantissa * 2 ^ exponent.toNat then .infinite
  else if mantissa = 2 ^ 53 then .finite (2 ^ 52) (exponent + 1)
  else .finite mantissa exponent

/-- The double nearest to `digits * 10 ^ exponent`. -/
def nearestDecimal (digits : Nat) (exponent : Int) : Magnitude :=
  nearest (digits * 10 ^ exponent.toNat) (10 ^ (-exponent).toNat)

end Nearest

section Doubles

inductive Double
  | nan
  | infinite (negative : Bool)
  | finite (negative : Bool) (mantissa : Nat) (exponent : Int)
  deriving DecidableEq, Repr

def ofMagnitude (negative : Bool) : Magnitude → Double
  | .finite mantissa exponent => .finite negative mantissa exponent
  | .infinite => .infinite negative

/-- The digits of a number's lexeme after its sign, without the point, and the power of ten that
the last of them stands for. -/
def decimalOf (s : Str) : Nat × Int :=
  let whole := s.takeWhile isDigit
  let frac := fraction (s.dropWhile isDigit)
  let exp := splitSign [0x2B, 0x2D] (exponent frac.2).1.tail
  let power : Int := if exp.1 = [0x2D] then -digitsValue exp.2 else digitsValue exp.2
  (digitsValue (whole ++ frac.1.tail), power - frac.1.tail.length)

/-- `float` of a lexeme of JSON. -/
def ofLexeme (lexeme : Str) : Double :=
  if lexeme = ofString "NaN" then .nan
  else
    let sign := splitSign [0x2D] lexeme
    if sign.2 = ofString "Infinity" then .infinite (sign.1 ≠ [])
    else
      let decimal := decimalOf sign.2
      ofMagnitude (sign.1 ≠ []) (nearestDecimal decimal.1 decimal.2)

/-- `float.__trunc__` of a finite float. -/
def trunc (negative : Bool) (mantissa : Nat) (exponent : Int) : Int :=
  let scaled := inUnits 2 mantissa 1 (-exponent)
  if negative then -(scaled.1 / scaled.2 : Nat) else (scaled.1 / scaled.2 : Nat)

end Doubles

section Repr

/-- The digits before the decimal point of `n / d`; below one, less than none by the zeros that
follow the point. -/
def pointOf (n d : Nat) : Int :=
  if d ≤ n then (Nat.digits 10 (n / d)).length else 1 - (Nat.digits 10 ((d - 1) / n)).length

/-- The decimal of so many digits that is nearest to the double, or the other one next to it, if
it stands for the double. -/
def decimalOfLength (mantissa : Nat) (exponent : Int) (length : Nat) : Option (Nat × Int) :=
  let scaled := inUnits 2 mantissa 1 (-exponent)
  let power := pointOf scaled.1 scaled.2 - length
  let units := inUnits 10 scaled.1 scaled.2 power
  let near := roundHalfEven units.1 units.2
  let far := if near = units.1 / units.2 then near + 1 else near - 1
  if nearestDecimal near power = .finite mantissa exponent then some (near, power)
  else if nearestDecimal far power = .finite mantissa exponent then some (far, power)
  else none

/-- The shortest decimal that stands for the double; 17 digits are always enough. -/
def shortest (mantissa : Nat) (exponent : Int) : Nat × Int :=
  ((List.range 17).findSome? fun i => decimalOfLength mantissa exponent (i + 1)).getD (0, 0)

def zeros (n : Nat) : Str := List.replicate n 0x30

/-- The digits with the point behind so many of them, or with an exponent where that is far. -/
def format (digits : Str) (point : Int) : Str :=
  if point ≤ -4 ∨ 16 < point then
    let exponent := decimal (point - 1).natAbs
    digits.take 1 ++ (if 1 < digits.length then 0x2E :: digits.drop 1 else []) ++
      0x65 :: (if point ≤ 0 then 0x2D else 0x2B) :: zeros (2 - exponent.length) ++ exponent
  else if point ≤ 0 then 0x30 :: 0x2E :: zeros point.natAbs ++ digits
  else
    let whole := point.natAbs
    digits.take whole ++ zeros (whole - digits.length) ++ 0x2E ::
      (if whole < digits.length then digits.drop whole else [0x30])

/-- `float.__repr__`. -/
def repr : Double → Str
  | .nan => ofString "nan"
  | .infinite negative => ofString (if negative then "-inf" else "inf")
  | .finite negative mantissa exponent =>
    let sign : Str := if negative then [0x2D] else []
    if mantissa = 0 then sign ++ ofString "0.0"
    else
      let short := shortest mantissa exponent
      let digits := decimal short.1
      sign ++ format (digits.reverse.dropWhile (· = 0x30)).reverse (digits.length + short.2)

end Repr

end PyFloats
