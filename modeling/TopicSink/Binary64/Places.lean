import TopicSink.Binary64.Shortest

namespace TopicSink

namespace Binary64

def inPlaces (mantissa : Nat) (e : Int) (places : Int) : Nat :=
  let (n, d) := magnitude mantissa e
  roundHalfEven (n * 10 ^ places.toNat) (d * 10 ^ (-places).toNat)

def leadingPower (mantissa : Nat) (e : Int) : Int :=
  let d := Decimal.exact mantissa e
  ((Nat.toDigits 10 d.digits).length : Int) - 1 + d.exponent

/-- The first `count` digits of a magnitude, rounded, and the power of ten of the first one.
Rounding may fill the digits up to the next power. -/
def leadingDigits (count mantissa : Nat) (e : Int) : Nat × Int :=
  if mantissa = 0 then (0, 0)
  else
    let power := leadingPower mantissa e
    let digits := inPlaces mantissa e (count - 1 - power)
    if digits = 10 ^ count then (digits / 10, power + 1) else (digits, power)

/-- The digits on both sides of the decimal point. The point is left out when nothing follows it,
unless it is asked for. -/
def joinAtPoint (point : Bool) (whole fraction : Text) : Text :=
  if fraction.isEmpty && !point then whole else whole ++ "." ++ fraction

def pointBehind (point : Bool) (n : Nat) (digits : Text) : Text :=
  joinAtPoint point (digits.take n) (digits.drop n)

def fixed (point : Bool) (places mantissa : Nat) (e : Int) : Text :=
  let t := Text.padded (places + 1) (inPlaces mantissa e places)
  pointBehind point (t.length - places) t

def scientific (point : Bool) (places mantissa : Nat) (e : Int) : Text :=
  let (digits, power) := leadingDigits (places + 1) mantissa e
  pointBehind point 1 (Text.padded (places + 1) digits) ++ "e" ++ exponentText power

/-- A magnitude to a number of digits, with a power of ten only where the number is smaller than
0.0001 or the digits end before the point. Zeros at the end of the fraction are left out, unless the
point is asked for. -/
def general (point : Bool) (count mantissa : Nat) (e : Int) : Text :=
  let count := max 1 count
  let (digits, power) := leadingDigits count mantissa e
  let t := Text.padded count digits
  let strip := fun fraction : Text =>
    if point then fraction else fraction.trimEnd fun c : CodePoint => c = '0'
  if power < -4 ∨ (count : Int) ≤ power then
    joinAtPoint point (t.take 1) (strip (t.drop 1)) ++ "e" ++ exponentText power
  else if power < 0 then
    let zeros := List.replicate (-power - 1).toNat (CodePoint.ofChar '0')
    joinAtPoint point "0" (strip (zeros ++ t))
  else
    let n := power.toNat + 1
    joinAtPoint point (t.take n) (strip (t.drop n))

end Binary64

end TopicSink
