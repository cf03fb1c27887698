import TopicSink.Text.Basic
import TopicSink.Binary64.Basic

namespace TopicSink

namespace Binary64

structure Decimal where
  digits : Nat
  exponent : Int
deriving DecidableEq, Repr

namespace Decimal

/-- The exact value of a finite number: `m * 2 ^ e` is `m * 5 ^ (-e) * 10 ^ e` for negative `e`. -/
def exact (mantissa : Nat) (e : Int) : Decimal :=
  if 0 ≤ e then ⟨mantissa * 2 ^ e.toNat, 0⟩ else ⟨mantissa * 5 ^ (-e).toNat, e⟩

def readsBack (d : Decimal) (mantissa : Nat) (e : Int) : Bool :=
  ofDecimal false d.digits d.exponent = .finite false mantissa e

/-- The neighbour of an exact value on the grid of multiples of `10 ^ drop` in its last place that
reads back to the number; the nearer one if both do, the even one if both are equally near. -/
def onGrid? (value : Decimal) (mantissa : Nat) (e : Int) (drop : Nat) : Option Decimal :=
  let unit := 10 ^ drop
  let below : Decimal := ⟨value.digits / unit, value.exponent + drop⟩
  let above : Decimal := ⟨value.digits / unit + 1, value.exponent + drop⟩
  let rest := value.digits % unit
  let nearer := if 2 * rest < unit ∨ 2 * rest = unit ∧ below.digits % 2 = 0 then below else above
  let farther := if nearer = below then above else below
  if nearer.readsBack mantissa e then some nearer
  else if farther.readsBack mantissa e then some farther
  else none

def stripZeros : (fuel : Nat) → Decimal → Decimal
  | 0, d => d
  | fuel + 1, d =>
    if d.digits ≠ 0 ∧ d.digits % 10 = 0 then stripZeros fuel ⟨d.digits / 10, d.exponent + 1⟩ else d

/-- The decimal of the fewest digits that reads back to `mantissa * 2 ^ e`. Seventeen digits always
suffice; were they not to, the exact value would do. -/
def shortest (mantissa : Nat) (e : Int) : Decimal :=
  let value := exact mantissa e
  let places := (Nat.toDigits 10 value.digits).length
  let grids := (List.range 17).map fun n => places - (n + 1)
  let d := (grids.findSome? (onGrid? value mantissa e)).getD value
  stripZeros (Nat.toDigits 10 d.digits).length d

end Decimal

def exponentText (e : Int) : Text :=
  (if e < 0 then '-' else '+' : CodePoint) :: Text.padded 2 e.natAbs

def layout (d : Decimal) : Text :=
  let ds := Text.ofNat d.digits
  let point := (ds.length : Int) + d.exponent
  if -4 < point ∧ point ≤ 16 then
    if point ≤ 0 then "0." ++ List.replicate (-point).toNat (CodePoint.ofChar '0') ++ ds
    else if point < ds.length then ds.take point.toNat ++ "." ++ ds.drop point.toNat
    else ds ++ List.replicate (point.toNat - ds.length) (CodePoint.ofChar '0') ++ ".0"
  else
    let fraction : Text := if 1 < ds.length then "." ++ ds.drop 1 else []
    ds.take 1 ++ fraction ++ "e" ++ exponentText (point - 1)

def magnitudeText (mantissa : Nat) (e : Int) : Text :=
  if mantissa = 0 then "0.0" else layout (Decimal.shortest mantissa e)

def signText (negative : Bool) : Text := if negative then "-" else ""

def render (nan infinity : Text) : Binary64 → Text
  | .finite negative m e => signText negative ++ magnitudeText m e
  | .infinite negative => signText negative ++ infinity
  | .nan => nan

end Binary64

end TopicSink
