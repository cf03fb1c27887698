namespace TopicSink

/-- Powers are those that `Nat` and `Int` have by themselves, whatever library is imported. -/
@[default_instance high]
scoped instance (priority := 2000) ownPow {α : Type} [NatPow α] : Pow α Nat := instPowNat

/-- A binary64 number: `mantissa * 2 ^ exponent` with a sign, an infinity, or no number at all.
The mantissa has 53 bits, fewer only at the least exponent. -/
inductive Binary64 where
  | finite (negative : Bool) (mantissa : Nat) (exponent : Int)
  | infinite (negative : Bool)
  | nan
deriving DecidableEq, Repr, Inhabited

namespace Binary64

def minExponent : Int := -1074

def maxExponent : Int := 971

/-- A quotient as the nearest natural number, the even one of two that are equally near. -/
def roundHalfEven (num den : Nat) : Nat :=
  let q := num / den
  let r := num % den
  if den < 2 * r ∨ den = 2 * r ∧ q % 2 = 1 then q + 1 else q

def inUnits (num den : Nat) (e : Int) : Nat × Nat := (num * 2 ^ (-e).toNat, den * 2 ^ e.toNat)

/-- The exponent at which the integral part of `num / den` has 53 bits, or the least exponent. -/
def exponentFor (num den : Nat) : Int :=
  let e := max ((num.log2 : Int) - den.log2 - 53) minExponent
  let (n, d) := inUnits num den e
  if n / d < 2 ^ 53 then e else e + 1

/-- The number of the given mantissa of at most 54 bits, which rounding may have filled up. -/
def ofMantissa (negative : Bool) (mantissa : Nat) (e : Int) : Binary64 :=
  let (m, e) := if mantissa = 2 ^ 53 then (2 ^ 52, e + 1) else (mantissa, e)
  if maxExponent < e then .infinite negative else .finite negative m e

def zero (negative : Bool) : Binary64 := .finite negative 0 minExponent

/-- The number nearest to `num / den`, where `den` is not zero. -/
def ofQuotient (negative : Bool) (num den : Nat) : Binary64 :=
  if num = 0 then zero negative
  else
    let e := exponentFor num den
    let (n, d) := inUnits num den e
    ofMantissa negative (roundHalfEven n d) e

def ofRatio (num : Int) (den : Nat) : Binary64 := ofQuotient (num < 0) num.natAbs den

def ofInt (i : Int) : Binary64 := ofRatio i 1

/-- The number nearest to `digits * 10 ^ exponent`. Beyond the orders of magnitude that binary64
holds the answer is known without computing the power of ten. -/
def ofDecimal (negative : Bool) (digits : Nat) (exponent : Int) : Binary64 :=
  let magnitude := ((Nat.toDigits 10 digits).length : Int) + exponent
  if digits = 0 ∨ magnitude < -330 then zero negative
  else if 310 < magnitude then .infinite negative
  else ofQuotient negative (digits * 10 ^ exponent.toNat) (10 ^ (-exponent).toNat)

/-- The product, rounded. An infinity times zero is no number. -/
def mul : Binary64 → Binary64 → Binary64
  | .finite s m e, .finite s' m' e' =>
    ofQuotient (s != s') (m * m' * 2 ^ (e + e').toNat) (2 ^ (-(e + e')).toNat)
  | .finite s m _, .infinite s' => if m = 0 then .nan else .infinite (s != s')
  | .infinite s, .finite s' m _ => if m = 0 then .nan else .infinite (s != s')
  | .infinite s, .infinite s' => .infinite (s != s')
  | .nan, _ => .nan
  | _, .nan => .nan

def isZero : Binary64 → Bool
  | .finite _ m _ => m = 0
  | _ => false

def magnitude (mantissa : Nat) (exponent : Int) : Nat × Nat :=
  (mantissa * 2 ^ exponent.toNat, 2 ^ (-exponent).toNat)

inductive NotFinite where
  | nan
  | infinite
deriving DecidableEq, Repr

def truncate : Binary64 → Except NotFinite Int
  | .finite negative m e =>
    let (n, d) := magnitude m e
    .ok (if negative then -((n / d : Nat) : Int) else (n / d : Nat))
  | .infinite _ => .error .infinite
  | .nan => .error .nan

def isWhole : Binary64 → Bool
  | .finite _ m e => let (n, d) := magnitude m e; n % d = 0
  | _ => false

def floor (x : Binary64) : Except NotFinite Int :=
  match x with
  | .finite negative m e =>
    let (n, d) := magnitude m e
    .ok ((if negative then -(n : Int) else n) / d)
  | .infinite _ => .error .infinite
  | .nan => .error .nan

end Binary64

end TopicSink
