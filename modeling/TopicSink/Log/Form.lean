import TopicSink.Binary64.Places
import TopicSink.Json.Display
import TopicSink.Text.Case

namespace TopicSink

structure Flags where
  /-- fill behind the text instead of before it -/
  left : Bool
  /-- write a plus sign before a number that is not below zero -/
  plus : Bool
  /-- write a blank before a number that is not below zero -/
  blank : Bool
  /-- write the mark of a base, and keep a point and zeros that say nothing -/
  alternate : Bool
  /-- fill a number with zeros behind its sign -/
  zeros : Bool
deriving DecidableEq, Repr

namespace Flags

def none : Flags := ⟨false, false, false, false, false⟩

def with? (f : Flags) (c : CodePoint) : Option Flags :=
  if c = '-' then some { f with left := true }
  else if c = '+' then some { f with plus := true }
  else if c = ' ' then some { f with blank := true }
  else if c = '#' then some { f with alternate := true }
  else if c = '0' then some { f with zeros := true }
  else Option.none

def sign (f : Flags) (negative : Bool) : Text :=
  if negative then "-" else if f.plus then "+" else if f.blank then " " else ""

end Flags

/-- A value before it is filled up: a text, or a number by its sign, the mark of its base, and its
digits. -/
inductive Written where
  | text (t : Text)
  | number (negative : Bool) (mark digits : Text)
deriving DecidableEq, Repr

def Written.fill (f : Flags) (width : Nat) : Written → Text
  | .text t => if f.left then t.fillBehind ' ' width else t.fillFront ' ' width
  | .number negative mark digits =>
    let lead := f.sign negative ++ mark
    if f.left then (lead ++ digits).fillBehind ' ' width
    else if f.zeros then lead ++ digits.fillFront '0' (width - lead.length)
    else (lead ++ digits).fillFront ' ' width

inductive Pointed where
  | scientific
  | fixed
  | general
deriving DecidableEq, Repr

inductive Form where
  | display
  | inspect
  | inspectAscii
  | decimal
  | octal
  | hexadecimal (capital : Bool)
  | character
  | pointed (way : Pointed) (capital : Bool)
deriving DecidableEq, Repr

namespace Form

def letters : List (Char × Form) :=
  [('s', .display), ('r', .inspect), ('a', .inspectAscii), ('d', .decimal), ('i', .decimal),
   ('u', .decimal), ('o', .octal), ('x', .hexadecimal false), ('X', .hexadecimal true),
   ('c', .character), ('e', .pointed .scientific false), ('E', .pointed .scientific true),
   ('f', .pointed .fixed false), ('F', .pointed .fixed true), ('g', .pointed .general false),
   ('G', .pointed .general true)]

def ofLetter? (c : CodePoint) : Option Form :=
  (letters.find? fun e => CodePoint.ofChar e.1 = c).map Prod.snd

def integer? : Json → Option Int
  | .int i => some i
  | .bool b => some (if b then 1 else 0)
  | _ => none

def whole? : Json → Option Int
  | .float x => x.truncate.toOption
  | v => integer? v

/-- A number as binary64, unless it is an integer beyond its range. -/
def real? : Json → Option Binary64
  | .float x => some x
  | v =>
    match (integer? v).map Binary64.ofInt with
    | some (.infinite _) => none
    | r => r

def codePoint? : Json → Option CodePoint
  | .str [c] => some c
  | v =>
    match integer? v with
    | some i => if 0 ≤ i ∧ i < 0x110000 then some (CodePoint.ofNat i.toNat) else none
    | none => none

/-- The text of a value cut off behind a number of code points, unless one of its integers has too
many digits to be written. -/
def texted (precision : Option Nat) (text : Json → Text) (v : Json) : Option Written :=
  if v.writable then
    some (.text (match precision with
      | some n => (text v).take n
      | none => text v))
  else none

def maxDigits : Nat := 2 ^ 31 - 4

def based (precision : Option Nat) (base : Nat) (mark : Text) (i : Int) : Option Written :=
  let least := precision.getD 0
  if maxDigits < least then none
  else some (.number (i < 0) mark ((Text.inBase base i.natAbs).fillFront '0' least))

def capitals (capital : Bool) (t : Text) : Text := if capital then t.upper else t

/-- A number with a point, by its sign and digits. What is no number has no sign. -/
def pointedNumber (f : Flags) (way : Pointed) (precision : Nat) (capital : Bool) :
    Binary64 → Written
  | .finite negative m e =>
    let digits := match way with
      | .scientific => Binary64.scientific f.alternate precision m e
      | .fixed => Binary64.fixed f.alternate precision m e
      | .general => Binary64.general f.alternate precision m e
    .number negative [] (capitals capital digits)
  | .infinite negative => .number negative [] (capitals capital "inf")
  | .nan => .number false [] (capitals capital "nan")

def write (f : Flags) (precision : Option Nat) (form : Form) (v : Json) : Option Written :=
  match form with
  | .display => texted precision Json.display v
  | .inspect => texted precision Json.inspect v
  | .inspectAscii => texted precision (fun v => v.inspect.asciiOnly) v
  | .decimal => (whole? v).bind fun i => if Numeral.fits i then based precision 10 [] i else none
  | .octal => (integer? v).bind (based precision 8 (if f.alternate then "0o" else ""))
  | .hexadecimal capital =>
    match (integer? v).bind (based precision 16 (if f.alternate then "0x" else "")) with
    | some (.number negative mark digits) =>
      some (.number negative (capitals capital mark) (capitals capital digits))
    | other => other
  | .character => (codePoint? v).map fun c => .text [c]
  | .pointed way capital => (real? v).map (pointedNumber f way (precision.getD 6) capital)

end Form

end TopicSink
