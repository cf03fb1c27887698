/-!
Texts are sequences of code points. Topics, settings, payloads and log lines all arrive through
escapes that may name one half of a surrogate pair, so a text is wider than a `String`: it holds
every code point below `0x110000`, surrogates included. String and character literals coerce to it.
-/

namespace TopicSink

/-- A code point, surrogates included. -/
abbrev CodePoint := Fin 0x110000

abbrev Text := List CodePoint

namespace CodePoint

theorem toNat_lt (c : Char) : c.toNat < 0x110000 := by
  have valid := c.valid
  have value : c.val.toNat = c.toNat := rfl
  simp only [UInt32.isValidChar, Nat.isValidChar] at valid
  omega

def ofChar (c : Char) : CodePoint := ⟨c.toNat, toNat_lt c⟩

instance : Coe Char CodePoint := ⟨ofChar⟩

def replacement : CodePoint := 0xFFFD

/-- The code point numbered `n`, or the replacement character when there is none. -/
def ofNat (n : Nat) : CodePoint := if h : n < 0x110000 then ⟨n, h⟩ else replacement

def isSurrogate (c : CodePoint) : Bool := 0xD800 ≤ c.val && c.val < 0xE000

def isAscii (c : CodePoint) : Bool := c.val < 0x80

def isDigit (c : CodePoint) : Bool := 0x30 ≤ c.val && c.val ≤ 0x39

def digitValue (c : CodePoint) : Nat := c.val - 0x30

def hexValue? (c : CodePoint) : Option Nat :=
  if 0x30 ≤ c.val ∧ c.val ≤ 0x39 then some (c.val - 0x30)
  else if 0x61 ≤ c.val ∧ c.val ≤ 0x66 then some (c.val - 0x61 + 10)
  else if 0x41 ≤ c.val ∧ c.val ≤ 0x46 then some (c.val - 0x41 + 10)
  else none

def ofHexValue (d : Nat) : CodePoint := ofNat (if d < 10 then 0x30 + d else 0x57 + d)

def utf8Size (c : CodePoint) : Nat :=
  if c.val < 0x80 then 1 else if c.val < 0x800 then 2 else if c.val < 0x10000 then 3 else 4

end CodePoint

namespace Text

def ofString (s : String) : Text := s.toList.map CodePoint.ofChar

instance : Coe String Text := ⟨ofString⟩

/-- Every code point is a character: no surrogate stands in the text. -/
def IsScalar (t : Text) : Prop := ∀ c ∈ t, c.isSurrogate = false

def isAscii (t : Text) : Bool := t.all CodePoint.isAscii

def inBase (base n : Nat) : Text := (Nat.toDigits base n).map CodePoint.ofChar

/-- A natural number in base ten. -/
def ofNat (n : Nat) : Text := inBase 10 n

def ofInt (i : Int) : Text := if i < 0 then '-' :: ofNat i.natAbs else ofNat i.natAbs

def digitsOnto (acc : Nat) (t : Text) : Nat := t.foldl (fun n c => 10 * n + c.digitValue) acc

def digits (t : Text) : Nat := digitsOnto 0 t

def hex : (width : Nat) → (n : Nat) → Text
  | 0, _ => []
  | width + 1, n => hex width (n / 16) ++ [CodePoint.ofHexValue (n % 16)]

def fillFront (c : CodePoint) (width : Nat) (t : Text) : Text :=
  List.replicate (width - t.length) c ++ t

def fillBehind (c : CodePoint) (width : Nat) (t : Text) : Text :=
  t ++ List.replicate (width - t.length) c

def padded (width n : Nat) : Text := (ofNat n).fillFront '0' width

/-- The pieces between separators; one piece more than there are separators. -/
def splitOn (sep : CodePoint) : Text → List Text
  | [] => [[]]
  | c :: t =>
    if c = sep then [] :: splitOn sep t
    else match splitOn sep t with
      | [] => [[c]]
      | piece :: pieces => (c :: piece) :: pieces

def joinWith (sep : Text) : List Text → Text
  | [] => []
  | [t] => t
  | t :: u :: ts => t ++ sep ++ joinWith sep (u :: ts)

def trim (drop : CodePoint → Bool) (t : Text) : Text :=
  ((t.dropWhile drop).reverse.dropWhile drop).reverse

def trimEnd (drop : CodePoint → Bool) (t : Text) : Text := (t.reverse.dropWhile drop).reverse

def nonempty? : Option Text → Option Text
  | some t => if t.isEmpty then none else some t
  | none => none

def utf8Size (t : Text) : Nat := t.foldl (fun n c => n + c.utf8Size) 0

end Text

end TopicSink
