import TopicSink.Text.Basic

namespace TopicSink

namespace CodePoint

/-- The characters beyond ASCII whose upper case is an ASCII text, with that text. -/
def asciiUppers : List (Nat × String) :=
  [(0xDF, "SS"), (0x131, "I"), (0x17F, "S"), (0xFB00, "FF"), (0xFB01, "FI"), (0xFB02, "FL"),
   (0xFB03, "FFI"), (0xFB04, "FFL"), (0xFB05, "ST"), (0xFB06, "ST")]

/-- The upper case of a code point, where it is an ASCII text. -/
def upper (c : CodePoint) : Text :=
  if 0x61 ≤ c.val ∧ c.val ≤ 0x7A then [CodePoint.ofNat (c.val - 0x20)]
  else match asciiUppers.find? fun e => e.1 = c.val with
    | some e => Text.ofString e.2
    | none => [c]

/-- The lower case of a code point, where it is ASCII: the Kelvin sign has one too. -/
def lower (c : CodePoint) : CodePoint :=
  if 0x41 ≤ c.val ∧ c.val ≤ 0x5A then CodePoint.ofNat (c.val + 0x20)
  else if c.val = 0x212A then 'k'
  else c

end CodePoint

namespace Text

def upper (t : Text) : Text := t.flatMap CodePoint.upper

def lower (t : Text) : Text := t.map CodePoint.lower

end Text

end TopicSink
