import TopicSink.Text.Basic

namespace TopicSink

def inRanges (ranges : List (Nat × Nat)) (n : Nat) : Bool :=
  ranges.any fun r => r.1 ≤ n && n ≤ r.2

namespace CodePoint

def blankRanges : List (Nat × Nat) :=
  [(0x09, 0x0D), (0x20, 0x20), (0x85, 0x85), (0xA0, 0xA0), (0x1680, 0x1680), (0x2000, 0x200A),
   (0x2028, 0x2029), (0x202F, 0x202F), (0x205F, 0x205F), (0x3000, 0x3000)]

/-- White space around the numerals of a message. -/
def isBlank (c : CodePoint) : Bool := inRanges blankRanges c.val

/-- White space around the parts of a setting: the information separators count too. -/
def isSpace (c : CodePoint) : Bool := c.isBlank || 0x1C ≤ c.val && c.val ≤ 0x1F

end CodePoint

end TopicSink
