import TopicSink.Json.Basic
import TopicSink.Binary64.Shortest

namespace TopicSink

namespace Json

structure Style where
  item : Text
  colon : Text

def Style.compact : Style := ⟨",", ":"⟩

def Style.spaced : Style := ⟨", ", ": "⟩

def unitEscape (u : Nat) : Text := "\\u" ++ Text.hex 4 u

def escape (c : CodePoint) : Text :=
  if c = '"' then "\\\""
  else if c = '\\' then "\\\\"
  else if c = '\n' then "\\n"
  else if c = '\r' then "\\r"
  else if c = '\t' then "\\t"
  else if c.val = 0x08 then "\\b"
  else if c.val = 0x0C then "\\f"
  else if 0x20 ≤ c.val ∧ c.val < 0x7F then [c]
  else if c.val < 0x10000 then unitEscape c.val
  else unitEscape (0xD800 + (c.val - 0x10000) / 0x400) ++ unitEscape (0xDC00 + (c.val - 0x10000) % 0x400)

def string (t : Text) : Text := "\"" ++ t.flatMap escape ++ "\""

/-- A binary64 number; what is none and the infinities are written by name. -/
def number (x : Binary64) : Text := x.render "NaN" "Infinity"

mutual

def print (style : Style) : Json → Text
  | null => "null"
  | bool b => if b then "true" else "false"
  | int i => Text.ofInt i
  | float x => number x
  | str t => string t
  | arr [] => "[]"
  | arr (v :: rest) => "[" ++ print style v ++ printRest style rest
  | obj [] => "\x7b\x7d"
  | obj (m :: rest) => "\x7b" ++ string m.1 ++ style.colon ++ print style m.2 ++ printMembers style rest

def printRest (style : Style) : List Json → Text
  | [] => "]"
  | v :: rest => style.item ++ print style v ++ printRest style rest

def printMembers (style : Style) : Members → Text
  | [] => "\x7d"
  | m :: rest =>
    style.item ++ string m.1 ++ style.colon ++ print style m.2 ++ printMembers style rest

end

def compact (v : Json) : Text := print Style.compact v

def spaced (v : Json) : Text := print Style.spaced v

end Json

end TopicSink
