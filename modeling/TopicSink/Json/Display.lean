import TopicSink.Text.Quoted
import TopicSink.Json.Basic
import TopicSink.Binary64.Shortest

namespace TopicSink

namespace Json

mutual

/-- A value as it is shown inside another one. -/
def inspect : Json → Text
  | null => "None"
  | bool b => if b then "True" else "False"
  | int i => Text.ofInt i
  | float x => x.render "nan" "inf"
  | str t => t.quoted
  | arr [] => "[]"
  | arr (v :: rest) => "[" ++ inspect v ++ inspectRest rest
  | obj [] => "\x7b\x7d"
  | obj (m :: rest) => "\x7b" ++ m.1.quoted ++ ": " ++ inspect m.2 ++ inspectMembers rest

def inspectRest : List Json → Text
  | [] => "]"
  | v :: rest => ", " ++ inspect v ++ inspectRest rest

def inspectMembers : Members → Text
  | [] => "\x7d"
  | m :: rest => ", " ++ m.1.quoted ++ ": " ++ inspect m.2 ++ inspectMembers rest

end

def typeName : Json → Text
  | null => "NoneType"
  | bool _ => "bool"
  | int _ => "int"
  | float _ => "float"
  | str _ => "str"
  | arr _ => "list"
  | obj _ => "dict"

/-- A value as a name or a part of a message. -/
def display : Json → Text
  | str t => t
  | v => inspect v

end Json

end TopicSink
