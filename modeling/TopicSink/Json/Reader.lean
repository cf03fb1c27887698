import TopicSink.Json.Basic

namespace TopicSink

namespace Json

inductive Expected where
  | value
  | propertyName
  | colon
  | comma
  | endOfText
  | plainCharacter
  | closingQuote
  | knownEscape
  | unicodeEscape
deriving DecidableEq, Repr

def Expected.message : Expected → Text
  | .value => "Expecting value"
  | .propertyName => "Expecting property name enclosed in double quotes"
  | .colon => "Expecting ':' delimiter"
  | .comma => "Expecting ',' delimiter"
  | .endOfText => "Extra data"
  | .plainCharacter => "Invalid control character at"
  | .closingQuote => "Unterminated string starting at"
  | .knownEscape => "Invalid \\escape"
  | .unicodeEscape => "Invalid \\uXXXX escape"

inductive Container where
  | array
  | object
deriving DecidableEq, Repr

def Container.name : Container → Text
  | .array => "array"
  | .object => "object"

/-- How much a document may hold, where there is a limit: digits in an integer, and arrays and
objects inside each other. -/
structure Limits where
  digits : Option Nat
  nesting : Option Nat

def Limits.none : Limits := ⟨Option.none, Option.none⟩

/-- The limits inside one more container, unless they allow for none. -/
def Limits.enter (limits : Limits) : Option Limits :=
  match limits.nesting with
  | Option.none => some limits
  | some 0 => Option.none
  | some (n + 1) => some { limits with nesting := some n }

/-- Why reading stops, with the number of code points that are left from there on. -/
inductive Stop where
  | malformed (expected : Expected) (left : Nat)
  | numeralTooLong (digits : Nat)
  | tooDeep (container : Container)
deriving DecidableEq, Repr

inductive Fault where
  | malformed (expected : Expected) (line column position : Nat)
  | numeralTooLong (digits : Nat)
  | tooDeep (container : Container)
deriving DecidableEq, Repr

def Stop.inDocument (document : Text) : Stop → Fault
  | .malformed expected left =>
    let before := document.take (document.length - left)
    let newline := CodePoint.ofChar '\n'
    .malformed expected (before.count newline + 1)
      ((before.reverse.takeWhile fun c => c != newline).length + 1) before.length
  | .numeralTooLong digits => .numeralTooLong digits
  | .tooDeep container => .tooDeep container

abbrev Read (α : Type) := Except Stop (α × Text)

def isBlank (c : CodePoint) : Bool := c = ' ' || c = '\t' || c = '\n' || c = '\r'

def skipBlanks (t : Text) : Text := t.dropWhile isBlank

def escaped? (c : CodePoint) : Option CodePoint :=
  if c = '"' ∨ c = '\\' ∨ c = '/' then some c
  else if c = 'b' then some '\x08'
  else if c = 'f' then some '\x0C'
  else if c = 'n' then some '\n'
  else if c = 'r' then some '\r'
  else if c = 't' then some '\t'
  else none

def unit? (a b c d : CodePoint) : Option Nat :=
  match a.hexValue?, b.hexValue?, c.hexValue?, d.hexValue? with
  | some a, some b, some c, some d => some (((a * 16 + b) * 16 + c) * 16 + d)
  | _, _, _, _ => none

/-- The code point of a pair of escapes, the unit `high` and the escape `s t a b c d`. -/
def pair? (high : Nat) (s t a b c d : CodePoint) : Option CodePoint :=
  if 0xD800 ≤ high ∧ high < 0xDC00 ∧ s = '\\' ∧ t = 'u' then
    match unit? a b c d with
    | some low =>
      if 0xDC00 ≤ low ∧ low < 0xE000 then
        some (CodePoint.ofNat (0x10000 + (high - 0xD800) * 0x400 + (low - 0xDC00)))
      else none
    | none => none
  else none

/-- Reads a string from behind its opening quote, where `start` code points were left. -/
def stringFrom (start : Nat) : Text → Read Text
  | [] => .error (.malformed .closingQuote start)
  | c :: rest =>
    let plus (c : CodePoint) (r : Read Text) : Read Text := r.map fun p => (c :: p.1, p.2)
    if c = '"' then .ok ([], rest)
    else if c = '\\' then
      match rest with
      | [] => .error (.malformed .closingQuote start)
      | e :: rest =>
        if e = 'u' then
          match rest with
          | h₁ :: h₂ :: h₃ :: h₄ :: rest =>
            match unit? h₁ h₂ h₃ h₄ with
            | none => .error (.malformed .unicodeEscape (rest.length + 5))
            | some u =>
              match rest with
              | [] => .error (.malformed .unicodeEscape 5)
              | s :: t :: a :: b :: c :: d :: q :: rest =>
                match pair? u s t a b c d with
                | some p => plus p (stringFrom start (q :: rest))
                | none =>
                  plus (CodePoint.ofNat u)
                    (stringFrom start (s :: t :: a :: b :: c :: d :: q :: rest))
              | q :: rest => plus (CodePoint.ofNat u) (stringFrom start (q :: rest))
          | short => .error (.malformed .unicodeEscape (short.length + 1))
        else match escaped? e with
          | some p => plus p (stringFrom start rest)
          | none => .error (.malformed .knownEscape (rest.length + 2))
    else if c.val < 0x20 then .error (.malformed .plainCharacter (rest.length + 1))
    else plus c (stringFrom start rest)

def splitDigits (t : Text) : Text × Text := (t.takeWhile CodePoint.isDigit, t.dropWhile CodePoint.isDigit)

/-- The digits of an integral part, a leading zero alone, and the rest. -/
def integral? (t : Text) : Option (Text × Text) :=
  match t with
  | c :: rest =>
    if c = '0' then some ([c], rest) else if c.isDigit then some (splitDigits t) else none
  | [] => none

def fraction (t : Text) : Option Text × Text :=
  match t with
  | c :: rest =>
    if c = '.' then
      match splitDigits rest with
      | ([], _) => (none, t)
      | (digits, rest) => (some digits, rest)
    else (none, t)
  | [] => (none, t)

def exponentSign (t : Text) : Bool × Text :=
  match t with
  | c :: rest => if c = '-' then (true, rest) else if c = '+' then (false, rest) else (false, t)
  | [] => (false, t)

def exponent (t : Text) : Option Int × Text :=
  match t with
  | c :: rest =>
    if c = 'e' ∨ c = 'E' then
      let (negative, rest) := exponentSign rest
      match splitDigits rest with
      | ([], _) => (none, t)
      | (digits, rest) =>
        (some (if negative then -(Text.digits digits : Int) else Text.digits digits), rest)
    else (none, t)
  | [] => (none, t)

def number? (limits : Limits) (negative : Bool) (start : Nat) (t : Text) : Read Json :=
  match integral? t with
  | none => .error (.malformed .value start)
  | some (whole, rest) =>
    let (fractional, rest) := fraction rest
    let (power, rest) := exponent rest
    match fractional, power with
    | none, none =>
      if limits.digits.any fun n => n < whole.length then .error (.numeralTooLong whole.length)
      else .ok (.int (if negative then -(Text.digits whole : Int) else Text.digits whole), rest)
    | _, _ =>
      let behind := fractional.getD []
      .ok (.float (Binary64.ofDecimal negative (Text.digits (whole ++ behind))
        (power.getD 0 - behind.length)), rest)

def words : List (Text × Json) :=
  [("null", .null), ("true", .bool true), ("false", .bool false), ("NaN", .float .nan),
   ("Infinity", .float (.infinite false)), ("-Infinity", .float (.infinite true))]

def scalar (limits : Limits) (t : Text) : Read Json :=
  match words.find? fun w => w.1.isPrefixOf t with
  | some (word, v) => .ok (v, t.drop word.length)
  | none =>
    match t with
    | c :: rest =>
      if c = '-' then number? limits true t.length rest else number? limits false t.length t
    | [] => .error (.malformed .value 0)

/-- The members of an object from all that were read, in order. -/
def ofMembers (members : Members) : Json :=
  .obj (members.foldl (fun acc m => insert m.1 m.2 acc) [])

def memberName (t : Text) : Read Text :=
  match t with
  | [] => .error (.malformed .propertyName 0)
  | c :: rest =>
    if c = '"' then
      match stringFrom t.length rest with
      | .error stop => .error stop
      | .ok (name, rest) =>
        match skipBlanks rest with
        | [] => .error (.malformed .colon 0)
        | d :: rest =>
          if d = ':' then .ok (name, skipBlanks rest)
          else .error (.malformed .colon (rest.length + 1))
    else .error (.malformed .propertyName t.length)

mutual

def valueFrom (limits : Limits) : (fuel : Nat) → Text → Read Json
  | 0, t => .error (.malformed .value t.length)
  | fuel + 1, t =>
    match t with
    | [] => .error (.malformed .value 0)
    | c :: rest =>
      if c = '"' then (stringFrom t.length rest).map fun p => (.str p.1, p.2)
      else if c = '[' then
        match limits.enter with
        | none => .error (.tooDeep .array)
        | some limits => arrayFrom limits fuel (skipBlanks rest)
      else if c = '{' then
        match limits.enter with
        | none => .error (.tooDeep .object)
        | some limits => objectFrom limits fuel (skipBlanks rest)
      else scalar limits t

def arrayFrom (limits : Limits) : (fuel : Nat) → Text → Read Json
  | 0, t => .error (.malformed .value t.length)
  | _, [] => .error (.malformed .value 0)
  | fuel + 1, c :: rest =>
    if c = ']' then .ok (.arr [], rest)
    else (elementsFrom limits fuel (c :: rest)).map fun p => (.arr p.1, p.2)

def objectFrom (limits : Limits) : (fuel : Nat) → Text → Read Json
  | 0, t => .error (.malformed .propertyName t.length)
  | _, [] => .error (.malformed .propertyName 0)
  | fuel + 1, c :: rest =>
    if c = '}' then .ok (.obj [], rest)
    else (membersFrom limits fuel (c :: rest)).map fun p => (ofMembers p.1, p.2)

def elementsFrom (limits : Limits) : (fuel : Nat) → Text → Read (List Json)
  | 0, t => .error (.malformed .value t.length)
  | fuel + 1, t =>
    match valueFrom limits fuel t with
    | .error stop => .error stop
    | .ok (v, rest) =>
      match skipBlanks rest with
      | [] => .error (.malformed .comma 0)
      | c :: rest =>
        if c = ']' then .ok ([v], rest)
        else if c = ',' then
          (elementsFrom limits fuel (skipBlanks rest)).map fun p => (v :: p.1, p.2)
        else .error (.malformed .comma (rest.length + 1))

def membersFrom (limits : Limits) : (fuel : Nat) → Text → Read Members
  | 0, t => .error (.malformed .propertyName t.length)
  | fuel + 1, t =>
    match memberName t with
    | .error stop => .error stop
    | .ok (name, rest) =>
      match valueFrom limits fuel rest with
      | .error stop => .error stop
      | .ok (v, rest) =>
        match skipBlanks rest with
        | [] => .error (.malformed .comma 0)
        | c :: rest =>
          if c = '}' then .ok ([(name, v)], rest)
          else if c = ',' then
            (membersFrom limits fuel (skipBlanks rest)).map fun p => ((name, v) :: p.1, p.2)
          else .error (.malformed .comma (rest.length + 1))

end

/-- Reads a value and nothing after it but blanks. Three steps pass at least one code point, so
three times the length is fuel enough. -/
def document (limits : Limits) (t : Text) : Except Stop Json :=
  match valueFrom limits (3 * t.length + 3) (skipBlanks t) with
  | .error stop => .error stop
  | .ok (v, rest) =>
    match skipBlanks rest with
    | [] => .ok v
    | _ :: rest => .error (.malformed .endOfText (rest.length + 1))

def read (limits : Limits) (t : Text) : Except Fault Json :=
  match document limits t with
  | .ok v => .ok v
  | .error stop => .error (stop.inDocument t)

def tooDeepTask (container : Container) : Text :=
  "decoding a JSON " ++ container.name ++ " from a unicode string"

def malformedMessage (expected : Expected) (line column position : Nat) : Text :=
  expected.message ++ ": line " ++ Text.ofNat line ++ " column " ++ Text.ofNat column ++ " (char "
    ++ Text.ofNat position ++ ")"

end Json

end TopicSink
