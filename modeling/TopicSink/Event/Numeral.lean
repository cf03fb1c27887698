import TopicSink.Event.Issue
import TopicSink.Text.Numeral

namespace TopicSink

namespace EventNumeral

def isZero (c : CodePoint) : Bool := c = ('0' : Char)

/-- Reads a plain numeral. One with too many digits is refused before what follows it is seen. -/
def readPlain (t : Text) : Except Flaw Int :=
  let negative := t.head? = some ('-' : Char)
  let body := if negative then t.drop 1 else t
  let digits := body.takeWhile CodePoint.isDigit
  let rest := body.dropWhile CodePoint.isDigit
  if digits.isEmpty || (digits.head?.any isZero && 1 < digits.length) then .error .notNumeral
  else if Numeral.limit < digits.length then .error .tooLarge
  else if !rest.isEmpty then .error .notNumeral
  else .ok (if negative then -(Text.digits digits : Int) else Text.digits digits)

def withoutFraction (t : Text) : Text :=
  let isPoint := fun c : CodePoint => c = '.'
  let whole := t.takeWhile fun c => !isPoint c
  let zeros := (t.dropWhile fun c => !isPoint c).drop 1
  if !zeros.isEmpty && zeros.all isZero then whole else t

/-- The text without leading zeros and underscores between or behind them; the last character stays.
The text begins with a digit. -/
def withoutLeadingZeros (t : Text) : Option Text :=
  match t with
  | [] => none
  | c :: rest =>
    if isZero c then
      match rest.dropWhile fun d : CodePoint => isZero d || d = '_' with
      | [] => t.getLast?.map fun d => [d]
      | significant => some significant
    else if c.isDigit then some t
    else none

def withoutUnderscores (t : Text) : Option Text :=
  if Numeral.wellGrouped t then some (t.filter fun c : CodePoint => c != '_') else none

/-- The plain numeral that a text amounts to. A minus sign behind leading zeros stands for one in
front of them. -/
def plainForm (t : Text) : Option Text := do
  let (negative, body) := Numeral.splitSign (t.trim CodePoint.isBlank)
  let significant ← withoutLeadingZeros (withoutFraction body)
  let digits ← withoutUnderscores significant
  pure (if negative then '-' :: digits else digits)

/-- Reads the integer that a text writes. Only a numeral that is plain as it stands is told to be
too long. -/
def read (t : Text) : Except Flaw Int :=
  match readPlain t with
  | .ok i => .ok i
  | .error .tooLarge => .error .tooLarge
  | .error _ =>
    match (plainForm t).map readPlain with
    | some (.ok i) => .ok i
    | _ => .error .notNumeral

end EventNumeral

end TopicSink
