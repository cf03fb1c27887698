import TopicSink.Text.Basic
import TopicSink.Bytes.Basic

namespace TopicSink

inductive Encoding where
  | utf8
  | utf16 (bigEndian : Bool)
  | utf32 (bigEndian : Bool)
deriving DecidableEq, Repr

namespace Encoding

def name : Encoding → Text
  | .utf8 => "utf-8"
  | .utf16 false => "utf-16-le"
  | .utf16 true => "utf-16-be"
  | .utf32 false => "utf-32-le"
  | .utf32 true => "utf-32-be"

inductive Reason where
  | invalidStart
  | invalidContinuation
  | endOfData
  | truncated
  | outOfRange
deriving DecidableEq, Repr

def Reason.message : Reason → Text
  | .invalidStart => "invalid start byte"
  | .invalidContinuation => "invalid continuation byte"
  | .endOfData => "unexpected end of data"
  | .truncated => "truncated data"
  | .outOfRange => "code point not in range(0x110000)"

structure Fault where
  encoding : Encoding
  position : Nat
  bytes : Bytes
  reason : Reason
deriving DecidableEq, Repr

def Fault.message (f : Fault) : Text :=
  let subject : Text := match f.bytes with
    | [b] => "byte 0x" ++ Text.hex 2 b.val ++ " in position " ++ Text.ofNat f.position
    | bs => "bytes in position " ++ Text.ofNat f.position ++ "-"
        ++ Text.ofNat (f.position + bs.length - 1)
  "'" ++ f.encoding.name ++ "' codec can't decode " ++ subject ++ ": " ++ f.reason.message

def isContinuation (b : Byte) : Bool := 0x80 ≤ b.val && b.val < 0xC0

/-- Whether `b` may follow the first byte of a form of three bytes: shorter forms would do for the
code points below the bound, and above `0xED 0x9F` lie the surrogates. -/
def isSecondOfThree (lenient : Bool) (first b : Byte) : Bool :=
  isContinuation b && (first.val != 0xE0 || 0xA0 ≤ b.val)
    && (lenient || first.val != 0xED || b.val < 0xA0)

def isSecondOfFour (first b : Byte) : Bool :=
  isContinuation b && (first.val != 0xF0 || 0x90 ≤ b.val) && (first.val != 0xF4 || b.val < 0x90)

/-- Reads UTF-8 from the byte at `pos` on. Where the bytes end within a form, those that are there
must still be its beginning; an encoded surrogate is taken as one only when it is complete. -/
def utf8From (lenient : Bool) (pos : Nat) : Bytes → Except Fault Text
  | [] => .ok []
  | b :: rest =>
    let fail (bytes : Bytes) (reason : Reason) : Except Fault Text := .error ⟨.utf8, pos, bytes, reason⟩
    if b.val < 0x80 then (utf8From lenient (pos + 1) rest).map (CodePoint.ofNat b.val :: ·)
    else if b.val < 0xC2 then fail [b] .invalidStart
    else if b.val < 0xE0 then
      match rest with
      | [] => fail [b] .endOfData
      | b₁ :: rest =>
        if isContinuation b₁ then
          (utf8From lenient (pos + 2) rest).map
            (CodePoint.ofNat (b.val % 0x20 * 0x40 + b₁.val % 0x40) :: ·)
        else fail [b] .invalidContinuation
    else if b.val < 0xF0 then
      match rest with
      | [] => fail [b] .endOfData
      | [b₁] =>
        if isSecondOfThree false b b₁ then fail [b, b₁] .endOfData else fail [b] .invalidContinuation
      | b₁ :: b₂ :: rest =>
        if isSecondOfThree lenient b b₁ && isContinuation b₂ then
          (utf8From lenient (pos + 3) rest).map
            (CodePoint.ofNat (b.val % 0x10 * 0x1000 + b₁.val % 0x40 * 0x40 + b₂.val % 0x40) :: ·)
        else if isSecondOfThree false b b₁ then fail [b, b₁] .invalidContinuation
        else fail [b] .invalidContinuation
    else if b.val < 0xF5 then
      match rest with
      | [] => fail [b] .endOfData
      | [b₁] =>
        if isSecondOfFour b b₁ then fail [b, b₁] .endOfData else fail [b] .invalidContinuation
      | [b₁, b₂] =>
        if !isSecondOfFour b b₁ then fail [b] .invalidContinuation
        else if isContinuation b₂ then fail [b, b₁, b₂] .endOfData
        else fail [b, b₁] .invalidContinuation
      | b₁ :: b₂ :: b₃ :: rest =>
        if !isSecondOfFour b b₁ then fail [b] .invalidContinuation
        else if !isContinuation b₂ then fail [b, b₁] .invalidContinuation
        else if !isContinuation b₃ then fail [b, b₁, b₂] .invalidContinuation
        else
          (utf8From lenient (pos + 4) rest).map
            (CodePoint.ofNat (b.val % 0x08 * 0x40000 + b₁.val % 0x40 * 0x1000 + b₂.val % 0x40 * 0x40
              + b₃.val % 0x40) :: ·)
    else fail [b] .invalidStart

def unit16 (bigEndian : Bool) (a b : Byte) : Nat :=
  if bigEndian then a.val * 0x100 + b.val else b.val * 0x100 + a.val

def unit32 (bigEndian : Bool) (a b c d : Byte) : Nat :=
  if bigEndian then unit16 true a b * 0x10000 + unit16 true c d
  else unit16 false c d * 0x10000 + unit16 false a b

def isHighSurrogate (u : Nat) : Bool := 0xD800 ≤ u && u < 0xDC00

def isLowSurrogate (u : Nat) : Bool := 0xDC00 ≤ u && u < 0xE000

def joinSurrogates (high low : Nat) : CodePoint :=
  CodePoint.ofNat (0x10000 + (high - 0xD800) * 0x400 + (low - 0xDC00))

def units16 (bigEndian : Bool) (pos : Nat) : Bytes → Except Fault (List Nat)
  | [] => .ok []
  | [a] => .error ⟨.utf16 bigEndian, pos, [a], .truncated⟩
  | a :: b :: rest => (units16 bigEndian (pos + 2) rest).map (unit16 bigEndian a b :: ·)

/-- The text of 16-bit units: pairs are joined, and halves without a partner stay. -/
def ofUnits16 : List Nat → Text
  | [] => []
  | [u] => [CodePoint.ofNat u]
  | u :: v :: rest =>
    if isHighSurrogate u && isLowSurrogate v then joinSurrogates u v :: ofUnits16 rest
    else CodePoint.ofNat u :: ofUnits16 (v :: rest)

def utf32From (bigEndian : Bool) (pos : Nat) : Bytes → Except Fault Text
  | [] => .ok []
  | a :: b :: c :: d :: rest =>
    let u := unit32 bigEndian a b c d
    if u < 0x110000 then (utf32From bigEndian (pos + 4) rest).map (CodePoint.ofNat u :: ·)
    else .error ⟨.utf32 bigEndian, pos, [a, b, c, d], .outOfRange⟩
  | bytes => .error ⟨.utf32 bigEndian, pos, bytes, .truncated⟩

def decodeFrom (e : Encoding) (pos : Nat) (bytes : Bytes) : Except Fault Text :=
  match e with
  | .utf8 => utf8From true pos bytes
  | .utf16 bigEndian => (units16 bigEndian pos bytes).map ofUnits16
  | .utf32 bigEndian => utf32From bigEndian pos bytes

/-- The encoding of a document without a byte order mark, whose first two characters are ASCII. -/
def ofZeros (bytes : Bytes) : Encoding :=
  match bytes with
  | a :: b :: c :: d :: _ =>
    if a.val = 0 then if b.val = 0 then .utf32 true else .utf16 true
    else if b.val = 0 then if c.val = 0 ∧ d.val = 0 then .utf32 false else .utf16 false
    else .utf8
  | [a, b] => if a.val = 0 then .utf16 true else if b.val = 0 then .utf16 false else .utf8
  | _ => .utf8

def detect (bytes : Bytes) : Encoding × Nat :=
  if [0x00, 0x00, 0xFE, 0xFF].isPrefixOf bytes then (.utf32 true, 4)
  else if [0xFF, 0xFE, 0x00, 0x00].isPrefixOf bytes then (.utf32 false, 4)
  else if [0xFE, 0xFF].isPrefixOf bytes then (.utf16 true, 2)
  else if [0xFF, 0xFE].isPrefixOf bytes then (.utf16 false, 2)
  else if [0xEF, 0xBB, 0xBF].isPrefixOf bytes then (.utf8, 3)
  else (ofZeros bytes, 0)

/-- The text of a document. Positions count from the first byte, but in UTF-8 from the first one
after the mark. -/
def decodeDocument (bytes : Bytes) : Except Fault Text :=
  let (e, mark) := detect bytes
  e.decodeFrom (if e = .utf8 then 0 else mark) (bytes.drop mark)

def decodeUtf8 (bytes : Bytes) : Except Fault Text := utf8From false 0 bytes

def utf8Point (c : CodePoint) : Bytes :=
  let n := c.val
  if n < 0x80 then [Byte.ofNat n]
  else if n < 0x800 then [Byte.ofNat (0xC0 + n / 0x40), Byte.ofNat (0x80 + n % 0x40)]
  else if n < 0x10000 then
    [Byte.ofNat (0xE0 + n / 0x1000), Byte.ofNat (0x80 + n / 0x40 % 0x40),
      Byte.ofNat (0x80 + n % 0x40)]
  else
    [Byte.ofNat (0xF0 + n / 0x40000), Byte.ofNat (0x80 + n / 0x1000 % 0x40),
      Byte.ofNat (0x80 + n / 0x40 % 0x40), Byte.ofNat (0x80 + n % 0x40)]

def encodeUtf8 (t : Text) : Bytes := t.flatMap utf8Point

end Encoding

end TopicSink
