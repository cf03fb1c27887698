import TopicSink.Text.Basic
import TopicSink.Bytes.Basic

namespace TopicSink

namespace Base64

inductive Fault where
  | notAscii
  | leadingPadding
  | strayCharacter
  | dataAfterPadding
  | interruptedPadding
  | missingPadding
  | loneCharacter (characters : Nat)
deriving DecidableEq, Repr

def alphabet : Text := "ABCDEFGHIJKLMNOPQRSTUVWXYZabcdefghijklmnopqrstuvwxyz0123456789+/"

def character (v : Nat) : CodePoint := alphabet.getD v 'A'

def sextet? (c : CodePoint) : Option Nat :=
  if 0x41 ≤ c.val ∧ c.val ≤ 0x5A then some (c.val - 0x41)
  else if 0x61 ≤ c.val ∧ c.val ≤ 0x7A then some (c.val - 0x61 + 26)
  else if 0x30 ≤ c.val ∧ c.val ≤ 0x39 then some (c.val - 0x30 + 52)
  else if c = '+' then some 62
  else if c = '/' then some 63
  else none

/-- Three bytes as four characters; the last one or two are padded. -/
def encode : Bytes → Text
  | [] => []
  | [a] => [character (a.val / 4), character (a.val % 4 * 16), '=', '=']
  | [a, b] =>
    [character (a.val / 4), character (a.val % 4 * 16 + b.val / 16), character (b.val % 16 * 4), '=']
  | a :: b :: c :: rest =>
    character (a.val / 4) :: character (a.val % 4 * 16 + b.val / 16)
      :: character (b.val % 16 * 4 + c.val / 64) :: character (c.val % 64) :: encode rest

/-- Where a reader stands: how many characters of a quad it has seen, the bits of them not yet
written out, the padding seen in this quad and whether any was seen, and all data characters. -/
structure Cursor where
  quad : Nat
  held : Nat
  pads : Nat
  padded : Bool
  characters : Nat

/-- Reads on from a cursor. Padding that does not complete a quad is passed over here: whether it
was enough shows at the end, and whether data follow it shows at the next character. -/
def decodeFrom (cursor : Cursor) : Text → Except Fault Bytes
  | [] =>
    if cursor.quad = 0 then .ok []
    else if cursor.quad = 1 then .error (.loneCharacter cursor.characters)
    else .error .missingPadding
  | c :: rest =>
    if c = '=' then
      let pads := if 2 ≤ cursor.quad then cursor.pads + 1 else cursor.pads
      if 2 ≤ cursor.quad ∧ 4 ≤ cursor.quad + pads then
        if rest.isEmpty then .ok [] else .error .dataAfterPadding
      else decodeFrom { cursor with pads, padded := true } rest
    else match sextet? c with
      | none => .error .strayCharacter
      | some v =>
        let characters := cursor.characters + 1
        if cursor.padded then .error .interruptedPadding
        else if cursor.quad = 0 then decodeFrom ⟨1, v, 0, false, characters⟩ rest
        else if cursor.quad = 1 then
          (decodeFrom ⟨2, v % 16, 0, false, characters⟩ rest).map
            (Byte.ofNat (cursor.held * 4 + v / 16) :: ·)
        else if cursor.quad = 2 then
          (decodeFrom ⟨3, v % 4, 0, false, characters⟩ rest).map
            (Byte.ofNat (cursor.held * 16 + v / 4) :: ·)
        else (decodeFrom ⟨0, 0, 0, false, characters⟩ rest).map (Byte.ofNat (cursor.held * 64 + v) :: ·)

def decode (t : Text) : Except Fault Bytes :=
  if !t.isAscii then .error .notAscii
  else if t.head? = some (CodePoint.ofChar '=') then .error .leadingPadding
  else decodeFrom ⟨0, 0, 0, false, 0⟩ t

def Fault.message : Fault → Text
  | .notAscii => "string argument should contain only ASCII characters"
  | .leadingPadding => "Leading padding not allowed"
  | .strayCharacter => "Only base64 data is allowed"
  | .dataAfterPadding => "Excess data after padding"
  | .interruptedPadding => "Discontinuous padding not allowed"
  | .missingPadding => "Incorrect padding"
  | .loneCharacter n =>
    "Invalid base64-encoded string: number of data characters (" ++ Text.ofNat n
      ++ ") cannot be 1 more than a multiple of 4"

end Base64

end TopicSink
