import TopicSink.Text.Case

namespace TopicSink

namespace Address

/-- Why an address cannot be used. The last three name a host that no client takes. -/
inductive Fault where
  | unparsable
  | incomplete
  /-- a percent sign stands in the host without two hexadecimal digits behind it -/
  | invalidHost (host : Text)
  /-- the host escapes a control character -/
  | controlInHost (host escape : Text)
  /-- the host is not ASCII -/
  | foreignHost
deriving DecidableEq, Repr

/-- A host: a name, or eight groups of 16 bits between brackets, perhaps with a zone, which begins
with its percent sign. An address of four numbers is a name. -/
inductive Host where
  | name (t : Text)
  | grouped (groups zone : Text)
deriving DecidableEq, Repr

structure Parts where
  scheme : Option Text
  host : Host
  port : Option Nat
deriving DecidableEq, Repr

def isHex (c : CodePoint) : Bool := c.hexValue?.isSome

def isLetter (c : CodePoint) : Bool :=
  (0x41 ≤ c.val && c.val ≤ 0x5A) || (0x61 ≤ c.val && c.val ≤ 0x7A)

def inScheme (c : CodePoint) : Bool :=
  isLetter c || c.isDigit || c = '+' || c = '-' || c = '.'

def splitScheme (t : Text) : Option Text × Text :=
  let scheme := t.takeWhile inScheme
  let rest := t.dropWhile inScheme
  if t.head?.any isLetter && rest.head? = some (':' : Char) then
    (some (Text.lower scheme), rest.drop 1)
  else (none, t)

/-- The address with the two slashes that it may leave out at its beginning. It may not where it
begins with a slash or with what is read as a scheme without dots. -/
def withSlashes (t : Text) : Text :=
  let hasScheme := match splitScheme t with
    | (some scheme, _) => !scheme.contains (CodePoint.ofChar '.')
    | (none, _) => false
  if hasScheme || t.head? = some ('/' : Char) then t else "//" ++ t

def endsAuthority (c : CodePoint) : Bool := c = '\\' || c = '/' || c = '?' || c = '#'

def authority (t : Text) : Text :=
  match t with
  | c :: d :: rest =>
    if c = '/' ∧ d = '/' then rest.takeWhile fun c => !endsAuthority c else []
  | _ => []

/-- What follows the last at sign, or all of a text without one. -/
def withoutUser (t : Text) : Text := (t.reverse.takeWhile fun c : CodePoint => c != '@').reverse

def isEscapedRun (plain : CodePoint → Bool) : Text → Bool
  | [] => true
  | c :: t =>
    if c = '%' then
      match t with
      | a :: b :: rest => isHex a && isHex b && isEscapedRun plain rest
      | _ => false
    else plain c && isEscapedRun plain t

def isControl (c : CodePoint) : Bool := c.val ≤ 0x20 || c.val = 0x7F

def inName (c : CodePoint) : Bool := !(c = '[' || c = ']' || c = ':' || isControl c)

def escaped? : Text → Option Nat
  | a :: b :: _ => do
    let high ← a.hexValue?
    let low ← b.hexValue?
    pure (16 * high + low)
  | _ => none

def controlEscape? : Text → Option Text
  | [] => none
  | c :: t =>
    if c = '%' ∧ (escaped? t).any fun n => n < 0x20 || n = 0x7F then some (c :: t.take 2)
    else controlEscape? t

def capitalEscapes : Text → Text
  | c :: a :: b :: rest =>
    if c = '%' then c :: Text.upper [a, b] ++ capitalEscapes rest
    else c :: capitalEscapes (a :: b :: rest)
  | t => t

def isDotted (t : Text) : Bool :=
  let parts := t.splitOn '.'
  parts.length = 4 && parts.all fun p =>
    0 < p.length && p.length ≤ 3 && p.all CodePoint.isDigit

def isGroup (t : Text) : Bool := 0 < t.length && t.length ≤ 4 && t.all isHex

/-- The number of 16-bit groups that the parts between colons stand for. The last one may be an
address of four numbers, which stands for two. -/
def groups? : List Text → Option Nat
  | [] => some 0
  | [p] => if isDotted p then some 2 else if isGroup p then some 1 else none
  | p :: q :: rest => if isGroup p then (groups? (q :: rest)).map (· + 1) else none

def splitAtColons : Text → Text × Option Text
  | [] => ([], none)
  | [c] => ([c], none)
  | c :: d :: rest =>
    if c = ':' ∧ d = ':' then ([], some rest)
    else
      let (before, after) := splitAtColons (d :: rest)
      (c :: before, after)

def groupsOf? (t : Text) : Option Nat := if t.isEmpty then some 0 else groups? (t.splitOn ':')

/-- Whether a text is an address of eight groups. A pair of colons stands for one group at least,
and what is before it holds no address of four numbers. -/
def isGrouped (t : Text) : Bool :=
  match splitAtColons t with
  | (_, none) => groupsOf? t = some 8
  | (before, some after) =>
    match groupsOf? before, groupsOf? after with
    | some n, some m =>
      n + m ≤ 7 && !before.contains (CodePoint.ofChar '.')
    | _, _ => false

def inZone (c : CodePoint) : Bool :=
  isLetter c || c.isDigit || c = '.' || c = '_' || c = '-' || c = '~'

/-- The host that a text between brackets is: an address of eight groups, perhaps with a percent
sign and a zone behind it. -/
def grouped? (t : Text) : Option Host :=
  let isPercent := fun c : CodePoint => c = '%'
  let groups := t.takeWhile fun c => !isPercent c
  let zone := t.dropWhile fun c => !isPercent c
  if isGrouped groups && (zone.isEmpty || 1 < zone.length && isEscapedRun inZone (zone.drop 1)) then
    some (.grouped groups zone)
  else none

/-- A zone behind a plain percent sign, which may have been written as an escape of itself. A zone
that ends there is named by the two digits. -/
def normalZone : Text → Text
  | [] => []
  | sign :: zone =>
    let escapesSign := zone.take 2 = "25" ∧ 2 < zone.length
    sign :: capitalEscapes (if escapesSign then zone.drop 2 else zone)

def portNumber? (t : Text) : Option Nat :=
  let isZero := fun c : CodePoint => c = '0'
  if t.all CodePoint.isDigit && (t.dropWhile isZero).length ≤ 5 && Text.digits t < 0x10000 then
    some (Text.digits t)
  else none

def portAfter? (t : Text) : Option (Option Nat) :=
  match t with
  | [] => some none
  | c :: port =>
    if c != ':' then none
    else if port.isEmpty then some none
    else (portNumber? port).map some

def hostAndPort? (t : Text) : Option (Host × Option Nat) :=
  if t.head? = some ('[' : Char) then
    let inBrackets := fun c : CodePoint => c != ']'
    match t.dropWhile inBrackets with
    | _ :: rest => do
      let host ← grouped? ((t.takeWhile inBrackets).drop 1)
      let port ← portAfter? rest
      pure (host, port)
    | [] => none
  else
    let inHost := fun c : CodePoint => c != ':'
    let name := t.takeWhile inHost
    if isEscapedRun inName name then
      (portAfter? (t.dropWhile inHost)).map fun port => (.name name, port)
    else none

/-- Whether a scheme, or the lack of one, is that of web addresses, which hold to more rules than
others: their names are ASCII and escape no control characters. -/
def isWeb (scheme : Option Text) : Bool :=
  scheme = none || scheme = some "http" || scheme = some "https"

def Host.isWeb : Host → Bool
  | .name t => t.isAscii && (controlEscape? t).isNone
  | .grouped .. => true

def parse? (t : Text) : Option Parts :=
  let (scheme, rest) := splitScheme (withSlashes t)
  (hostAndPort? (withoutUser (authority rest))).bind fun (host, port) =>
    if isWeb scheme && !host.isWeb then none else some ⟨scheme, host, port⟩

def Host.isEmpty : Host → Bool
  | .name t => List.isEmpty t
  | .grouped .. => false

def Parts.isComplete (a : Parts) : Bool :=
  a.scheme.isSome && !a.host.isEmpty && (a.port.isSome || a.scheme = some "https")

/-- The host without brackets, as a client takes it. A web address has its groups in lower case and
its zone in the normal form. -/
def Parts.hostText (a : Parts) : Text :=
  match a.host with
  | .name t => t
  | .grouped groups zone =>
    if isWeb a.scheme then Text.lower groups ++ normalZone zone else groups ++ zone

def hostFault? (host : Text) : Option Fault :=
  if !isEscapedRun (fun _ => true) host then some (.invalidHost host)
  else match controlEscape? host with
    | some escape => some (.controlInHost host escape)
    | none => if host.isAscii then none else some .foreignHost

/-- The parts of an address that a client can be made for. -/
def parse (t : Text) : Except Fault Parts :=
  match parse? t with
  | none => .error .unparsable
  | some a =>
    if a.isComplete then
      match hostFault? a.hostText with
      | some why => .error why
      | none => .ok a
    else .error .incomplete

end Address

end TopicSink
