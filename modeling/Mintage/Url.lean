import Mintage.Bytes.Utf8
import Mintage.Domain

/-!
# Addresses of servers

A node is addressed by a URL. `Url.check` says whether a text is one, and if not, what is wrong with
it. Only the scheme, the host and the number of the service can be wrong: whatever follows them is
taken.
-/

namespace Mintage.Url

/-- What is wrong with a text that should be a URL. -/
inductive Fault where
  | relative
  | emptyHost
  | domain
  | service
  | ipv4
  | ipv6
  | hostCharacter
deriving DecidableEq

/-- The wording of a fault. -/
def Fault.message : Fault → String
  | .relative => "relative URL without a base"
  | .emptyHost => "empty host"
  | .domain => "invalid international domain name"
  | .service => "invalid port number"
  | .ipv4 => "invalid IPv4 address"
  | .ipv6 => "invalid IPv6 address"
  | .hostCharacter => "invalid domain character"

/-! ## Hosts -/

/-- The number that digits of a base stand for, if all of them are digits. -/
def digits? (base : Nat) (cs : List Char) : Option Nat :=
  cs.foldlM (fun n c => do
    let d ← Hex.value? c
    if d < base then return base * n + d else none) 0

/-- A number of an IPv4 address: hexadecimal behind `0x`, octal behind a zero, else decimal. -/
def number? : List Char → Option Nat
  | [] => none
  | '0' :: 'x' :: cs | '0' :: 'X' :: cs => digits? 16 cs
  | '0' :: c :: cs => digits? 8 (c :: cs)
  | cs => digits? 10 cs

/-- The parts of a host between dots, without an empty last one. -/
def labels (host : List Char) : List (List Char) :=
  let parts := host.splitOn '.'
  if 1 < parts.length ∧ parts.getLast? = some [] then parts.dropLast else parts

/-- Whether the last part of a host is a number, so that it has to be an IPv4 address. -/
def endsInNumber (host : List Char) : Bool :=
  match (labels host).getLast? with
  | some part => (¬ part.isEmpty && part.all Char.isDigit) || (number? part).isSome
  | none => false

/-- Whether a host is an IPv4 address: at most four numbers, of which the last one fills all bytes
that the others leave. -/
def isIpv4 (host : List Char) : Bool :=
  match (labels host).mapM number? with
  | none => false
  | some numbers =>
    match numbers.getLast? with
    | none => false
    | some last =>
      numbers.length ≤ 4 && last < 256 ^ (5 - numbers.length) && numbers.dropLast.all (· < 256)

/-- Whether a text is four decimal numbers below 256 without leading zeros. -/
def isDottedQuad (cs : List Char) : Bool :=
  let parts := cs.splitOn '.'
  parts.length = 4 && parts.all fun part =>
    ¬ part.isEmpty && (part = ['0'] || part.head? ≠ some '0') && (digits? 10 part).any (· < 256)

/-- How many groups of an IPv6 address the parts between colons are, if they are some. A dotted quad
at the end is two groups. -/
def groups? : List (List Char) → Option Nat
  | [] => some 0
  | [last] => if isDottedQuad last then some 2 else group? last
  | part :: parts => do return (← group? part) + (← groups? parts)
where
  /-- One group: up to four hexadecimal digits. -/
  group? (part : List Char) : Option Nat :=
    if 0 < part.length ∧ part.length ≤ 4 ∧ (digits? 16 part).isSome then some 1 else none

/-- The text in front of two colons and the text behind, if there are two colons. -/
def splitAtGap : List Char → Option (List Char × List Char)
  | ':' :: ':' :: cs => some ([], cs)
  | c :: cs => (splitAtGap cs).map fun (front, back) => (c :: front, back)
  | [] => none

/-- Whether a text is an IPv6 address: eight groups, or fewer with two colons for the others. -/
def isIpv6 (cs : List Char) : Bool :=
  let count (cs : List Char) : Option Nat := if cs.isEmpty then some 0 else groups? (cs.splitOn ':')
  match splitAtGap cs with
  | none => groups? (cs.splitOn ':') = some 8
  | some (front, back) =>
    ¬ (isDottedQuad ((front.splitOn ':').getLastD [])) &&
      match count front, count back with
      | some n, some m => n + m < 8
      | _, _ => false

/-- The bytes of a text in which a percent sign and two digits stand for a byte. -/
def percentDecode : List Char → Bytes
  | '%' :: a :: b :: cs =>
    match Hex.value? a, Hex.value? b with
    | some m, some n => UInt8.ofNat (16 * m + n) :: percentDecode cs
    | _, _ => Utf8.encode "%" ++ percentDecode (a :: b :: cs)
  | c :: cs => Utf8.encode c.toString ++ percentDecode cs
  | [] => []
termination_by cs => cs.length

/-- Checks what stands in brackets. -/
def checkBracketed (host : List Char) : Except Fault Unit :=
  if host.getLast? = some ']' ∧ isIpv6 (host.tail.dropLast) then .ok () else .error .ipv6

/-- Checks the host of a scheme that is known to have one. -/
def checkHost (host : List Char) : Except Fault Unit :=
  if host.head? = some '[' then checkBracketed host
  else match Utf8.decode (percentDecode host) with
    | .error _ => .error .domain
    | .ok text =>
      match Domain.ofText? text.toList with
      | none => .error .domain
      | some [] => .error .emptyHost
      | some domain =>
        if endsInNumber domain ∧ ¬ isIpv4 domain then .error .ipv4 else .ok ()

/-- Whether a character may be in a host of any other scheme. -/
def isHostChar (c : Char) : Bool := ¬ "\x00\t\n\r #/:<>?@[\\]^|".toList.contains c

/-- Checks the host of any other scheme. -/
def checkOpaqueHost (host : List Char) : Except Fault Unit :=
  if host.head? = some '[' then checkBracketed host
  else if host.all isHostChar then .ok ()
  else .error .hostCharacter

/-! ## URLs -/

/-- Splits a text behind its last `@`. -/
def splitUser (cs : List Char) : Option (List Char × List Char) :=
  let back := cs.reverse.takeWhile (· ≠ '@')
  if back.length < cs.length then
    some (cs.take (cs.length - back.length - 1), back.reverse)
  else none

/-- The host in front of the number of a service: a colon in brackets belongs to the host. -/
def splitService (bracketed : Bool) : List Char → List Char × List Char
  | [] => ([], [])
  | c :: cs =>
    if c = ':' ∧ ¬ bracketed then ([], c :: cs)
    else
      let (host, service) := splitService (c = '[' || (bracketed && c ≠ ']')) cs
      (c :: host, service)

/-- Checks the number of a service, which follows a colon. -/
def checkService (cs : List Char) : Except Fault Unit :=
  match digits? 10 (cs.takeWhile (· ≠ '\\')) with
  | some n => if n < 65536 then .ok () else .error .service
  | none => .error .service

/-- Checks what follows two slashes. Schemes that are known to have a host need one. -/
def checkAuthority (known : Bool) (cs : List Char) : Except Fault Unit := do
  let goesOn (c : Char) : Bool := c ≠ '/' && c ≠ '?' && c ≠ '#' && ¬ (known && c = '\\')
  let authority := cs.takeWhile goesOn
  let (user, server) := (splitUser authority).getD ([], authority)
  let (host, service) := splitService false server
  let empty :=
    if known then host.isEmpty
    else host.isEmpty && (¬ service.isEmpty || (¬ user.isEmpty && user ≠ [':']) ||
      (authority = ['@'] && authority.length < cs.length))
  if empty then throw .emptyHost
  if known then checkHost host else checkOpaqueHost host
  checkService service.tail

/-- Whether a text names a drive, such as `C:`. -/
def isDrive : List Char → Bool
  | [letter, mark] => letter.isAlpha && (mark = ':' || mark = '|')
  | _ => false

/-- The scheme of a text in small letters, and what follows its colon. -/
def splitScheme (cs : List Char) : Option (String × List Char) :=
  let scheme := cs.takeWhile fun c => c.isAlphanum || c = '+' || c = '-' || c = '.'
  match scheme.head?, cs.drop scheme.length with
  | some first, ':' :: rest =>
    if first.isAlpha then some (String.ofList (scheme.map Char.toLower), rest) else none
  | _, _ => none

/-- Whether a character is a slash of either direction. -/
def isSlash (c : Char) : Bool := c = '/' || c = '\\'

/-- Schemes whose URLs have a host. -/
def schemesWithHost : List String := ["http", "https", "ws", "wss", "ftp"]

/-- The text that counts: without blanks at the ends, and without tabs and line ends anywhere. -/
def strip (text : String) : List Char :=
  let isBlank (c : Char) : Bool := c.toNat ≤ 0x20
  let cs := ((text.toList.dropWhile isBlank).reverse.dropWhile isBlank).reverse
  cs.filter fun c => c ≠ '\t' && c ≠ '\n' && c ≠ '\r'

/-- Checks that a text is a URL. -/
def check (text : String) : Except Fault Unit :=
  match splitScheme (strip text) with
  | none => .error .relative
  | some ("file", rest) =>
    match rest with
    | a :: b :: rest =>
      let host := rest.takeWhile fun c => ¬ isSlash c && c ≠ '?' && c ≠ '#'
      if isSlash a ∧ isSlash b ∧ ¬ host.isEmpty ∧ ¬ isDrive host then checkHost host else .ok ()
    | _ => .ok ()
  | some (scheme, rest) =>
    if schemesWithHost.contains scheme then checkAuthority true (rest.dropWhile isSlash)
    else match rest with
      | '/' :: '/' :: rest => checkAuthority false rest
      | _ => .ok ()

end Mintage.Url
