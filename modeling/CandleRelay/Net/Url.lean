import CandleRelay.Net.Domain
import CandleRelay.Net.LooseIpv4

/-!
# Web addresses

Whether a text is an absolute web address, and what is wrong with one that is not. Blanks and
controls around it and line breaks inside do not count. After the scheme comes a host, if the scheme
is one of the web's own or if two slashes say so; in the web's own schemes a backslash is as good as
a slash. Paths, queries and fragments are never wrong.
-/

namespace CandleRelay.Net

/-- What is wrong with a web address. -/
inductive UrlError where
  | noScheme
  | emptyHost
  | invalidDomain
  | invalidHostCharacter
  | invalidIpv4
  | invalidIpv6
  | invalidNumber
  deriving DecidableEq, Repr

/-- The text of the error. -/
def UrlError.message : UrlError → String
  | noScheme => "relative URL without a base"
  | emptyHost => "empty host"
  | invalidDomain => "invalid international domain name"
  | invalidHostCharacter => "invalid domain character"
  | invalidIpv4 => "invalid IPv4 address"
  | invalidIpv6 => "invalid IPv6 address"
  | invalidNumber => "invalid port number"

/-- The characters that no host of another kind of address holds. -/
def isForbiddenOpaque (c : Char) : Bool :=
  ['\x00', '\t', '\n', '\r', ' ', '#', '/', ':', '<', '>', '?', '@', '[', '\\', ']', '^',
    '|'].contains c

namespace Url

/-- How a scheme reads what follows it. -/
inductive Kind where
  /-- The schemes of the web, which need a host. -/
  | web
  | file
  | other
  deriving DecidableEq, Repr

/-- The kind of a scheme in lower case. -/
def kindOf (scheme : String) : Kind :=
  if ["http", "https", "ws", "wss", "ftp"].contains scheme then .web
  else if scheme == "file" then .file
  else .other

/-- The text without blanks and controls around it and without tabs and line breaks. -/
def cleaned (s : String) : List Char :=
  let outer (c : Char) : Bool := c.toNat ≤ 0x20
  let cs := ((s.toList.dropWhile outer).reverse.dropWhile outer).reverse
  cs.filter fun c => c != '\t' && c != '\n' && c != '\r'

/-- The scheme, in lower case, and what follows its colon. -/
def scheme? (cs : List Char) : Option (String × List Char) :=
  let isSchemeChar (c : Char) : Bool := c.isAlphanum || c == '+' || c == '-' || c == '.'
  match cs.takeWhile isSchemeChar, cs.dropWhile isSchemeChar with
  | c :: name, ':' :: rest =>
    if c.isAlpha then some (String.ofList ((c :: name).map Char.toLower), rest) else none
  | _, _ => none

/-- Whether a character ends the part that holds the host. -/
def endsAuthority (kind : Kind) (c : Char) : Bool :=
  c == '/' || c == '?' || c == '#' || (c == '\\' && kind != .other)

/-- A host in brackets, or as `plain` reads it. -/
def checkHost (plain : List Char → Except UrlError Bool) (host : List Char) :
    Except UrlError Bool :=
  match host with
  | '[' :: rest =>
    if rest.getLast? == some ']' && isIpv6 rest.dropLast then .ok true else .error .invalidIpv6
  | _ => plain host

/-- A host of a web scheme; the answer says whether there is one. -/
def checkDomain : List Char → Except UrlError Bool :=
  checkHost fun host =>
    match domain? (String.ofList host) with
    | none => .error .invalidDomain
    | some [[]] => .error .emptyHost
    | some labels =>
      if endsInNumber labels && !isLooseIpv4 labels then .error .invalidIpv4 else .ok true

/-- A host of another scheme; the answer says whether there is one. -/
def checkOpaque : List Char → Except UrlError Bool :=
  checkHost fun host =>
    if host.any isForbiddenOpaque then .error .invalidHostCharacter else .ok (!host.isEmpty)

/-- The host at the beginning of a text, up to a colon outside brackets, and what follows it. -/
def takeHost (kind : Kind) : (bracketed : Bool) → List Char → List Char × List Char
  | _, [] => ([], [])
  | bracketed, c :: rest =>
    if (c == ':' && !bracketed) || endsAuthority kind c then ([], c :: rest)
    else
      let bracketed := c == '[' || (bracketed && c != ']')
      let (host, after) := takeHost kind bracketed rest
      (c :: host, after)

/-- The number after a host: digits up to where the host's part ends. A backslash ends it in every
scheme. -/
def checkNumber (cs : List Char) : Except UrlError Unit :=
  let digits := cs.takeWhile Char.isDigit
  if 65535 < decimal digits then .error .invalidNumber
  else
    match cs.dropWhile Char.isDigit with
    | [] => .ok ()
    | c :: _ => if endsAuthority .web c then .ok () else .error .invalidNumber

/-- Whether there is a user's name or password before the last `@`, and what follows it. An `@` with
nothing on either side is an error. -/
def takeUser (kind : Kind) (cs : List Char) : Except UrlError (Bool × List Char) :=
  let part := cs.takeWhile (!endsAuthority kind ·)
  let host := (part.reverse.takeWhile (· != '@')).reverse
  if host.length == part.length then .ok (false, cs)
  else
    let user := (part.take (part.length - host.length)).dropLast
    let rest := cs.drop (part.length - host.length)
    match user, rest with
    | [], c :: _ => if endsAuthority kind c then .error .emptyHost else .ok (false, rest)
    | [], [] => .ok (false, rest)
    | user, rest => .ok (user != [':'], rest)

/-- What follows two slashes: perhaps a user, a host, perhaps a number. -/
def checkAuthority (kind : Kind) (cs : List Char) : Except UrlError Unit := do
  let (user, cs) ← takeUser kind cs
  let (host, rest) := takeHost kind false cs
  if kind == .web && host.isEmpty then throw .emptyHost
  let found ← if kind == .web then checkDomain host else checkOpaque host
  match rest with
  | ':' :: number =>
    if found then checkNumber number else throw .emptyHost
  | _ => if user && !found then throw .emptyHost else return

/-- Whether a text is the name of a drive, a letter with a colon or a bar. -/
def isDrive : List Char → Bool
  | [a, b] => a.isAlpha && (b == ':' || b == '|')
  | _ => false

/-- What follows `file:`. A host stands only after two slashes, and may be empty. -/
def checkFile : List Char → Except UrlError Unit
  | a :: b :: rest =>
    if (a == '/' || a == '\\') && (b == '/' || b == '\\') then
      let host := rest.takeWhile (!endsAuthority .file ·)
      if isDrive host || host.isEmpty then .ok () else (checkDomain host).map fun _ => ()
    else .ok ()
  | _ => .ok ()

/-- Checks a web address. -/
def check (s : String) : Except UrlError Unit :=
  match scheme? (cleaned s) with
  | none => .error .noScheme
  | some (scheme, rest) =>
    match kindOf scheme with
    | .web => checkAuthority .web (rest.dropWhile fun c => c == '/' || c == '\\')
    | .file => checkFile rest
    | .other =>
      match rest with
      | '/' :: '/' :: rest => checkAuthority .other rest
      | _ => .ok ()

end Url

end CandleRelay.Net
