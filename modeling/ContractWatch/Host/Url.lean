import ContractWatch.Host.Ip
import ContractWatch.Host.Name
import ContractWatch.Text.Utf8

/-!
URLs: whether a text is one on its own.
-/

namespace ContractWatch.Url

/-! ### Hosts -/

def percentDecoded : List Char → List UInt8
  | '%' :: a :: b :: cs =>
    match Hex.digit? a, Hex.digit? b with
    | some x, some y => UInt8.ofNat (16 * x + y) :: percentDecoded cs
    | _, _ => 0x25 :: percentDecoded (a :: b :: cs)
  | c :: cs => String.utf8EncodeChar c ++ percentDecoded cs
  | [] => []

/-- A name that ends in a number is an address, or no name. -/
def isName (host : List Char) : Bool :=
  (Host.labels? (Utf8.lossy (percentDecoded host)).toList).any fun labels =>
    labels ≠ [[]] && (!Host.endsInNumber labels || Host.isIpv4 labels)

/-- Whether a host is one: an address in brackets, or whatever `isOther` admits. -/
def isHostWith (isOther : List Char → Bool) : List Char → Bool
  | '[' :: cs => cs.getLast? = some ']' && Host.isIpv6 cs.dropLast
  | cs => isOther cs

def isHost (host : List Char) : Bool := isHostWith isName host

/-- A host under a scheme that knows nothing of names. -/
def isOpaqueHost (host : List Char) : Bool := isHostWith (fun cs => !cs.any Host.isForbidden) host

/-! ### Schemes -/

/-- How the text after a scheme is read. The schemes of the web take a backslash for a slash. -/
inductive Kind
  | web | file | other
  deriving DecidableEq

def Kind.ofScheme (scheme : String) : Kind :=
  if scheme = "file" then .file
  else if ["http", "https", "ws", "wss", "ftp"].contains scheme then .web
  else .other

def isSchemeChar (c : Char) : Bool := c.isAlphanum || c = '+' || c = '-' || c = '.'

/-- The scheme in lower case, and what follows its colon. -/
def scheme? (cs : List Char) : Option (String × List Char) :=
  match cs.takeWhile isSchemeChar, cs.dropWhile isSchemeChar with
  | c :: scheme, ':' :: rest =>
    if c.isAlpha then some (String.ofList ((c :: scheme).map Char.toLower), rest) else none
  | _, _ => none

def isSlash (c : Char) : Bool := c = '/' || c = '\\'

/-- Whether an authority ends at the character. -/
def isEnd (kind : Kind) (c : Char) : Bool := c = '/' || c = '?' || c = '#' || (kind = .web && c = '\\')

/-! ### Authorities -/

/-- What stands before the last `@`, if there is one, and what behind it. -/
def splitUser (cs : List Char) : Option (List Char) × List Char :=
  let rest := (cs.reverse.takeWhile (· ≠ '@')).reverse
  if cs.contains '@' then (some (cs.take (cs.length - rest.length - 1)), rest) else (none, rest)

/-- The host up to the first colon that is in no brackets, and what follows the host. -/
def splitHost (inside : Bool) : List Char → List Char × List Char
  | [] => ([], [])
  | c :: cs =>
    if c = ':' && !inside then ([], c :: cs)
    else
      let (host, rest) := splitHost (if c = '[' then true else if c = ']' then false else inside) cs
      (c :: host, rest)

/-- The digits after a colon, none of which need be there. Behind them there is nothing, or the end of the
authority; there a backslash is one under every scheme. -/
def isPortNumber (cs : List Char) : Bool :=
  let number := cs.takeWhile Decimal.isDigit
  (Hex.valueIn 10 number).any (· < 65536) && (cs.drop number.length).head?.all fun c => c = '\\'

/-- Only a scheme that knows nothing of names can do without a host, and then no user and no colon
are there either, or a user who is a mere colon. -/
def isAuthority (kind : Kind) (cs : List Char) (isLast : Bool) : Bool :=
  let (user, rest) := splitUser cs
  let (host, tail) := splitHost false rest
  if host.isEmpty then
    kind = .other && tail.isEmpty &&
      match user with
      | none => true
      | some user => if user.isEmpty then isLast else user = [':']
  else
    (if kind = .web then isHost host else isOpaqueHost host) &&
      match tail with
      | ':' :: number => isPortNumber number
      | _ => true

/-! ### URLs -/

def isDriveLetter : List Char → Bool
  | [c, d] => c.isAlpha && (d = ':' || d = '|')
  | _ => false

def isFile (cs : List Char) : Bool :=
  match cs with
  | a :: b :: r =>
    let host := r.takeWhile fun c => !(isSlash c || c = '?' || c = '#')
    !(isSlash a && isSlash b) || host.isEmpty || isDriveLetter host || isHost host
  | _ => true

def clean (cs : List Char) : List Char :=
  let trimmed := ((cs.dropWhile (·.toNat ≤ 0x20)).reverse.dropWhile (·.toNat ≤ 0x20)).reverse
  trimmed.filter fun c => !(c = '\t' || c = '\n' || c = '\r')

def isAuthorityAtHead (kind : Kind) (cs : List Char) : Bool :=
  isAuthority kind (cs.takeWhile fun c => !isEnd kind c) ((cs.dropWhile fun c => !isEnd kind c).isEmpty)

/-- Whether a text is a URL on its own. -/
def isUrl (endpoint : String) : Bool :=
  match scheme? (clean endpoint.toList) with
  | none => false
  | some (scheme, rest) =>
    match Kind.ofScheme scheme, rest with
    | .file, rest => isFile rest
    | .web, rest => isAuthorityAtHead .web (rest.dropWhile isSlash)
    | .other, '/' :: '/' :: rest => isAuthorityAtHead .other rest
    | .other, _ => true

end ContractWatch.Url
