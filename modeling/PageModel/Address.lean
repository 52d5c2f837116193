import PageModel.Address.Domain
import PageModel.Address.Number
import PageModel.Error

/-!
# Addresses

The addresses of pages: a scheme, and for most schemes a host, possibly with a user before it and a
port after it. An address is checked before it is fetched; only two schemes are.
-/

namespace PageModel.Address

/-! ### Schemes -/

/-- The kinds of schemes: those whose addresses have a host with a domain name, the one for files,
and all others. -/
inductive SchemeKind where
  | hosted
  | file
  | other
deriving Repr, DecidableEq

/-- The kind of a scheme. -/
def schemeKind (scheme : String) : SchemeKind :=
  if ["http", "https", "ws", "wss", "ftp"].contains scheme then .hosted
  else if scheme = "file" then .file
  else .other

/-- A character of a scheme. -/
def isSchemeChar (c : Char) : Bool :=
  c.isAlphanum || c = '+' || c = '-' || c = '.'

/-- The scheme at the start of an address, and the address after the colon. -/
def readScheme (cs : List Char) : Option (String × List Char) :=
  let scheme := cs.takeWhile isSchemeChar
  if scheme.head?.any Char.isAlpha then
    match cs.drop scheme.length with
    | ':' :: rest => some (String.ofList (scheme.map Char.toLower), rest)
    | _ => none
  else none

/-- An address without the control characters and spaces at its ends, and without tabs and ends of
lines. -/
def tidy (address : String) : List Char :=
  let isEnd (c : Char) : Bool := c.toNat ≤ 0x20
  let cs := ((address.toList.dropWhile isEnd).reverse.dropWhile isEnd).reverse
  cs.filter fun c => c != '\t' && c != '\n' && c != '\r'

/-! ### Hosts -/

/-- The bytes that a text denotes in which bytes may be written as a percent sign and two digits. -/
def percentDecode : List Char → List UInt8
  | '%' :: a :: b :: cs =>
      if isHexDigit a ∧ isHexDigit b then (valueIn 16 [a, b]).toUInt8 :: percentDecode cs
      else '%'.toNat.toUInt8 :: percentDecode (a :: b :: cs)
  | c :: cs => (String.singleton c).toUTF8.toList ++ percentDecode cs
  | [] => []

/-- Whether a text is an address of eight numbers between brackets, where it starts with one. -/
def isBracketed (host : List Char) : Bool :=
  host.getLast? = some ']' && isEightNumbers (host.drop 1).dropLast

/-- Whether a text is a host of a scheme that needs a domain name or a numeric address. -/
def isDomainHost (host : List Char) : Bool :=
  if host.head? = some '[' then isBracketed host
  else
    match String.fromUTF8? (ByteArray.mk (percentDecode host).toArray) with
    | none => false
    | some name =>
        match domainLabels? name.toList with
        | none => false
        | some labels => !endsInNumber labels || isFourNumbers labels

/-- Whether a text is a host of any other scheme. -/
def isOpaqueHost (host : List Char) : Bool :=
  if host.head? = some '[' then isBracketed host
  else !host.any fun c => "\x00\t\n\r #/:<>?@[\\]^|".toList.contains c

/-! ### Authorities -/

/-- Whether a character ends the part of an address that holds the host. -/
def endsAuthority (hosted : Bool) (c : Char) : Bool :=
  c = '/' || c = '?' || c = '#' || (hosted && c = '\\')

/-- The host at the start of a text, up to a colon that is not between brackets. -/
def takeHost (bracketed : Bool) : List Char → List Char
  | [] => []
  | c :: cs =>
      if c = ':' ∧ !bracketed then []
      else c :: takeHost (if c = '[' then true else if c = ']' then false else bracketed) cs

/-- Whether a text starts with a port: at most 65535, up to a character that ends the part of the
address with the host. -/
def isPort (cs : List Char) : Bool :=
  let ds := cs.takeWhile Char.isDigit
  decimalValue ds ≤ 65535
    && (cs.drop ds.length).head?.all fun c => c = '/' || c = '\\' || c = '?' || c = '#'

/-- Whether the part of an address with the host is well formed: `user` is what stands before an
`@`, if there is one, and `rest` what comes after the host and the port. -/
def isHostAndPort (hosted : Bool) (user : Option (List Char)) (cs rest : List Char) : Bool :=
  let host := takeHost false cs
  let hasUser := user.any fun u => u != [] && u != [':']
  let after := cs.drop host.length
  if host.isEmpty then !hosted && after.isEmpty && !hasUser
  else
    (if hosted then isDomainHost host else isOpaqueHost host)
      && match after with
        | ':' :: port => isPort (port ++ rest)
        | _ => true

/-- Whether an address is well formed after the slashes before its host. -/
def isAuthority (hosted : Bool) (cs : List Char) : Bool :=
  let authority := cs.takeWhile fun c => !endsAuthority hosted c
  let rest := cs.drop authority.length
  let host := (authority.reverse.takeWhile (· ≠ '@')).reverse
  if host.length = authority.length then isHostAndPort hosted none host rest
  else
    let user := authority.take (authority.length - host.length - 1)
    if user.isEmpty && host.isEmpty && !rest.isEmpty then false
    else isHostAndPort hosted (some user) host rest

/-- Whether a character is a slash of either kind. -/
def isSlash (c : Char) : Bool :=
  c = '/' || c = '\\'

/-- Whether a text names a drive. -/
def isDrive : List Char → Bool
  | [a, b] => a.isAlpha && (b = ':' || b = '|')
  | _ => false

/-- Whether an address of a file is well formed after its scheme. -/
def isFileAddress : List Char → Bool
  | a :: b :: cs =>
      if isSlash a ∧ isSlash b then
        let host := cs.takeWhile fun c => !endsAuthority true c
        host.isEmpty || isDrive host || isDomainHost host
      else true
  | _ => true

/-- Whether an address is well formed after its scheme. -/
def isWellFormed (kind : SchemeKind) (cs : List Char) : Bool :=
  match kind with
  | .hosted => isAuthority true (cs.dropWhile isSlash)
  | .file => isFileAddress cs
  | .other =>
      match cs with
      | '/' :: '/' :: cs => isAuthority false cs
      | _ => true

/-! ### Checking -/

/-- The scheme of an address, if the address is well formed. -/
def scheme? (address : String) : Option String :=
  match readScheme (tidy address) with
  | none => none
  | some (scheme, rest) => if isWellFormed (schemeKind scheme) rest then some scheme else none

/-- The scheme of an address that may be fetched. -/
def check (address : String) : Except Error String :=
  match scheme? address with
  | none => .error (.http .invalid)
  | some scheme =>
      if scheme = "http" ∨ scheme = "https" then .ok scheme
      else .error (.http (.scheme scheme))

end PageModel.Address
