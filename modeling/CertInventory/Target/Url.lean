import CertInventory.Target.Address
import CertInventory.Text.Blank
import CertInventory.Text.Quoted

/-!
Splitting a URL into scheme, authority and query. Control characters and spaces at the front are dropped, and so
are tabs and line ends anywhere.
-/

namespace CertInventory

structure Url where
  scheme : String
  authority : String
  query : String
  deriving DecidableEq, Repr

inductive UrlError where
  | unbalancedBrackets
  | unknownAddressVersion
  | bracketedIPv4
  | noAddressInBrackets (host : String)
  | delimiterByNormalization (authority : String)
  deriving DecidableEq, Repr

def UrlError.message : UrlError → String
  | .unbalancedBrackets => "Invalid IPv6 URL"
  | .unknownAddressVersion => "IPvFuture address is invalid"
  | .bracketedIPv4 => "An IPv4 address cannot be in brackets"
  | .noAddressInBrackets host => Text.quoted host ++ " does not appear to be an IPv4 or IPv6 address"
  | .delimiterByNormalization authority =>
    "netloc '" ++ authority ++ "' contains invalid characters under NFKC normalization"

theorem UrlError.message_ne_empty (e : UrlError) : e.message ≠ "" := by
  cases e with
  | unbalancedBrackets | unknownAddressVersion | bracketedIPv4 => decide
  | noAddressInBrackets host | delimiterByNormalization authority =>
    rw [message, ne_eq, String.append_eq_empty_iff]
    exact fun h => absurd h.2 (by decide)

namespace Url

def isSchemeChar (c : Char) : Bool :=
  (0x61 ≤ c.toNat && c.toNat ≤ 0x7A) || (0x41 ≤ c.toNat && c.toNat ≤ 0x5A) || (Text.asciiDigit? c).isSome ||
    c == '+' || c == '-' || c == '.'

def isSchemeStart (c : Char) : Bool :=
  (0x61 ≤ c.toNat && c.toNat ≤ 0x7A) || (0x41 ≤ c.toNat && c.toNat ≤ 0x5A)

def cleaned (cs : List Char) : List Char :=
  (cs.dropWhile fun c => c.toNat ≤ 0x20).filter fun c => c != '\t' && c != '\r' && c != '\n'

/-- The scheme in small letters, and what stands behind its colon; the whole text where there is no scheme. -/
def schemeAndRest (cs : List Char) : List Char × List Char :=
  match Text.cutFirst ':' cs with
  | (c :: name, some rest) =>
    if isSchemeStart c && name.all isSchemeChar then (Text.lower (c :: name), rest) else ([], cs)
  | _ => ([], cs)

def endsAuthority (c : Char) : Bool := c == '/' || c == '?' || c == '#'

def authorityAndRest : List Char → List Char × List Char
  | '/' :: '/' :: r => (r.takeWhile fun c => !endsAuthority c, r.dropWhile fun c => !endsAuthority c)
  | r => ([], r)

/-- Code points whose compatibility form holds a character that delimits the parts of a URL. -/
def hiddenDelimiters : List Nat :=
  [0x2047, 0x2048, 0x2049, 0x2100, 0x2101, 0x2105, 0x2106, 0x2A74, 0xFE13, 0xFE16, 0xFE55, 0xFE56, 0xFE5F, 0xFE6B,
    0xFF03, 0xFF0F, 0xFF1A, 0xFF1F, 0xFF20]

/-- Whether text is the name of a future address version: `v`, hexadecimal digits, a full stop, and more. -/
def isFutureAddress (cs : List Char) : Bool :=
  match cs with
  | 'v' :: r =>
    match r.takeWhile (fun c => (Text.hexDigit? c).isSome), r.dropWhile (fun c => (Text.hexDigit? c).isSome) with
    | _ :: _, '.' :: _ :: _ => true
    | _, _ => false
  | _ => false

def checkBracketed (host : List Char) : Except UrlError Unit :=
  if host.head? = some 'v' then
    if isFutureAddress host then .ok () else .error .unknownAddressVersion
  else
    match Address.read? host with
    | none => .error (.noAddressInBrackets (String.ofList host))
    | some (.v4 _) => .error .bracketedIPv4
    | some (.v6 _ _) => .ok ()

/-- The host of an authority with brackets, behind its last at sign: nothing may stand before an opening bracket, and
only a port behind the closing one. -/
def bracketedHost (authority : List Char) : Except UrlError (List Char) :=
  let place := match Text.cutLast? '@' authority with
    | some (_, r) => r
    | none => authority
  match Text.cutFirst '[' place with
  | (_ :: _, some _) => .error .unbalancedBrackets
  | ([], some r) =>
    match Text.cutFirst ']' r with
    | (host, none) | (host, some []) | (host, some (':' :: _)) => .ok host
    | _ => .error .unbalancedBrackets
  | (_, none) => .ok (Text.cutFirst ':' place).1

def checkBrackets (authority : List Char) : Except UrlError Unit :=
  match authority.contains '[', authority.contains ']' with
  | false, false => .ok ()
  | true, true => bracketedHost authority >>= checkBracketed
  | _, _ => .error .unbalancedBrackets

def checkAuthority (authority : List Char) : Except UrlError Unit := do
  checkBrackets authority
  if authority.any fun c => hiddenDelimiters.contains c.toNat then
    .error (.delimiterByNormalization (String.ofList authority))

def split (s : String) : Except UrlError Url :=
  let (scheme, rest) := schemeAndRest (cleaned s.toList)
  let (authority, rest) := authorityAndRest rest
  match checkAuthority authority with
  | .error e => .error e
  | .ok () =>
    let query := ((Text.cutFirst '?' (Text.cutFirst '#' rest).1).2).getD []
    .ok ⟨String.ofList scheme, String.ofList authority, String.ofList query⟩

end Url

end CertInventory
