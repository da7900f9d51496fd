import CertInventory.Outside.Task
import CertInventory.Revocation.Body
import CertInventory.Text.Blank
import CertInventory.Text.Cut

/-!
HTTP: requests, the bytes that answer them, and the web as something that answers a request and changes by it.
-/

namespace CertInventory

/-- The bytes of an HTTP answer. -/
inductive HttpBody where
  | ocsp (b : OcspBody)
  | revocationList (l : Option RevocationList)
  deriving DecidableEq

namespace HttpBody

def ocsp? : HttpBody → Option (Except Refused OcspAnswer)
  | .ocsp b => b.read?
  | .revocationList _ => none

def revocationList? : HttpBody → Option RevocationList
  | .revocationList l => l
  | .ocsp _ => none

end HttpBody

inductive HttpMethod where
  | get
  | post
  | other (name : String)
  deriving DecidableEq, Repr

def HttpMethod.label : HttpMethod → String
  | .get => "GET"
  | .post => "POST"
  | .other name => name

structure HttpRequest where
  method : HttpMethod
  url : String
  timeoutMillis : Nat
  contentType : Option String
  deriving DecidableEq, Repr

/-- The web: how it answers a request, and how it changes by that. -/
structure Web (σ : Type) where
  answer : HttpRequest → σ → Except Failure HttpBody × σ

/-- Text without angle brackets and a `URL:` mark around it, and without the blanks around each. -/
def unwrappedUrl (cs : List Char) : List Char :=
  let cs := Text.trim cs
  let cs := match cs, cs.getLast? with
    | '<' :: r, some '>' => Text.trim r.dropLast
    | _, _ => cs
  match Text.dropHead? "URL:".toList cs with
  | some r => Text.trim r
  | none => cs

/-- The address of a request with a body; a bare number sign at its end is dropped. -/
def requestAddress (url : String) : List Char :=
  let cs := unwrappedUrl url.toList
  if cs.getLast? = some '#' then cs.dropLast else cs

theorem unwrappedUrl_isInfix (cs : List Char) : unwrappedUrl cs <:+: cs := by
  have hbrackets : (match Text.trim cs, (Text.trim cs).getLast? with
      | '<' :: r, some '>' => Text.trim r.dropLast
      | _, _ => Text.trim cs) <:+: cs := by
    split
    · rename_i r htrim _
      have hinner : r.dropLast <:+: '<' :: r := (List.dropLast_prefix r).isInfix.trans (List.suffix_cons _ r).isInfix
      exact (Text.trim_isInfix _).trans (hinner.trans (htrim ▸ Text.trim_isInfix cs))
    · exact Text.trim_isInfix cs
  simp only [unwrappedUrl]
  split
  · rename_i r hmark
    refine (Text.trim_isInfix r).trans (List.IsInfix.trans ?_ hbrackets)
    rw [Text.eq_append_of_dropHead? hmark]
    exact (List.suffix_append _ r).isInfix
  · exact hbrackets

theorem requestAddress_isInfix (url : String) : requestAddress url <:+: url.toList := by
  simp only [requestAddress]
  split
  · exact (List.dropLast_prefix _).isInfix.trans (unwrappedUrl_isInfix _)
  · exact unwrappedUrl_isInfix _

/-- Whether an address, its fragment aside, starts with a scheme: something without slashes before a colon. -/
def hasScheme (address : List Char) : Bool :=
  let address := match Text.cutLast? '#' address with
    | some (before, _) => before
    | none => address
  match Text.cutFirst ':' address with
  | (c :: name, some _) => !(c :: name).contains '/'
  | _ => false

end CertInventory
