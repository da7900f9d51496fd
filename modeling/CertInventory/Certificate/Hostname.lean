import CertInventory.Certificate.Basic
import CertInventory.Text.Blank
import CertInventory.Text.Case
import CertInventory.Text.Cut

/-!
Which host names a certificate covers. Names are compared label by label in small letters, without blanks around
them and full stops behind them; an asterisk may stand for the whole leftmost label of several. An address is
covered by an equal address only, never by a DNS name.
-/

namespace CertInventory.Hostname

def canonical (cs : List Char) : List Char :=
  Text.lower (Text.dropEndWhile (· == '.') (Text.trim cs))

def unbracketed (cs : List Char) : List Char :=
  match cs with
  | '[' :: r =>
    match r.reverse with
    | ']' :: inner => inner.reverse
    | _ => cs
  | _ => cs

/-- Whether the labels of a name fit those of a pattern; `*` as the leftmost of several labels fits any. -/
def labelsMatch (pattern host : List (List Char)) : Bool :=
  match pattern, host with
  | p :: q :: ps, _ :: hs => (p == ['*'] && (q :: ps) == hs) || pattern == host
  | _, _ => pattern == host

def matchesPattern (pattern host : List Char) : Bool :=
  let p := canonical pattern
  !p.isEmpty && labelsMatch (Text.splitAll '.' p) (Text.splitAll '.' host)

end CertInventory.Hostname

namespace CertInventory

def Certificate.covers (c : Certificate) (hostname : String) : Except DecodeFault Bool :=
  let host := Hostname.unbracketed (Hostname.canonical hostname.toList)
  if host.isEmpty then .ok false
  else
    match Address.read? host with
    | some a => c.addresses.map fun as => as.contains a
    | none => c.dnsNames.map fun names => names.any fun n => Hostname.matchesPattern n.toList host

end CertInventory
