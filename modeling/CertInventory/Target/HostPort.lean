import CertInventory.Text.Numeral
import CertInventory.Text.Quoted
import CertInventory.Text.Cut

/-!
Host and port of a TCP endpoint, as `host:port` or `[address]:port`.
-/

namespace CertInventory

structure HostPort where
  host : String
  port : Nat
  deriving DecidableEq, Repr

inductive HostPortError where
  | missingPort (address : String)
  | invalidPort (address : String)
  | invalid (address : String)
  deriving DecidableEq, Repr

def HostPortError.message : HostPortError → String
  | .missingPort a => "missing port in address " ++ Text.quoted a
  | .invalidPort a => "invalid port in address " ++ Text.quoted a
  | .invalid a => "invalid address " ++ Text.quoted a

namespace HostPort

/-- Host and port as texts: behind a bracketed host, or at the last colon. -/
def cut? (cs : List Char) : Option (List Char × List Char) :=
  match cs with
  | '[' :: r =>
    match Text.cutFirst ']' r with
    | (host, some (':' :: port)) => some (host, port)
    | _ => none
  | _ => Text.cutLast? ':' cs

def split (address : String) : Except HostPortError HostPort :=
  match cut? (Text.trim address.toList) with
  | none => .error (.missingPort address)
  | some (host, port) =>
    match Text.integer? port with
    | none => .error (.invalidPort address)
    | some n =>
      if host.isEmpty ∨ n ≤ 0 ∨ 65536 ≤ n then .error (.invalid address)
      else .ok ⟨String.ofList host, n.toNat⟩

end HostPort

end CertInventory
