import CertInventory.Target.HostPort
import CertInventory.Target.Query
import CertInventory.Target.Url

/-!
Probe targets: URLs of TLS endpoints. A `sni` parameter overrides the name that is asked for and verified.
-/

namespace CertInventory.Target

/-- The target that probes an endpoint, under another name where one is given. -/
def format (hostport sni : String) : String :=
  if sni.isEmpty then "tcp://" ++ hostport
  else "tcp://" ++ hostport ++ "?sni=" ++ String.ofList (Query.escape sni.toList)

def namedBy? (query : String) : Option String :=
  match Query.first? "sni" query with
  | some name => if name.isEmpty then none else some name
  | none => none

/-- The host of an authority, or the whole authority where it has no port. -/
def hostOf (authority : String) : String :=
  match HostPort.split authority with
  | .ok hp => hp.host
  | .error _ => authority

def serverName (target : String) : Except UrlError String :=
  let t := Text.trimmed target
  if Text.contains "://".toList t.toList then
    match Url.split t with
    | .error e => .error e
    | .ok u =>
      match namedBy? u.query with
      | some name => .ok name
      | none => .ok (hostOf u.authority)
  else .ok (hostOf t)

end CertInventory.Target
