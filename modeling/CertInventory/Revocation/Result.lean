/-!
Results of revocation checks. Each has a status and a detail; the status shows in the result's text as a tag.
-/

namespace CertInventory.Revocation

/-- What a check found out; `unnamed` is a status without a tag of its own. -/
inductive Status where
  | revoked
  | unreachable
  | stapleInvalid
  | listStale
  | unnamed (name : String)
  deriving DecidableEq, Repr

namespace Status

def label : Status → String
  | .revoked => "revoked"
  | .unreachable => "unreachable"
  | .stapleInvalid => "staple_invalid"
  | .listStale => "crl_stale"
  | .unnamed name => name

def ofLabel (name : String) : Status :=
  if name = "revoked" then .revoked
  else if name = "unreachable" then .unreachable
  else if name = "staple_invalid" then .stapleInvalid
  else if name = "crl_stale" then .listStale
  else .unnamed name

def tag : Status → String
  | .revoked => "CERT_REVOKED"
  | .unreachable => "OCSP_UNREACHABLE"
  | .stapleInvalid => "OCSP_STAPLE_INVALID"
  | .listStale => "CRL_STALE"
  | .unnamed _ => "REVOCATION_UNKNOWN"

end Status

/-- What a check reports; a check that finds the certificate in order reports nothing. -/
structure Result where
  status : Status
  detail : String
  deriving DecidableEq, Repr

def Result.text (r : Result) : String := r.status.tag ++ ": " ++ r.detail

end CertInventory.Revocation
