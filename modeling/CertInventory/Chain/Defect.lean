import CertInventory.Certificate.Hostname
import CertInventory.Chain.Path

/-!
The defects of a chain, leaf first. Every check looks at the same chain and none hides another; only a damaged
certificate breaks the checking off.
-/

namespace CertInventory.Chain

open Time

inductive Defect where
  | selfSignedLeaf
  | expiredIntermediate (name : String)
  | futureIntermediate (name : String)
  | misordered (position : Nat)
  | untrusted (reason : TrustFailure)
  | uncoveredHostname (hostname : String)
  deriving DecidableEq

def Defect.message : Defect → String
  | .selfSignedLeaf => "leaf certificate is self-signed"
  | .expiredIntermediate name => "intermediate expired: " ++ name
  | .futureIntermediate name => "intermediate not yet valid: " ++ name
  | .misordered position => "chain misordered at position " ++ Text.showNat position
  | .untrusted reason => "chain verification failed: " ++ reason.message
  | .uncoveredHostname hostname => "certificate does not cover hostname \"" ++ hostname ++ "\""

def leafDefects (leaf : Certificate) : Except DecodeFault (List Defect) :=
  match leaf.isSelfSigned with
  | .error f => .error f
  | .ok false => .ok []
  | .ok true => leaf.isAuthority.map fun isAuthority => if isAuthority then [] else [.selfSignedLeaf]

def validityDefects (now : Instant) (c : Certificate) : List Defect :=
  if c.notAfter < now then [.expiredIntermediate c.subject.shortText]
  else if now < c.notBefore then [.futureIntermediate c.subject.shortText]
  else []

def misorderedAt? : List Certificate → Option Nat
  | c :: d :: r => if c.issuer = d.subject then (misorderedAt? (d :: r)).map (· + 1) else some 0
  | _ => none

/-- Whether the leaf covers the host name that was asked for; an empty one asks for nothing. -/
def hostnameDefects (leaf : Certificate) (hostname : String) : Except DecodeFault (List Defect) :=
  if hostname.isEmpty then .ok []
  else (leaf.covers hostname).map fun covered => if covered then [] else [.uncoveredHostname hostname]

/-- The defects of a chain, in the order of the checks; an empty chain has none. -/
def defects (chain : List Certificate) (hostname : String) (now : Instant) : Except DecodeFault (List Defect) :=
  match chain with
  | [] => .ok []
  | leaf :: rest => do
    let ofLeaf ← leafDefects leaf
    let reason ← trustFailure leaf rest now
    let ofHostname ← hostnameDefects leaf hostname
    return ofLeaf ++ rest.flatMap (validityDefects now) ++ ((misorderedAt? chain).map Defect.misordered).toList ++
      (reason.map Defect.untrusted).toList ++ ofHostname

end CertInventory.Chain
