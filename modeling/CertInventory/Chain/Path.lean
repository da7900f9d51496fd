import CertInventory.Certificate.Basic
import CertInventory.Text.Quoted

/-!
Trust paths. A path leads from a leaf over certificate authorities to an authority that names itself as its issuer,
each certificate issued by the next. `TrustPath` says what a path is; `trustFailure` looks for one, step by step: it
takes the first fitting anchor, or else goes on with the first fitting authority that it has not used yet, and never
goes back.
-/

namespace CertInventory.Chain

open Time

def maxSteps : Nat := 10

inductive TrustFailure where
  | expired (now limit : Instant)
  | notYetValid (now limit : Instant)
  | unknownAuthority (issuer : Name)
  | tooLong
  deriving DecidableEq

def TrustFailure.message : TrustFailure → String
  | .expired now limit =>
    "certificate has expired or is not yet valid: current time " ++ now.secondText ++ " is after " ++ limit.secondText
  | .notYetValid now limit =>
    "certificate has expired or is not yet valid: current time " ++ now.secondText ++ " is before " ++ limit.secondText
  | .unknownAuthority issuer =>
    "certificate signed by unknown authority (issuer " ++ Text.quoted issuer.text ++ " not found)"
  | .tooLong => "certificate chain too long"

/-- Why a certificate is not valid at an instant; it is valid from its first to its last instant, both included. -/
def validityFailure? (c : Certificate) (now : Instant) : Option TrustFailure :=
  if c.notAfter < now then some (.expired now c.notAfter)
  else if now < c.notBefore then some (.notYetValid now c.notBefore)
  else none

def IsValidAt (c : Certificate) (now : Instant) : Prop := c.notBefore ≤ now ∧ now ≤ c.notAfter

instance (c : Certificate) (now : Instant) : Decidable (IsValidAt c now) :=
  inferInstanceAs (Decidable (_ ∧ _))

theorem validityFailure?_eq_none_iff {c : Certificate} {now : Instant} :
    validityFailure? c now = none ↔ IsValidAt c now := by
  have hlt (a b : Instant) : a < b ↔ ¬ b ≤ a := by
    change a.micros < b.micros ↔ ¬ b.micros ≤ a.micros
    omega
  simp only [validityFailure?, IsValidAt, hlt]
  by_cases h : now ≤ c.notAfter <;> by_cases g : c.notBefore ≤ now <;> simp [h, g]

/-- The authorities of a chain: those that name themselves as their issuer, and the others. -/
structure Pools where
  anchors : List Certificate
  authorities : List Certificate

/-- Sorts certificates into pools; certificates that are no authorities belong to neither. -/
def Pools.ofList : List Certificate → Except DecodeFault Pools
  | [] => .ok ⟨[], []⟩
  | c :: r =>
    match c.isAuthority with
    | .error f => .error f
    | .ok isAuthority =>
      match Pools.ofList r with
      | .error f => .error f
      | .ok pools =>
        if !isAuthority then .ok pools
        else if c.isSelfIssued then .ok { pools with anchors := c :: pools.anchors }
        else .ok { pools with authorities := c :: pools.authorities }

def takeIssuer (c : Certificate) :
    List Certificate → Except DecodeFault (Option (Certificate × List Certificate))
  | [] => .ok none
  | a :: r =>
    match c.isIssuedBy a with
    | .error f => .error f
    | .ok true => .ok (some (a, r))
    | .ok false =>
      match takeIssuer c r with
      | .error f => .error f
      | .ok none => .ok none
      | .ok (some (b, others)) => .ok (some (b, a :: others))

/-- Goes on from a certificate known to be valid, with so many steps left and these authorities not used yet. -/
def climb (anchors : List Certificate) (now : Instant) :
    Nat → Certificate → List Certificate → Except DecodeFault (Option TrustFailure)
  | 0, _, _ => .ok (some .tooLong)
  | steps + 1, c, unused =>
    match takeIssuer c anchors with
    | .error f => .error f
    | .ok (some (anchor, _)) => .ok (validityFailure? anchor now)
    | .ok none =>
      match takeIssuer c unused with
      | .error f => .error f
      | .ok none => .ok (some (.unknownAuthority c.issuer))
      | .ok (some (next, others)) =>
        match validityFailure? next now with
        | some failure => .ok (some failure)
        | none => climb anchors now steps next others

/-- Why no path leads from a leaf to an anchor among the other certificates; with no others there is nothing to
verify against, and that is no failure. -/
def trustFailure (leaf : Certificate) (rest : List Certificate) (now : Instant) :
    Except DecodeFault (Option TrustFailure) :=
  if rest.isEmpty then .ok none
  else
    match Pools.ofList rest with
    | .error f => .error f
    | .ok pools =>
      match validityFailure? leaf now with
      | some failure => .ok (some failure)
      | none => climb pools.anchors now maxSteps leaf pools.authorities

/-- A path of so many steps from `c` to one of the anchors over authorities that it uses at most once, all of its
certificates behind `c` valid. -/
inductive TrustPath (now : Instant) (anchors : List Certificate) :
    Nat → Certificate → List Certificate → Prop where
  | anchor {c a : Certificate} {authorities : List Certificate} :
      a ∈ anchors → c.isIssuedBy a = .ok true → IsValidAt a now → TrustPath now anchors 1 c authorities
  | step {steps : Nat} {c a : Certificate} {before behind : List Certificate} :
      c.isIssuedBy a = .ok true → IsValidAt a now → TrustPath now anchors steps a (before ++ behind) →
      TrustPath now anchors (steps + 1) c (before ++ a :: behind)

end CertInventory.Chain
