import CertInventory.Outside.Failure
import CertInventory.Revocation.Body

/-!
Connections. The network answers a dial with a failure or a connection, and a connection answers a handshake with a
failure or with what the peer presents.
-/

namespace CertInventory

/-- The bytes that a peer sends for a certificate: a certificate, or bytes that are refused with some failure when they
are read as one. -/
inductive PeerBytes where
  | certificate (c : Certificate)
  | refused (f : Failure)

/-- What a peer presents in a handshake. Some connections also report the chain; entries of it that are no bytes at
all are `none`. -/
structure Handshake where
  version : Option String
  cipher : Option String
  chain : Option (List (Option PeerBytes))
  leaf : Option PeerBytes
  staple : OcspBody

abbrev Dial := Except Failure (Except Failure Handshake)

/-- The network: how it answers a dial of an address, and how it changes by that. -/
structure Network (σ : Type) where
  dial : String → σ → Dial × σ

structure DialCall where
  timeoutMillis : Nat
  transport : String
  address : String
  deriving DecidableEq, Repr

/-- What was done on the network: dials, pauses, names asked for in handshakes, and connections closed again. -/
structure Trace where
  dials : List DialCall
  pauses : List Nat
  serverNames : List String
  closed : Nat
  deriving DecidableEq, Repr

namespace Trace

def none : Trace := ⟨[], [], [], 0⟩

def append (a b : Trace) : Trace :=
  ⟨a.dials ++ b.dials, a.pauses ++ b.pauses, a.serverNames ++ b.serverNames, a.closed + b.closed⟩

instance : Append Trace := ⟨append⟩

end Trace

end CertInventory
