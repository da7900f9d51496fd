import CertInventory.Chain.Defect
import CertInventory.Chain.Moment
import CertInventory.Datum.Whole
import CertInventory.Job
import CertInventory.Service.Server
import CertInventory.Proofs.Chain.Search
import CertInventory.Proofs.Chain.TrustPath
import CertInventory.Proofs.Chain.WellFormed
import CertInventory.Proofs.Run.Passes
import CertInventory.Proofs.Finding.Renewal
import CertInventory.Proofs.Run.Severity
import CertInventory.Proofs.Run.FanIn
import CertInventory.Proofs.Run.Errors
import CertInventory.Proofs.Finding.Order
import CertInventory.Proofs.Run.Order
import CertInventory.Proofs.Revocation.Lists
import CertInventory.Proofs.Revocation.Mark
import CertInventory.Proofs.Run.Verdict
import CertInventory.Proofs.Revocation.History
import CertInventory.Proofs.Revocation.Ocsp
import CertInventory.Proofs.Chain.Decoding
import CertInventory.Proofs.Probe.Retry
import CertInventory.Proofs.Source.Targets
import CertInventory.Proofs.Finding.Remedy
import CertInventory.Proofs.Run.Emission
import CertInventory.Proofs.Run.Renewal
import CertInventory.Proofs.Source.Description
import CertInventory.Proofs.Source.Facts
import CertInventory.Proofs.Job.Expiry
import CertInventory.Proofs.Source.Bundles
import CertInventory.Proofs.Snapshot.Document
import CertInventory.Proofs.History.Refinement
import CertInventory.Proofs.Config.Reading
import CertInventory.Proofs.Run.Calendar
import CertInventory.Proofs.Service.Refresh
import CertInventory.Proofs.Chain.Report
import CertInventory.Proofs.Service.Guard
import CertInventory.Proofs.Certificate.Bundle
import CertInventory.Proofs.Certificate.Marks
import CertInventory.Proofs.Certificate.Coverage
import CertInventory.Proofs.Run.Isolation
import CertInventory.Proofs.Source.Agreement
import CertInventory.Proofs.Target.Format
import CertInventory.Proofs.Run.Advice
import CertInventory.Proofs.Time.DurationText
import CertInventory.Proofs.Probe.Coherence
import CertInventory.Proofs.Target.Verified
import CertInventory.Proofs.Service.Lookup
