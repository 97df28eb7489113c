import PatchBay.Bench
import PatchBay.Config.Folder
import PatchBay.Main
import PatchBay.Proofs.Capacity
import PatchBay.Proofs.Consistency
import PatchBay.Proofs.Deliveries
import PatchBay.Proofs.FailedSends
import PatchBay.Proofs.Lifecycle
import PatchBay.Proofs.RoundTrip
import PatchBay.Proofs.FreshStart
import PatchBay.Proofs.Reopening
import PatchBay.Proofs.OpenSysex
import PatchBay.Proofs.SysexAgreement
import PatchBay.Proofs.Framing
import PatchBay.Proofs.Handlers
import PatchBay.Proofs.NameLimit
import PatchBay.Proofs.FailedOpens
import PatchBay.Proofs.Stamping
import PatchBay.Proofs.Accounting
import PatchBay.Proofs.Removal
import PatchBay.Proofs.Isolation
import PatchBay.Proofs.Scattering
import PatchBay.Proofs.Tiling
import PatchBay.Proofs.Connections
import PatchBay.Proofs.Realtime
import PatchBay.Proofs.Room
import PatchBay.Proofs.Opening
import PatchBay.Proofs.Retrying
import PatchBay.Proofs.Meaning
import PatchBay.Proofs.Repeating
import PatchBay.Proofs.SelfTest
