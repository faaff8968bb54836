import Lldpdu.Link
import Lldpdu.Session
import Lldpdu.Proofs.Checked.Faultless
import Lldpdu.Proofs.Extension.RoundTrip
import Lldpdu.Proofs.Frame.Cuts
import Lldpdu.Proofs.Frame.Refusal
import Lldpdu.Proofs.Info.RoundTrip
import Lldpdu.Proofs.Layer
import Lldpdu.Proofs.Info.Fields
import Lldpdu.Proofs.Extension.Rejection
import Lldpdu.Proofs.Accounting
import Lldpdu.Proofs.Keyed
import Lldpdu.Proofs.Frame.Fields
import Lldpdu.Proofs.Info.Order
import Lldpdu.Proofs.Extension.Order
import Lldpdu.Proofs.Frame.Order
import Lldpdu.Proofs.Info.Insertion
import Lldpdu.Proofs.Frame.Insertion
import Lldpdu.Proofs.Info.ManagementAddress
import Lldpdu.Proofs.Layout
import Lldpdu.Proofs.Lengthening
import Lldpdu.Proofs.Extension.Fields
import Lldpdu.Proofs.Extension.Records
import Lldpdu.Proofs.Tlv.Calls
import Lldpdu.Proofs.Tlv.Shift
import Lldpdu.Proofs.Extension.Power
import Lldpdu.Proofs.Checked.Calls
import Lldpdu.Proofs.Checked.Operations
import Lldpdu.Proofs.Session
