import Lldpdu.Layer
import Lldpdu.Proofs.Checked.Extension
import Lldpdu.Proofs.Checked.Frame
import Lldpdu.Proofs.Checked.Info

/-!
# No input makes a decoder fault

Every decoder, written out in operations that can fault, returns what the decoder without faults
returns.  This holds of any buffer that is not as long as words go, and of any TLVs, any payloads
and any identifiers, however they came about.
-/

namespace Lldpdu.Checked

/-- Deliver a buffer behind some layers. -/
def deliver (layers : List Layer) (buffer : Octets) :
    Checked (List Layer × Option DecodeError) := do
  match ← frame buffer with
  | .error cause => return (layers, some (.frame cause))
  | .ok frame =>
      let decoded ← info frame.values
      return (layers ++ [.frame frame, .info decoded.value], decoded.firstError?.map .field)

theorem deliver_eq_ok {buffer : Octets} (small : buffer.length < 2 ^ 63) (layers : List Layer) :
    deliver layers buffer = .ok (Delivery.deliver layers buffer) := by
  rw [deliver, frame_eq_ok small, ok_bind, Delivery.deliver, Delivery.ofOctets]
  cases Frame.decode buffer with
  | error cause => exact congrArg (Except.ok <| Prod.mk · _) (List.append_nil layers).symm
  | ok frame =>
      simp only [info_eq_ok, ok_bind]
      rfl

/-- No decoder faults, and each returns what it returns without the checks: a walk over a buffer
for any number of calls, the decoder of frames and the delivery of layers on any buffer, the
decoder of the optional part on any TLVs, the extensions on any TLVs of organizations, and the
addresses in any identifiers and management addresses. -/
theorem never_faults :
    (∀ buffer : Octets, buffer.length < 2 ^ 63 →
      (∀ n, ∃ w, (Walker.ofOctets buffer).calls n =
          .ok ((List.range n).map fun i => ((Walk.ofOctets buffer).after i).next?.map Prod.fst, w) ∧
        w.view = (Walk.ofOctets buffer).after n) ∧
      frame buffer = .ok (Frame.decode buffer) ∧
      ∀ layers, deliver layers buffer = .ok (Delivery.deliver layers buffer)) ∧
    (∀ tlvs : List Tlv, info tlvs = .ok (Info.ofTlvs tlvs)) ∧
    (∀ frame : Frame, info frame.values = .ok frame.info) ∧
    (∀ tlvs : List OrganizationTlv,
      extension Bridging.extension bridging? tlvs = .ok (Bridging.extension.decode tlvs) ∧
      extension Ethernet.extension ethernet? tlvs = .ok (Ethernet.extension.decode tlvs) ∧
      extension EdgeBridging.extension edgeBridging? tlvs =
        .ok (EdgeBridging.extension.decode tlvs)) ∧
    (∀ i : ChassisId, macAddress? ChassisId.macSubtype i = .ok i.macAddress?) ∧
    (∀ i : PortId, macAddress? PortId.macSubtype i = .ok i.macAddress?) ∧
    ∀ m : ManagementAddress, ipAddress? m = .ok m.ipAddress? := by
  refine ⟨?_, info_eq_ok, fun frame => info_eq_ok frame.values, ?_,
    macAddress?_eq_ok _, macAddress?_eq_ok _, ipAddress?_eq_ok⟩
  · intro buffer small
    have inside : Inside (Walker.ofOctets buffer).reader := ⟨Nat.zero_le _, small⟩
    exact ⟨Walker.calls_eq_ok inside, frame_eq_ok small, deliver_eq_ok small⟩
  · intro tlvs
    exact ⟨extension_eq_ok bridging?_agrees tlvs, extension_eq_ok ethernet?_agrees tlvs,
      extension_eq_ok edgeBridging?_agrees tlvs⟩

/-- A buffer that cuts its first TLV off: the first call reports it, and there is no more. -/
theorem never_faults_cut_buffer :
    ([2, 7, 4, 0] : Octets).length < 2 ^ 63 ∧
      (∃ w, (Walker.ofOctets [2, 7, 4, 0]).calls 3 =
          .ok ([some (.error ⟨0, 9, 4⟩), none, none], w) ∧ w.view.endSeen = false) ∧
      frame [2, 7, 4, 0] = .ok (Frame.decode [2, 7, 4, 0]) ∧
      ∀ layers, deliver layers [2, 7, 4, 0] = .ok (Delivery.deliver layers [2, 7, 4, 0]) := by
  have small : ([2, 7, 4, 0] : Octets).length < 2 ^ 63 := by decide
  obtain ⟨calls, frame, deliver⟩ := never_faults.1 [2, 7, 4, 0] small
  obtain ⟨w, handedOut, view⟩ := calls 3
  exact ⟨small, ⟨w, handedOut, by rw [view]; rfl⟩, frame, deliver⟩

end Lldpdu.Checked
