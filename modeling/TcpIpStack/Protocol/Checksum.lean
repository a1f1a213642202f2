import TcpIpStack.Protocol.IP
import TcpIpStack.Protocol.ICMP

/-!
# Checksums of the emitted headers

The encoder folds the carry of its sum once, a receiver folds until none is
left. They agree on every header but those whose words sum to `s` with
`s % 2^16 + s / 2^16 ≥ 2^16`; such headers exist, and the stack emits them.
-/

namespace TcpIpStack

open TcpIpStack.Java TcpIpStack.Lib

/-- A receiver accepts a checksum if and only if the other words of the buffer
fold without a second carry; so for the three header encoders. -/
theorem checksum_accepted_iff (dev : DataLinkLayer) (ran : JInt) (headerInfo : Info) (b : Bytes) :
    (∀ o : Nat, b.length ≤ maxArrayLength → o % 2 = 0 → slice b o 2 = [0, 0] →
      ∃ c, Utility.checksum b b.length = .ok c ∧
        (Utility.Verifies (ByteBuffer.storeAt b o (shortBytes (c.setWidth 16))) ↔
          Utility.FoldsOnce b)) ∧
    (IPProtocolLayer.createHeader dev headerInfo = .ok (some b) →
      (Utility.Verifies b ↔ Utility.FoldsOnce (ByteBuffer.storeAt b 10 [0, 0]))) ∧
    (ICMPEchoHeader.createHeader ran headerInfo = .ok (some b) →
      (Utility.Verifies b ↔ Utility.FoldsOnce (ByteBuffer.storeAt b 2 [0, 0]))) ∧
    (ICMPTimeStampHeader.createHeader ran headerInfo = .ok (some b) →
      (Utility.Verifies b ↔ Utility.FoldsOnce (ByteBuffer.storeAt b 2 [0, 0]))) := by
  refine ⟨fun o hlen ho hz => ?_, IPProtocolLayer.createHeader_verifies dev headerInfo,
    ICMPEchoHeader.createHeader_verifies ran headerInfo,
    ICMPTimeStampHeader.createHeader_verifies ran headerInfo⟩
  obtain ⟨c, hc, -⟩ := Utility.checksum_toNat hlen
  exact ⟨c, hc, Utility.verifies_storeAt_checksum hlen ho hz hc⟩

/-- The IP header table of a 41-byte DNS query to `192.168.1.1` whose
transaction id came out as `0xF6E9`. -/
def secondCarryHeader : Info := Info.empty
  |>.put .data_length (.int 41)
  |>.put .destination_ip (.int 0xC0A80101)
  |>.put .protocol (.byte 17)
  |>.put .identification (.short 0xF6E9)

/-- The sum of its words is `0x2FFFE`: the fold carries again, and no receiver
accepts the header. -/
theorem second_carry_rejected :
    (¬ ∀ (b : Bytes) (o : Nat) (c : Long), b.length ≤ maxArrayLength → o % 2 = 0 →
      slice b o 2 = [0, 0] → Utility.checksum b b.length = .ok c →
        Utility.Verifies (ByteBuffer.storeAt b o (shortBytes (c.setWidth 16)))) ∧
    (¬ ∀ (dev : DataLinkLayer) (headerInfo : Info) (h : Bytes),
      IPProtocolLayer.createHeader dev headerInfo = .ok (some h) → Utility.Verifies h) := by
  constructor
  · intro h
    have hc : Utility.checksum [0, 0, 0xFF, 0xFF, 0xFF, 0xFF, 0, 1] 8 = .ok 0xFFFF := by decide
    have hv := h [0, 0, 0xFF, 0xFF, 0xFF, 0xFF, 0, 1] 0 _ (by decide) rfl (by decide) hc
    rw [Utility.verifies_storeAt_checksum (by decide) rfl (by decide) hc] at hv
    exact absurd hv (by decide)
  · intro h
    have hv := h sampleDevice secondCarryHeader _ rfl
    rw [IPProtocolLayer.createHeader_verifies sampleDevice secondCarryHeader rfl] at hv
    exact absurd hv (by decide)

end TcpIpStack
