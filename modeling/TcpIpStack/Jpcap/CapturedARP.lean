import TcpIpStack.Jpcap.CapturedIP
import TcpIpStack.Protocol.ARPCodec

/-!
# Captured ARP messages

The library takes an ARP message for as long as its two address lengths say and
puts all of it in the header (`get_packet_arp`); padding is dropped. A frame
without padding leaves `tproto` unassigned, which for a message of this length
makes no difference.
-/

namespace TcpIpStack.Jpcap

open TcpIpStack.Java TcpIpStack.Lib

/-- The captured bytes of a frame with an ARP message, no shorter than the messages for
Ethernet and IPv4. -/
structure CapturedARP where
  bytes : Bytes
  min_length : 42 ≤ bytes.length
  length_le : bytes.length ≤ snaplen
  frametype : shortOf (slice bytes 12 2) = TcpIpStack.ETHERTYPE_ARP

namespace CapturedARP

variable (c : CapturedARP) (e : Elsewhere) (beyond : Memory Byte)

/-- The captured bytes and what stands behind them. -/
def memory : Memory Byte := .laid c.bytes beyond

/-- The length of the message, by its address lengths. -/
def messageLength : Nat := 8 + (c.bytes.getD 18 0).toNat * 2 + (c.bytes.getD 19 0).toNat * 2

/-- What was captured of the message. -/
def extent : Nat := min c.messageLength (c.bytes.length - 14)

theorem frametype_memory : ntohs (c.memory beyond) offset_type = TcpIpStack.ETHERTYPE_ARP := by
  have hlen := c.min_length
  rw [offset_type, memory, ntohs_laid (by omega), c.frametype]

theorem analyze_arp_memory : analyze_arp (c.memory beyond) offset_data = c.messageLength := by
  have hlen := c.min_length
  rw [analyze_arp, offset_data, memory, laid_getD (by omega), laid_getD (by omega), messageLength]
  push_cast
  rfl

theorem messageLength_le : c.messageLength ≤ 1028 := by
  have h18 := (c.bytes.getD 18 0).isLt
  have h19 := (c.bytes.getD 19 0).isLt
  unfold messageLength
  omega

/-- The protocol found, and the bytes behind a message for Ethernet and IPv4. -/
theorem transportProtocol_eq :
    transportProtocol e (c.memory beyond) ETHERTYPE_ARP (short (short c.bytes.length - offset_data)) =
      (if 42 < c.bytes.length then ETHERTYPE_ARP else e.tproto, (c.bytes.length - 42 : Int)) := by
  have hmin := c.min_length
  have hmax := c.length_le
  unfold snaplen at hmax
  have hlen : short (short c.bytes.length - offset_data) = c.bytes.length - 14 := by
    rw [short_of_mem (n := (c.bytes.length : Int)) (by omega) (by omega)]
    exact short_of_mem (by unfold offset_data; omega) (by unfold offset_data; omega)
  have hrest : short (c.bytes.length - 14 - 28) = c.bytes.length - 42 := by
    rw [short_of_mem (by omega) (by omega)]
    omega
  rw [transportProtocol, hlen, if_pos (by omega), if_neg (by decide), if_neg (by decide),
    if_pos rfl, hrest]
  simp only [show (0 < (c.bytes.length - 42 : Int)) ↔ 42 < c.bytes.length by omega]

/-- The protocol as the rest of `get_packet` sees it. -/
def tproto : Nat :=
  if Truncated (if 42 < c.bytes.length then ETHERTYPE_ARP else e.tproto) (c.bytes.length - 42) then
    UNKNOWN_PROTO
  else if 42 < c.bytes.length then ETHERTYPE_ARP else e.tproto

/-- An unassigned `tproto` that says TCP, UDP or ICMP is taken for a truncated packet. -/
theorem analyzeTransport_eq (data : Int) :
    analyzeTransport (c.memory beyond) data (c.tproto e) = 0 := by
  have hmin := c.min_length
  have hnone : c.tproto e ≠ IPPROTO_TCP ∧ c.tproto e ≠ IPPROTO_UDP ∧ c.tproto e ≠ IPPROTO_ICMP := by
    unfold tproto
    by_cases hpadded : 42 < c.bytes.length
    · rw [if_pos hpadded]
      split <;> decide
    · rw [if_neg hpadded]
      split
      · decide
      · next h =>
        have hrest : (c.bytes.length - 42 : Int) = 0 := by omega
        rw [hrest] at h
        exact ⟨fun heq => h (.inl ⟨heq, by decide⟩), fun heq => h (.inr (.inl ⟨heq, by decide⟩)),
          fun heq => h (.inr (.inr ⟨heq, by decide⟩))⟩
  rw [analyzeTransport, if_neg hnone.1, if_neg hnone.2.1, if_neg hnone.2.2]

/-- `clen`, bounded by the capture where the protocol is known. -/
theorem clen_eq (hshort : c.bytes.length = 42 → c.messageLength ≤ 28) :
    (if ETHERTYPE_ARP ≠ UNKNOWN_PROTO ∧ c.tproto e ≠ UNKNOWN_PROTO ∧
        u_int (c.bytes.length - offset_data) < u_int (short c.messageLength) then
      short (c.bytes.length - offset_data) else short c.messageLength) = c.extent := by
  have hmin := c.min_length
  have hmax := c.length_le
  have hlen := c.messageLength_le
  unfold snaplen at hmax
  by_cases hknown : c.tproto e = UNKNOWN_PROTO
  · have hunpadded : c.bytes.length = 42 := by
      by_contra hne
      unfold tproto at hknown
      rw [if_pos (show 42 < c.bytes.length by omega)] at hknown
      rw [if_neg (by rintro (⟨h, -⟩ | ⟨h, -⟩ | ⟨h, -⟩) <;> cases h)] at hknown
      cases hknown
    have hle := hshort hunpadded
    rw [if_neg fun h => h.2.1 hknown, short_of_mem (by omega) (by omega)]
    unfold extent
    omega
  · have hbounded := @bounded_length c.bytes.length c.messageLength (by omega)
      (by omega) (by omega)
    rw [if_congr ((and_iff_right (by decide)).trans (and_iff_right hknown)) rfl rfl, hbounded]
    rfl

/-- The message as far as it was captured, all of it in the header. -/
theorem get_packet_arp (hshort : c.bytes.length = 42 → c.messageLength ≤ 28) :
    get_packet e c.bytes.length (c.memory beyond) =
      .ok ⟨TcpIpStack.ETHERTYPE_ARP, c.bytes.take (14 + c.extent), []⟩ := by
  have hmin := c.min_length
  have hmax := c.length_le
  have hlen := c.messageLength_le
  have hextent : c.extent ≤ c.messageLength := Nat.min_le_left ..
  have hcaptured : 14 + c.extent ≤ c.bytes.length := by
    unfold extent
    omega
  unfold snaplen at hmax
  have htype : get_network_type (c.memory beyond) = ETHERTYPE_ARP := by
    rw [get_network_type, c.frametype_memory]
    rfl
  have hnetwork : analyzeNetwork e (c.memory beyond) c.bytes.length offset_data ETHERTYPE_ARP =
      (short c.messageLength, (c.messageLength : Int)) := by
    rw [analyzeNetwork, if_neg (by decide), if_neg (by decide), if_pos rfl, c.analyze_arp_memory,
      short_of_mem (by omega) (by omega)]
  have hclen := c.clen_eq e hshort
  have htransport := c.analyzeTransport_eq e beyond
  unfold tproto at hclen htransport
  have hptr : (offset_data + c.messageLength : Int) = (14 + c.messageLength : Nat) := by
    unfold offset_data
    omega
  have hheader : ((14 + c.messageLength : Nat) + min (c.extent - c.messageLength : Int) 0).toNat =
      14 + c.extent := by
    omega
  have hdata : ((c.extent - c.messageLength : Int) -
      min (c.extent - c.messageLength : Int) 0).toNat = 0 := by
    omega
  simp only [get_packet, htype, c.transportProtocol_eq, c.frametype_memory,
    if_neg (show ETHERTYPE_ARP ≠ UNKNOWN_PROTO by decide), hnetwork, hclen, htransport]
  rw [short_of_mem (n := (c.extent - c.messageLength : Int)) (by omega) (by omega), hptr,
    setPacket_eq (by omega) (by omega) (by omega) (by omega) (by omega), hheader, hdata, memory,
    Memory.region_laid_zero hcaptured, Memory.region_zero]

end CapturedARP

end TcpIpStack.Jpcap
