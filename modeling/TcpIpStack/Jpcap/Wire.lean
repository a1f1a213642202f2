import TcpIpStack.Jpcap.CapturedARP
import TcpIpStack.Jpcap.JpcapSender
import TcpIpStack.Protocol.RoundTrip

/-!
# Over the wire

What one device sends another captures: the sender fills short frames up, and the
capture drops what stands behind the datagram again. A frame of a datagram comes
back as its own bytes (`wire_datagram`), one of an ARP message in the header
alone (`wire_message`); what the buffer of the sender and the memory of the
receiver held before makes no difference.
-/

namespace TcpIpStack.Jpcap

open TcpIpStack.Java TcpIpStack.Lib
open IPProtocolLayer (ihl total)

/-- A frame from one device to another: what the other device's library makes of it,
where what is sent is defined. -/
def overWire (buf : Buffer) (e : Elsewhere) (beyond : Memory Byte) (packet : Frame) :
    Option (Except Fault Packet) :=
  (nativeSendPacket packet buf).map fun w => get_packet e w.length (.laid w beyond)

/-- A frame's bytes, cut in two. -/
def split (n : Nat) (packet : Frame) : Packet :=
  ⟨TcpIpStack.ETHERTYPE_IP, (frameBytes packet).take n, (frameBytes packet).drop n⟩

theorem split_bytes (n : Nat) (packet : Frame) :
    (split n packet).header ++ (split n packet).data = frameBytes packet :=
  List.take_append_drop ..

/-- A frame the sender lays out: its addresses are whole and its data fits the buffer. -/
structure Leaves (packet : Frame) : Prop where
  dst_mac : packet.dst_mac.length = 6
  src_mac : packet.src_mac.length = 6
  fits : packet.data.length ≤ 1586

section

variable {packet : Frame}

theorem wire_length (h : Leaves packet) : (wire packet).length = max 60 (packet.data.length + 14) := by
  have hlen := frameBytes_length h.dst_mac h.src_mac
  rw [wire, List.length_append, List.length_replicate]
  omega

theorem wire_take (h : Leaves packet) :
    (wire packet).take (14 + packet.data.length) = frameBytes packet := by
  rw [wire, List.take_left' (by rw [frameBytes_length h.dst_mac h.src_mac, Nat.add_comm])]

/-- The link header. -/
def linkBytes (packet : Frame) : Bytes :=
  packet.dst_mac ++ packet.src_mac ++ shortBytes packet.frametype

theorem linkBytes_length (h : Leaves packet) : (linkBytes packet).length = 14 := by
  simp only [linkBytes, List.length_append, h.dst_mac, h.src_mac, shortBytes_length]

/-- A field of the data, at its place on the wire. -/
theorem slice_wire (h : Leaves packet) {i n : Nat} (hin : i + n ≤ packet.data.length) :
    slice (wire packet) (14 + i) n = slice packet.data i n := by
  have hlen := linkBytes_length h
  have hbytes : frameBytes packet = linkBytes packet ++ packet.data := rfl
  rw [wire, slice_append_left (by rw [hbytes, List.length_append, hlen]; omega), hbytes,
    slice_append_right (by omega), hlen, Nat.add_sub_cancel_left]

theorem getD_wire (h : Leaves packet) {i : Nat} (hi : i < packet.data.length) :
    (wire packet).getD (14 + i) 0 = packet.data.getD i 0 := by
  have hlen := linkBytes_length h
  have hbytes : wire packet = linkBytes packet ++ (packet.data ++
      List.replicate (60 - (frameBytes packet).length) 0) := List.append_assoc ..
  rw [hbytes, List.getD_append_right _ _ _ _ (by omega), hlen, Nat.add_sub_cancel_left,
    List.getD_append _ _ _ _ hi]

theorem frametype_wire (h : Leaves packet) :
    shortOf (slice (wire packet) 12 2) = packet.frametype := by
  have hbytes : wire packet = (packet.dst_mac ++ packet.src_mac) ++ shortBytes packet.frametype ++
      (packet.data ++ List.replicate (60 - (frameBytes packet).length) 0) := List.append_assoc ..
  rw [hbytes, slice_append (by rw [List.length_append, h.dst_mac, h.src_mac]) (shortBytes_length _),
    shortOf_shortBytes]

theorem overWire_eq (h : Leaves packet) (buf : Buffer) (e : Elsewhere) (beyond : Memory Byte) :
    overWire buf e beyond packet =
      some (get_packet e (wire packet).length (.laid (wire packet) beyond)) := by
  rw [overWire, nativeSendPacket_eq h.dst_mac h.src_mac h.fits]
  rfl

end

/-- A frame with a datagram as the stack builds them: a header without options, and a
length field that counts all of the data. -/
structure Datagram (packet : Frame) : Prop extends Leaves packet where
  frametype : packet.frametype = TcpIpStack.ETHERTYPE_IP
  min_length : 20 ≤ packet.data.length
  header_length : (packet.data.getD 0 0).toNat % 16 = 5
  total_length : (shortOf (slice packet.data 2 2)).toNat = packet.data.length

namespace Datagram

variable {packet : Frame} (h : Datagram packet)

/-- The frame as the other device captures it. -/
def captured : CapturedIP where
  bytes := wire packet
  min_length := by
    rw [wire_length h.toLeaves]
    omega
  length_le := by
    have hfits := h.fits
    rw [wire_length h.toLeaves, snaplen]
    omega
  frametype := by rw [frametype_wire h.toLeaves, h.frametype]

theorem ihl_eq (h : Datagram packet) : ihl (wire packet) = 5 := by
  have hmin := h.min_length
  rw [ihl, getD_wire h.toLeaves (i := 0) (by omega), h.header_length]

theorem total_eq (h : Datagram packet) : total (wire packet) = packet.data.length := by
  have hmin := h.min_length
  rw [total, slice_wire h.toLeaves (i := 2) (n := 2) (by omega), h.total_length]

/-- The shortest frame has room for every transport header. -/
theorem not_headerCut : ¬ h.captured.HeaderCut := by
  have hlen := wire_length h.toLeaves
  have hihl := h.ihl_eq
  have hrest : 26 ≤ h.captured.rest := by
    show 26 ≤ ((wire packet).length - 14 - 4 * ihl (wire packet) : Int)
    rw [hihl, hlen]
    omega
  rintro ⟨-, ⟨-, hlt⟩ | ⟨-, hlt⟩ | ⟨-, hlt⟩⟩
  · unfold TCPHDRLEN at hlt
    omega
  · unfold UDPHDRLEN at hlt
    omega
  · unfold ICMPHDRLEN at hlt
    omega

theorem extent_eq : h.captured.extent = packet.data.length := by
  have hlen := wire_length h.toLeaves
  show min (total (wire packet)) ((wire packet).length - 14) = _
  rw [h.total_eq, hlen]
  omega

/-- A datagram comes back without the padding, cut behind its last header. -/
theorem overWire_eq (buf : Buffer) (e : Elsewhere) (beyond : Memory Byte) :
    overWire buf e beyond packet = some (.ok (split h.captured.headerEnd packet)) := by
  have hpacket := h.captured.get_packet_eq e beyond fun hcut => absurd hcut h.not_headerCut
  have htake := wire_take h.toLeaves
  rw [Jpcap.overWire_eq h.toLeaves]
  show some (get_packet e h.captured.bytes.length (h.captured.memory beyond)) = _
  rw [hpacket]
  have hbytes : (wire packet).take (14 + h.captured.extent) = frameBytes packet := by
    rw [h.extent_eq, htake]
  have hheader : (wire packet).take h.captured.headerEnd =
      (frameBytes packet).take h.captured.headerEnd := by
    rw [← hbytes, List.take_take, Nat.min_eq_left h.captured.headerEnd_le]
  show some (Except.ok (⟨_, (wire packet).take h.captured.headerEnd,
    ((wire packet).take (14 + h.captured.extent)).drop h.captured.headerEnd⟩ : Packet)) = _
  rw [hbytes, hheader]
  rfl

/-- Where the capture ends the header: behind the transport header of a first fragment. -/
theorem headerEnd_eq : h.captured.headerEnd =
    14 + min packet.data.length (20 + h.captured.transportHeader) := by
  show 14 + min h.captured.extent (4 * ihl (wire packet) + h.captured.transportHeader) = _
  rw [h.extent_eq, h.ihl_eq]

/-- The fragment offset of the datagram. -/
def fragmentOffset (packet : Frame) : Nat :=
  (shortOf (slice packet.data 6 2)).toNat &&& IP_OFFMASK

theorem begins_iff : h.captured.Begins ↔ fragmentOffset packet = 0 := by
  have hmin := h.min_length
  have hlen := wire_length h.toLeaves
  have hrest : 0 < h.captured.rest := by
    show 0 < ((wire packet).length - 14 - 4 * ihl (wire packet) : Int)
    rw [h.ihl_eq, hlen]
    omega
  have hfield : slice (wire packet) 20 2 = slice packet.data 6 2 :=
    slice_wire h.toLeaves (i := 6) (by omega)
  show 0 < h.captured.rest ∧ (shortOf (slice (wire packet) 20 2)).toNat &&& IP_OFFMASK = 0 ↔ _
  rw [hfield, and_iff_right hrest, fragmentOffset]

theorem protocol_eq (h : Datagram packet) :
    ((wire packet).getD 23 0).toNat = (packet.data.getD 9 0).toNat := by
  have hmin := h.min_length
  rw [getD_wire h.toLeaves (i := 9) (by omega)]

/-- UDP and ICMP headers are eight bytes long: the capture ends the header behind them,
or behind the IP header of a later fragment. -/
theorem headerEnd_short (hproto : packet.data.getD 9 0 = 17 ∨ packet.data.getD 9 0 = 1)
    (hmin : 28 ≤ packet.data.length) :
    h.captured.headerEnd = if fragmentOffset packet = 0 then 42 else 34 := by
  have hprotocol : h.captured.protocol = (packet.data.getD 9 0).toNat := h.protocol_eq
  have height : h.captured.transportHeader = if fragmentOffset packet = 0 then 8 else 0 := by
    have hnot := h.not_headerCut
    unfold CapturedIP.transportHeader
    by_cases hfirst : fragmentOffset packet = 0
    · rw [if_pos ⟨h.begins_iff.mpr hfirst, hnot⟩, if_pos hfirst, hprotocol]
      rcases hproto with hudp | hicmp
      · rw [hudp]
        rfl
      · rw [hicmp]
        rfl
    · rw [if_neg fun hb => hfirst (h.begins_iff.mp hb.1), if_neg hfirst]
  rw [h.headerEnd_eq, height]
  split <;> omega

/-- A whole datagram of UDP or ICMP arrives in the split the stack relies on. -/
theorem overWire_capture (h : Datagram packet)
    (hproto : packet.data.getD 9 0 = 17 ∨ packet.data.getD 9 0 = 1)
    (hmin : 28 ≤ packet.data.length) (hfirst : fragmentOffset packet = 0) (buf : Buffer)
    (e : Elsewhere) (beyond : Memory Byte) :
    overWire buf e beyond packet = some (.ok (TcpIpStack.capture (frameBytes packet))) := by
  rw [h.overWire_eq, h.headerEnd_short hproto hmin, if_pos hfirst]
  rfl

end Datagram

/-! ## ARP messages -/

/-- The frame of an ARP message. -/
def messageFrame (dst src : MacAddress) (m : ARPProtocolLayer.Message) : Frame :=
  ⟨dst.getAddress, src.getAddress, TcpIpStack.ETHERTYPE_ARP, m.bytes⟩

section

variable (dst src : MacAddress) (m : ARPProtocolLayer.Message)

theorem messageFrame_leaves : Leaves (messageFrame dst src m) where
  dst_mac := dst.length_eq
  src_mac := src.length_eq
  fits := by
    show m.bytes.length ≤ 1586
    rw [m.bytes_length]
    omega

theorem messageFrame_length : (frameBytes (messageFrame dst src m)).length = 42 := by
  rw [frameBytes_length dst.length_eq src.length_eq]
  exact congrArg (· + 14) m.bytes_length

/-- The message as the other device captures it. -/
def capturedMessage : CapturedARP where
  bytes := wire (messageFrame dst src m)
  min_length := by
    rw [wire_length (messageFrame_leaves dst src m)]
    omega
  length_le := by
    have hlen : (messageFrame dst src m).data.length = 28 := m.bytes_length
    rw [wire_length (messageFrame_leaves dst src m), snaplen, hlen]
    decide
  frametype := frametype_wire (messageFrame_leaves dst src m)

theorem capturedMessage_extent : (capturedMessage dst src m).extent = 28 := by
  have hdata : (messageFrame dst src m).data.length = 28 := m.bytes_length
  have hlen : (capturedMessage dst src m).bytes.length = 60 := by
    show (wire (messageFrame dst src m)).length = 60
    rw [wire_length (messageFrame_leaves dst src m), hdata]
    decide
  have hhard : (wire (messageFrame dst src m)).getD 18 0 = 6 :=
    getD_wire (messageFrame_leaves dst src m) (i := 4) (by omega)
  have hproto : (wire (messageFrame dst src m)).getD 19 0 = 4 :=
    getD_wire (messageFrame_leaves dst src m) (i := 5) (by omega)
  have hmessage : (capturedMessage dst src m).messageLength = 28 := by
    show 8 + ((wire (messageFrame dst src m)).getD 18 0).toNat * 2 +
      ((wire (messageFrame dst src m)).getD 19 0).toNat * 2 = 28
    rw [hhard, hproto]
    rfl
  rw [CapturedARP.extent, hmessage, hlen]
  rfl

/-- The message as the stack gets it. -/
def arrivedMessage : ARPProtocolLayer.ARPFrame where
  frametype := TcpIpStack.ETHERTYPE_ARP
  link := linkBytes (messageFrame dst src m)
  link_length := linkBytes_length (messageFrame_leaves dst src m)
  message := m
  data := []

/-- A message comes back whole, in the header and without the padding. -/
theorem overWire_message (buf : Buffer) (e : Elsewhere) (beyond : Memory Byte) :
    overWire buf e beyond (messageFrame dst src m) =
      some (.ok (arrivedMessage dst src m).packet) := by
  have hleaves := messageFrame_leaves dst src m
  have hdata : (messageFrame dst src m).data.length = 28 := m.bytes_length
  have htake := wire_take hleaves
  have hpadded : (capturedMessage dst src m).bytes.length ≠ 42 := by
    show (wire (messageFrame dst src m)).length ≠ 42
    rw [wire_length hleaves]
    omega
  have hpacket := (capturedMessage dst src m).get_packet_arp e beyond fun h => absurd h hpadded
  rw [capturedMessage_extent] at hpacket
  rw [hdata] at htake
  rw [overWire_eq hleaves]
  show some (get_packet e (capturedMessage dst src m).bytes.length
    ((capturedMessage dst src m).memory beyond)) = _
  rw [hpacket]
  show some (Except.ok (⟨_, (wire (messageFrame dst src m)).take 42, []⟩ : Packet)) = _
  rw [htake]
  rfl

end

end TcpIpStack.Jpcap
