import TcpIpStack.Protocol.IPFrame
import TcpIpStack.Protocol.UDP

/-!
# UDP over IP, there and back

`encode` builds a packet the way every application does, UDP header first;
`decode` takes a captured frame through the two decoders. Lengths are signed
`short`s on both sides. The encoder gives up when the datagram reaches 32768
bytes, the decoder already when the whole packet does, so the round trip holds
up to 32739 bytes of payload (`udp_round_trip_iff`).
-/

namespace TcpIpStack

open TcpIpStack.Java TcpIpStack.Lib

/-- An application's packet: its IP header is given the length of the UDP
header. The applications dereference both. -/
def encode (dev : DataLinkLayer) (udpInfo ipInfo : Info) : Except Throwable Bytes := do
  match ← UDPProtocolLayer.createHeader udpInfo with
  | none => throw .nullPointer
  | some udpHeader => do
    let ipInfo := ipInfo.put .data_length (.int (BitVec.ofNat 32 udpHeader.length))
    match ← IPProtocolLayer.createHeader dev ipInfo with
    | none => throw .nullPointer
    | some ipHeader => return ipHeader ++ udpHeader

/-- The capture library's split of a UDP frame without IP options: the 14, 20
and 8 bytes of the three headers, and the data. -/
def capture (frame : Bytes) : Packet := ⟨ETHERTYPE_IP, frame.take 42, frame.drop 42⟩

/-- A captured frame through both decoders, as `handleIPPacket` and
`handleUDPPacket` pass it on. -/
def decode (dev : DataLinkLayer) (packet : Packet) : Except Throwable (Option (Info × Info)) := do
  match ← IPProtocolLayer.handlePacket dev packet with
  | none => return none
  | some info => do
    let header ← info.unbox .header Obj.asBytes
    let headerInfo ← UDPProtocolLayer.handlePacket { packet with header }
    return some (info, headerInfo)

/-- Neither side throws and the decoder finds what the encoder was given. -/
def RoundTrips (dev : DataLinkLayer) (udpInfo ipInfo : Info) (link : Bytes) (srcIP : JInt)
    (srcPort destPort : JChar) (payload : Bytes) : Prop :=
  ∃ packet ip udp, encode dev udpInfo ipInfo = .ok packet ∧
    decode dev (capture (link ++ packet)) = .ok (some (ip, udp)) ∧
    ip .source_ip = some (.bytes (intBytes srcIP)) ∧ ip .protocol = some (.byte 17) ∧
    udp .src_port = some (.short srcPort) ∧ udp .dest_port = some (.short destPort) ∧
    (∃ length : Short, udp .length = some (.short length) ∧ length.toInt = payload.length + 8) ∧
    udp .data = some (.bytes payload)

section

variable {dev : DataLinkLayer} {udpInfo ipInfo : Info} {link payload : Bytes} {srcIP : JInt}
  {srcPort destPort : JChar}

/-- A datagram that fits a `short` goes out behind a header for this device. -/
theorem encode_ok (hudp : UDPProtocolLayer.Filled udpInfo srcPort destPort payload)
    (hip : IPProtocolLayer.Plain dev ipInfo srcIP (intOf dev.deviceIPAddress) 17)
    (hlink : link.length = 14) (hn : payload.length + 8 < 2 ^ 15) :
    ∃ f : IPProtocolLayer.IPFrame, f.link = link ∧ f.header.bytes.length = 20 ∧
      f.header.total_length = BitVec.ofNat 16 (payload.length + 28) ∧ f.header.protocol = 17 ∧
      f.header.source_ip = intBytes srcIP ∧ f.header.destination_ip = dev.deviceIPAddress ∧
      f.body = UDPProtocolLayer.datagram srcPort destPort payload ∧
      encode dev udpInfo ipInfo = .ok (f.header.bytes ++ f.body) := by
  obtain ⟨hdr, hcreate, hlen, htotal, hproto, hsrc, hdst, -⟩ :=
    IPProtocolLayer.createHeader_ok (hip.put_data_length (.int (BitVec.ofNat 32 (payload.length + 8))))
      rfl
  refine ⟨⟨link, hlink, hdr, UDPProtocolLayer.datagram srcPort destPort payload⟩, rfl, hlen, ?_,
    hproto, hsrc, ?_, rfl, ?_⟩
  · show hdr.total_length = _
    rw [htotal]
    apply BitVec.eq_of_toNat_eq
    simp only [BitVec.ofNat_eq_ofNat, BitVec.toNat_setWidth, BitVec.toNat_add, BitVec.toNat_ofNat]
    omega
  · show hdr.destination_ip = _
    rw [hdst, intBytes_intOf dev.deviceIPAddress_length]
  · rw [encode, UDPProtocolLayer.createHeader_eq hudp hn, ok_bind]
    dsimp only
    rw [UDPProtocolLayer.datagram_length, hcreate]
    rfl

/-- What the capture library hands over of a frame with a twenty-byte header. -/
theorem capture_frame {f : IPProtocolLayer.IPFrame} (hlen : f.header.bytes.length = 20)
    (hbody : f.body = UDPProtocolLayer.datagram srcPort destPort payload) :
    (capture f.bytes).header ++ (capture f.bytes).data = f.bytes ∧
      (capture f.bytes).data = payload := by
  refine ⟨List.take_append_drop 42 f.bytes, ?_⟩
  have hlink : f.link.length = 14 := f.link_length
  show f.bytes.drop 42 = payload
  rw [IPProtocolLayer.IPFrame.bytes, hbody, UDPProtocolLayer.datagram]
  rw [← List.append_assoc, List.drop_append_of_le_length (by simp; omega), List.drop_eq_nil_of_le (by simp; omega)]
  rfl

theorem roundTrips_of_le (hudp : UDPProtocolLayer.Filled udpInfo srcPort destPort payload)
    (hip : IPProtocolLayer.Plain dev ipInfo srcIP (intOf dev.deviceIPAddress) 17)
    (hlink : link.length = 14) (hn : payload.length ≤ 32739) :
    RoundTrips dev udpInfo ipInfo link srcIP srcPort destPort payload := by
  obtain ⟨f, rfl, hlen, htotal, hproto, hsrc, hdst, hbody, henc⟩ :=
    encode_ok hudp hip hlink (by omega)
  obtain ⟨hcap, hdata⟩ := capture_frame hlen hbody
  have hbodyLen : f.body.length = payload.length + 8 := by
    rw [hbody, UDPProtocolLayer.datagram_length]
  have htot : f.header.total_length.toInt = payload.length + 28 := by
    rw [htotal, toInt_ofNat_short (by omega), if_pos (by omega)]; push_cast; rfl
  have hinfo : f.info .header = some (.bytes f.body) := by
    show some (Obj.bytes (f.body.take _)) = _
    rw [List.take_of_length_le (by omega)]
  have hip : IPProtocolLayer.handlePacket dev (capture f.bytes) = .ok (some f.info) := by
    rw [IPProtocolLayer.handlePacket_eq f hcap, if_neg (by simp [hdst]), if_neg (by omega),
      if_pos (by omega)]
  have hudpHeader : UDPProtocolLayer.handlePacket { capture f.bytes with header := f.body } =
      .ok (UDPProtocolLayer.info f.body (capture f.bytes).data) :=
    UDPProtocolLayer.handlePacket_eq (by show 6 ≤ f.body.length; omega)
  have hunbox : f.info.unbox .header Obj.asBytes = .ok f.body := Info.unbox_ok hinfo rfl
  have hframe : f.link ++ (f.header.bytes ++ f.body) = f.bytes := (List.append_assoc ..).symm
  refine ⟨_, f.info, UDPProtocolLayer.info f.body payload, henc, ?_, ?_, ?_, ?_, ?_, ?_, rfl⟩
  · rw [hframe, decode, hip, ok_bind]
    dsimp only
    rw [hunbox, ok_bind, hudpHeader, hdata]
    rfl
  · show some (Obj.bytes f.header.source_ip) = _
    rw [hsrc]
  · show some (Obj.byte f.header.protocol) = _
    rw [hproto]
  · show some (Obj.short (shortOf (slice f.body 0 2))) = _
    rw [hbody]
    exact congrArg (some ∘ Obj.short) (shortOf_shortBytes srcPort)
  · show some (Obj.short (shortOf (slice f.body 2 2))) = _
    rw [hbody]
    exact congrArg (some ∘ Obj.short) (shortOf_shortBytes destPort)
  · refine ⟨_, rfl, ?_⟩
    have hword : shortOf (slice f.body 4 2) = BitVec.ofNat 16 (payload.length + 8) := by
      rw [hbody]
      exact shortOf_shortBytes _
    rw [hword, toInt_ofNat_short (by omega), if_pos (by omega)]
    push_cast
    rfl

theorem not_roundTrips_of_lt (hudp : UDPProtocolLayer.Filled udpInfo srcPort destPort payload)
    (hip : IPProtocolLayer.Plain dev ipInfo srcIP (intOf dev.deviceIPAddress) 17)
    (hlink : link.length = 14) (hlo : 32739 < payload.length) (hhi : payload.length ≤ 65507) :
    ¬ RoundTrips dev udpInfo ipInfo link srcIP srcPort destPort payload := by
  rintro ⟨packet, ip, udp, henc, hdec, -⟩
  rcases Nat.lt_or_ge (payload.length + 8) (2 ^ 15) with hshort | hlong
  · -- the packet's length reaches the decoder negative
    obtain ⟨f, rfl, hlen, htotal, -, -, hdst, hbody, henc'⟩ := encode_ok hudp hip hlink hshort
    obtain ⟨hcap, -⟩ := capture_frame hlen hbody
    obtain rfl : f.header.bytes ++ f.body = packet := by rw [henc] at henc'; cases henc'; rfl
    have htot : f.header.total_length.toInt < 20 := by
      rw [htotal, toInt_ofNat_short (by omega), if_neg (by omega)]; omega
    rw [← List.append_assoc] at hdec
    rw [decode, show f.link ++ f.header.bytes ++ f.body = f.bytes from rfl,
      IPProtocolLayer.handlePacket_eq f hcap, if_neg (by simp [hdst]), if_pos (by omega),
      error_bind] at hdec
    cases hdec
  · rw [encode, UDPProtocolLayer.createHeader_error hudp hlong (by omega), error_bind] at henc
    cases henc

/-- For every payload the protocol allows, the round trip works if and only if
the whole packet stays below 32768 bytes. -/
theorem udp_round_trip_iff (hudp : UDPProtocolLayer.Filled udpInfo srcPort destPort payload)
    (hip : IPProtocolLayer.Plain dev ipInfo srcIP (intOf dev.deviceIPAddress) 17)
    (hlink : link.length = 14) (hn : payload.length ≤ 65507) :
    RoundTrips dev udpInfo ipInfo link srcIP srcPort destPort payload ↔ payload.length ≤ 32739 := by
  constructor
  · intro h
    by_contra hlong
    exact not_roundTrips_of_lt hudp hip hlink (by omega) hn h
  · exact roundTrips_of_le hudp hip hlink

end

/-- A UDP table. -/
def sampleUDPInfo (srcPort destPort : JChar) (payload : Bytes) : Info := Info.empty
  |>.put .source_port (.char srcPort)
  |>.put .dest_port (.char destPort)
  |>.put .data (.bytes payload)

theorem sampleUDPInfo_filled (srcPort destPort : JChar) (payload : Bytes) :
    UDPProtocolLayer.Filled (sampleUDPInfo srcPort destPort payload) srcPort destPort payload :=
  ⟨rfl, rfl, rfl⟩

/-- An IP table for a datagram from `192.168.1.1` to the device. -/
def sampleIPInfo (dev : DataLinkLayer) : Info := Info.empty
  |>.put .source_ip (.int 0xC0A80101)
  |>.put .destination_ip (.int (intOf dev.deviceIPAddress))
  |>.put .protocol (.byte 17)

theorem sampleIPInfo_plain (dev : DataLinkLayer) : IPProtocolLayer.Plain dev (sampleIPInfo dev)
    0xC0A80101 (intOf dev.deviceIPAddress) 17 :=
  ⟨rfl, rfl, rfl, rfl, rfl, ⟨0, rfl⟩, ⟨0, rfl⟩, ⟨0, rfl⟩, ⟨0, rfl⟩, ⟨0, rfl⟩, ⟨64, rfl⟩⟩

theorem udp_round_trip_three_bytes :
    RoundTrips sampleDevice (sampleUDPInfo 53 60000 [1, 2, 3]) (sampleIPInfo sampleDevice)
      (List.replicate 14 0) 0xC0A80101 53 60000 [1, 2, 3] :=
  (udp_round_trip_iff (sampleUDPInfo_filled 53 60000 [1, 2, 3]) (sampleIPInfo_plain sampleDevice)
    (by decide) (by decide)).mpr (by decide)

/-- 32740 bytes are within the protocol's range and do not come back. -/
theorem udp_round_trip_lost :
    ¬ ∀ (dev : DataLinkLayer) (udpInfo ipInfo : Info) (link : Bytes) (srcIP : JInt)
      (srcPort destPort : JChar) (payload : Bytes),
      UDPProtocolLayer.Filled udpInfo srcPort destPort payload →
      IPProtocolLayer.Plain dev ipInfo srcIP (intOf dev.deviceIPAddress) 17 → link.length = 14 →
      payload.length ≤ 65507 →
      RoundTrips dev udpInfo ipInfo link srcIP srcPort destPort payload := by
  intro h
  let payload : Bytes := List.replicate 32740 0
  have hlen : payload.length = 32740 := List.length_replicate ..
  have hudp := sampleUDPInfo_filled 53 60000 payload
  have hip := sampleIPInfo_plain sampleDevice
  have hlink : (List.replicate 14 0 : Bytes).length = 14 := rfl
  exact not_roundTrips_of_lt hudp hip hlink (by omega) (by omega)
    (h sampleDevice _ _ _ _ 53 60000 payload hudp hip hlink (by omega))

end TcpIpStack
