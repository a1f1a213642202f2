import TcpIpStack.Jpcap.Wire
import TcpIpStack.Protocol.UDPPayload
import TcpIpStack.Protocol.Traffic

/-!
# From one device to another

A datagram that fits the sender's buffer goes through the encoders of one stack,
the sender, the wire, the capture and the decoders of another. A fragment offset
makes the capture split it elsewhere (`over_the_wire_iff`).
-/

namespace TcpIpStack.Jpcap

open TcpIpStack.Java TcpIpStack.Lib
open ProtocolManager (deliveries)

/-- The frame `sendData` makes of an IP packet. -/
def frameTo (A : DataLinkLayer) (mac : MacAddress) (p : Bytes) : Frame :=
  ⟨mac.getAddress, A.macAddress, TcpIpStack.ETHERTYPE_IP, p⟩

/-- A header the encoder builds without options, before a datagram of its length. -/
structure HeaderFor (header : IPProtocolLayer.Header) (body : Bytes) (src dst : Bytes) (p : Byte)
    (fragment : Short) : Prop where
  length : header.bytes.length = 20
  first : header.bytes.getD 0 0 = 0x45
  total_length : header.total_length = BitVec.ofNat 16 (body.length + 20)
  fragment : slice header.bytes 6 2 = shortBytes fragment
  protocol : header.protocol = p
  source_ip : header.source_ip = src
  destination_ip : header.destination_ip = dst

section

variable (A : DataLinkLayer) (mac : MacAddress) {header : IPProtocolLayer.Header}
  {body src dst : Bytes} {p : Byte} {fragment : Short}

/-- The frame of a datagram that fits the buffer. -/
theorem HeaderFor.datagram (h : HeaderFor header body src dst p fragment)
    (hfits : body.length ≤ 1566) : Datagram (frameTo A mac (header.bytes ++ body)) where
  dst_mac := mac.length_eq
  src_mac := A.mac_length
  fits := by
    show (header.bytes ++ body).length ≤ 1586
    rw [List.length_append, h.length]
    omega
  frametype := rfl
  min_length := by
    show 20 ≤ (header.bytes ++ body).length
    rw [List.length_append, h.length]
    omega
  header_length := by
    show ((header.bytes ++ body).getD 0 0).toNat % 16 = 5
    rw [List.getD_append _ _ _ _ (by rw [h.length]; omega), h.first]
    rfl
  total_length := by
    show (shortOf (slice (header.bytes ++ body) 2 2)).toNat = (header.bytes ++ body).length
    rw [slice_append_left (by rw [h.length]; omega)]
    show header.total_length.toNat = _
    rw [h.total_length, List.length_append, h.length, BitVec.toNat_ofNat]
    omega

/-- Shifted into the three flag bits, the flags leave the offset alone. -/
theorem fragment_mod (flag off : Short) :
    (flag <<< 13 ||| off).toNat &&& IP_OFFMASK = off.toNat % 8192 := by
  have hflag : (flag <<< 13).toNat % 2 ^ 13 = 0 := by
    rw [BitVec.toNat_shiftLeft, Nat.shiftLeft_eq, Nat.mod_mod_of_dvd _ (by decide)]
    exact Nat.mul_mod_left ..
  show _ &&& (2 ^ 13 - 1) = _
  rw [Nat.and_two_pow_sub_one_eq_mod, BitVec.toNat_or, Nat.or_mod_two_pow, hflag, Nat.zero_or]

theorem HeaderFor.fragmentOffset_eq (h : HeaderFor header body src dst p fragment) :
    Datagram.fragmentOffset (frameTo A mac (header.bytes ++ body)) = fragment.toNat &&& IP_OFFMASK := by
  show (shortOf (slice (header.bytes ++ body) 6 2)).toNat &&& IP_OFFMASK = _
  rw [slice_append_left (by rw [h.length]; omega), h.fragment, shortOf_shortBytes]

theorem HeaderFor.protocol_eq (h : HeaderFor header body src dst p fragment) :
    (frameTo A mac (header.bytes ++ body)).data.getD 9 0 = p := by
  show (header.bytes ++ body).getD 9 0 = p
  rw [List.getD_append _ _ _ _ (by rw [h.length]; omega), ← h.protocol]
  rfl

end

section

variable {A B : DataLinkLayer} {mac : MacAddress} {udpInfo ipInfo : Info} {payload : Bytes} {src : JInt}
  {srcPort dstPort : JChar} {flag off : Short}

/-- The header the encoder builds from a plain table before a body. -/
theorem headerFor_plain {dev : DataLinkLayer} {headerInfo : Info} {src dst : JInt} {p : Byte}
    {body : Bytes} (hplain : IPProtocolLayer.Plain dev headerInfo src dst p)
    (hlen : headerInfo .data_length = some (.int (BitVec.ofNat 32 body.length)))
    (hflag : headerInfo.getOr .flag Obj.asShort 0 = .ok flag)
    (hoff : headerInfo.getOr .fragment_offset Obj.asShort 0 = .ok off) :
    ∃ header, IPProtocolLayer.createHeader dev headerInfo = .ok (some header.bytes) ∧
      HeaderFor header body (intBytes src) (intBytes dst) p (flag <<< 13 ||| off) := by
  obtain ⟨hdr, hcreate, h20, htotal, hproto, hsrc, hdst, -⟩ :=
    IPProtocolLayer.createHeader_ok hplain hlen
  obtain ⟨hfirst, hfragment⟩ :=
    IPProtocolLayer.createHeader_fragment hplain hlen hflag hoff hcreate
  refine ⟨hdr, hcreate, h20, hfirst, ?_, hfragment, hproto, hsrc, hdst⟩
  rw [htotal]
  apply BitVec.eq_of_toNat_eq
  simp only [BitVec.ofNat_eq_ofNat, BitVec.toNat_setWidth, BitVec.toNat_add, BitVec.toNat_ofNat]
  omega

/-- What `encode` returns for another device. -/
theorem encode_headerFor (hudp : UDPProtocolLayer.Filled udpInfo srcPort dstPort payload)
    {dst : JInt} (hip : IPProtocolLayer.Plain A ipInfo src dst 17)
    (hflag : ipInfo.getOr .flag Obj.asShort 0 = .ok flag)
    (hoff : ipInfo.getOr .fragment_offset Obj.asShort 0 = .ok off)
    (hn : payload.length + 8 < 2 ^ 15) :
    ∃ header, HeaderFor header (UDPProtocolLayer.datagram srcPort dstPort payload) (intBytes src)
        (intBytes dst) 17 (flag <<< 13 ||| off) ∧
      encode A udpInfo ipInfo =
        .ok (header.bytes ++ UDPProtocolLayer.datagram srcPort dstPort payload) := by
  have hplain := hip.put_data_length (.int (BitVec.ofNat 32 (payload.length + 8)))
  have hlen := UDPProtocolLayer.datagram_length srcPort dstPort payload
  obtain ⟨hdr, hcreate, hfor⟩ := headerFor_plain hplain (by rw [hlen]; rfl) hflag hoff
  refine ⟨hdr, hfor, ?_⟩
  rw [encode, UDPProtocolLayer.createHeader_eq hudp hn, ok_bind]
  dsimp only
  rw [hlen, hcreate]
  rfl

/-- The datagram leaves one device, arrives at another as one packet whatever the buffer
and the memory held, and is read there as what it was made of. -/
def OverTheWire (A B : DataLinkLayer) (mac : MacAddress) (udpInfo ipInfo : Info) (src : JInt)
    (srcPort dstPort : JChar) (payload : Bytes) : Prop :=
  ∃ p packet ip udp, encode A udpInfo ipInfo = .ok p ∧
    (∀ buf e beyond, overWire buf e beyond (frameTo A mac p) = some (.ok packet)) ∧
    decode B packet = .ok (some (ip, udp)) ∧
    ip .source_ip = some (.bytes (intBytes src)) ∧ ip .protocol = some (.byte 17) ∧
    udp .src_port = some (.short srcPort) ∧ udp .dest_port = some (.short dstPort) ∧
    udp .data = some (.bytes payload)

variable (A mac) in
/-- What the decoders make of a captured datagram to the device, wherever it is split. -/
theorem decode_split {header : IPProtocolLayer.Header} {body srcIP : Bytes} {fragment : Short}
    (h : HeaderFor header body srcIP B.deviceIPAddress 17 fragment) (hmin : 8 ≤ body.length)
    (hfits : body.length ≤ 1566) (n : Nat) :
    ∃ ip, decode B (split n (frameTo A mac (header.bytes ++ body))) = .ok (some (ip,
        UDPProtocolLayer.info body (split n (frameTo A mac (header.bytes ++ body))).data)) ∧
      ip .source_ip = some (.bytes srcIP) ∧ ip .protocol = some (.byte 17) := by
  generalize hpacket : split n (frameTo A mac (header.bytes ++ body)) = packet
  let link := mac.getAddress ++ A.macAddress ++ shortBytes TcpIpStack.ETHERTYPE_IP
  have hlink : link.length = 14 := by
    simp only [link, List.length_append, mac.length_eq, A.mac_length, shortBytes_length]
  have hbytes : packet.header ++ packet.data = link ++ header.bytes ++ body := by
    rw [← hpacket, split_bytes]
    exact (List.append_assoc ..).symm
  let f : IPProtocolLayer.IPFrame := ⟨link, hlink, header, body⟩
  have htotal : f.header.total_length.toInt = body.length + 20 := by
    show header.total_length.toInt = _
    rw [h.total_length, toInt_ofNat_short (by omega), if_pos (by omega)]
    push_cast
    rfl
  have hlen : f.header.bytes.length = 20 := h.length
  have hpayload : f.payload = body := by
    rw [IPProtocolLayer.IPFrame.payload, htotal, hlen]
    exact List.take_of_length_le (by show body.length ≤ _; omega)
  have hip : IPProtocolLayer.handlePacket B packet = .ok (some f.info) := by
    rw [IPProtocolLayer.handlePacket_eq f hbytes, if_neg (not_not.mpr h.destination_ip.symm),
      if_neg (by rw [htotal, hlen]; omega), if_pos (by rw [htotal, hlen]; show _ ≤ _ + (body.length : Int); omega)]
  have hunbox : f.info.unbox .header Obj.asBytes = .ok body := by
    refine Info.unbox_ok (o := .bytes f.payload) rfl ?_
    rw [hpayload]
    rfl
  refine ⟨f.info, ?_, ?_, ?_⟩
  · rw [decode, hip, ok_bind]
    dsimp only
    rw [hunbox, ok_bind, UDPProtocolLayer.handlePacket_eq (by show 6 ≤ body.length; omega), ok_bind]
    rfl
  · show some (Obj.bytes header.source_ip) = _
    rw [h.source_ip]
  · show some (Obj.byte header.protocol) = _
    rw [h.protocol]

/-- A datagram on the wire: the capture splits it behind the UDP header, or behind the IP
header of a fragment. -/
theorem HeaderFor.overWire_eq {header : IPProtocolLayer.Header} {body src dst : Bytes}
    (h : HeaderFor header body src dst 17 (flag <<< 13 ||| off)) (hmin : 8 ≤ body.length)
    (hfits : body.length ≤ 1566) (buf : Buffer) (e : Elsewhere) (beyond : Memory Byte) :
    overWire buf e beyond (frameTo A mac (header.bytes ++ body)) = some (.ok
      (split (if off.toNat % 8192 = 0 then 42 else 34) (frameTo A mac (header.bytes ++ body)))) := by
  have hdatagram := h.datagram A mac hfits
  have hlen : 28 ≤ (frameTo A mac (header.bytes ++ body)).data.length := by
    show 28 ≤ (header.bytes ++ body).length
    rw [List.length_append, h.length]
    omega
  rw [hdatagram.overWire_eq, hdatagram.headerEnd_short (.inl (h.protocol_eq A mac)) hlen,
    h.fragmentOffset_eq, fragment_mod]

variable (A mac) in
/-- The data of the split. -/
theorem HeaderFor.drop_eq {header : IPProtocolLayer.Header} {body src dst : Bytes} {p : Byte}
    {fragment : Short} (h : HeaderFor header body src dst p fragment) (n : Nat) :
    (split (34 + n) (frameTo A mac (header.bytes ++ body))).data = body.drop n := by
  have hlen : (mac.getAddress ++ A.macAddress ++ shortBytes TcpIpStack.ETHERTYPE_IP ++
      header.bytes).length = 34 := by
    simp only [List.length_append, mac.length_eq, A.mac_length, shortBytes_length, h.length]
  have hbytes : frameBytes (frameTo A mac (header.bytes ++ body)) =
      mac.getAddress ++ A.macAddress ++ shortBytes TcpIpStack.ETHERTYPE_IP ++ header.bytes ++ body :=
    (List.append_assoc ..).symm
  rw [split, hbytes, ← List.drop_drop, List.drop_left' hlen]

/-- Which of the datagrams that fit the sender's buffer get over the wire: those that are
no later fragment. -/
theorem over_the_wire_iff (hudp : UDPProtocolLayer.Filled udpInfo srcPort dstPort payload)
    (hip : IPProtocolLayer.Plain A ipInfo src (intOf B.deviceIPAddress) 17)
    (hflag : ipInfo.getOr .flag Obj.asShort 0 = .ok flag)
    (hoff : ipInfo.getOr .fragment_offset Obj.asShort 0 = .ok off)
    (hfits : payload.length ≤ 1558) :
    OverTheWire A B mac udpInfo ipInfo src srcPort dstPort payload ↔ off.toNat % 8192 = 0 := by
  have hdst : intBytes (intOf B.deviceIPAddress) = B.deviceIPAddress :=
    intBytes_intOf B.deviceIPAddress_length
  have hbody : (UDPProtocolLayer.datagram srcPort dstPort payload).length = payload.length + 8 :=
    UDPProtocolLayer.datagram_length ..
  obtain ⟨header, h, henc⟩ :=
    encode_headerFor hudp hip hflag hoff (show payload.length + 8 < 2 ^ 15 by omega)
  rw [hdst] at h
  constructor
  · rintro ⟨p, packet, ip, udp, henc', hwire, hdec, -, -, -, -, hdata⟩
    obtain rfl := Except.ok.inj (henc'.symm.trans henc)
    have harrived := hwire .zero .zero fun _ => 0
    by_contra hlater
    -- the capture of a fragment leaves the UDP header in the data
    rw [h.overWire_eq (by omega) (by omega), if_neg hlater] at harrived
    obtain rfl := Except.ok.inj (Option.some.inj harrived)
    obtain ⟨ip', hdec', -⟩ := decode_split A mac h (by omega) (by omega) 34
    rw [hdec] at hdec'
    cases hdec'
    have hall := Obj.bytes.inj (Option.some.inj hdata)
    have hlen := congrArg List.length ((h.drop_eq A mac 0).symm.trans hall)
    rw [List.drop_zero] at hlen
    omega
  · intro hfirst
    obtain ⟨ip, hdec, hsource, hproto⟩ :=
      decode_split A mac h (by omega) (by omega) 42
    refine ⟨_, _, ip, _, henc, fun buf e beyond => ?_, hdec, hsource, hproto, ?_, ?_, ?_⟩
    · rw [h.overWire_eq (by omega) (by omega), if_pos hfirst]
    · exact congrArg (some ∘ Obj.short) (shortOf_shortBytes srcPort)
    · exact congrArg (some ∘ Obj.short) (shortOf_shortBytes dstPort)
    · exact congrArg (some ∘ Obj.bytes) (h.drop_eq A mac 8)

end

theorem over_the_wire_three_bytes :
    OverTheWire sampleDevice sampleDevice ⟨[0x10, 0x20, 0x30, 0x40, 0x50, 0x60], rfl⟩
        (sampleUDPInfo 53 60000 [1, 2, 3]) (sampleIPInfo sampleDevice) 0xC0A80101 53 60000
        [1, 2, 3] ↔ (0 : Short).toNat % 8192 = 0 :=
  over_the_wire_iff (sampleUDPInfo_filled 53 60000 [1, 2, 3]) (sampleIPInfo_plain sampleDevice)
    rfl rfl (by decide)

end TcpIpStack.Jpcap
