import TcpIpStack.Protocol.IP

/-!
# IP frames

A `Header` is an IP header of the length it declares, an `IPFrame` a captured
frame that carries one. `createHeader_ok` says which header the encoder builds
from a table, `handlePacket_eq` what the decoder makes of a frame.
-/

namespace TcpIpStack.IPProtocolLayer

open TcpIpStack.Java TcpIpStack.Lib

/-- An IP header: at least twenty bytes, as many as its first byte says. -/
structure Header where
  bytes : Bytes
  min_length : 20 ≤ bytes.length
  length_eq : bytes.length = 4 * ((bytes.getD 0 0).toNat % 16)

namespace Header

def total_length (h : Header) : Short := shortOf (slice h.bytes 2 2)

def protocol (h : Header) : Byte := h.bytes.getD 9 0

def time_to_live (h : Header) : Byte := h.bytes.getD 8 0

def source_ip (h : Header) : Bytes := slice h.bytes 12 4

def destination_ip (h : Header) : Bytes := slice h.bytes 16 4

end Header

/-- A captured frame: link header, IP header, and what the network delivered
after it. -/
structure IPFrame where
  link : Bytes
  link_length : link.length = ETHERNET_FRAME_HEADER_LENGTH
  header : Header
  body : Bytes

theorem zeroLink_length :
    (List.replicate 14 0 : Bytes).length = ETHERNET_FRAME_HEADER_LENGTH := rfl

def IPFrame.bytes (f : IPFrame) : Bytes := f.link ++ f.header.bytes ++ f.body

/-- What the header's lengths say the packet carries. -/
def IPFrame.payload (f : IPFrame) : Bytes :=
  f.body.take (f.header.total_length.toInt - f.header.bytes.length).toNat

/-- The table `handlePacket` returns for a frame to this device. -/
def IPFrame.info (f : IPFrame) : Info := Info.empty
  |>.put .source_ip (.bytes f.header.source_ip)
  |>.put .dest_ip (.bytes f.header.destination_ip)
  |>.put .protocol (.byte f.header.protocol)
  |>.put .header (.bytes f.payload)

/-- The frame is for the device and its lengths fit. -/
def IPFrame.Accepted (dev : DataLinkLayer) (f : IPFrame) : Prop :=
  dev.deviceIPAddress = f.header.destination_ip ∧
    (f.header.bytes.length : Int) ≤ f.header.total_length.toInt ∧
    f.header.total_length.toInt ≤ f.header.bytes.length + f.body.length

/-! ## Encoding -/

/-- A table with the entries an option-less header needs besides its length, and
every optional entry absent or of the type the encoder casts it to. -/
structure Plain (dev : DataLinkLayer) (headerInfo : Info) (src dst : JInt) (p : Byte) : Prop where
  internet_header_length : headerInfo .internet_header_length = none
  options : headerInfo .options = none
  protocol : headerInfo .protocol = some (.byte p)
  source_ip : headerInfo.getOr .source_ip Obj.asInt (intOf dev.deviceIPAddress) = .ok src
  destination_ip : headerInfo .destination_ip = some (.int dst)
  dscp : ∃ v, headerInfo.getOr .dscp Obj.asByte 0 = .ok v
  ecn : ∃ v, headerInfo.getOr .ecn Obj.asByte 0 = .ok v
  identification : ∃ v, headerInfo.getOr .identification Obj.asShort 0 = .ok v
  flag : ∃ v, headerInfo.getOr .flag Obj.asShort 0 = .ok v
  fragment_offset : ∃ v, headerInfo.getOr .fragment_offset Obj.asShort 0 = .ok v
  time_to_live : ∃ v, headerInfo.getOr .time_to_live Obj.asByte 64 = .ok v

theorem Plain.put_data_length {dev : DataLinkLayer} {headerInfo : Info} {src dst : JInt} {p : Byte}
    (h : Plain dev headerInfo src dst p) (len : Obj) :
    Plain dev (headerInfo.put .data_length len) src dst p where
  internet_header_length := h.internet_header_length
  options := h.options
  protocol := h.protocol
  source_ip := h.source_ip
  destination_ip := h.destination_ip
  dscp := h.dscp
  ecn := h.ecn
  identification := h.identification
  flag := h.flag
  fragment_offset := h.fragment_offset
  time_to_live := h.time_to_live

/-- The layout of a header whose length leaves exactly the room its options take. -/
theorem layoutHeader_parts {dev : DataLinkLayer} {headerInfo : Info} {ihl dscp ecn ttl p : Byte}
    {len src dst : JInt} {ident flag off : Short} {options : Option Bytes}
    (hihl : headerInfo.getOr .internet_header_length Obj.asByte 5 = .ok ihl)
    (hdscp : headerInfo.getOr .dscp Obj.asByte 0 = .ok dscp)
    (hecn : headerInfo.getOr .ecn Obj.asByte 0 = .ok ecn)
    (hdata : headerInfo .data_length = some (.int len))
    (hoptions : headerInfo.getBytes .options = .ok options)
    (hident : headerInfo.getOr .identification Obj.asShort 0 = .ok ident)
    (hflag : headerInfo.getOr .flag Obj.asShort 0 = .ok flag)
    (hoff : headerInfo.getOr .fragment_offset Obj.asShort 0 = .ok off)
    (httl : headerInfo.getOr .time_to_live Obj.asByte 64 = .ok ttl)
    (hp : headerInfo .protocol = some (.byte p))
    (hsrc : headerInfo.getOr .source_ip Obj.asInt (intOf dev.deviceIPAddress) = .ok src)
    (hdst : headerInfo .destination_ip = some (.int dst))
    (hroom : ihl.toInt * 4 = ((options.getD []).length + 20 : Nat)) :
    layoutHeader dev headerInfo = .ok (some (ByteBuffer.fresh (
      [((IP_VERSION &&& 0x0F).signExtend 32 <<< 4 ||| ihl.signExtend 32).setWidth 8,
        (dscp.signExtend 32 <<< 2 ||| ecn.signExtend 32).setWidth 8] ++
      shortBytes
        ((len + BitVec.ofNat 32 (options.getD []).length + ihl.signExtend 32 * 4).setWidth 16) ++
      shortBytes ident ++ shortBytes (flag <<< 13 ||| off) ++ [ttl, p] ++ [0, 0] ++
      intBytes src ++ intBytes dst ++ options.getD []) 0)) := by
  have hdev := ByteBuffer.getInt_wrap dev.deviceIPAddress_length
  have hnew : newArray (ihl.toInt * 4) = .ok (List.replicate ((options.getD []).length + 20) 0) := by
    rw [hroom, newArray, if_neg (by omega), Int.toNat_natCast]
  have hz : shortBytes 0 = [0, 0] := by decide
  simp only [layoutHeader, hihl, hoptions, hdev, hdscp, hecn, hdata, hident, hflag, hoff, httl,
    hp, hsrc, hdst, hnew, hz, Obj.asInt, Obj.asByte,
    ByteBuffer.wrap_replicate, ByteBuffer.put, ByteBuffer.putShort, ByteBuffer.putInt,
    ByteBuffer.fresh_putBytes, ok_bind, pure_eq_ok, shortBytes_length, intBytes_length,
    List.length_cons, List.length_nil, Nat.reduceLeDiff, Nat.reduceSubDiff, Nat.reduceAdd,
    ↓reduceIte, List.append_assoc, List.nil_append, List.cons_append]
  cases options with
  | none => simp
  | some options => simp

/-- The layout of a plain header: type of service, identification, flags and
time to live are the table's, the rest is fixed. -/
theorem layoutHeader_eq {dev : DataLinkLayer} {headerInfo : Info} {len src dst : JInt} {p : Byte}
    (h : Plain dev headerInfo src dst p) (hdata : headerInfo .data_length = some (.int len)) :
    ∃ (tos : Byte) (ident flags : Short) (ttl : Byte),
      headerInfo.getOr .time_to_live Obj.asByte 64 = .ok ttl ∧ layoutHeader dev headerInfo =
      .ok (some (ByteBuffer.fresh (([0x45, tos] : Bytes) ++ shortBytes ((len + 20).setWidth 16) ++
        shortBytes ident ++ shortBytes flags ++ [ttl, p] ++ [0, 0] ++ intBytes src ++
        intBytes dst) 0)) := by
  obtain ⟨dscp, hdscp⟩ := h.dscp
  obtain ⟨ecn, hecn⟩ := h.ecn
  obtain ⟨ident, hident⟩ := h.identification
  obtain ⟨flag, hflag⟩ := h.flag
  obtain ⟨off, hoff⟩ := h.fragment_offset
  obtain ⟨ttl, httl⟩ := h.time_to_live
  have hopt : headerInfo.getBytes .options = .ok none := by rw [Info.getBytes, h.options]
  have hihl : headerInfo.getOr .internet_header_length Obj.asByte 5 = .ok 5 :=
    Info.getOr_none h.internet_header_length ..
  have hv : (((IP_VERSION &&& 0x0F).signExtend 32 <<< 4 ||| (5 : Byte).signExtend 32).setWidth 8 :
      Byte) = 0x45 := by decide
  have h20 : len + BitVec.ofNat 32 0 + (5 : Byte).signExtend 32 * 4 = len + 20 := by
    rw [BitVec.ofNat_eq_ofNat, BitVec.add_zero]
    rfl
  refine ⟨(dscp.signExtend 32 <<< 2 ||| ecn.signExtend 32).setWidth 8, ident, flag <<< 13 ||| off,
    ttl, httl, ?_⟩
  rw [layoutHeader_parts hihl hdscp hecn hdata hopt hident hflag hoff httl h.protocol h.source_ip
    h.destination_ip rfl, hv, Option.getD_none, List.length_nil, h20, List.append_nil]

/-- The encoder returns a header that says what the table says. -/
theorem createHeader_ok {dev : DataLinkLayer} {headerInfo : Info} {len src dst : JInt} {p : Byte}
    (h : Plain dev headerInfo src dst p) (hdata : headerInfo .data_length = some (.int len)) :
    ∃ hdr : Header, createHeader dev headerInfo = .ok (some hdr.bytes) ∧ hdr.bytes.length = 20 ∧
      hdr.total_length = (len + 20).setWidth 16 ∧ hdr.protocol = p ∧
      hdr.source_ip = intBytes src ∧ hdr.destination_ip = intBytes dst ∧
      headerInfo.getOr .time_to_live Obj.asByte 64 = .ok hdr.time_to_live := by
  obtain ⟨tos, ident, flags, ttl, httl, hlay⟩ := layoutHeader_eq h hdata
  obtain ⟨c, hc⟩ := @Utility.storeChecksum_eq CHECKSUM_OFFSET (ByteBuffer.fresh
    (([0x45, tos] : Bytes) ++ shortBytes ((len + 20).setWidth 16) ++ shortBytes ident ++
      shortBytes flags ++ [ttl, p] ++ [0, 0] ++ intBytes src ++ intBytes dst) 0)
    (by simp [CHECKSUM_OFFSET])
  -- every field is a definite slice of the twenty bytes
  let bytes : Bytes := ([0x45, tos] : Bytes) ++ shortBytes ((len + 20).setWidth 16) ++
    shortBytes ident ++ shortBytes flags ++ [ttl, p] ++ shortBytes c ++ intBytes src ++ intBytes dst
  have hlen : bytes.length = 20 := rfl
  let hdr : Header := ⟨bytes, by rw [hlen], by
    show 20 = 4 * ((0x45 : Byte).toNat % 16)
    decide⟩
  have htotal : hdr.total_length = (len + 20).setWidth 16 := shortOf_shortBytes _
  refine ⟨hdr, ?_, hlen, htotal, rfl, rfl, rfl, httl⟩
  rw [createHeader, hlay, ok_bind, hc]
  rfl

/-- The first byte and the fragment field of the encoder's header. -/
theorem createHeader_fragment {dev : DataLinkLayer} {headerInfo : Info} {len src dst : JInt} {p : Byte}
    (h : Plain dev headerInfo src dst p) (hdata : headerInfo .data_length = some (.int len))
    {flag off : Short} (hflag : headerInfo.getOr .flag Obj.asShort 0 = .ok flag)
    (hoff : headerInfo.getOr .fragment_offset Obj.asShort 0 = .ok off) {header : Bytes}
    (hc : createHeader dev headerInfo = .ok (some header)) :
    header.getD 0 0 = 0x45 ∧ slice header 6 2 = shortBytes (flag <<< 13 ||| off) := by
  obtain ⟨dscp, hdscp⟩ := h.dscp
  obtain ⟨ecn, hecn⟩ := h.ecn
  obtain ⟨ident, hident⟩ := h.identification
  obtain ⟨ttl, httl⟩ := h.time_to_live
  have hopt : headerInfo.getBytes .options = .ok none := by rw [Info.getBytes, h.options]
  have hlay := layoutHeader_parts (Info.getOr_none h.internet_header_length ..) hdscp hecn hdata hopt
    hident hflag hoff httl h.protocol h.source_ip h.destination_ip rfl
  rw [createHeader, hlay, ok_bind,
    (Utility.storeChecksum_eq (by simp [CHECKSUM_OFFSET])).choose_spec] at hc
  cases hc
  exact ⟨rfl, rfl⟩

/-! ## Decoding -/

theorem headerLength_toInt (v : Byte) : ((v &&& 0x0F) * 4).toInt = 4 * (v.toNat % 16) := by
  have h16 : (v &&& 0x0F).toNat = v.toNat % 16 := Nat.and_two_pow_sub_one_eq_mod v.toNat 4
  have h64 : ((v &&& 0x0F) * 4).toNat = 4 * (v.toNat % 16) := by
    rw [BitVec.toNat_mul, h16]
    show v.toNat % 16 * 4 % 256 = _
    omega
  rw [BitVec.toInt_eq_toNat_of_lt (by omega), h64]
  push_cast
  rfl

/-! ## Frames of any bytes -/

/-- Four times the low half of the first byte behind the link header. -/
def headerLength (b : Bytes) : Nat := 4 * ((b.getD HEADER_LENGTH_OFFSET 0).toNat % 16)

def totalLength (b : Bytes) : Short := shortOf (slice b TOTAL_LENGTH_OFFSET 2)

/-- What the two lengths say the packet carries. -/
def payload (b : Bytes) : Bytes :=
  slice b (headerLength b + ETHERNET_FRAME_HEADER_LENGTH) ((totalLength b).toInt - headerLength b).toNat

/-- The frame reaches to the addresses, is for the device, and its lengths fit. -/
def Taken (dev : DataLinkLayer) (b : Bytes) : Prop :=
  34 ≤ b.length ∧ slice b DEST_IP_OFFSET 4 = dev.deviceIPAddress ∧
    (headerLength b : Int) ≤ (totalLength b).toInt ∧ (totalLength b).toInt + 14 ≤ b.length

/-- The table of a frame. -/
def info (b : Bytes) : Info := Info.empty
  |>.put .source_ip (.bytes (slice b SOURCE_IP_OFFSET 4))
  |>.put .dest_ip (.bytes (slice b DEST_IP_OFFSET 4))
  |>.put .protocol (.byte (b.getD PROTOCOL_INDICATOR_OFFSET 0))
  |>.put .header (.bytes (payload b))

/-- A frame that does not reach to the addresses is not read. -/
theorem handlePacket_short {dev : DataLinkLayer} {packet : Packet}
    (h : (packet.header ++ packet.data).length < 34) : ∃ e, handlePacket dev packet = .error e := by
  cases hr : handlePacket dev packet with
  | error e => exact ⟨e, rfl⟩
  | ok r =>
  obtain ⟨b1, h1, hr⟩ := bind_eq_ok_iff.mp hr
  obtain ⟨⟨src, b2⟩, h2, hr⟩ := bind_eq_ok_iff.mp hr
  obtain ⟨b3, h3, hr⟩ := bind_eq_ok_iff.mp hr
  obtain ⟨⟨dst, b4⟩, h4, -⟩ := bind_eq_ok_iff.mp hr
  -- the last of the four reads ends at 34
  obtain ⟨ha1, -⟩ := ByteBuffer.setPosition_eq_ok h1
  obtain ⟨-, ha2⟩ := ByteBuffer.take_eq_ok h2
  obtain ⟨ha3, hp3⟩ := ByteBuffer.setPosition_eq_ok h3
  obtain ⟨hle, -⟩ := ByteBuffer.take_eq_ok h4
  have hdest : DEST_IP_OFFSET = 30 := rfl
  rw [ha3, ha2, ha1, ByteBuffer.wrap_array] at hle
  omega

/-- What the decoder makes of a longer frame: nothing unless it is for this device, an
exception when its lengths do not fit, else its table. -/
theorem handlePacket_long {dev : DataLinkLayer} {packet : Packet} {b : Bytes}
    (hb : packet.header ++ packet.data = b) (hlen : 34 ≤ b.length) :
    handlePacket dev packet =
      if dev.deviceIPAddress ≠ slice b DEST_IP_OFFSET 4 then .ok none
      else if (totalLength b).toInt < headerLength b then .error .negativeArraySize
      else if (totalLength b).toInt + 14 ≤ b.length then .ok (some (info b))
      else if headerLength b + 14 ≤ b.length then .error .bufferUnderflow
      else .error .illegalArgument := by
  have hsrcPos : (ByteBuffer.wrap b).setPosition SOURCE_IP_OFFSET = .ok ⟨b, 26, by omega⟩ :=
    ByteBuffer.setPosition_ok rfl _
  have hsrc : ByteBuffer.take ⟨b, 26, by omega⟩ 4 =
      .ok (slice b SOURCE_IP_OFFSET 4, ⟨b, 30, by omega⟩) :=
    ByteBuffer.take_ok (by show 26 + 4 ≤ b.length; omega)
  have hdstPos : ByteBuffer.setPosition ⟨b, 30, by omega⟩ DEST_IP_OFFSET = .ok ⟨b, 30, by omega⟩ :=
    ByteBuffer.setPosition_ok rfl _
  have hdst : ByteBuffer.take ⟨b, 30, by omega⟩ 4 = .ok (slice b DEST_IP_OFFSET 4, ⟨b, 34, hlen⟩) :=
    ByteBuffer.take_ok (by show 30 + 4 ≤ b.length; omega)
  have hproto : ByteBuffer.getAt ⟨b, 34, hlen⟩ PROTOCOL_INDICATOR_OFFSET =
      .ok (b.getD PROTOCOL_INDICATOR_OFFSET 0) :=
    ByteBuffer.getAt_ok (by show 23 < b.length; omega)
  have hihl : ByteBuffer.getAt ⟨b, 34, hlen⟩ HEADER_LENGTH_OFFSET =
      .ok (b.getD HEADER_LENGTH_OFFSET 0) :=
    ByteBuffer.getAt_ok (by show 14 < b.length; omega)
  have htot : ByteBuffer.getShortAt ⟨b, 34, hlen⟩ TOTAL_LENGTH_OFFSET = .ok (totalLength b) :=
    ByteBuffer.getShortAt_ok (by show 16 + 2 ≤ b.length; omega)
  have hhl : (((b.getD HEADER_LENGTH_OFFSET 0) &&& 0x0F) * 4).toInt = headerLength b := by
    rw [headerLength_toInt]
    push_cast [headerLength]
    rfl
  have h14 : (headerLength b : Int) + ETHERNET_FRAME_HEADER_LENGTH = (headerLength b + 14 : Nat) := rfl
  simp only [handlePacket, hb, hsrcPos, hsrc, hdstPos, hdst, hproto, hihl, htot, hhl, h14, ok_bind]
  split
  · rfl
  unfold newArray
  by_cases hneg : (totalLength b).toInt < headerLength b
  · rw [if_pos (by omega), if_pos hneg, error_bind]
  rw [if_neg (by omega), if_neg hneg, ok_bind, List.length_replicate]
  by_cases hpos : headerLength b + 14 ≤ b.length
  · rw [ByteBuffer.setPosition_ok rfl hpos, ok_bind, if_pos hpos]
    by_cases hfit : (totalLength b).toInt + 14 ≤ b.length
    · rw [if_pos hfit, ByteBuffer.take_ok (by show headerLength b + 14 + _ ≤ b.length; omega), ok_bind]
      rfl
    · rw [if_neg hfit, ByteBuffer.take, dif_neg, error_bind]
      show ¬ headerLength b + 14 + _ ≤ b.length
      omega
  · rw [if_neg (by omega), if_neg hpos, ByteBuffer.setPosition, dif_neg, error_bind]
    show ¬ (0 ≤ ((headerLength b + 14 : Nat) : Int) ∧ ((headerLength b + 14 : Nat) : Int) ≤ b.length)
    omega

/-- The decoder answers with the frame's table if the device takes it. -/
theorem handlePacket_bytes (dev : DataLinkLayer) (packet : Packet) :
    (Taken dev (packet.header ++ packet.data) ∧
      handlePacket dev packet = .ok (some (info (packet.header ++ packet.data)))) ∨
    (¬ Taken dev (packet.header ++ packet.data) ∧
      (handlePacket dev packet = .ok none ∨ ∃ e, handlePacket dev packet = .error e)) := by
  by_cases hlen : (packet.header ++ packet.data).length < 34
  · exact .inr ⟨fun h => absurd h.1 (by omega), .inr (handlePacket_short hlen)⟩
  rw [handlePacket_long rfl (by omega)]
  generalize packet.header ++ packet.data = b at hlen ⊢
  unfold Taken
  by_cases hdev : dev.deviceIPAddress = slice b DEST_IP_OFFSET 4
  swap
  · rw [if_pos hdev]
    exact .inr ⟨fun h => hdev h.2.1.symm, .inl rfl⟩
  rw [if_neg (not_not.mpr hdev)]
  by_cases hneg : (totalLength b).toInt < headerLength b
  · rw [if_pos hneg]
    exact .inr ⟨fun h => by omega, .inr ⟨_, rfl⟩⟩
  rw [if_neg hneg]
  by_cases hfit : (totalLength b).toInt + 14 ≤ b.length
  · rw [if_pos hfit]
    exact .inl ⟨⟨by omega, hdev.symm, by omega, hfit⟩, rfl⟩
  · rw [if_neg hfit]
    refine .inr ⟨fun h => hfit h.2.2.2, .inr ?_⟩
    split <;> exact ⟨_, rfl⟩

/-! ## Captured frames -/

namespace IPFrame

theorem bytes_length (f : IPFrame) :
    f.bytes.length = 14 + f.header.bytes.length + f.body.length := by
  rw [bytes, List.length_append, List.length_append, f.link_length]; rfl

/-- A field of the header, read at its offset in the frame. -/
theorem slice_header (f : IPFrame) {i n : Nat} (h : i + n ≤ f.header.bytes.length) :
    slice f.bytes (i + 14) n = slice f.header.bytes i n := by
  have hlink : f.link.length = 14 := f.link_length
  rw [bytes, slice_append_left (by rw [List.length_append]; omega),
    slice_append_right (by omega), hlink, Nat.add_sub_cancel]

theorem getD_header (f : IPFrame) {i : Nat} (h : i < f.header.bytes.length) :
    f.bytes.getD (i + 14) 0 = f.header.bytes.getD i 0 := by
  have hlink : f.link.length = 14 := f.link_length
  rw [bytes, List.append_assoc, List.getD_append_right _ _ _ _ (by omega), hlink,
    Nat.add_sub_cancel, List.getD_append _ _ _ _ h]

/-- The payload starts after the header. -/
theorem slice_body (f : IPFrame) (n : Nat) :
    slice f.bytes (f.header.bytes.length + 14) n = f.body.take n := by
  have hlink : f.link.length = 14 := f.link_length
  rw [bytes, slice_append_right (by rw [List.length_append]; omega), List.length_append, hlink,
    Nat.add_comm 14, Nat.sub_self, slice, List.drop_zero]

theorem headerLength_eq (f : IPFrame) : headerLength f.bytes = f.header.bytes.length := by
  have hmin := f.header.min_length
  rw [f.header.length_eq, headerLength]
  exact congrArg (fun v : Byte => 4 * (v.toNat % 16)) (f.getD_header (i := 0) (by omega))

theorem totalLength_eq (f : IPFrame) : totalLength f.bytes = f.header.total_length := by
  have hmin := f.header.min_length
  exact congrArg shortOf (f.slice_header (i := 2) (by omega))

theorem dest_ip_eq (f : IPFrame) : slice f.bytes DEST_IP_OFFSET 4 = f.header.destination_ip := by
  have hmin := f.header.min_length
  exact f.slice_header (i := 16) (by omega)

theorem info_eq (f : IPFrame) : IPProtocolLayer.info f.bytes = f.info := by
  have hmin := f.header.min_length
  have hsrc : slice f.bytes SOURCE_IP_OFFSET 4 = f.header.source_ip :=
    f.slice_header (i := 12) (by omega)
  have hprotocol : f.bytes.getD PROTOCOL_INDICATOR_OFFSET 0 = f.header.protocol :=
    f.getD_header (i := 9) (by omega)
  have hpayload : IPProtocolLayer.payload f.bytes = f.payload := by
    rw [IPProtocolLayer.payload, f.headerLength_eq, f.totalLength_eq]
    exact f.slice_body _
  rw [IPProtocolLayer.info, hsrc, f.dest_ip_eq, hprotocol, hpayload]
  rfl

end IPFrame

theorem handlePacket_eq {dev : DataLinkLayer} {packet : Packet} (f : IPFrame)
    (hf : packet.header ++ packet.data = f.bytes) :
    handlePacket dev packet =
      if dev.deviceIPAddress ≠ f.header.destination_ip then .ok none
      else if f.header.total_length.toInt < f.header.bytes.length then .error .negativeArraySize
      else if f.header.total_length.toInt ≤ f.header.bytes.length + f.body.length then
        .ok (some f.info)
      else .error .bufferUnderflow := by
  have hlen := f.bytes_length
  have hmin := f.header.min_length
  have hfit : f.header.total_length.toInt + 14 ≤ f.bytes.length ↔
      f.header.total_length.toInt ≤ f.header.bytes.length + f.body.length := by omega
  rw [handlePacket_long hf (by omega), f.dest_ip_eq, f.totalLength_eq, f.headerLength_eq, f.info_eq,
    if_pos (show f.header.bytes.length + 14 ≤ f.bytes.length by omega)]
  simp only [hfit]

theorem handlePacket_accepted {dev : DataLinkLayer} {packet : Packet} (f : IPFrame)
    (hf : packet.header ++ packet.data = f.bytes) (h : f.Accepted dev) :
    handlePacket dev packet = .ok (some f.info) := by
  obtain ⟨hdst, hmin, hmax⟩ := h
  rw [handlePacket_eq f hf, if_neg (not_not.mpr hdst), if_neg (by omega), if_pos hmax]

theorem handlePacket_not_accepted {dev : DataLinkLayer} {packet : Packet} (f : IPFrame)
    (hf : packet.header ++ packet.data = f.bytes) (h : ¬ f.Accepted dev) :
    handlePacket dev packet = .ok none ∨ ∃ e, handlePacket dev packet = .error e := by
  rw [handlePacket_eq f hf]
  by_cases hdst : dev.deviceIPAddress = f.header.destination_ip
  · rw [if_neg (not_not.mpr hdst)]
    split
    · exact .inr ⟨_, rfl⟩
    · rename_i hmin
      rw [if_neg fun hmax => h ⟨hdst, by omega, hmax⟩]
      exact .inr ⟨_, rfl⟩
  · exact .inl (if_pos hdst)

end TcpIpStack.IPProtocolLayer
