import TcpIpStack.Protocol.IProtocol

/-!
# `protocol.UDPProtocolLayer`

The length of a datagram is a signed `short` on both sides: `createHeader`
allocates that many bytes, so it throws once header and data pass 32767.
-/

namespace TcpIpStack.UDPProtocolLayer

open TcpIpStack.Java TcpIpStack.Lib

def UDP_LENGTH_WITHOUT_DATA : Short := 8

def PROTOCOL_UDP : Byte := 17

def UDP_SRC_PORT_OFFSET : Nat := 0

def UDP_DST_PORT_OFFSET : Nat := 2

def UDP_LENGTH_OFFSET : Nat := 4

/-- `createHeader`: header and data in one array, `null` without a port. -/
def createHeader (headerInfo : Info) : Except Throwable (Option Bytes) := do
  let data ← headerInfo.getBytes .data
  -- `total_length += data.length` narrows back to `short`
  let total_length : Short := match data with
    | some data => BitVec.ofInt 16 (UDP_LENGTH_WITHOUT_DATA.toInt + data.length)
    | none => UDP_LENGTH_WITHOUT_DATA
  let buf ← newArray total_length.toInt
  let byteBuffer := ByteBuffer.wrap buf
  match headerInfo .source_port with
  | none => return none
  | some srcPort => do
    let byteBuffer ← byteBuffer.putChar (← srcPort.asChar)
    match headerInfo .dest_port with
    | none => return none
    | some destPort => do
      let byteBuffer ← byteBuffer.putChar (← destPort.asChar)
      let byteBuffer ← byteBuffer.putShort total_length
      let checkSum : JChar := 0
      let byteBuffer ← byteBuffer.putChar checkSum
      match data with
      | none => return some byteBuffer.array
      | some data => do
        let byteBuffer ← byteBuffer.putBytes data
        return some byteBuffer.array

/-- `handlePacket`: the ports and the length as signed `short`s, the data as the
capture library split it off. -/
def handlePacket (packet : Packet) : Except Throwable Info := do
  let buffer := ByteBuffer.wrap packet.header
  let src_port ← buffer.getShortAt UDP_SRC_PORT_OFFSET
  let dest_port ← buffer.getShortAt UDP_DST_PORT_OFFSET
  let length ← buffer.getShortAt UDP_LENGTH_OFFSET
  return Info.empty
    |>.put .src_port (.short src_port)
    |>.put .dest_port (.short dest_port)
    |>.put .length (.short length)
    |>.put .data (.bytes packet.data)

/-! ## What the two sides do -/

/-- A table with both ports and the data. -/
structure Filled (headerInfo : Info) (srcPort destPort : JChar) (data : Bytes) : Prop where
  source_port : headerInfo .source_port = some (.char srcPort)
  dest_port : headerInfo .dest_port = some (.char destPort)
  data : headerInfo .data = some (.bytes data)

/-- The datagram the encoder builds while its length is a positive `short`. -/
def datagram (srcPort destPort : JChar) (data : Bytes) : Bytes :=
  shortBytes srcPort ++ shortBytes destPort ++ shortBytes (BitVec.ofNat 16 (data.length + 8)) ++
    [0, 0] ++ data

@[simp] theorem datagram_length (srcPort destPort : JChar) (data : Bytes) :
    (datagram srcPort destPort data).length = data.length + 8 := by
  simp only [datagram, List.length_append, shortBytes_length, List.length_cons, List.length_nil]
  omega

theorem createHeader_eq {headerInfo : Info} {srcPort destPort : JChar} {data : Bytes}
    (h : Filled headerInfo srcPort destPort data) (hn : data.length + 8 < 2 ^ 15) :
    createHeader headerInfo = .ok (some (datagram srcPort destPort data)) := by
  have hdata : headerInfo.getBytes .data = .ok (some data) := Info.getBytes_ok h.data
  have htotal : BitVec.ofInt 16 (UDP_LENGTH_WITHOUT_DATA.toInt + data.length) =
      BitVec.ofNat 16 (data.length + 8) := by
    rw [← BitVec.ofInt_natCast]
    congr 1
    show (8 : Int) + data.length = _
    push_cast
    omega
  have hbuf : newArray (BitVec.ofNat 16 (data.length + 8)).toInt =
      .ok (List.replicate (data.length + 8) 0) := by
    rw [BitVec.toInt_eq_toNat_of_lt (by rw [BitVec.toNat_ofNat]; omega), BitVec.toNat_ofNat,
      Nat.mod_eq_of_lt (by omega), newArray, if_neg (by omega), Int.toNat_natCast]
  have hz : shortBytes 0 = [0, 0] := by decide
  simp only [createHeader, hdata, h.source_port, h.dest_port, Obj.asChar, htotal, hbuf, hz, ok_bind,
    ByteBuffer.wrap_replicate, ByteBuffer.putChar, ByteBuffer.putShort]
  rw [ByteBuffer.fresh_putBytes_ok (m := data.length + 6) (by rw [shortBytes_length]; omega), ok_bind,
    ByteBuffer.fresh_putBytes_ok (m := data.length + 4) (by rw [shortBytes_length]; omega), ok_bind,
    ByteBuffer.fresh_putBytes_ok (m := data.length + 2) (by rw [shortBytes_length]; omega), ok_bind,
    ByteBuffer.fresh_putBytes_ok (m := data.length) (by show _ = 2 + _; omega), ok_bind,
    ByteBuffer.fresh_putBytes_ok (Nat.add_zero _).symm, ok_bind]
  simp [datagram]

/-- From 32768 bytes on its length is negative. -/
theorem createHeader_error {headerInfo : Info} {srcPort destPort : JChar} {data : Bytes}
    (h : Filled headerInfo srcPort destPort data) (hlo : 2 ^ 15 ≤ data.length + 8)
    (hhi : data.length + 8 < 2 ^ 16) : createHeader headerInfo = .error .negativeArraySize := by
  have hdata : headerInfo.getBytes .data = .ok (some data) := Info.getBytes_ok h.data
  have hneg : (BitVec.ofInt 16 (UDP_LENGTH_WITHOUT_DATA.toInt + data.length)).toInt < 0 := by
    rw [BitVec.toInt_ofInt]
    show Int.bmod (8 + data.length) (2 ^ 16) < 0
    rw [Int.bmod_def]
    omega
  simp only [createHeader, hdata, ok_bind, newArray, if_pos hneg, error_bind]

/-- What the encoder returns is a datagram; a longer one overflows its array. -/
theorem createHeader_eq_ok {headerInfo : Info} {srcPort destPort : JChar} {data : Bytes}
    {r : Option Bytes} (h : Filled headerInfo srcPort destPort data)
    (hr : createHeader headerInfo = .ok r) :
    r = some (datagram srcPort destPort data) ∧ data.length + 8 < 2 ^ 15 := by
  have hlen : data.length + 8 < 2 ^ 15 := by
    have hdata : headerInfo.getBytes .data = .ok (some data) := Info.getBytes_ok h.data
    simp only [createHeader, hdata, h.source_port, h.dest_port, Obj.asChar, ok_bind] at hr
    obtain ⟨buf, hbuf, hr⟩ := bind_eq_ok_iff.mp hr
    unfold newArray at hbuf
    split at hbuf
    · cases hbuf
    cases hbuf
    rw [ByteBuffer.wrap_replicate] at hr
    obtain ⟨b, hb, hr⟩ := bind_eq_ok_iff.mp hr
    obtain ⟨h1, rfl⟩ := ByteBuffer.fresh_putBytes_eq_ok hb
    obtain ⟨b, hb, hr⟩ := bind_eq_ok_iff.mp hr
    obtain ⟨h2, rfl⟩ := ByteBuffer.fresh_putBytes_eq_ok hb
    obtain ⟨b, hb, hr⟩ := bind_eq_ok_iff.mp hr
    obtain ⟨h3, rfl⟩ := ByteBuffer.fresh_putBytes_eq_ok hb
    obtain ⟨b, hb, hr⟩ := bind_eq_ok_iff.mp hr
    obtain ⟨h4, rfl⟩ := ByteBuffer.fresh_putBytes_eq_ok hb
    obtain ⟨b, hb, -⟩ := bind_eq_ok_iff.mp hr
    obtain ⟨h5, -⟩ := ByteBuffer.fresh_putBytes_eq_ok hb
    have htotal := BitVec.toInt_lt
      (x := BitVec.ofInt 16 (UDP_LENGTH_WITHOUT_DATA.toInt + data.length))
    simp only [shortBytes_length] at h1 h2 h3 h4 h5
    omega
  rw [createHeader_eq h hlen] at hr
  exact ⟨(Except.ok.inj hr).symm, hlen⟩

/-- The decoder's table: the first three words of the header, and the data the
capture library split off. -/
def info (header data : Bytes) : Info := Info.empty
  |>.put .src_port (.short (shortOf (slice header 0 2)))
  |>.put .dest_port (.short (shortOf (slice header 2 2)))
  |>.put .length (.short (shortOf (slice header 4 2)))
  |>.put .data (.bytes data)

/-- A datagram as it comes in: any header, any data. -/
structure Received where
  header : Bytes
  data : Bytes
  deriving DecidableEq, Repr

def Received.info (d : Received) : Info := UDPProtocolLayer.info d.header d.data

/-- The source port, as the decoder reads it. -/
def Received.src_port (d : Received) : Short := shortOf (slice d.header 0 2)

theorem handlePacket_eq {packet : Packet} (h : 6 ≤ packet.header.length) :
    handlePacket packet = .ok (info packet.header packet.data) := by
  unfold handlePacket
  dsimp only
  rw [ByteBuffer.getShortAt_ok (by show 0 + 2 ≤ packet.header.length; omega), ok_bind,
    ByteBuffer.getShortAt_ok (by show 2 + 2 ≤ packet.header.length; omega), ok_bind,
    ByteBuffer.getShortAt_ok (by show 4 + 2 ≤ packet.header.length; omega), ok_bind]
  rfl

/-- The length is the last word that is read. -/
theorem six_le_of_handlePacket {packet : Packet} {r : Info} (h : handlePacket packet = .ok r) :
    6 ≤ packet.header.length := by
  obtain ⟨_, -, h⟩ := bind_eq_ok_iff.mp h
  obtain ⟨_, -, h⟩ := bind_eq_ok_iff.mp h
  obtain ⟨_, hword, -⟩ := bind_eq_ok_iff.mp h
  obtain ⟨bs, hread, -⟩ := bind_eq_ok_iff.mp hword
  unfold readAt at hread
  split at hread
  · rename_i h6
    exact h6
  · cases hread

end TcpIpStack.UDPProtocolLayer
