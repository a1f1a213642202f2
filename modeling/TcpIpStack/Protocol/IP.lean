import TcpIpStack.Protocol.IProtocol
import TcpIpStack.Utils.Utility

/-!
# `protocol.IPProtocolLayer`

`createHeader` lays the header fields out one after the other and stores the
checksum over the zero word at `CHECKSUM_OFFSET`; `handlePacket` reads a
captured frame back at fixed offsets, drops it unless the destination is the
device, and cuts the payload out by the header's own lengths.
-/

namespace TcpIpStack.IPProtocolLayer

open TcpIpStack.Java TcpIpStack.Lib

def ETHERNET_FRAME_HEADER_LENGTH : Nat := 14
def IP_VERSION : Byte := 4
def CHECKSUM_OFFSET : Nat := 10
def HEADER_LENGTH_OFFSET : Nat := 0 + ETHERNET_FRAME_HEADER_LENGTH
def TOTAL_LENGTH_OFFSET : Nat := 2 + ETHERNET_FRAME_HEADER_LENGTH
def SOURCE_IP_OFFSET : Nat := 12 + ETHERNET_FRAME_HEADER_LENGTH
def DEST_IP_OFFSET : Nat := 16 + ETHERNET_FRAME_HEADER_LENGTH
def PROTOCOL_INDICATOR_OFFSET : Nat := 9 + ETHERNET_FRAME_HEADER_LENGTH

/-- `createHeader` up to the checksum, which is still zero. -/
def layoutHeader (dev : DataLinkLayer) (headerInfo : Info) :
    Except Throwable (Option ByteBuffer) := do
  let version : Byte := IP_VERSION &&& 0x0F
  let internetHeaderLength ← headerInfo.getOr .internet_header_length Obj.asByte 5
  let buffer ← newArray (internetHeaderLength.toInt * 4)
  let byteBuffer := ByteBuffer.wrap buffer
  let byteBuffer ← byteBuffer.put
    ((version.signExtend 32 <<< 4 ||| internetHeaderLength.signExtend 32).setWidth 8)
  let dscp ← headerInfo.getOr .dscp Obj.asByte 0
  let ecn ← headerInfo.getOr .ecn Obj.asByte 0
  let byteBuffer ← byteBuffer.put ((dscp.signExtend 32 <<< 2 ||| ecn.signExtend 32).setWidth 8)
  match headerInfo .data_length with
  | none => return none
  | some data_length => do
    let options ← headerInfo.getBytes .options
    let optionLength : JInt := match options with
      | some options => BitVec.ofNat 32 options.length
      | none => 0
    let totalLength : Short :=
      ((← data_length.asInt) + optionLength + internetHeaderLength.signExtend 32 * 4).setWidth 16
    let byteBuffer ← byteBuffer.putShort totalLength
    let identification ← headerInfo.getOr .identification Obj.asShort 0
    let byteBuffer ← byteBuffer.putShort identification
    let flag : Short := (← headerInfo.getOr .flag Obj.asShort 0) <<< 13
    let fragment_offset ← headerInfo.getOr .fragment_offset Obj.asShort 0
    let byteBuffer ← byteBuffer.putShort (flag ||| fragment_offset)
    let timeToLive ← headerInfo.getOr .time_to_live Obj.asByte 64
    let byteBuffer ← byteBuffer.put timeToLive
    match headerInfo .protocol with
    | none => return none
    | some protocol => do
      let byteBuffer ← byteBuffer.put (← protocol.asByte)
      let checkSum : Short := 0
      let byteBuffer ← byteBuffer.putShort checkSum
      let (deviceIP, _) ← (ByteBuffer.wrap dev.deviceIPAddress).getInt
      let srcIP ← headerInfo.getOr .source_ip Obj.asInt deviceIP
      let byteBuffer ← byteBuffer.putInt srcIP
      match headerInfo .destination_ip with
      | none => return none
      | some destIP => do
        let byteBuffer ← byteBuffer.putInt (← destIP.asInt)
        match options with
        | none => return some byteBuffer
        | some options => do
          let byteBuffer ← byteBuffer.putBytes options
          return some byteBuffer

/-- `createHeader`: `null` without a data length, a protocol or a destination. -/
def createHeader (dev : DataLinkLayer) (headerInfo : Info) : Except Throwable (Option Bytes) := do
  Utility.storeChecksum CHECKSUM_OFFSET (← layoutHeader dev headerInfo)

/-- `handlePacket`: `null` when the packet is for another host. -/
def handlePacket (dev : DataLinkLayer) (packet : Packet) : Except Throwable (Option Info) := do
  let buffer := ByteBuffer.wrap (packet.header ++ packet.data)
  let buffer ← buffer.setPosition SOURCE_IP_OFFSET
  let (src_ip, buffer) ← buffer.take 4
  let buffer ← buffer.setPosition DEST_IP_OFFSET
  let (dest_ip, buffer) ← buffer.take 4
  -- the loop compares byte by byte; both arrays have four
  if dev.deviceIPAddress ≠ dest_ip then return none
  let protocol ← buffer.getAt PROTOCOL_INDICATOR_OFFSET
  let headerLength ← buffer.getAt HEADER_LENGTH_OFFSET
  let headerLength : Byte := (headerLength &&& 0x0F) * 4
  let totalLength ← buffer.getShortAt TOTAL_LENGTH_OFFSET
  let dataLength : Int := totalLength.toInt - headerLength.toInt
  let data ← newArray dataLength
  let buffer ← buffer.setPosition (headerLength.toInt + ETHERNET_FRAME_HEADER_LENGTH)
  let (data, _) ← buffer.take data.length
  return some <| Info.empty
    |>.put .source_ip (.bytes src_ip)
    |>.put .dest_ip (.bytes dest_ip)
    |>.put .protocol (.byte protocol)
    |>.put .header (.bytes data)

/-- Whatever the header table, the laid-out header has its checksum word zero. -/
theorem layoutHeader_zeroWord (dev : DataLinkLayer) (headerInfo : Info) :
    Returns (layoutHeader dev headerInfo) fun r => ∀ bb, r = some bb →
      ∃ n ≤ 508, bb.Filled n (ByteBuffer.ZeroWordAt CHECKSUM_OFFSET) := by
  have hnone : ∀ {P : ByteBuffer → Prop},
      Returns (pure none : Except Throwable (Option ByteBuffer)) fun r => ∀ bb, r = some bb → P bb :=
    .ok fun _ h => by cases h
  unfold layoutHeader
  refine .bind_any fun ihl => .bind (fun a h => ByteBuffer.filled_wrap_newArray h) fun a h0 => ?_
  have hn : (ihl.toInt * 4).toNat ≤ 508 := by have := BitVec.toInt_lt (x := ihl); omega
  refine .bind h0.advance fun b1 h1 => .bind_any fun dscp => .bind_any fun ecn =>
    .bind h1.advance fun b2 h2 => ?_
  split
  · exact hnone
  refine .bind_any fun options => .bind_any fun len => .bind h2.advance fun b4 h4 =>
    .bind_any fun ident => .bind h4.advance fun b6 h6 => .bind_any fun flag =>
    .bind_any fun off => .bind h6.advance fun b8 h8 => .bind_any fun ttl =>
    .bind h8.advance fun b9 h9 => ?_
  split
  · exact hnone
  refine .bind_any fun proto => .bind h9.advance fun b10 h10 =>
    .bind (ByteBuffer.Filled.putZeroWord (o := 10) h10) fun b12 h12 => .bind_any fun dip =>
    .bind_any fun src => .bind h12.keep fun b16 h16 => ?_
  split
  · exact hnone
  refine .bind_any fun dst => .bind h16.keep fun b20 h20 => ?_
  split
  · exact .ok fun bb h => by cases h; exact ⟨_, hn, h20⟩
  · exact .bind h20.keep fun b h => .ok fun bb e => by cases e; exact ⟨_, hn, h⟩

/-- A header that `createHeader` returns verifies if and only if its words other
than the checksum fold without a second carry. -/
theorem createHeader_verifies (dev : DataLinkLayer) (headerInfo : Info) {h : Bytes}
    (hc : createHeader dev headerInfo = .ok (some h)) :
    Utility.Verifies h ↔ Utility.FoldsOnce (ByteBuffer.storeAt h CHECKSUM_OFFSET [0, 0]) := by
  obtain ⟨r, hr, hc⟩ := bind_eq_ok_iff.mp hc
  cases r with
  | none => cases hc
  | some bb =>
    obtain ⟨n, hn, hbb⟩ := layoutHeader_zeroWord dev headerInfo _ hr bb rfl
    exact Utility.storeChecksum_verifies_iff (by decide) (by simp only [maxArrayLength]; omega) hbb hc

end TcpIpStack.IPProtocolLayer
