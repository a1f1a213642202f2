import TcpIpStack.Protocol.IProtocol
import TcpIpStack.Utils.Utility

/-!
# The ICMP header chain

`ICMPProtocolLayer` keeps a list of header objects and asks one after the
other: the first that answers (`createHeader`) or recognises the message
(`handlePacket`) wins. The random identifier an encoder draws when the table
has none is its argument `ran`.
-/

namespace TcpIpStack

open TcpIpStack.Java TcpIpStack.Lib

namespace ICMPEchoHeader

def ICMP_EOCH_HEADER_LENGTH : Nat := 8
def ICMP_ECHO_TYPE : Byte := 8
def ICMP_ECHO_REPLY_TYPE : Byte := 0
def ICMP_ECHO_IDENTIFIER_OFFSET : Nat := 4
def ICMP_ECHO_SEQUENCE_NUM_OFFSET : Nat := 6
def ICMP_ECHO_ONLY_HEADER_LENGTH : Nat := 8

/-- `createHeader` up to the checksum. -/
def layoutHeader (ran : JInt) (headerInfo : Info) : Except Throwable (Option ByteBuffer) := do
  let headerName ← headerInfo.unbox .header Obj.asString
  if headerName ≠ "echo" ∧ headerName ≠ "echo_reply" then return none
  -- the length is taken before the `null` check, which a missing key never reaches
  let data ← headerInfo.unbox .data Obj.asBytes
  let bufferLen : JInt := BitVec.ofNat 32 (ICMP_EOCH_HEADER_LENGTH + data.length)
  let buffer ← newArray bufferLen.toInt
  let byteBuffer := ByteBuffer.wrap buffer
  let type : Byte := if headerName = "echo_reply" then ICMP_ECHO_REPLY_TYPE else ICMP_ECHO_TYPE
  let byteBuffer ← byteBuffer.put type
  let code : Byte := 0
  let byteBuffer ← byteBuffer.put code
  let checkSum : Short := 0
  let byteBuffer ← byteBuffer.putShort checkSum
  let identifier ← headerInfo.getOr .identifier Obj.asShort (ran.setWidth 16)
  let byteBuffer ← byteBuffer.putShort identifier
  let sequenceNumber ← headerInfo.getOr .sequence_number Obj.asShort 0
  let byteBuffer ← byteBuffer.putShort sequenceNumber
  let byteBuffer ← byteBuffer.putBytes data
  return some byteBuffer

/-- `createHeader`: `null` for a table that names another header. -/
def createHeader (ran : JInt) (headerInfo : Info) : Except Throwable (Option Bytes) := do
  Utility.storeChecksum 2 (← layoutHeader ran headerInfo)

/-- Whatever the header table, the laid-out header has its checksum word zero. -/
theorem layoutHeader_zeroWord (ran : JInt) (headerInfo : Info) :
    Returns (layoutHeader ran headerInfo) fun r => ∀ bb, r = some bb →
      ∃ n ≤ maxArrayLength, bb.Filled n (ByteBuffer.ZeroWordAt 2) := by
  unfold layoutHeader
  refine .bind_any fun name => ?_
  split
  · exact .ok fun _ h => by cases h
  refine .bind_any fun data => .bind (fun a h => ByteBuffer.filled_wrap_newArray h) fun a h0 => ?_
  refine .bind h0.advance fun b1 h1 => .bind h1.advance fun b2 h2 =>
    .bind (ByteBuffer.Filled.putZeroWord (o := 2) h2) fun b4 h4 => .bind_any fun ident =>
    .bind h4.keep fun b6 h6 => .bind_any fun seq => .bind h6.keep fun b8 h8 =>
    .bind h8.keep fun b h => .ok fun bb e => ?_
  cases e
  refine ⟨_, ?_, h⟩
  have := BitVec.toInt_lt (x := BitVec.ofNat 32 (ICMP_EOCH_HEADER_LENGTH + data.length))
  simp only [maxArrayLength]
  omega

theorem createHeader_verifies (ran : JInt) (headerInfo : Info) {h : Bytes}
    (hc : createHeader ran headerInfo = .ok (some h)) :
    Utility.Verifies h ↔ Utility.FoldsOnce (ByteBuffer.storeAt h 2 [0, 0]) := by
  obtain ⟨r, hr, hc⟩ := bind_eq_ok_iff.mp hc
  cases r with
  | none => cases hc
  | some bb =>
    obtain ⟨n, hn, hbb⟩ := layoutHeader_zeroWord ran headerInfo _ hr bb rfl
    exact Utility.storeChecksum_verifies_iff (by decide) hn hbb hc

def handlePacket (packet : Packet) : Except Throwable (Option Info) := do
  let buffer := ByteBuffer.wrap packet.header
  if (← buffer.getAt 0) ≠ ICMP_ECHO_REPLY_TYPE then return none
  let identifier ← buffer.getShortAt ICMP_ECHO_IDENTIFIER_OFFSET
  let sequence ← buffer.getShortAt ICMP_ECHO_SEQUENCE_NUM_OFFSET
  let header := Info.empty
    |>.put .identifier (.short identifier)
    |>.put .sequence (.short sequence)
  return some <| if packet.header.length > ICMP_ECHO_ONLY_HEADER_LENGTH then
    header.put .data (.bytes packet.data) else header

end ICMPEchoHeader

namespace ICMPTimeStampHeader

def ICMP_TIMESTAMP_HEADER_LENGTH : Nat := 20
def ICMP_TIMESTAMP_REQUEST_TYPE : Byte := 13
def ICMP_TIMESTAMP_REPLY_TYPE : Byte := 14
def ICMP_ECHO_IDENTIFIER_OFFSET : Nat := 4
def ICMP_ECHO_SEQUENCE_NUM_OFFSET : Nat := 6
def ICMP_ORIGINAL_TIMESTAMP_OFFSET : Nat := 8
def ICMP_RECEIVE_TIMESTAMP_OFFSET : Nat := 12
def ICMP_TRANSMIT_TIMESTAMP_OFFSET : Nat := 16

/-- Append the time under `k`, if the table has one. -/
def putTime (headerInfo : Info) (k : Key) (byteBuffer : ByteBuffer) : Except Throwable ByteBuffer :=
  match headerInfo k with
  | none => .ok byteBuffer
  | some time => do byteBuffer.putInt (← time.asInt)

/-- `createHeader` up to the checksum. -/
def layoutHeader (ran : JInt) (headerInfo : Info) : Except Throwable (Option ByteBuffer) := do
  let headerName ← headerInfo.unbox .header Obj.asString
  if headerName ≠ "timestamp" then return none
  let buffer ← newArray ICMP_TIMESTAMP_HEADER_LENGTH
  let byteBuffer := ByteBuffer.wrap buffer
  let byteBuffer ← byteBuffer.put ICMP_TIMESTAMP_REQUEST_TYPE
  let code : Byte := 0
  let byteBuffer ← byteBuffer.put code
  let checkSum : Short := 0
  let byteBuffer ← byteBuffer.putShort checkSum
  let identifier ← headerInfo.getOr .identifier Obj.asShort (ran.setWidth 16)
  let byteBuffer ← byteBuffer.putShort identifier
  let sequenceNumber ← headerInfo.getOr .sequenceNumber Obj.asShort 0
  let byteBuffer ← byteBuffer.putShort sequenceNumber
  let byteBuffer ← putTime headerInfo .original_time byteBuffer
  let byteBuffer ← putTime headerInfo .receive_time byteBuffer
  let byteBuffer ← putTime headerInfo .transmit_time byteBuffer
  return some byteBuffer

def createHeader (ran : JInt) (headerInfo : Info) : Except Throwable (Option Bytes) := do
  Utility.storeChecksum 2 (← layoutHeader ran headerInfo)

theorem putTime_keep {n : Nat} {b : ByteBuffer} (headerInfo : Info) (k : Key)
    (h : b.Filled n (ByteBuffer.ZeroWordAt 2)) :
    Returns (putTime headerInfo k b) (ByteBuffer.Filled n (ByteBuffer.ZeroWordAt 2)) := by
  unfold putTime
  split
  · exact .ok h
  · exact .bind_any fun _ => h.keep

/-- Whatever the header table, the laid-out header has its checksum word zero. -/
theorem layoutHeader_zeroWord (ran : JInt) (headerInfo : Info) :
    Returns (layoutHeader ran headerInfo) fun r => ∀ bb, r = some bb →
      bb.Filled ICMP_TIMESTAMP_HEADER_LENGTH (ByteBuffer.ZeroWordAt 2) := by
  unfold layoutHeader
  refine .bind_any fun name => ?_
  split
  · exact .ok fun _ h => by cases h
  refine .bind (fun a h => ByteBuffer.filled_wrap_newArray h) fun a h0 => ?_
  refine .bind h0.advance fun b1 h1 => .bind h1.advance fun b2 h2 =>
    .bind (ByteBuffer.Filled.putZeroWord (o := 2) h2) fun b4 h4 => .bind_any fun ident =>
    .bind h4.keep fun b6 h6 => .bind_any fun seq => .bind h6.keep fun b8 h8 =>
    .bind (putTime_keep _ _ h8) fun b12 h12 => .bind (putTime_keep _ _ h12) fun b16 h16 =>
    .bind (putTime_keep _ _ h16) fun b h => .ok fun bb e => ?_
  cases e
  exact h

theorem createHeader_verifies (ran : JInt) (headerInfo : Info) {h : Bytes}
    (hc : createHeader ran headerInfo = .ok (some h)) :
    Utility.Verifies h ↔ Utility.FoldsOnce (ByteBuffer.storeAt h 2 [0, 0]) := by
  obtain ⟨r, hr, hc⟩ := bind_eq_ok_iff.mp hc
  cases r with
  | none => cases hc
  | some bb =>
    exact Utility.storeChecksum_verifies_iff (by decide) (by decide)
      (layoutHeader_zeroWord ran headerInfo _ hr bb rfl) hc

def handlePacket (packet : Packet) : Except Throwable (Option Info) := do
  let buffer := ByteBuffer.wrap packet.header
  if (← buffer.getAt 0) ≠ ICMP_TIMESTAMP_REPLY_TYPE then return none
  let identifier ← buffer.getShortAt ICMP_ECHO_IDENTIFIER_OFFSET
  let sequence ← buffer.getShortAt ICMP_ECHO_SEQUENCE_NUM_OFFSET
  let original_time ← buffer.getIntAt ICMP_ORIGINAL_TIMESTAMP_OFFSET
  let receive_time ← buffer.getIntAt ICMP_RECEIVE_TIMESTAMP_OFFSET
  let transmit_time ← buffer.getIntAt ICMP_TRANSMIT_TIMESTAMP_OFFSET
  return some <| Info.empty
    |>.put .identifier (.short identifier)
    |>.put .sequence (.short sequence)
    |>.put .original_time (.int original_time)
    |>.put .receive_time (.int receive_time)
    |>.put .transmit_time (.int transmit_time)

end ICMPTimeStampHeader

namespace ICMPTimeExceededHeader

def ICMP_TIME_EXCEEDED_TYPE : Byte := 11
def ICMP_TIME_EXCEEDED_CODE : Byte := 0
def ICMP_TIME_EXCEEDED_DATA_OFFSET : Nat := 8

def createHeader (_headerInfo : Info) : Except Throwable (Option Bytes) := .ok none

/-- `handlePacket`: the table holds the two constants, not what was received,
and the guard needs both fields to differ before it rejects. -/
def handlePacket (packet : Packet) : Except Throwable (Option Info) := do
  let buffer := ByteBuffer.wrap packet.header
  -- `&&`: the code is read only when the type differs
  if (← buffer.getAt 0) ≠ ICMP_TIME_EXCEEDED_TYPE then
    if (← buffer.getAt 1) ≠ ICMP_TIME_EXCEEDED_CODE then return none
  let data ← newArray ((packet.header.length : Int) - ICMP_TIME_EXCEEDED_DATA_OFFSET)
  let buffer ← buffer.setPosition ICMP_TIME_EXCEEDED_DATA_OFFSET
  let (data, _) ← buffer.take data.length
  return some <| Info.empty
    |>.put .type (.byte ICMP_TIME_EXCEEDED_TYPE)
    |>.put .code (.byte ICMP_TIME_EXCEEDED_CODE)
    |>.put .data (.bytes data)

end ICMPTimeExceededHeader

namespace ICMPProtocolLayer

def PROTOCL_ICMP : Byte := 1

/-- The first of the handlers that does not answer `null`. -/
def firstAnswer {α : Type} : List (Except Throwable (Option α)) → Except Throwable (Option α)
  | [] => .ok none
  | h :: hs => do
    match ← h with
    | some a => return some a
    | none => firstAnswer hs

def createHeader (ran : JInt) (headerInfo : Info) : Except Throwable (Option Bytes) :=
  firstAnswer [ICMPEchoHeader.createHeader ran headerInfo,
    ICMPTimeStampHeader.createHeader ran headerInfo,
    ICMPTimeExceededHeader.createHeader headerInfo]

/-- `handleICMPInfoMsg` over `protocol_header_list`. -/
def handlePacket (packet : Packet) : Except Throwable (Option Info) :=
  firstAnswer [ICMPEchoHeader.handlePacket packet, ICMPTimeStampHeader.handlePacket packet,
    ICMPTimeExceededHeader.handlePacket packet]

end ICMPProtocolLayer

end TcpIpStack
