import Mathlib.Data.List.DropRight
import TcpIpStack.Application.Application

/-!
# `Application.DNSApplication`

`readStringContent` prints a name and follows a compression pointer by a call of
itself on a second buffer over the same array. Such calls nest as deep as the
packet makes them; `depth` is how many of them the stack has room for.
-/

namespace TcpIpStack

open TcpIpStack.Java TcpIpStack.Lib

structure DNSApplication where
  port : JInt
  resolve_server_ip : Option Bytes
  domainName : JString
  dnsHeader : Bytes
  dnsQuestion : Bytes
  transition_id : Short
  deriving DecidableEq, Repr

namespace DNSApplication

def QUESTION_TYPE_LENGTH : Nat := 2
def QUESTION_CLASS_LENGTH : Nat := 2
def QUESTION_TYPE_A : Short := 1
def QUESTION_CLASS : Short := 1
def DNS_SERVER_PORT : JChar := 53
def DNS_ANSWER_CANONICAL_NAME_FOR_ALIAS : Short := 5
def DNS_ANSWER_HOST_ADDRESS : Short := 1
/-- `'.'`. -/
def dot : JChar := 46

/-! ## The query -/

/-- `constructDNSPacketHeader`. -/
def constructDNSPacketHeader (transition_id : Short) : Except Throwable Bytes :=
  ByteBuffer.fill 12 [shortBytes transition_id, shortBytes (1 <<< 8), shortBytes 1, shortBytes 0,
    shortBytes 0, shortBytes 0]

/-- `domainName.split("\\.")`: without a dot the whole string, else the pieces
without the empty ones at the end. -/
def split (domainName : JString) : List JString :=
  if dot ∈ domainName then (domainName.splitOn dot).rdropWhile List.isEmpty else [domainName]

/-- `constructDNSPacketQuestion`: lengths and characters are cast to bytes. -/
def constructDNSPacketQuestion (domainName : JString) : Except Throwable Bytes :=
  ByteBuffer.fill (1 + 1 + domainName.length + QUESTION_TYPE_LENGTH + QUESTION_CLASS_LENGTH) <|
    (split domainName).map (fun str => BitVec.ofNat 8 str.length :: str.map (·.setWidth 8)) ++
      [[0], shortBytes QUESTION_TYPE_A, shortBytes QUESTION_CLASS]

/-- The constructor, with the two numbers `random.nextInt()` returns. -/
def construct (destIP : Option Bytes) (domainName : JString) (nextInt nextInt' : JInt) :
    Except Throwable DNSApplication := do
  let transition_id : Short := nextInt.setWidth 16
  let port : Short := nextInt'.setWidth 16
  let dnsHeader ← constructDNSPacketHeader transition_id
  let dnsQuestion ← constructDNSPacketQuestion domainName
  return ⟨port.signExtend 32, destIP, domainName, dnsHeader, dnsQuestion, transition_id⟩

/-- `createUDPHeader`. -/
def createUDPHeader (this : DNSApplication) (data : Bytes) : Except Throwable (Option Bytes) :=
  UDPProtocolLayer.createHeader <| Info.empty
    |>.put .source_port (.char (this.port.setWidth 16))
    |>.put .dest_port (.char DNS_SERVER_PORT)
    |>.put .data (.bytes data)

/-- `createIP4Header`. -/
def createIP4Header (dev : DataLinkLayer) (this : DNSApplication) (length : JInt) :
    Except Throwable (Option Bytes) := do
  if length.toInt ≤ 0 then return none
  let resolve_server_ip ← Application.notNull this.resolve_server_ip
  let (destIP, _) ← (ByteBuffer.wrap resolve_server_ip).getInt
  IPProtocolLayer.createHeader dev <| Info.empty
    |>.put .data_length (.int length)
    |>.put .destination_ip (.int destIP)
    |>.put .protocol (.byte UDPProtocolLayer.PROTOCOL_UDP)
    |>.put .identification (.short this.transition_id)

/-- `queryDomain`. -/
def queryDomain (dev : DataLinkLayer) : AppM DNSApplication Unit := do
  let this ← Prog.read
  let udpHeader ← Prog.lift (createUDPHeader this (this.dnsHeader ++ this.dnsQuestion))
  let dnsPacket ← Prog.lift (Application.packet udpHeader (createIP4Header dev this))
  Prog.emit (.sendData (some dnsPacket) this.resolve_server_ip)

/-! ## The reply -/

variable {σ : Type}

def printed (cs : List JChar) : List Call := cs.map fun c => .print (.char c)

def printChars (cs : List JChar) : AppM σ Unit := Prog.emitAll (printed cs)

/-- `isNameCompression`. -/
def isNameCompression (b : Byte) : Bool := b &&& (1 <<< 7) ≠ 0 ∧ b &&& (1 <<< 6) ≠ 0

/-- Print the next `n` bytes as characters. -/
def readChars : Nat → ByteBuffer → AppM σ ByteBuffer
  | 0, buffer => return buffer
  | n + 1, buffer => do
    let (c, buffer) ← Prog.lift buffer.get
    printChars [c.signExtend 16]
    readChars n buffer

/-- A second buffer over the array, at an offset. -/
def duplicate (buffer : ByteBuffer) (offset : Byte) : Except Throwable ByteBuffer :=
  (ByteBuffer.wrap buffer.array).setPosition offset.toInt

/-- The `while` loop, with `charCount` read; `follow` reads the name at a pointer.
Every round reads a byte, so a bound of one more than the bytes left is never
used up. -/
def labelLoop (follow : ByteBuffer → AppM σ ByteBuffer) :
    Nat → Byte → ByteBuffer → AppM σ ByteBuffer
  | 0, _, _ => Prog.throw .bufferUnderflow
  | n + 1, charCount, buffer => do
    if isNameCompression charCount then
      let (offset, buffer) ← Prog.lift buffer.get
      let dup_buffer ← Prog.lift (duplicate buffer offset)
      let _ ← follow dup_buffer
      return buffer
    else if charCount ≠ 0 then
      -- a negative count prints nothing
      let buffer ← readChars charCount.toInt.toNat buffer
      let (charCount, buffer) ← Prog.lift buffer.get
      if charCount ≠ 0 then printChars [dot]
      labelLoop follow n charCount buffer
    else return buffer

/-- `readStringContent`. -/
def readStringContent : Nat → ByteBuffer → AppM σ ByteBuffer
  | 0, _ => Prog.throw .stackOverflowError
  | depth + 1, buffer => do
    let (charCount, buffer) ← Prog.lift buffer.get
    labelLoop (readStringContent depth) (buffer.remaining + 1) charCount buffer

/-- `readQuestions`: the rounds left. -/
def readQuestions (depth : Nat) : Nat → ByteBuffer → AppM σ ByteBuffer
  | 0, data => return data
  | n + 1, data => do
    let data ← readStringContent depth data
    let (_, data) ← Prog.lift data.getShort
    let (_, data) ← Prog.lift data.getShort
    readQuestions depth n data

/-- The name of an answer: its first byte is read here, and read again only
through a pointer. -/
def readOwner (depth : Nat) (data : ByteBuffer) : AppM σ ByteBuffer := do
  let (b, data) ← Prog.lift data.get
  if isNameCompression b then
    let (offset, data) ← Prog.lift data.get
    let dup_buffer ← Prog.lift (duplicate data offset)
    let _ ← readStringContent depth dup_buffer
    return data
  else readStringContent depth data

/-- The rest of an answer. The data of any type but two is left unread. -/
def readRecord (depth : Nat) (data : ByteBuffer) : AppM σ ByteBuffer := do
  let (type, data) ← Prog.lift data.getShort
  let (_, data) ← Prog.lift data.getShort
  let (_, data) ← Prog.lift data.getInt
  let (_, data) ← Prog.lift data.getShort
  if type = DNS_ANSWER_CANONICAL_NAME_FOR_ALIAS then readStringContent depth data
  else if type = DNS_ANSWER_HOST_ADDRESS then do
    let (ip, data) ← Prog.lift (data.take 4)
    Prog.emit (.print (.hostAddress ip))
    return data
  else return data

/-- `readAnswers`: the rounds left. -/
def readAnswers (depth : Nat) : Nat → ByteBuffer → AppM σ ByteBuffer
  | 0, data => return data
  | n + 1, data => do
    let data ← readOwner depth data
    let data ← readRecord depth data
    readAnswers depth n data

/-- The end of `handleData`, after the transaction's number: the counts, of which
a negative one makes no round, and the two sections. -/
def readReply (depth : Nat) (buffer : ByteBuffer) : AppM σ ByteBuffer := do
  let (_, buffer) ← Prog.lift buffer.getShort
  let (questionCount, buffer) ← Prog.lift buffer.getShort
  let (answerCount, buffer) ← Prog.lift buffer.getShort
  let (_, buffer) ← Prog.lift buffer.getShort
  let (_, buffer) ← Prog.lift buffer.getShort
  let buffer ← readQuestions depth questionCount.toInt.toNat buffer
  readAnswers depth answerCount.toInt.toNat buffer

/-- `handleData`. -/
def handleData (depth : Nat) (headerInfo : Info) : AppM DNSApplication Unit := do
  match ← Prog.lift (headerInfo.getBytes .data) with
  | none => return ()
  | some data => do
    let (transitionID, buffer) ← Prog.lift (ByteBuffer.wrap data).getShort
    if transitionID ≠ (← Prog.read).transition_id then return ()
    let _ ← readReply depth buffer
    return ()

end DNSApplication

end TcpIpStack
