import TcpIpStack.Application.Application

/-!
# `Application.TraceRoute`

Each probe is a datagram with a time to live one higher than the last; the
router where it expires reports so and the next probe goes out.
-/

namespace TcpIpStack

open TcpIpStack.Java TcpIpStack.Lib

structure TraceRoute where
  port : JInt
  dest_port : JChar
  dest_ip : Option Bytes
  time_to_live : Byte
  deriving DecidableEq, Repr

namespace TraceRoute

def ICMP_TIME_EXCEEDED_TYPE : Byte := 11
def ICMP_TIME_EXCEEDED_CODE : Byte := 0

/-- The constructor; the port keeps its default. -/
def construct (dest_ip : Option Bytes) : TraceRoute := ⟨0, 33434, dest_ip, 1⟩

/-- `createUDPHeader`, over 24 zero bytes. -/
def createUDPHeader (this : TraceRoute) : Except Throwable (Option Bytes) :=
  UDPProtocolLayer.createHeader <| Info.empty
    |>.put .source_port (.char (this.port.setWidth 16))
    |>.put .dest_port (.char this.dest_port)
    |>.put .data (.bytes (List.replicate 24 0))

/-- `createIP4Header`. -/
def createIP4Header (dev : DataLinkLayer) (this : TraceRoute) (dataLength : JInt) :
    Except Throwable (Option Bytes) := do
  if dataLength.toInt < 0 then return none
  let dest_ip ← Application.notNull this.dest_ip
  let (destIP, _) ← (ByteBuffer.wrap dest_ip).getInt
  IPProtocolLayer.createHeader dev <| Info.empty
    |>.put .data_length (.int dataLength)
    |>.put .destination_ip (.int destIP)
    |>.put .protocol (.byte UDPProtocolLayer.PROTOCOL_UDP)
    |>.put .identification (.short (this.port.setWidth 16))
    |>.put .time_to_live (.byte this.time_to_live)

/-- `createPacket`. -/
def createPacket (dev : DataLinkLayer) (this : TraceRoute) : Except Throwable Bytes := do
  match ← createUDPHeader this with
  | none => .error (.exception "UDP Header create fail!!")
  | some udpHeader => Application.packet (some udpHeader) (createIP4Header dev this)

/-- `startTraceRoute`; the object knows its own index as `self`. -/
def startTraceRoute (dev : DataLinkLayer) (self : Nat) : AppM TraceRoute Unit :=
  Prog.catching Throwable.isException do
    let this ← Prog.read
    let packet ← Prog.lift (createPacket dev this)
    Prog.emit (.sendData (some packet) this.dest_ip)
    Prog.emit (.registToReceiveICMPPacket self)

/-- `InetAddress.getByAddress`. -/
def getByAddress (addr : Option Bytes) : Except Throwable Bytes := do
  let addr ← Application.notNull addr
  if addr.length = 4 ∨ addr.length = 16 then return addr
  else .error (.exception "addr is of illegal length")

/-- `handleData`. -/
def handleData (dev : DataLinkLayer) (self : Nat) (data : Info) : AppM TraceRoute Unit := do
  match data .type, data .code with
  | some type, some code => do
    let type ← Prog.lift type.asByte
    if type ≠ ICMP_TIME_EXCEEDED_TYPE then return ()
    let code ← Prog.lift code.asByte
    if code ≠ ICMP_TIME_EXCEEDED_CODE then return ()
    let source_ip ← Prog.lift (data.getBytes .source_ip)
    Prog.catching Throwable.isException do
      let routerIP ← Prog.lift (getByAddress source_ip)
      Prog.emit (.print (.router (← Prog.read).time_to_live routerIP))
      Prog.modify fun this => { this with
        dest_port := this.dest_port + 1
        time_to_live := this.time_to_live + 1 }
      startTraceRoute dev self
  | _, _ => return ()

end TraceRoute

end TcpIpStack
