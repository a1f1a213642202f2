import TcpIpStack.Application.Application
import TcpIpStack.Protocol.ICMP

/-!
# `Application.PingApp` and `Application.HPingApp`

`HPingApp` overrides how the ICMP header is built and how a reply is handled;
everything else it inherits. What the two read off the clock is an argument.
-/

namespace TcpIpStack

open TcpIpStack.Java TcpIpStack.Lib

/-- `System.currentTimeMillis()` and the fields of `Calendar.getInstance()`. -/
structure Clock where
  currentTimeMillis : Long
  hour : JInt
  minute : JInt
  second : JInt
  deriving DecidableEq, Repr

structure PingApp where
  port : JInt
  echo_times : JInt
  identifier : Short
  sequence : Short
  destIp : Option Bytes
  deriving DecidableEq, Repr

structure HPingApp where
  toPingApp : PingApp
  send_time : JInt
  deriving DecidableEq, Repr

namespace PingApp

/-- The fields before the constructor has run. -/
def fresh : PingApp := ⟨0, 0, 0, 0, none⟩

/-- The constructor, with the number `random.nextInt()` returns. -/
def construct (times : JInt) (destIP : Option Bytes) (nextInt : JInt) : Except Throwable PingApp :=
  if times.toInt > 0 then
    let identifier : Short := (nextInt &&& 0x0000FFFF).setWidth 16
    .ok ⟨identifier.signExtend 32, times, identifier, 0, destIP⟩
  else .error .illegalArgument

/-- `createIP4Header`. -/
def createIP4Header (dev : DataLinkLayer) (this : PingApp) (dataLength : JInt) :
    Except Throwable (Option Bytes) := do
  if dataLength.toInt ≤ 0 then return none
  let destIp ← Application.notNull this.destIp
  let (destIP, _) ← (ByteBuffer.wrap destIp).getInt
  IPProtocolLayer.createHeader dev <| Info.empty
    |>.put .data_length (.int dataLength)
    |>.put .destination_ip (.int destIP)
    |>.put .protocol (.byte ICMPProtocolLayer.PROTOCL_ICMP)
    |>.put .identification (.short (this.port.setWidth 16))

/-- `createICMPHeader`. The table has an identifier, so the layer draws none. -/
def createICMPHeader (clock : Clock) : AppM PingApp (Option Bytes) := do
  let this ← Prog.read
  Prog.modify fun this => { this with sequence := this.sequence + 1 }
  Prog.lift <| ICMPProtocolLayer.createHeader 0 <| Info.empty
    |>.put .header (.string "echo")
    |>.put .identifier (.short this.identifier)
    |>.put .sequence_number (.short this.sequence)
    |>.put .data (.bytes (longBytes clock.currentTimeMillis))

section

variable {σ : Type} (dev : DataLinkLayer) (ping : σ → PingApp)
  (createICMPHeader : Clock → AppM σ (Option Bytes))

/-- `createPackage`. -/
def createPackage (clock : Clock) : AppM σ Bytes := do
  match ← createICMPHeader clock with
  | none => Prog.throw (.exception "ICMP Header create fail")
  | some icmpEchoHeader => do
    let this := ping (← Prog.read)
    Prog.lift (Application.packet (some icmpEchoHeader) (createIP4Header dev this))

/-- The loop of `startPing`, over the readings of the clock. -/
def pingLoop : List Clock → AppM σ Unit
  | [] => return ()
  | clock :: clocks => do
    Prog.catching Throwable.isException do
      let packet ← createPackage dev ping createICMPHeader clock
      Prog.emit (.sendData (some packet) (ping (← Prog.read)).destIp)
    pingLoop clocks

/-- `startPing`: as many rounds as `echo_times`; round `i` reads the clock `i`. -/
def startPing (clock : Nat → Clock) : AppM σ Unit := do
  let echo_times := (ping (← Prog.read)).echo_times
  pingLoop dev ping createICMPHeader ((List.range echo_times.toInt.toNat).map clock)

end

/-- `handleData`: the delay in milliseconds. -/
def handleData (clock : Clock) (data : Info) : AppM PingApp Unit := do
  let sequence ← Prog.lift (data.unbox .sequence Obj.asShort)
  let time_buf ← Prog.lift (data.getBytes .data)
  let time_buf ← Prog.lift (Application.notNull time_buf)
  let (send_time, _) ← Prog.lift (ByteBuffer.wrap time_buf).getLong
  Prog.emit (.print (.reply sequence (clock.currentTimeMillis - send_time)))

end PingApp

namespace HPingApp

/-- The constructor calls that of `PingApp`. -/
def construct (times : JInt) (destIP : Option Bytes) (nextInt : JInt) :
    Except Throwable HPingApp := do
  return ⟨← PingApp.construct times destIP nextInt, 0⟩

/-- `createICMPHeader`: the time of day in milliseconds goes with it. -/
def createICMPHeader (clock : Clock) : AppM HPingApp (Option Bytes) := do
  let ping := (← Prog.read).toPingApp
  let send_time := (clock.hour * 3600 + clock.minute * 60 + clock.second) * 1000
  Prog.modify fun this => ⟨{ this.toPingApp with sequence := this.toPingApp.sequence + 1 }, send_time⟩
  Prog.lift <| ICMPProtocolLayer.createHeader 0 <| Info.empty
    |>.put .header (.string "timestamp")
    |>.put .identifier (.short ping.identifier)
    |>.put .sequence_num (.short ping.sequence)
    |>.put .original_time (.int send_time)
    |>.put .receive_time (.int 0)
    |>.put .transmit_time (.int 0)

/-- `handleData`: two delays in seconds. -/
def handleData (data : Info) : AppM HPingApp Unit := do
  let sequence ← Prog.lift (data.unbox .sequence Obj.asShort)
  let receive_time ← Prog.lift (data.unbox .receive_time Obj.asInt)
  let send_time := (← Prog.read).send_time
  Prog.emit (.print (.reply sequence (((send_time - receive_time).sdiv 1000).signExtend 64)))
  let transmit_time ← Prog.lift (data.unbox .transmit_time Obj.asInt)
  Prog.emit (.print (.reply sequence (((send_time - transmit_time).sdiv 1000).signExtend 64)))

end HPingApp

end TcpIpStack
