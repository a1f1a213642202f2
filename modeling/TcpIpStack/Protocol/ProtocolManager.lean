import TcpIpStack.Application.IApplication
import TcpIpStack.Java.HashMap
import TcpIpStack.Protocol.ARP
import TcpIpStack.Protocol.ICMP
import TcpIpStack.Protocol.IP
import TcpIpStack.Protocol.UDP

/-!
# `protocol.ProtocolManager`

The one object that talks to the network card. Packets wait in
`dataWaitToSend`, keyed by their destination, until an ARP reply has put the
router's address into `ipToMacTable`; received frames go to the protocol their
type names and from there to the applications.

The application layer is a parameter: its methods touch the manager only
through their calls. The outputs of a run are its log.
-/

namespace TcpIpStack

open TcpIpStack.Java TcpIpStack.Lib

/-- The fixed surroundings of the stack. -/
structure Network where
  dataLinkLayer : DataLinkLayer
  routerAddress : Inet4Address
  keyOrder : KeyOrder

/-- The method that handed a frame to `DataLinkLayer.sendData`. -/
inductive Sender where
  | prepareRouterMac | sendData | sendWaitingData | broadCast
  deriving DecidableEq, Repr

/-- What a run leaves in its log. -/
inductive Event where
  /-- `ProtocolManager.sendData` was called. -/
  | handed (data ip : Option Bytes)
  | transmit (sender : Sender) (frame : Frame)
  /-- An application's `handleData` was called. -/
  | delivered (app : Nat) (info : Info)
  | print (report : Report)

/-- The manager's tables and, beside them, the application objects. -/
structure ProtocolManager (σ : Type) where
  ipToMacTable : HashMap
  dataWaitToSend : HashMap
  icmpPacketReceiverList : List Nat
  apps : σ

abbrev StackM (σ α : Type) : Type := Prog Throwable (ProtocolManager σ) Event α

namespace ProtocolManager

variable {σ : Type} (net : Network) (apps : AppLayer σ)

/-- The tables of a manager that has just been built. -/
def emptyTables (objects : σ) : ProtocolManager σ := ⟨∅, ∅, [], objects⟩

def broadcast : Bytes := List.replicate 6 0xFF

/-- Hand data to the network card, here one that takes every frame; `transmitOn` has the
one that may refuse. -/
def transmit (sender : Sender) (data : Option Bytes) (mac : Bytes) (frameType : Short) :
    StackM σ Unit :=
  Prog.emitAll ((net.dataLinkLayer.sendData data mac frameType).map (Event.transmit sender))

/-- `registToReceiveICMPPacket`. -/
def registToReceiveICMPPacket (receiver : Nat) : StackM σ Unit :=
  Prog.modify fun s =>
    if receiver ∈ s.icmpPacketReceiverList then s
    else { s with icmpPacketReceiverList := s.icmpPacketReceiverList ++ [receiver] }

/-- `prepareRouterMac`: ask for the router's address. -/
def prepareRouterMac : StackM σ Unit := do
  let headerInfo := Info.empty.put .sender_ip (.bytes net.routerAddress.getAddress)
  match ← Prog.lift (ARPProtocolLayer.createHeader net.dataLinkLayer headerInfo) with
  | none => Prog.throw (.exception "Get MAC address header fail!!")
  | some arpRequest => transmit net .prepareRouterMac (some arpRequest) broadcast ETHERTYPE_ARP

/-- The first `getInstance`: the tables are built and the router is asked for at once; what
asking throws is caught. -/
def getInstance (objects : σ) : Outcome Throwable (ProtocolManager σ) Event Unit :=
  Prog.catching Throwable.isException (prepareRouterMac net) (emptyTables objects)

/-- `getRouterMac`: the table's entry for the router, `null` if it has none. -/
def getRouterMac (s : ProtocolManager σ) : Option Bytes :=
  s.ipToMacTable.get (Arrays.toString (some net.routerAddress.getAddress))

/-- `sendData`: the data waits until the router's address is known. -/
def sendData (data ip : Option Bytes) : StackM σ Unit := do
  Prog.emit (.handed data ip)
  let mac := getRouterMac net (← Prog.read)
  match mac with
  | none =>
    prepareRouterMac net
    Prog.modify fun s => { s with dataWaitToSend := s.dataWaitToSend.put (Arrays.toString ip) data }
  | some mac => transmit net .sendData data mac ETHERTYPE_IP

/-- `broadCast`. -/
def broadCast (data : Option Bytes) : StackM σ Unit :=
  transmit net .broadCast data broadcast ETHERTYPE_IP

/-- `sendWaitingData`: once the address is known, everything that waits goes out. -/
def sendWaitingData : StackM σ Unit := do
  match getRouterMac net (← Prog.read) with
  | none => return ()
  | some mac => do
    let s ← Prog.read
    (net.keyOrder.keySet s.dataWaitToSend).forM fun key =>
      transmit net .sendWaitingData (s.dataWaitToSend.get key) mac ETHERTYPE_IP
    Prog.modify fun s => { s with dataWaitToSend := ∅ }

/-- An application's call on the manager; the applications catch what `sendData`
throws. -/
def perform : Call → StackM σ Unit
  | .sendData data ip => Prog.catching Throwable.isException (sendData net data ip)
  | .broadCast data => broadCast net data
  | .registToReceiveICMPPacket receiver => registToReceiveICMPPacket receiver
  | .print report => Prog.emit (.print report)

/-- Run a method of an application and carry out its calls: they change the
manager's tables only, which no application reads. -/
def runApp {α : Type} (m : AppM σ α) : StackM σ α :=
  Prog.interpret ProtocolManager.apps (fun objects s => { s with apps := objects }) (perform net) m

/-- `handleData` of the application `app`. -/
def deliver (app : Nat) (info : Info) : StackM σ Unit := do
  Prog.emit (.delivered app info)
  runApp net (apps.handleData app info)

/-- `handleUDPPacket`. -/
def handleUDPPacket (packet : Packet) : StackM σ Unit := do
  let headerInfo ← Prog.lift (UDPProtocolLayer.handlePacket packet)
  let dstPort ← Prog.lift (headerInfo.unbox .dest_port Obj.asShort)
  match apps.getApplicationByPort (← Prog.read).apps (dstPort.signExtend 32) with
  | none => return ()
  | some app => deliver net apps app headerInfo

/-- `handleICMPPacket`: the entries of the upper layer's table are copied over
the message's, then every registered receiver gets the result. A receiver
registers only itself, so the list does not grow under the loop. -/
def handleICMPPacket (packet : Packet) (infoFromUpLayer : Info) : StackM σ Unit := do
  match ← Prog.lift (ICMPProtocolLayer.handlePacket packet) with
  | none => Prog.throw .nullPointer
  | some headerInfo => do
    let headerInfo : Info := fun key => (infoFromUpLayer key).or (headerInfo key)
    (← Prog.read).icmpPacketReceiverList.forM fun receiver =>
      deliver net apps receiver headerInfo

/-- `handleIPPacket`. -/
def handleIPPacket (packet : Packet) : StackM σ Unit := do
  match ← Prog.lift (IPProtocolLayer.handlePacket net.dataLinkLayer packet) with
  | none => return ()
  | some info => do
    match info .protocol with
    | none => return ()
    | some protocol => do
      let protocol ← Prog.lift protocol.asByte
      let header ← Prog.lift (info.unbox .header Obj.asBytes)
      let packet := { packet with header }
      if protocol = 1 then handleICMPPacket net apps packet info
      else if protocol = 17 then handleUDPPacket net apps packet
      else return ()

/-- The ARP branch of `receivePacket`. A rejected message leaves both addresses
`null`. -/
def handleARPPacket (packet : Packet) : StackM σ Unit := do
  let info ← Prog.lift (ARPProtocolLayer.handlePacket net.dataLinkLayer packet)
  let senderIP ← Prog.lift (info.getBytes .sender_ip)
  let senderMac ← Prog.lift (info.getBytes .sender_mac)
  Prog.modify fun s =>
    { s with ipToMacTable := s.ipToMacTable.put (Arrays.toString senderIP) senderMac }
  sendWaitingData net

/-- `receivePacket`: only the IP branch catches exceptions. -/
def receivePacket : Option Packet → StackM σ Unit
  | none => return ()
  | some packet => do
    if packet.frametype = ETHERTYPE_ARP then handleARPPacket net packet
    if packet.frametype = ETHERTYPE_IP then
      Prog.catching Throwable.isException (handleIPPacket net apps packet)

/-- What drives the stack: calls from outside, such as an application's start
method, and captured frames. -/
inductive Input (σ : Type) where
  | app (method : AppM σ Unit)
  | receivePacket (packet : Option Packet)

def step : Input σ → StackM σ Unit
  | .app method => runApp net method
  | .receivePacket packet => receivePacket net apps packet

end ProtocolManager

/-- The network of the shipped configuration: the router is `192.168.1.1`. -/
def sampleNetwork : Network where
  dataLinkLayer := sampleDevice
  routerAddress := ⟨[192, 168, 1, 1], rfl⟩
  keyOrder := ⟨AList.keys, fun _ => .refl _⟩

/-- The router's ARP reply to the device. -/
def sampleRouterReply : Packet where
  frametype := ETHERTYPE_ARP
  header := List.replicate 14 0 ++ [0, 1, 8, 0, 6, 4, 0, 2] ++ [0x10, 0x20, 0x30, 0x40, 0x50, 0x60] ++
    [192, 168, 1, 1] ++ sampleDevice.deviceMacAddress ++ sampleDevice.deviceIPAddress
  data := []

end TcpIpStack
