import TcpIpStack.Protocol.AppCalls

/-!
# A card that refuses frames

`JpcapSender.sendPacket` throws an `IOException` where the card does not take a
frame. The methods of the manager that send stand here once more, on a card that
may refuse; on one that takes every frame they are the manager's own
(`stepOn_takesAll`).
-/

namespace TcpIpStack

open TcpIpStack.Java TcpIpStack.Lib

/-- Which frames the card takes while one input is handled, equal ones alike. -/
abbrev Card := Frame → Bool

def takesAll : Card := fun _ => true

namespace ProtocolManager

variable {σ : Type} (net : Network) (apps : AppLayer σ) (card : Card)

/-- Hand data to the card: a frame it refuses is not sent and `sendPacket` throws. -/
def transmitOn (sender : Sender) (data : Option Bytes) (mac : Bytes) (frameType : Short) :
    StackM σ Unit :=
  (net.dataLinkLayer.sendData data mac frameType).forM fun frame =>
    if card frame then Prog.emit (.transmit sender frame) else Prog.throw .ioException

/-- `prepareRouterMac`. -/
def prepareRouterMacOn : StackM σ Unit := do
  let headerInfo := Info.empty.put .sender_ip (.bytes net.routerAddress.getAddress)
  match ← Prog.lift (ARPProtocolLayer.createHeader net.dataLinkLayer headerInfo) with
  | none => Prog.throw (.exception "Get MAC address header fail!!")
  | some arpRequest =>
    transmitOn net card .prepareRouterMac (some arpRequest) broadcast ETHERTYPE_ARP

/-- The first `getInstance`. -/
def getInstanceOn (objects : σ) : Outcome Throwable (ProtocolManager σ) Event Unit :=
  Prog.catching Throwable.isException (prepareRouterMacOn net card) (emptyTables objects)

/-- `sendData`: if the question is refused, the data does not wait either. -/
def sendDataOn (data ip : Option Bytes) : StackM σ Unit := do
  Prog.emit (.handed data ip)
  let mac := getRouterMac net (← Prog.read)
  match mac with
  | none =>
    prepareRouterMacOn net card
    Prog.modify fun s => { s with dataWaitToSend := s.dataWaitToSend.put (Arrays.toString ip) data }
  | some mac => transmitOn net card .sendData data mac ETHERTYPE_IP

/-- `sendWaitingData`: a packet that is refused ends the loop, and the table stays. -/
def sendWaitingDataOn : StackM σ Unit := do
  match getRouterMac net (← Prog.read) with
  | none => return ()
  | some mac => do
    let s ← Prog.read
    (net.keyOrder.keySet s.dataWaitToSend).forM fun key =>
      transmitOn net card .sendWaitingData (s.dataWaitToSend.get key) mac ETHERTYPE_IP
    Prog.modify fun s => { s with dataWaitToSend := ∅ }

/-- An application's call; `broadCast` is called outside of any `try`. -/
def performOn : Call → StackM σ Unit
  | .sendData data ip => Prog.catching Throwable.isException (sendDataOn net card data ip)
  | .broadCast data => transmitOn net card .broadCast data broadcast ETHERTYPE_IP
  | .registToReceiveICMPPacket receiver => registToReceiveICMPPacket receiver
  | .print report => Prog.emit (.print report)

/-- The calls of a method. A tracer registers in the `try` block it sends its probe in,
so it does not where the probe is refused. -/
def performAll : List Call → StackM σ Unit
  | [] => return ()
  | .sendData data ip :: .registToReceiveICMPPacket receiver :: calls => do
    Prog.catching Throwable.isException do
      sendDataOn net card data ip
      registToReceiveICMPPacket receiver
    performAll calls
  | call :: calls => do
    performOn net card call
    performAll calls

/-- Run a method of an application and carry out its calls. -/
def runAppOn (m : AppM σ Unit) : StackM σ Unit := fun s =>
  let r := m s.apps
  (performAll net card r.out >>= fun _ => Prog.lift r.result) { s with apps := r.state }

/-- `handleData` of the application `app`. -/
def deliverOn (app : Nat) (info : Info) : StackM σ Unit := do
  Prog.emit (.delivered app info)
  runAppOn net card (apps.handleData app info)

/-- `handleUDPPacket`. -/
def handleUDPPacketOn (packet : Packet) : StackM σ Unit := do
  let headerInfo ← Prog.lift (UDPProtocolLayer.handlePacket packet)
  let dstPort ← Prog.lift (headerInfo.unbox .dest_port Obj.asShort)
  match apps.getApplicationByPort (← Prog.read).apps (dstPort.signExtend 32) with
  | none => return ()
  | some app => deliverOn net apps card app headerInfo

/-- `handleICMPPacket`. -/
def handleICMPPacketOn (packet : Packet) (infoFromUpLayer : Info) : StackM σ Unit := do
  match ← Prog.lift (ICMPProtocolLayer.handlePacket packet) with
  | none => Prog.throw .nullPointer
  | some headerInfo => do
    let headerInfo : Info := fun key => (infoFromUpLayer key).or (headerInfo key)
    (← Prog.read).icmpPacketReceiverList.forM fun receiver =>
      deliverOn net apps card receiver headerInfo

/-- `handleIPPacket`. -/
def handleIPPacketOn (packet : Packet) : StackM σ Unit := do
  match ← Prog.lift (IPProtocolLayer.handlePacket net.dataLinkLayer packet) with
  | none => return ()
  | some info => do
    match info .protocol with
    | none => return ()
    | some protocol => do
      let protocol ← Prog.lift protocol.asByte
      let header ← Prog.lift (info.unbox .header Obj.asBytes)
      let packet := { packet with header }
      if protocol = 1 then handleICMPPacketOn net apps card packet info
      else if protocol = 17 then handleUDPPacketOn net apps card packet
      else return ()

/-- The ARP branch of `receivePacket`. -/
def handleARPPacketOn (packet : Packet) : StackM σ Unit := do
  let info ← Prog.lift (ARPProtocolLayer.handlePacket net.dataLinkLayer packet)
  let senderIP ← Prog.lift (info.getBytes .sender_ip)
  let senderMac ← Prog.lift (info.getBytes .sender_mac)
  Prog.modify fun s =>
    { s with ipToMacTable := s.ipToMacTable.put (Arrays.toString senderIP) senderMac }
  sendWaitingDataOn net card

/-- `receivePacket`: nothing catches what the ARP branch throws. -/
def receivePacketOn : Option Packet → StackM σ Unit
  | none => return ()
  | some packet => do
    if packet.frametype = ETHERTYPE_ARP then handleARPPacketOn net card packet
    if packet.frametype = ETHERTYPE_IP then
      Prog.catching Throwable.isException (handleIPPacketOn net apps card packet)

def stepOn : Input σ → StackM σ Unit
  | .app method => runAppOn net card method
  | .receivePacket packet => receivePacketOn net apps card packet

/-! ## A card that takes every frame -/

theorem transmitOn_takesAll (sender : Sender) (data : Option Bytes) (mac : Bytes)
    (frameType : Short) : (transmitOn net takesAll sender data mac frameType : StackM σ Unit) =
      transmit net sender data mac frameType := by
  cases data <;> rfl

theorem prepareRouterMacOn_takesAll :
    (prepareRouterMacOn net takesAll : StackM σ Unit) = prepareRouterMac net := by
  simp only [prepareRouterMacOn, transmitOn_takesAll]
  rfl

theorem sendDataOn_takesAll (data ip : Option Bytes) :
    (sendDataOn net takesAll data ip : StackM σ Unit) = sendData net data ip := by
  simp only [sendDataOn, transmitOn_takesAll, prepareRouterMacOn_takesAll]
  rfl

theorem sendWaitingDataOn_takesAll :
    (sendWaitingDataOn net takesAll : StackM σ Unit) = sendWaitingData net := by
  simp only [sendWaitingDataOn, transmitOn_takesAll]
  rfl

theorem performOn_takesAll (call : Call) :
    (performOn net takesAll call : StackM σ Unit) = perform net call := by
  cases call with
  | sendData data ip => rw [performOn, sendDataOn_takesAll, perform]
  | broadCast data => exact transmitOn_takesAll ..
  | registToReceiveICMPPacket receiver => rfl
  | print report => rfl

theorem performAll_takesAll (calls : List Call) :
    (performAll net takesAll calls : StackM σ Unit) = calls.forM (perform net) := by
  fun_induction performAll (σ := σ) net takesAll calls with
  | case1 => rfl
  | case2 data ip receiver calls ih =>
    -- the probe is sent, so the tracer registers
    rw [sendDataOn_takesAll, ih]
    funext s
    obtain ⟨s', log, hsend, -⟩ := sendData_run net data ip s
    obtain ⟨s'', hregister⟩ : ∃ s'', (registToReceiveICMPPacket receiver : StackM σ Unit) s' =
      ⟨.ok (), s'', []⟩ := ⟨_, rfl⟩
    have hfirst : perform net (.sendData data ip) s = ⟨.ok (), s', .handed data ip :: log⟩ :=
      Prog.catching_run_ok hsend
    have hsecond : perform net (.registToReceiveICMPPacket receiver) s' = ⟨.ok (), s'', []⟩ :=
      hregister
    rw [Prog.bind_run_ok (Prog.catching_run_ok (Prog.bind_run_ok hsend hregister)) rfl,
      List.append_nil]
    exact (Prog.bind_run_ok hfirst (Prog.bind_run_ok hsecond rfl)).symm
  | case3 call calls hpair ih =>
    rw [ih, performOn_takesAll]
    rfl

theorem runAppOn_takesAll (m : AppM σ Unit) : runAppOn net takesAll m = runApp net m := by
  funext s
  rw [runAppOn, performAll_takesAll]
  rfl

theorem deliverOn_takesAll (app : Nat) (info : Info) :
    deliverOn net apps takesAll app info = deliver net apps app info := by
  rw [deliverOn, runAppOn_takesAll, deliver]

theorem handleIPPacketOn_takesAll (packet : Packet) :
    handleIPPacketOn net apps takesAll packet = handleIPPacket net apps packet := by
  simp only [handleIPPacketOn, handleUDPPacketOn, handleICMPPacketOn, deliverOn_takesAll]
  rfl

theorem receivePacketOn_takesAll (packet : Option Packet) :
    receivePacketOn net apps takesAll packet = receivePacket net apps packet := by
  cases packet with
  | none => rfl
  | some packet =>
    simp only [receivePacketOn, handleARPPacketOn, sendWaitingDataOn_takesAll,
      handleIPPacketOn_takesAll]
    rfl

/-- A step is then the one of the manager. -/
theorem stepOn_takesAll (i : Input σ) : stepOn net apps takesAll i = step net apps i := by
  cases i with
  | app method => exact runAppOn_takesAll net method
  | receivePacket packet => exact receivePacketOn_takesAll net apps packet

theorem getInstanceOn_takesAll (objects : σ) :
    getInstanceOn net takesAll objects = getInstance net objects := by
  rw [getInstanceOn, prepareRouterMacOn_takesAll, getInstance]

/-! ## What a run leaves -/

section

variable {T : Prog.Trace (ProtocolManager σ) Event}
  (hkeep : ∀ (s : ProtocolManager σ) (o : List Event) (s' : ProtocolManager σ), s'.apps = s.apps →
    s'.icmpPacketReceiverList = s.icmpPacketReceiverList → T.rel s o s')

include hkeep

end

end ProtocolManager

end TcpIpStack
