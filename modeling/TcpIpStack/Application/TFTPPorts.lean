import TcpIpStack.Application.ApplicationManager
import TcpIpStack.Application.TFTPRequest
import TcpIpStack.Application.TFTPSession

/-!
# The port TFTP clients send to

One static field holds the port of the server for all clients. A block is
acknowledged to the port it has just stored there; a request goes to whatever the
last datagram or constructor left.
-/

namespace TcpIpStack

open TcpIpStack.Java TcpIpStack.Lib
open UDPProtocolLayer (Received)

namespace TFTPClient

/-- The call sends a datagram to the port. -/
def SendsTo (port : JChar) (call : Call) : Prop :=
  ∃ (packet : Bytes) (ip : Option Bytes) (dst : Bytes) (srcPort : JChar) (payload : Bytes),
    call = .sendData (some packet) ip ∧
      Application.IsDatagram packet fake_ip dst srcPort port payload

/-- A packet is a datagram to one port. -/
theorem SendsTo.port_eq {port port' : JChar} {call : Call} (h : SendsTo port call)
    (h' : SendsTo port' call) : port = port' := by
  obtain ⟨packet, ip, dst, srcPort, payload, rfl, hdatagram⟩ := h
  obtain ⟨packet', ip', dst', srcPort', payload', hcall, hdatagram'⟩ := h'
  cases hcall
  exact hdatagram.dstPort_eq.symm.trans hdatagram'.dstPort_eq

/-- The runs that keep the static field and send to that port. -/
def sending : Prog.Trace Scope Call :=
  .emits Scope.statics fun statics call => SendsTo statics.server_port call

/-- A request for the file can go out: the server has an address, and the name
and the headers fit. -/
def CanAsk (getBytes : JString → Bytes) (filename : JString) (this : TFTPClient) : Prop :=
  (∃ ip, this.server_ip = some ip ∧ 4 ≤ ip.length) ∧
    Fits getBytes filename ∧ filename.length + 20 < 2 ^ 15

section

variable (dev : DataLinkLayer)

theorem sendMessage_sending (message : Bytes) : Prog.Obeys sending (sendMessage dev message) := by
  intro s
  rcases sendMessage_cases dev message s with ⟨e, hrun⟩ | ⟨packet, dst, hrun, hdatagram⟩
  · rw [hrun]
    exact ⟨rfl, nofun⟩
  · rw [hrun]
    refine ⟨rfl, fun call hcall => ?_⟩
    obtain rfl := List.mem_singleton.mp hcall
    exact ⟨packet, _, dst, _, message, rfl, hdatagram⟩

/-- What a datagram makes a client send goes back to its port. -/
theorem handleData_sends (d : Received) (s : Scope) :
    ∀ call ∈ (handleData dev d.info s).out, SendsTo d.src_port call :=
  (handleData_obeys dev (T := sending) (fun _ _ => ⟨rfl, nofun⟩) (fun _ _ => ⟨rfl, nofun⟩)
    (sendMessage_sending dev) d s).2

variable (getBytes : JString → Bytes)

/-- A request goes out to the port of the static field, if it can go out at all. -/
theorem sendReadPacket_sends (s : Scope) :
    (∀ call ∈ (sendReadPacket dev getBytes s).out, SendsTo s.statics.server_port call) ∧
      ((sendReadPacket dev getBytes s).out ≠ [] ↔ CanAsk getBytes s.this.filename s.this) := by
  rcases sendReadPacket_cases dev getBytes s with ⟨hfits, e, hrun⟩ | ⟨hfits, message, hmessage, hrun⟩
  · rw [hrun]
    exact ⟨nofun, iff_of_false (fun h => h rfl) fun h => hfits h.2.1⟩
  rw [hrun]
  have hlen : message.length = s.this.filename.length + 12 := by
    rw [hmessage, List.length_append, List.length_replicate, readRequest_length]
    unfold Fits at hfits
    have hmode : mode.length = 8 := rfl
    omega
  refine ⟨(sendMessage_sending dev message s).2, fun hsent => ?_, fun hcan => ?_⟩
  · obtain ⟨hip, hroom⟩ := sendMessage_canSend dev hsent
    exact ⟨hip, hfits, by omega⟩
  · obtain ⟨⟨ip, hip, hfour⟩, -, hroom⟩ := hcan
    obtain ⟨packet, hsends, -⟩ := sendMessage_sends dev (show message.length + 8 < 2 ^ 15 by omega)
      hip hfour
    rw [hsends]
    exact List.cons_ne_nil _ _

/-- The same for the call, whose client is asked for the name. -/
theorem getFile_sends (created : Bool) (filename : JString) (s : Scope) :
    (∀ call ∈ (getFile dev getBytes created filename s).out, SendsTo s.statics.server_port call) ∧
      ((getFile dev getBytes created filename s).out ≠ [] ↔ CanAsk getBytes filename s.this) := by
  unfold getFile
  rw [Prog.modify_bind_run]
  cases created with
  | true => exact sendReadPacket_sends dev getBytes _
  | false => exact sendReadPacket_sends dev getBytes _

end

end TFTPClient

namespace ApplicationManager

open TFTPClient (SendsTo CanAsk)

/-- What is done to the clients. -/
inductive ClientStep where
  | construct (c : Construction)
  | getFile (client : Nat) (created : Bool) (filename : JString)
  | receive (client : Nat) (d : Received)

/-- A method of the `i`th object, if it is a TFTP client. -/
def onClient (i : Nat) (method : AppM TFTPClient.Scope Unit) : AppM ApplicationManager Unit := do
  match (← Prog.read).app_list[i]? with
  | some (.tftp this) => onTFTP i this method
  | _ => return ()

section

variable (dev : DataLinkLayer) (getBytes : JString → Bytes)

def clientStep : ClientStep → AppM ApplicationManager Unit
  | .construct c => Prog.modify fun m => construct dev m c
  | .getFile i created filename => onClient i (TFTPClient.getFile dev getBytes created filename)
  | .receive i d => onClient i (TFTPClient.handleData dev d.info)

/-- The manager after steps. -/
def afterSteps (steps : List ClientStep) (m : ApplicationManager) : ApplicationManager :=
  (Prog.runs (clientStep dev getBytes) steps m).1

/-- A request goes to port 69, an acknowledgement to where its block came from. -/
def PortRight (step : ClientStep) (m : ApplicationManager) : Prop :=
  ∀ call ∈ (clientStep dev getBytes step m).out,
    match step with
    | .construct _ => True
    | .getFile _ _ _ => SendsTo TFTPClient.TFTP_SERVER_PORT call
    | .receive _ d => SendsTo d.src_port call

theorem onClient_out (i : Nat) (method : AppM TFTPClient.Scope Unit) (m : ApplicationManager) :
    (onClient i method m).out = match m.app_list[i]? with
      | some (.tftp this) => (method ⟨m.tftpStatics, this⟩).out
      | _ => [] := by
  unfold onClient
  rw [Prog.read_bind_run]
  cases m.app_list[i]? with
  | none => rfl
  | some app => cases app <;> rfl

theorem receive_portRight (i : Nat) (d : Received) (m : ApplicationManager) :
    PortRight dev getBytes (.receive i d) m := by
  intro call hcall
  rw [clientStep, onClient_out] at hcall
  split at hcall
  · exact TFTPClient.handleData_sends dev d _ call hcall
  · cases hcall

/-- A client asks port 69 if and only if that is the port in the static field, or
it cannot ask at all. -/
theorem getFile_portRight_iff (i : Nat) (created : Bool) (filename : JString)
    (m : ApplicationManager) : PortRight dev getBytes (.getFile i created filename) m ↔
      ∀ this, m.app_list[i]? = some (.tftp this) → CanAsk getBytes filename this →
        m.tftpStatics.server_port = TFTPClient.TFTP_SERVER_PORT := by
  unfold PortRight
  rw [clientStep, onClient_out]
  cases happ : m.app_list[i]? with
  | none => exact iff_of_true nofun nofun
  | some app =>
  cases app with
  | tftp this =>
    obtain ⟨hsends, hcan⟩ := TFTPClient.getFile_sends dev getBytes created filename
      ⟨m.tftpStatics, this⟩
    constructor
    · rintro hright _ ⟨⟩ hask
      obtain ⟨call, hcall⟩ := List.exists_mem_of_ne_nil _ (hcan.mpr hask)
      exact (hsends call hcall).port_eq (hright call hcall)
    · intro hport call hcall
      have hask := hcan.mp (List.ne_nil_of_mem hcall)
      have hserver := hport this rfl hask
      rw [← hserver]
      exact hsends call hcall
  | _ => exact iff_of_true nofun nofun

/-- Over any run, with any number of clients, every datagram goes to the right
port if and only if whenever a client that can asks for a file the static field
holds port 69. -/
theorem ports_right_iff (clock : Clock) (steps : List ClientStep) :
    (∀ before step after, steps = before ++ step :: after →
      PortRight dev getBytes step (afterSteps dev getBytes before (initial clock))) ↔
    ∀ before i created filename after, steps = before ++ .getFile i created filename :: after →
      ∀ this, (afterSteps dev getBytes before (initial clock)).app_list[i]? = some (.tftp this) →
        CanAsk getBytes filename this →
        (afterSteps dev getBytes before (initial clock)).tftpStatics.server_port =
          TFTPClient.TFTP_SERVER_PORT := by
  constructor
  · intro h before i created filename after hsplit
    exact (getFile_portRight_iff dev getBytes i created filename _).mp (h before _ after hsplit)
  · intro h before step after hsplit
    cases step with
    | construct c => exact nofun
    | getFile i created filename =>
      exact (getFile_portRight_iff dev getBytes i created filename _).mpr
        (h before i created filename after hsplit)
    | receive i d => exact receive_portRight dev getBytes i d _

end

/-- A client, its request and a short block from port 40000. -/
def sampleSteps : List ClientStep :=
  [.construct (.tftp (some [192, 168, 1, 1])), .getFile 0 true [102], .receive 0 TFTPClient.sampleBlock]

/-- The second file is asked for at the port the first came from. -/
theorem second_request_port : ¬ ∀ (dev : DataLinkLayer) (getBytes : JString → Bytes) (clock : Clock)
    (steps : List ClientStep) (before : List ClientStep) (step : ClientStep) (after : List ClientStep),
    steps = before ++ step :: after →
      PortRight dev getBytes step (afterSteps dev getBytes before (initial clock)) := by
  intro h
  have hright := h sampleDevice (fun _ => [102]) ⟨0, 0, 0, 0⟩ (sampleSteps ++ [.getFile 0 true [102]])
    sampleSteps (.getFile 0 true [102]) [] rfl
  have happ : (afterSteps sampleDevice (fun _ => [102]) sampleSteps (initial ⟨0, 0, 0, 0⟩)).app_list[0]? =
      some (.tftp ⟨(60706 : Short).signExtend 32, some [192, 168, 1, 1], 1, [102],
        some ⟨false, [7, 8]⟩⟩) := by
    decide +kernel
  have hport := (getFile_portRight_iff sampleDevice (fun _ => [102]) 0 true [102] _).mp hright _ happ
    ⟨⟨_, rfl, by decide⟩, show _ ≤ _ by decide, by decide⟩
  exact absurd hport (by decide +kernel)

end ApplicationManager

end TcpIpStack
