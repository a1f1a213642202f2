import TcpIpStack.Application.ApplicationManager
import TcpIpStack.Protocol.AppCalls

/-!
# The requests of the UDP applications

Whatever a UDP application is made to do, its port stays what it is, and every
packet it lets out is a datagram from that port: from the device for DNS, from a
fixed address for TFTP, from nobody for DHCP.
-/

namespace TcpIpStack

open TcpIpStack.Java TcpIpStack.Lib
open ProtocolManager (packets)

namespace Application

/-- A reply to the packet goes to `src`, port `srcPort`. -/
def Asks (packet src : Bytes) (srcPort : JChar) : Prop :=
  ∃ (dst : Bytes) (dstPort : JChar) (payload : Bytes), IsDatagram packet src dst srcPort dstPort payload

/-- The header goes before a datagram from `src`. -/
def IsHeader (header src : Bytes) : Prop :=
  ∃ h : IPProtocolLayer.Header, header = h.bytes ∧ h.bytes.length = 20 ∧ h.protocol = 17 ∧
    h.source_ip = src

theorem createHeader_isHeader {dev : DataLinkLayer} {headerInfo : Info} {len src dst : JInt}
    {header : Bytes} (hplain : IPProtocolLayer.Plain dev headerInfo src dst UDPProtocolLayer.PROTOCOL_UDP)
    (hlen : headerInfo .data_length = some (.int len))
    (h : IPProtocolLayer.createHeader dev headerInfo = .ok (some header)) :
    IsHeader header (intBytes src) := by
  obtain ⟨hdr, hcreate, h20, -, hproto, hsrc, -⟩ := IPProtocolLayer.createHeader_ok hplain hlen
  rw [hcreate] at h
  cases h
  exact ⟨hdr, rfl, h20, hproto, hsrc⟩

/-- The two headers together are a datagram from the source. -/
theorem packet_datagram {udpInfo : Info} {srcPort dstPort : JChar} {payload : Bytes}
    (hf : UDPProtocolLayer.Filled udpInfo srcPort dstPort payload) {udpHeader : Option Bytes}
    (hudp : UDPProtocolLayer.createHeader udpInfo = .ok udpHeader)
    {createIPHeader : JInt → Except Throwable (Option Bytes)} {src : Bytes}
    (hip : ∀ len header, createIPHeader len = .ok (some header) → IsHeader header src) {p : Bytes}
    (hp : packet udpHeader createIPHeader = .ok p) :
    ∃ dst, IsDatagram p src dst srcPort dstPort payload := by
  obtain ⟨rfl, -⟩ := UDPProtocolLayer.createHeader_eq_ok hf hudp
  obtain ⟨udpHeader, hnull, hp⟩ := bind_eq_ok_iff.mp hp
  cases hnull
  obtain ⟨ipHeader, hcreate, hp⟩ := bind_eq_ok_iff.mp hp
  cases ipHeader with
  | none => cases hp
  | some ipHeader =>
    cases hp
    obtain ⟨h, rfl, h20, hproto, hsrc⟩ := hip _ _ hcreate
    exact ⟨h.destination_ip, h, rfl, h20, hproto, hsrc, rfl⟩

/-- They ask for a reply there. -/
theorem packet_asks {udpInfo : Info} {srcPort dstPort : JChar} {payload : Bytes}
    (hf : UDPProtocolLayer.Filled udpInfo srcPort dstPort payload) {udpHeader : Option Bytes}
    (hudp : UDPProtocolLayer.createHeader udpInfo = .ok udpHeader)
    {createIPHeader : JInt → Except Throwable (Option Bytes)} {src : Bytes}
    (hip : ∀ len header, createIPHeader len = .ok (some header) → IsHeader header src) {p : Bytes}
    (hp : packet udpHeader createIPHeader = .ok p) : Asks p src srcPort := by
  obtain ⟨dst, hdatagram⟩ := packet_datagram hf hudp hip hp
  exact ⟨dst, dstPort, payload, hdatagram⟩

/-- The runs that keep the port and let out only what asks for replies there. -/
def asking {σ : Type} (port : σ → JInt) (src : Bytes) : Prog.Trace σ Call :=
  .emits port fun port call => ∀ p ∈ packets [call], Asks p src (port.setWidth 16)

theorem allow_one {p src : Bytes} {srcPort : JChar} {call : Call} (h : Asks p src srcPort)
    (hcall : packets [call] = [p] := by rfl) :
    ∀ e ∈ [call], ∀ p ∈ packets [e], Asks p src srcPort := by
  intro e he q hq
  obtain rfl := List.mem_singleton.mp he
  rw [hcall] at hq
  obtain rfl := List.mem_singleton.mp hq
  exact h

end Application

namespace DNSApplication

variable (dev : DataLinkLayer)

theorem createIP4Header_isHeader {this : DNSApplication} {len : JInt} {header : Bytes}
    (h : createIP4Header dev this len = .ok (some header)) :
    Application.IsHeader header dev.deviceIPAddress := by
  unfold createIP4Header at h
  split at h
  · cases h
  obtain ⟨ip, -, h⟩ := bind_eq_ok_iff.mp h
  obtain ⟨⟨destIP, _⟩, -, h⟩ := bind_eq_ok_iff.mp h
  rw [← intBytes_intOf dev.deviceIPAddress_length]
  exact Application.createHeader_isHeader
    ⟨rfl, rfl, rfl, rfl, rfl, ⟨0, rfl⟩, ⟨0, rfl⟩, ⟨_, rfl⟩, ⟨0, rfl⟩, ⟨0, rfl⟩, ⟨64, rfl⟩⟩ rfl h

/-- The port is kept and what is let out comes from the device. -/
abbrev asking : Prog.Trace DNSApplication Call :=
  Application.asking DNSApplication.port dev.deviceIPAddress

theorem queryDomain_asks : Prog.Obeys (asking dev) (queryDomain dev) := by
  intro this
  unfold queryDomain
  rw [Prog.read_bind_run]
  cases hudp : createUDPHeader this (this.dnsHeader ++ this.dnsQuestion) with
  | error e => exact ⟨rfl, nofun⟩
  | ok udpHeader =>
  rw [Prog.lift_ok_bind]
  cases hp : Application.packet udpHeader (createIP4Header dev this) with
  | error e => exact ⟨rfl, nofun⟩
  | ok p =>
  refine ⟨rfl, Application.allow_one (Application.packet_asks ⟨rfl, rfl, rfl⟩ hudp ?_ hp)⟩
  exact fun len header => createIP4Header_isHeader dev

/-! Reading a reply prints, nothing else. -/

section

variable {σ : Type} {T : Prog.Trace σ Call} (hprint : ∀ s report, T.rel s [.print report] s)

include hprint

theorem printChars_obeys (cs : List JChar) : Prog.Obeys T (printChars cs) := by
  intro s
  induction cs with
  | nil => exact T.refl s
  | cons c cs ih => exact T.trans (hprint s (.char c)) ih

theorem readChars_obeys (n : Nat) (buffer : ByteBuffer) : Prog.Obeys T (readChars n buffer) := by
  induction n generalizing buffer with
  | zero => exact .pure _
  | succ n ih =>
    exact .bind (.lift _) fun _ => .bind (printChars_obeys hprint _) fun _ => ih _

theorem labelLoop_obeys {follow : ByteBuffer → AppM σ ByteBuffer}
    (hfollow : ∀ buffer, Prog.Obeys T (follow buffer)) (n : Nat) (charCount : Byte)
    (buffer : ByteBuffer) : Prog.Obeys T (labelLoop follow n charCount buffer) := by
  induction n generalizing charCount buffer with
  | zero => exact .throw _
  | succ n ih =>
    unfold labelLoop
    split
    · exact .bind (.lift _) fun _ => .bind (.lift _) fun _ => .bind (hfollow _) fun _ => .pure _
    split
    · refine .bind (readChars_obeys hprint _ _) fun _ => .bind (.lift _) fun _ => ?_
      dsimp only
      split
      · exact .bind (printChars_obeys hprint _) fun _ => ih _ _
      · exact ih _ _
    · exact .pure _

theorem readStringContent_obeys (depth : Nat) (buffer : ByteBuffer) :
    Prog.Obeys T (readStringContent depth buffer) := by
  induction depth generalizing buffer with
  | zero => exact .throw _
  | succ depth ih =>
    exact .bind (.lift _) fun _ => labelLoop_obeys hprint (fun buffer => ih buffer) _ _ _

theorem readQuestions_obeys (depth n : Nat) (data : ByteBuffer) :
    Prog.Obeys T (readQuestions depth n data) := by
  induction n generalizing data with
  | zero => exact .pure _
  | succ n ih =>
    exact .bind (readStringContent_obeys hprint depth data) fun _ => .bind (.lift _) fun _ =>
      .bind (.lift _) fun _ => ih _

theorem readOwner_obeys (depth : Nat) (data : ByteBuffer) :
    Prog.Obeys T (readOwner depth data) := by
  refine .bind (.lift _) fun _ => ?_
  dsimp only
  split
  · exact .bind (.lift _) fun _ => .bind (.lift _) fun _ =>
      .bind (readStringContent_obeys hprint depth _) fun _ => .pure _
  · exact readStringContent_obeys hprint depth _

theorem readRecord_obeys (depth : Nat) (data : ByteBuffer) :
    Prog.Obeys T (readRecord depth data) := by
  refine .bind (.lift _) fun _ => .bind (.lift _) fun _ => .bind (.lift _) fun _ =>
    .bind (.lift _) fun _ => ?_
  dsimp only
  split
  · exact readStringContent_obeys hprint depth _
  split
  · exact .bind (.lift _) fun _ => .bind (.emit fun s => hprint s _) fun _ => .pure _
  · exact .pure _

theorem readAnswers_obeys (depth n : Nat) (data : ByteBuffer) :
    Prog.Obeys T (readAnswers depth n data) := by
  induction n generalizing data with
  | zero => exact .pure _
  | succ n ih =>
    exact .bind (readOwner_obeys hprint depth data) fun _ =>
      .bind (readRecord_obeys hprint depth _) fun _ => ih _

end

theorem handleData_obeys {T : Prog.Trace DNSApplication Call}
    (hprint : ∀ s report, T.rel s [.print report] s) (depth : Nat) (headerInfo : Info) :
    Prog.Obeys T (handleData depth headerInfo) := by
  refine .bind (.lift _) fun data => ?_
  split
  · exact .pure ()
  refine .bind (.lift _) fun _ => .bind .read fun _ => ?_
  split
  · exact .pure ()
  refine .bind ?_ fun _ => .pure ()
  exact .bind (.lift _) fun _ => .bind (.lift _) fun _ => .bind (.lift _) fun _ =>
    .bind (.lift _) fun _ => .bind (.lift _) fun _ =>
    .bind (readQuestions_obeys hprint depth _ _) fun _ => readAnswers_obeys hprint depth _ _

/-- A reply makes the client send nothing. -/
theorem handleData_asks (depth : Nat) (headerInfo : Info) :
    Prog.Obeys (asking dev) (handleData depth headerInfo) := by
  refine handleData_obeys (T := asking dev) (fun this report => ⟨rfl, fun call hcall => ?_⟩) depth headerInfo
  obtain rfl := List.mem_singleton.mp hcall
  exact nofun

end DNSApplication

namespace TFTPClient

variable (dev : DataLinkLayer)

theorem createIPHeader_isHeader {s : Scope} {len : JInt} {header : Bytes}
    (h : createIPHeader dev s len = .ok (some header)) : Application.IsHeader header fake_ip := by
  obtain ⟨server_ip, -, h⟩ := bind_eq_ok_iff.mp h
  obtain ⟨⟨dest_ip, _⟩, -, h⟩ := bind_eq_ok_iff.mp h
  have hfake := ByteBuffer.getInt_wrap (show fake_ip.length = 4 from rfl)
  simp only [hfake, ok_bind] at h
  rw [← intBytes_intOf (show fake_ip.length = 4 from rfl)]
  exact Application.createHeader_isHeader
    ⟨rfl, rfl, rfl, rfl, rfl, ⟨0, rfl⟩, ⟨0, rfl⟩, ⟨0, rfl⟩, ⟨0, rfl⟩, ⟨0, rfl⟩, ⟨64, rfl⟩⟩ rfl h

/-- The port and what is let out. -/
abbrev asking : Prog.Trace Scope Call := Application.asking (fun s => s.this.port) fake_ip

theorem sendMessage_asks (message : Bytes) : Prog.Obeys asking (sendMessage dev message) := by
  intro s
  unfold sendMessage
  rw [Prog.read_bind_run]
  cases hudp : createUDPHeader s message with
  | error e => exact ⟨rfl, nofun⟩
  | ok udp_header =>
  rw [Prog.lift_ok_bind]
  cases hp : Application.packet udp_header (createIPHeader dev s) with
  | error e => exact ⟨rfl, nofun⟩
  | ok p =>
  refine ⟨rfl, Application.allow_one (Application.packet_asks ⟨rfl, rfl, rfl⟩ hudp ?_ hp)⟩
  exact fun len header => createIPHeader_isHeader dev

theorem getFile_asks (getBytes : JString → Bytes) (created : Bool) (filename : JString) :
    Prog.Obeys asking (getFile dev getBytes created filename) := by
  have hsend : Prog.Obeys asking (sendReadPacket dev getBytes) :=
    .bind .read fun _ => .bind (.lift _) fun _ => sendMessage_asks dev _
  refine .bind (.modify fun _ => ⟨rfl, nofun⟩) fun _ => ?_
  split
  · exact .bind (.modify fun _ => ⟨rfl, nofun⟩) fun _ => hsend
  · exact hsend

/-- A block sets the number of the block and the stream, and is acknowledged. -/
theorem handleDataPacket_obeys {T : Prog.Trace Scope Call}
    (hblock : ∀ s data_block, T.rel s [] { s with this := { s.this with data_block } })
    (hstream : ∀ s stream, T.rel s [] { s with this := { s.this with download_file_stream := some stream } })
    (hsend : ∀ message, Prog.Obeys T (sendMessage dev message)) (buffer : ByteBuffer) :
    Prog.Obeys T (handleDataPacket dev buffer) := by
  have hset : ∀ data_block, Prog.Obeys T (setBlock data_block) := fun data_block =>
    .modify fun s => hblock s data_block
  have hack : Prog.Obeys T (sendACKPacket dev) :=
    .bind .read fun _ => .bind (.lift _) fun _ => hsend _
  have hclose : Prog.Obeys T close :=
    .bind .read fun _ => .bind (.lift _) fun stream => .modify fun s => hstream s stream.close
  have hwrite : ∀ file_content, Prog.Obeys T (write file_content) := by
    refine fun file_content => .bind .read fun _ => .bind (.lift _) fun _ => ?_
    split
    · exact .modify fun s => hstream s _
    · exact .pure ()
  refine .bind (.lift _) fun _ => .bind (hset _) fun _ => .bind (.lift _) fun _ =>
    .bind (hwrite _) fun _ => ?_
  unfold acknowledge
  split
  · exact .bind hack fun _ => .bind .read fun _ => hset _
  split
  · exact .bind hack fun _ => .bind hclose fun _ => hset _
  · exact .pure ()

theorem handleData_asks (headerInfo : Info) : Prog.Obeys asking (handleData dev headerInfo) := by
  refine .bind (.lift _) fun data => ?_
  split
  · exact .pure ()
  refine .bind (.lift _) fun _ => .bind (.modify fun _ => ⟨rfl, nofun⟩) fun _ => .bind (.lift _) fun _ => ?_
  dsimp only
  split
  · exact handleDataPacket_obeys dev (T := asking) (fun _ _ => ⟨rfl, nofun⟩)
      (fun _ _ => ⟨rfl, nofun⟩) (sendMessage_asks dev) _
  split
  · exact .bind (.lift _) fun _ => .bind (.lift _) fun _ => .pure ()
  · exact .pure ()

end TFTPClient

namespace DHCPApplication

variable (dev : DataLinkLayer)

theorem createIP4Header_isHeader {len : JInt} {header : Bytes}
    (h : createIP4Header dev len = .ok (some header)) :
    Application.IsHeader header [0, 0, 0, 0] := by
  have hsrc := ByteBuffer.getInt_wrap (a := [0, 0, 0, 0]) rfl
  have hdst := ByteBuffer.getInt_wrap (a := [255, 255, 255, 255]) rfl
  simp only [createIP4Header, hsrc, hdst, ok_bind] at h
  rw [← intBytes_intOf (show ([0, 0, 0, 0] : Bytes).length = 4 from rfl)]
  exact Application.createHeader_isHeader
    ⟨rfl, rfl, rfl, rfl, rfl, ⟨0, rfl⟩, ⟨0, rfl⟩, ⟨srcPort, rfl⟩, ⟨0, rfl⟩, ⟨0, rfl⟩, ⟨64, rfl⟩⟩ rfl h

/-- The port is kept and what is let out asks for replies at port 68. -/
abbrev asking : Prog.Trace Scope Call :=
  .emits (fun s => s.this.port) fun _ call =>
    ∀ p ∈ packets [call], Application.Asks p [0, 0, 0, 0] srcPort

/-- A broadcast of a packet made of the two headers. -/
theorem broadCast_asks {message : Bytes} {udpHeader : Option Bytes}
    (hudp : createUDPHeader message = .ok udpHeader) :
    Prog.Obeys asking (Prog.lift (Application.packet udpHeader (createIP4Header dev)) >>= fun p =>
      Prog.emit (.broadCast (some p))) := by
  refine .bind_lift fun p hp => .emit fun s => ⟨rfl, Application.allow_one ?_⟩
  exact Application.packet_asks ⟨rfl, rfl, rfl⟩ hudp (fun len header => createIP4Header_isHeader dev) hp

theorem dhcpDiscovery_asks : Prog.Obeys asking (dhcpDiscovery dev) := by
  refine .bind .read fun _ => .bind (.lift _) fun _ => .bind (.lift _) fun _ =>
    .bind_lift fun udpHeader hudp => ?_
  split
  · exact .pure ()
  · exact broadCast_asks dev hudp

theorem dhcpRequest_asks : Prog.Obeys asking (dhcpRequest dev) := by
  refine .bind .read fun _ => ?_
  split
  · exact .pure ()
  refine .bind (.lift _) fun _ => .bind (.modify fun _ => ⟨rfl, nofun⟩) fun _ =>
    .bind .read fun _ => .bind (.lift _) fun _ => .bind_lift fun udpHeader hudp => ?_
  exact broadCast_asks dev hudp

theorem readFirstPart_asks (data : Bytes) : Prog.Obeys asking (readFirstPart data) := by
  refine .bind (.lift _) fun _ => ?_
  split
  · exact .pure _
  exact .bind (.lift _) fun _ => .bind (.lift _) fun _ => .bind (.modify fun _ => ⟨rfl, nofun⟩)
    fun _ => .bind (.lift _) fun _ => .bind (.lift _) fun _ => .pure _

/-- An option changes no field but the state. -/
theorem readOption_obeys {T : Prog.Trace Scope Call}
    (hstate : ∀ s dhcp_current_state, T.rel s [] { s with statics := { s.statics with dhcp_current_state } })
    (type : Byte) (buffer : ByteBuffer) : Prog.Obeys T (readOption type buffer) := by
  unfold readOption
  split
  · refine .bind (.lift _) fun _ => .bind (.lift _) fun _ => ?_
    dsimp only
    split
    · exact .bind (.modify fun s => hstate s _) fun _ => .pure _
    split
    · exact .bind (.modify fun s => hstate s _) fun _ => .pure _
    · exact .pure _
  split
  · exact .lift _
  split
  · exact .lift _
  split
  · exact .lift _
  · exact .pure _

theorem optionLoop_obeys {T : Prog.Trace Scope Call}
    (hstate : ∀ s dhcp_current_state, T.rel s [] { s with statics := { s.statics with dhcp_current_state } })
    (n : Nat) (buffer : ByteBuffer) : Prog.Obeys T (optionLoop n buffer) := by
  induction n generalizing buffer with
  | zero => exact .throw _
  | succ n ih =>
    refine .bind (.lift _) fun _ => ?_
    dsimp only
    split
    · exact .pure ()
    · exact .bind (readOption_obeys hstate _ _) fun buffer => ih buffer

theorem handleData_asks (headerInfo : Info) : Prog.Obeys asking (handleData dev headerInfo) := by
  refine .bind (.lift _) fun _ => .bind (.lift _) fun data => .bind (readFirstPart_asks data) fun _ => ?_
  split
  · refine .bind (.lift _) fun _ =>
      .bind (optionLoop_obeys (T := asking) (fun _ _ => ⟨rfl, nofun⟩) _ _) fun _ => .bind .read fun s => ?_
    split
    · refine .bind .read fun s => ?_
      split
      · exact dhcpRequest_asks dev
      · exact .pure ()
    · exact .pure ()
  · exact .pure ()

end DHCPApplication

end TcpIpStack
