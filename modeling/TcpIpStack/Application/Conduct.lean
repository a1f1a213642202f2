import TcpIpStack.Application.Requests
import TcpIpStack.Protocol.Catchable

/-!
# What the methods emit and throw

Only the route tracer registers for ICMP messages, and only itself. What the
handlers throw is an exception, but for the reader of DNS names, whose calls nest.
-/

namespace TcpIpStack

open TcpIpStack.Java TcpIpStack.Lib

/-- The call registers no receiver. -/
def Call.Plain (call : Call) : Prop := ∀ receiver, call ≠ .registToReceiveICMPPacket receiver

/-- The method registers nobody and throws only what `Q` allows. -/
abbrev Plain {σ α : Type} (Q : Throwable → Prop) (method : AppM σ α) : Prop :=
  Prog.Within Call.Plain Q method

/-- What is caught. -/
abbrev Caught (e : Throwable) : Prop := e.isException

/-! ## The UDP applications -/

namespace DHCPApplication

variable (dev : DataLinkLayer)

theorem createUDPHeader_catchable (data : Bytes) : Catchable (createUDPHeader data) :=
  UDPProtocolLayer.createHeader_catchable _

theorem createIP4Header_catchable (len : JInt) : Catchable (createIP4Header dev len) :=
  .bind (ByteBuffer.getInt_catchable _) fun _ => .bind (ByteBuffer.getInt_catchable _) fun _ =>
    IPProtocolLayer.createHeader_catchable dev _

theorem constructDHCPRequestOptions_catchable (ip : Bytes) :
    Catchable (constructDHCPRequestOptions dev ip) := by
  have hfill := fun n parts => ByteBuffer.fill_catchable n parts
  exact .bind (hfill _ _) fun _ => .bind (hfill _ _) fun _ => .bind (hfill _ _) fun _ =>
    .bind (hfill _ _) fun _ => .bind (hfill _ _) fun _ => .bind (hfill _ _) fun _ =>
    .bind (hfill _ _) fun _ => .bind (hfill _ _) fun _ => .ok

/-- Both messages end in a broadcast. -/
theorem broadCast_plain (udpHeader : Option Bytes) :
    Plain Caught (Prog.lift (Application.packet udpHeader (createIP4Header dev)) >>= fun packet =>
      Prog.emit (.broadCast (some packet)) : AppM Scope Unit) :=
  .bind (.lift (Application.packet_catchable _ (createIP4Header_catchable dev))) fun _ => .emit nofun

theorem dhcpDiscovery_plain : Plain Caught (dhcpDiscovery dev) := by
  refine .bind .read fun s => .bind (.lift (Application.notNull_catchable _)) fun _ =>
    .bind (.lift (Application.notNull_catchable _)) fun _ =>
    .bind (.lift (createUDPHeader_catchable _)) fun _ => ?_
  split
  · exact .pure ()
  · exact broadCast_plain dev _

theorem dhcpRequest_plain : Plain Caught (dhcpRequest dev) := by
  refine .bind .read fun s => ?_
  split
  · exact .pure ()
  · exact .bind (.lift (constructDHCPRequestOptions_catchable dev _)) fun _ =>
      .bind (.modify _) fun _ => .bind .read fun _ =>
      .bind (.lift (Application.notNull_catchable _)) fun _ =>
      .bind (.lift (createUDPHeader_catchable _)) fun _ => broadCast_plain dev _

theorem readFirstPart_plain (data : Bytes) : Plain Caught (readFirstPart data) := by
  refine .bind (.lift (ByteBuffer.getAt_catchable ..)) fun _ => ?_
  split
  · exact .pure _
  · exact .bind (.lift (ByteBuffer.setPosition_catchable ..)) fun _ =>
      .bind (.lift (ByteBuffer.take_catchable ..)) fun _ => .bind (.modify _) fun _ =>
      .bind (.lift (ByteBuffer.setPosition_catchable ..)) fun _ =>
      .bind (.lift (ByteBuffer.take_catchable ..)) fun _ => .pure _

theorem printOptionArray_catchable (buffer : ByteBuffer) : Catchable (printOptionArray buffer) := by
  have hget : ∀ n buffer, Catchable (getEach n buffer) := by
    intro n
    induction n with
    | zero => exact fun _ => .ok
    | succ n ih => exact fun buffer => .bind buffer.get_catchable fun _ => ih _
  exact .bind buffer.get_catchable fun _ => hget _ _

theorem readOption_plain (type : Byte) (buffer : ByteBuffer) : Plain Caught (readOption type buffer) := by
  unfold readOption
  split
  · refine .bind (.lift (ByteBuffer.get_catchable _)) fun _ =>
      .bind (.lift (ByteBuffer.get_catchable _)) fun _ => ?_
    dsimp only
    split
    · exact .bind (.modify _) fun _ => .pure _
    split
    · exact .bind (.modify _) fun _ => .pure _
    · exact .pure _
  split
  · exact .lift (printOptionArray_catchable buffer)
  split
  · exact .lift (.bind buffer.get_catchable fun _ => .bind (ByteBuffer.getInt_catchable _) fun _ => .ok)
  split
  · exact .lift (printOptionArray_catchable buffer)
  · exact .pure _

theorem optionLoop_plain (n : Nat) (buffer : ByteBuffer) : Plain Caught (optionLoop n buffer) := by
  induction n generalizing buffer with
  | zero => exact .throw rfl
  | succ n ih =>
    refine .bind (.lift buffer.get_catchable) fun _ => ?_
    dsimp only
    split
    · exact .pure ()
    · exact .bind (readOption_plain _ _) fun buffer => ih buffer

theorem readOptions_plain (data : Bytes) : Plain Caught (readOptions dev data) := by
  refine .bind (.lift (ByteBuffer.setPosition_catchable ..)) fun _ =>
    .bind (optionLoop_plain _ _) fun _ => .bind .read fun _ => ?_
  split
  · refine .bind .read fun _ => ?_
    split
    · exact dhcpRequest_plain dev
    · exact .pure ()
  · exact .pure ()

theorem handleData_plain (headerInfo : Info) : Plain Caught (handleData dev headerInfo) := by
  refine .bind (.lift (Info.getBytes_catchable ..)) fun _ =>
    .bind (.lift (Application.notNull_catchable _)) fun data =>
    .bind (readFirstPart_plain data) fun _ => ?_
  split
  · exact readOptions_plain dev data
  · exact .pure ()

end DHCPApplication

namespace TFTPClient

variable (dev : DataLinkLayer)

theorem createIPHeader_catchable (s : Scope) (len : JInt) : Catchable (createIPHeader dev s len) :=
  .bind (Application.notNull_catchable _) fun _ => .bind (ByteBuffer.getInt_catchable _) fun _ =>
    .bind (ByteBuffer.getInt_catchable _) fun _ => IPProtocolLayer.createHeader_catchable dev _

theorem sendMessage_plain (message : Bytes) : Plain Caught (sendMessage dev message) :=
  .bind .read fun s => .bind (.lift (UDPProtocolLayer.createHeader_catchable _)) fun _ =>
    .bind (.lift (Application.packet_catchable _ (createIPHeader_catchable dev s))) fun _ => .emit nofun

theorem sendReadPacket_plain (getBytes : JString → Bytes) :
    Plain Caught (sendReadPacket dev getBytes) :=
  .bind .read fun _ => .bind (.lift (ByteBuffer.fill_catchable ..)) fun _ => sendMessage_plain dev _

theorem getFile_plain (getBytes : JString → Bytes) (created : Bool) (filename : JString) :
    Plain Caught (getFile dev getBytes created filename) := by
  refine .bind (.modify _) fun _ => ?_
  split
  · exact .bind (.modify _) fun _ => sendReadPacket_plain dev getBytes
  · exact sendReadPacket_plain dev getBytes

theorem write_plain (file_content : Bytes) : Plain Caught (write file_content) := by
  refine .bind .read fun _ => .bind (.lift (Application.notNull_catchable _)) fun _ => ?_
  split
  · exact .modify _
  · exact .pure ()

theorem acknowledge_plain (left_len : Nat) : Plain Caught (acknowledge dev left_len) := by
  have hack : Plain Caught (sendACKPacket dev) :=
    .bind .read fun _ => .bind (.lift (ByteBuffer.fill_catchable ..)) fun _ => sendMessage_plain dev _
  have hclose : Plain Caught close :=
    .bind .read fun _ => .bind (.lift (Application.notNull_catchable _)) fun _ => .modify _
  unfold acknowledge
  split
  · exact .bind hack fun _ => .bind .read fun _ => .modify _
  split
  · exact .bind hack fun _ => .bind hclose fun _ => .modify _
  · exact .pure ()

theorem handleData_plain (headerInfo : Info) : Plain Caught (handleData dev headerInfo) := by
  refine .bind (.lift (Info.getBytes_catchable ..)) fun data => ?_
  split
  · exact .pure ()
  refine .bind (.lift (Info.unbox_catchable Obj.asShort_catchable ..)) fun _ => .bind (.modify _) fun _ =>
    .bind (.lift (ByteBuffer.getShort_catchable _)) fun _ => ?_
  dsimp only
  split
  · exact .bind (.lift (ByteBuffer.getShort_catchable _)) fun _ => .bind (.modify _) fun _ =>
      .bind (.lift (ByteBuffer.take_catchable ..)) fun _ => .bind (write_plain _) fun _ =>
      acknowledge_plain dev _
  split
  · exact .bind (.lift (ByteBuffer.getShort_catchable _)) fun _ =>
      .bind (.lift (ByteBuffer.take_catchable ..)) fun _ => .pure ()
  · exact .pure ()

end TFTPClient

namespace DNSApplication

theorem queryDomain_plain (dev : DataLinkLayer) : Plain (fun _ => True) (queryDomain dev) :=
  .bind .read fun _ => .bind (.lift .any) fun _ => .bind (.lift .any) fun _ => .emit nofun

theorem handleData_plain (depth : Nat) (headerInfo : Info) :
    Plain (fun _ => True) (handleData depth headerInfo) := by
  refine fun this => ⟨?_, .any⟩
  refine (handleData_obeys (T := .emits id fun _ => Call.Plain) (fun this report => ⟨rfl, ?_⟩) depth
    headerInfo this).2
  intro call hcall
  obtain rfl := List.mem_singleton.mp hcall
  exact nofun

end DNSApplication

/-! ## The ICMP applications -/

namespace PingApp

/-- Each round builds a message and sends it, or fails on the way. -/
theorem startPing_obeys {σ : Type} {T : Prog.Trace σ Call} {dev : DataLinkLayer} {ping : σ → PingApp}
    {createICMPHeader : Clock → AppM σ (Option Bytes)}
    (h : ∀ clock, Prog.Obeys T (createICMPHeader clock))
    (hsend : ∀ s data ip, T.rel s [.sendData data ip] s) (clock : Nat → Clock) :
    Prog.Obeys T (startPing dev ping createICMPHeader clock) := by
  have hloop : ∀ clocks, Prog.Obeys T (pingLoop dev ping createICMPHeader clocks) := by
    intro clocks
    induction clocks with
    | nil => exact .pure ()
    | cons clock clocks ih =>
      refine .bind (.catching _ ?_) fun _ => ih
      refine .bind (.bind (h clock) fun header => ?_) fun _ => .bind .read fun _ =>
        .emit fun s => hsend s _ _
      split
      · exact .throw _
      · exact .bind .read fun _ => .lift _
  exact .bind .read fun _ => hloop _

theorem startPing_plain {σ : Type} {dev : DataLinkLayer} {ping : σ → PingApp}
    {createICMPHeader : Clock → AppM σ (Option Bytes)}
    (h : ∀ clock s, (createICMPHeader clock s).out = []) (clock : Nat → Clock) :
    Plain (fun _ => True) (startPing dev ping createICMPHeader clock) := by
  refine fun s => ⟨?_, .any⟩
  refine (startPing_obeys (T := .emits (fun _ => ()) fun _ => Call.Plain) (fun clock s => ⟨rfl, ?_⟩)
    (fun s data ip => ⟨rfl, ?_⟩) clock s).2
  · rw [h]
    exact nofun
  · intro call hcall
    obtain rfl := List.mem_singleton.mp hcall
    exact nofun

theorem handleData_plain (clock : Clock) (data : Info) : Plain Caught (handleData clock data) :=
  .bind (.lift (Info.unbox_catchable Obj.asShort_catchable ..)) fun _ =>
    .bind (.lift (Info.getBytes_catchable ..)) fun _ =>
    .bind (.lift (Application.notNull_catchable _)) fun _ =>
    .bind (.lift (ByteBuffer.getLong_catchable _)) fun _ => .emit nofun

end PingApp

namespace HPingApp

theorem handleData_plain (data : Info) : Plain Caught (handleData data) :=
  .bind (.lift (Info.unbox_catchable Obj.asShort_catchable ..)) fun _ =>
    .bind (.lift (Info.unbox_catchable Obj.asInt_catchable ..)) fun _ => .bind .read fun _ =>
    .bind (.emit nofun) fun _ => .bind (.lift (Info.unbox_catchable Obj.asInt_catchable ..)) fun _ =>
    .emit nofun

end HPingApp

namespace TraceRoute

variable (dev : DataLinkLayer) (self : Nat)

/-- The call registers nobody but the tracer. -/
def RegistersSelf (call : Call) : Prop :=
  ∀ receiver, call = .registToReceiveICMPPacket receiver → receiver = self

theorem createIP4Header_catchable (this : TraceRoute) (len : JInt) :
    Catchable (createIP4Header dev this len) := by
  unfold createIP4Header
  split
  · exact .ok
  · exact .bind (Application.notNull_catchable _) fun _ => .bind (ByteBuffer.getInt_catchable _) fun _ =>
      IPProtocolLayer.createHeader_catchable dev _

theorem createPacket_catchable (this : TraceRoute) : Catchable (createPacket dev this) := by
  refine .bind (UDPProtocolLayer.createHeader_catchable _) fun udpHeader => ?_
  split
  · exact .error rfl
  · exact Application.packet_catchable _ (createIP4Header_catchable dev this)

/-- Starting throws nothing. -/
theorem startTraceRoute_within :
    Prog.Within (RegistersSelf self) (fun _ => False) (startTraceRoute dev self) := by
  refine .catching (Q := Caught) ?_ fun e he hne => by rw [he] at hne; cases hne
  refine .bind .read fun this => .bind (.lift (createPacket_catchable dev this)) fun _ =>
    .bind (.emit nofun) fun _ => .emit ?_
  rintro receiver ⟨⟩
  rfl

theorem getByAddress_catchable (addr : Option Bytes) : Catchable (getByAddress addr) := by
  refine .bind (Application.notNull_catchable addr) fun _ => ?_
  split
  · exact .ok
  · exact .error rfl

theorem answer_within (routerIP : Option Bytes) :
    Prog.Within (RegistersSelf self) (fun _ => False) (Prog.catching Throwable.isException do
      let routerIP ← Prog.lift (getByAddress routerIP)
      Prog.emit (.print (.router (← Prog.read).time_to_live routerIP))
      Prog.modify fun this => { this with
        dest_port := this.dest_port + 1
        time_to_live := this.time_to_live + 1 }
      startTraceRoute dev self) := by
  refine .catching (Q := Caught) ?_ fun e he hne => by rw [he] at hne; cases hne
  exact .bind (.lift (getByAddress_catchable _)) fun _ => .bind .read fun _ => .bind (.emit nofun) fun _ =>
    .bind (.modify _) fun _ => fun this =>
      ⟨(startTraceRoute_within dev self this).1, ⟨fun he =>
        ((startTraceRoute_within dev self this).2.of_eq he).elim⟩⟩

theorem handleData_within (data : Info) :
    Prog.Within (RegistersSelf self) Caught (handleData dev self data) := by
  unfold handleData
  split
  · refine .bind (.lift (Obj.asByte_catchable _)) fun _ => ?_
    split
    · exact .pure ()
    refine .bind (.lift (Obj.asByte_catchable _)) fun _ => ?_
    split
    · exact .pure ()
    refine .bind (.lift (Info.getBytes_catchable ..)) fun _ => fun this => ?_
    exact ⟨(answer_within dev self _ this).1, ⟨fun he =>
      ((answer_within dev self _ this).2.of_eq he).elim⟩⟩
  · exact .pure ()

end TraceRoute

end TcpIpStack
