import TcpIpStack.Application.DHCPMessages
import TcpIpStack.Application.PingRuns
import TcpIpStack.Application.TFTPRequest
import TcpIpStack.Application.Uses
import TcpIpStack.Jpcap.EndToEnd
import TcpIpStack.Lib.Keeps

/-!
# What the applications let out

Every packet an application lets out is a whole datagram: one header without
options that counts all of it, no fragment, and behind it one of the messages
that the objects of the program have to say (`Message`). How long it is depends
on the names the program asks for and on nothing else that happens.
-/

namespace TcpIpStack

open TcpIpStack.Java TcpIpStack.Lib
open Jpcap (HeaderFor headerFor_plain)
open ProtocolManager (packets)
open ApplicationManager (Use)

namespace DNSApplication

/-- What a query for these arguments carries: nothing, should the program call an object
whose constructor has thrown. -/
def queryOf (destIP : Option Bytes) (domainName : JString) (nextInt nextInt' : JInt) : Bytes :=
  match construct destIP domainName nextInt nextInt' with
  | .ok this => this.dnsHeader ++ this.dnsQuestion
  | .error _ => []

theorem queryOf_length (destIP : Option Bytes) (domainName : JString) (nextInt nextInt' : JInt) :
    (queryOf destIP domainName nextInt nextInt').length ≤ domainName.length + 18 := by
  unfold queryOf
  split
  · next this h =>
    obtain ⟨header, hheader, h⟩ := bind_eq_ok_iff.mp h
    obtain ⟨question, hquestion, h⟩ := bind_eq_ok_iff.mp h
    cases h
    rw [List.length_append, ByteBuffer.fill_length hheader, ByteBuffer.fill_length hquestion]
    unfold QUESTION_TYPE_LENGTH QUESTION_CLASS_LENGTH
    omega
  · exact Nat.zero_le _

end DNSApplication

namespace TFTPClient

/-- The array of a read request: what is not written to it is zero. -/
def requestArray (getBytes : JString → Bytes) (filename : JString) : Bytes :=
  readRequest getBytes filename ++
    List.replicate (filename.length + 12 - (readRequest getBytes filename).length) 0

theorem requestArray_length {getBytes : JString → Bytes} {filename : JString}
    (h : Fits getBytes filename) : (requestArray getBytes filename).length = filename.length + 12 := by
  have hlen := readRequest_length getBytes filename
  have hmode : mode.length = 8 := rfl
  unfold Fits at h
  simp only [requestArray, List.length_append, List.length_replicate]
  omega

end TFTPClient

namespace Application

/-- What stands behind the IP header, by the protocol that it names. -/
inductive Body : Byte → Bytes → Prop
  | udp {srcPort dstPort : JChar} {payload : Bytes} (h : payload.length + 8 < 2 ^ 15) :
      Body 17 (UDPProtocolLayer.datagram srcPort dstPort payload)
  | icmp {type : Byte} {c identifier sequence : Short} {rest : Bytes} (h : rest.length ≤ 12) :
      Body 1 (ICMPProtocolLayer.message type c identifier sequence rest)

theorem Body.protocol_eq {proto : Byte} {body : Bytes} (h : Body proto body) :
    proto = 17 ∨ proto = 1 := by
  cases h
  case udp => exact .inl rfl
  case icmp => exact .inr rfl

theorem Body.min_length {proto : Byte} {body : Bytes} (h : Body proto body) : 8 ≤ body.length := by
  cases h
  case udp =>
    rw [UDPProtocolLayer.datagram_length]
    omega
  case icmp =>
    rw [ICMPProtocolLayer.message_length]
    omega

/-- The messages of a program: what the objects it constructs and the calls it makes have
to say. -/
inductive Message (dev : DataLinkLayer) (uses : List Use) : Byte → Bytes → Prop
  /-- a `DISCOVER`, or a `REQUEST` for an address, of a client's transaction -/
  | dhcp {nextInt : JInt} {first options : Bytes} (huse : .construct (.dhcp nextInt) ∈ uses)
      (hfirst : first.length = 236) (hid : slice first 4 4 = intBytes nextInt)
      (hoptions : options = DHCPApplication.discoveryPart dev ∨
        ∃ ip, ip.length = 4 ∧ options = DHCPApplication.requestPart dev ip) :
      Message dev uses 17 (UDPProtocolLayer.datagram DHCPApplication.srcPort DHCPApplication.dstPort
        (first ++ DHCPApplication.MAGIC_COOKIE ++ options))
  /-- the query for a domain -/
  | query {destIP : Option Bytes} {domainName : JString} {nextInt nextInt' : JInt} {srcPort : JChar}
      (huse : .construct (.dns destIP domainName nextInt nextInt') ∈ uses) :
      Message dev uses 17 (UDPProtocolLayer.datagram srcPort DNSApplication.DNS_SERVER_PORT
        (DNSApplication.queryOf destIP domainName nextInt nextInt'))
  /-- the request for a file -/
  | readRequest {i : Nat} {getBytes : JString → Bytes} {created : Bool} {filename : JString}
      {srcPort dstPort : JChar} (huse : .invoke i (.getFile getBytes created filename) ∈ uses)
      (hfits : TFTPClient.Fits getBytes filename) :
      Message dev uses 17 (UDPProtocolLayer.datagram srcPort dstPort
        (TFTPClient.requestArray getBytes filename))
  /-- the acknowledgement of a block -/
  | acknowledgement {server_ip : Option Bytes} {srcPort dstPort : JChar} {block : Short}
      (huse : .construct (.tftp server_ip) ∈ uses) :
      Message dev uses 17 (UDPProtocolLayer.datagram srcPort dstPort ([0, 4] ++ shortBytes block))
  /-- an echo request -/
  | echo {times nextInt : JInt} {destIP : Option Bytes} {c identifier sequence : Short} {time : Bytes}
      (huse : .construct (.ping times destIP nextInt) ∈ uses)
      (hid : 0 < times.toInt → identifier = (nextInt &&& 0x0000FFFF).setWidth 16)
      (htime : time.length = 8) :
      Message dev uses 1 (ICMPProtocolLayer.message 8 c identifier sequence time)
  /-- a timestamp request -/
  | timestamp {times nextInt : JInt} {destIP : Option Bytes} {c identifier : Short} {time : JInt}
      (huse : .construct (.hping times destIP nextInt) ∈ uses)
      (hid : 0 < times.toInt → identifier = (nextInt &&& 0x0000FFFF).setWidth 16) :
      Message dev uses 1 (ICMPProtocolLayer.message 13 c identifier 0
        (ICMPProtocolLayer.timeBytes [time, 0, 0]))
  /-- a probe of a route -/
  | probe {dest_ip : Option Bytes} {srcPort dstPort : JChar} (huse : .construct (.trace dest_ip) ∈ uses) :
      Message dev uses 17 (UDPProtocolLayer.datagram srcPort dstPort (List.replicate 24 0))

/-- The addresses the stack sends from: the device's, the one a file is asked for from, and
nobody's. -/
def sources (dev : DataLinkLayer) : List Bytes :=
  [dev.deviceIPAddress, TFTPClient.fake_ip, [0, 0, 0, 0]]

/-- A whole datagram of the stack, with a body that satisfies `M`. -/
def Carries (dev : DataLinkLayer) (M : Byte → Bytes → Prop) (p : Bytes) : Prop :=
  ∃ (header : IPProtocolLayer.Header) (body src dst : Bytes) (proto : Byte),
    p = header.bytes ++ body ∧ HeaderFor header body src dst proto 0 ∧ src ∈ sources dev ∧
      Body proto body ∧ M proto body

/-- The header was built before a body of `len` bytes from a table that leaves fragments and
options out. -/
def Encoded (dev : DataLinkLayer) (len : JInt) (proto : Byte) (header : Bytes) : Prop :=
  ∃ headerInfo src dst, IPProtocolLayer.Plain dev headerInfo src dst proto ∧
    headerInfo .data_length = some (.int len) ∧ headerInfo .flag = none ∧
    headerInfo .fragment_offset = none ∧ intBytes src ∈ sources dev ∧
    IPProtocolLayer.createHeader dev headerInfo = .ok (some header)

section

variable {dev : DataLinkLayer} {M : Byte → Bytes → Prop}

/-- The two headers together are a whole datagram. -/
theorem packet_carries {proto : Byte} {body : Bytes} (hbody : Body proto body) (hM : M proto body)
    {createIPHeader : JInt → Except Throwable (Option Bytes)}
    (hip : ∀ len header, createIPHeader len = .ok (some header) → Encoded dev len proto header) :
    Returns (packet (some body) createIPHeader) (Carries dev M) := by
  intro p hp
  obtain ⟨_, hnull, hp⟩ := bind_eq_ok_iff.mp hp
  cases hnull
  obtain ⟨ipHeader, hcreate, hp⟩ := bind_eq_ok_iff.mp hp
  cases ipHeader with
  | none => cases hp
  | some ipHeader =>
    cases hp
    obtain ⟨headerInfo, src, dst, hplain, hlen, hflag, hoff, hsrc, hheader⟩ := hip _ _ hcreate
    obtain ⟨h, hcreated, hfor⟩ := headerFor_plain hplain hlen
      (Info.getOr_none hflag Obj.asShort 0) (Info.getOr_none hoff Obj.asShort 0)
    obtain rfl := Option.some.inj (Except.ok.inj (hheader.symm.trans hcreated))
    exact ⟨h, body, _, _, proto, rfl, hfor, hsrc, hbody, hM⟩

/-- A packet over a UDP header is a whole datagram. -/
theorem packet_carries_udp {udpInfo : Info} {srcPort dstPort : JChar} {payload : Bytes}
    (hf : UDPProtocolLayer.Filled udpInfo srcPort dstPort payload)
    (hM : M 17 (UDPProtocolLayer.datagram srcPort dstPort payload)) {udpHeader : Option Bytes}
    (hudp : UDPProtocolLayer.createHeader udpInfo = .ok udpHeader)
    {createIPHeader : JInt → Except Throwable (Option Bytes)}
    (hip : ∀ len header, createIPHeader len = .ok (some header) → Encoded dev len 17 header) :
    Returns (packet udpHeader createIPHeader) (Carries dev M) := by
  obtain ⟨rfl, hn⟩ := UDPProtocolLayer.createHeader_eq_ok hf hudp
  exact packet_carries (.udp hn) hM hip

theorem notNull_returns {α : Type} {x : Option α} {P : α → Prop} (h : ∀ a, x = some a → P a) :
    Returns (notNull x) P := by
  cases x with
  | none => exact .error
  | some a => exact .ok (h a rfl)

end

/-- A call that lets out messages of the program only. -/
def Speaks (dev : DataLinkLayer) (uses : List Use) (call : Call) : Prop :=
  ∀ p ∈ packets [call], Carries dev (Message dev uses) p

section

variable {dev : DataLinkLayer} {uses : List Use} {p : Bytes} (h : Carries dev (Message dev uses) p)

include h

theorem Speaks.sendData (ip : Option Bytes) : Speaks dev uses (.sendData (some p) ip) := by
  intro q hq
  obtain rfl := List.mem_singleton.mp hq
  exact h

theorem Speaks.broadCast : Speaks dev uses (.broadCast (some p)) := by
  intro q hq
  obtain rfl := List.mem_singleton.mp hq
  exact h

end

end Application

open Application

variable (dev : DataLinkLayer) (uses : List Use)

namespace DNSApplication

theorem createIP4Header_encoded {this : DNSApplication} {len : JInt} {header : Bytes}
    (h : createIP4Header dev this len = .ok (some header)) : Encoded dev len 17 header := by
  unfold createIP4Header at h
  split at h
  · cases h
  obtain ⟨ip, -, h⟩ := bind_eq_ok_iff.mp h
  obtain ⟨⟨destIP, _⟩, -, h⟩ := bind_eq_ok_iff.mp h
  refine ⟨_, _, _, ⟨rfl, rfl, rfl, rfl, rfl, ⟨0, rfl⟩, ⟨0, rfl⟩, ⟨_, rfl⟩, ⟨0, rfl⟩, ⟨0, rfl⟩,
    ⟨64, rfl⟩⟩, rfl, rfl, rfl, ?_, h⟩
  rw [intBytes_intOf dev.deviceIPAddress_length]
  exact List.mem_cons_self

/-- The object holds the query the program constructed it for. -/
def Made (this : DNSApplication) : Prop :=
  ∃ destIP domainName nextInt nextInt', .construct (.dns destIP domainName nextInt nextInt') ∈ uses ∧
    this.dnsHeader ++ this.dnsQuestion = queryOf destIP domainName nextInt nextInt'

theorem queryDomain_keeps :
    Prog.Keeps (Made uses) (Speaks dev uses) (fun _ => True) (queryDomain dev) := by
  refine .bind .read fun this hthis => .bind (.lift fun udpHeader hudp => hudp) fun udpHeader hudp => ?_
  obtain ⟨destIP, domainName, nextInt, nextInt', huse, hquery⟩ := hthis
  rw [hquery] at hudp
  exact .bind (.lift (packet_carries_udp ⟨rfl, rfl, rfl⟩ (.query huse) hudp fun len header =>
    createIP4Header_encoded dev)) fun p hp => .emit (.sendData hp _)

theorem handleData_keeps (depth : Nat) (headerInfo : Info) :
    Prog.Keeps (Made uses) (Speaks dev uses) (fun _ => True) (handleData depth headerInfo) := by
  refine .of_obeys (handleData_obeys (T := .emits id fun _ => Speaks dev uses)
    (fun this report => ⟨rfl, fun call hcall => ?_⟩) depth headerInfo) fun s s' h => ?_
  · obtain rfl := List.mem_singleton.mp hcall
    exact nofun
  · obtain rfl : s' = s := h
    exact id

end DNSApplication

namespace TFTPClient

theorem createIPHeader_encoded {s : Scope} {len : JInt} {header : Bytes}
    (h : createIPHeader dev s len = .ok (some header)) : Encoded dev len 17 header := by
  obtain ⟨server_ip, -, h⟩ := bind_eq_ok_iff.mp h
  obtain ⟨⟨dest_ip, _⟩, -, h⟩ := bind_eq_ok_iff.mp h
  have hfake := ByteBuffer.getInt_wrap (show fake_ip.length = 4 from rfl)
  simp only [hfake, ok_bind] at h
  refine ⟨_, _, _, ⟨rfl, rfl, rfl, rfl, rfl, ⟨0, rfl⟩, ⟨0, rfl⟩, ⟨0, rfl⟩, ⟨0, rfl⟩, ⟨0, rfl⟩,
    ⟨64, rfl⟩⟩, rfl, rfl, rfl, ?_, h⟩
  rw [intBytes_intOf (show fake_ip.length = 4 from rfl)]
  exact List.mem_cons_of_mem _ List.mem_cons_self

section

variable {I : Scope → Prop}

theorem sendMessage_keeps {message : Bytes}
    (h : ∀ srcPort dstPort, Message dev uses 17 (UDPProtocolLayer.datagram srcPort dstPort message)) :
    Prog.Keeps I (Speaks dev uses) (fun _ => True) (sendMessage dev message) := by
  refine .bind .read fun s _ => .bind (.lift fun udpHeader hudp => hudp) fun udpHeader hudp => ?_
  exact .bind (.lift (packet_carries_udp ⟨rfl, rfl, rfl⟩ (h _ _) hudp fun len header =>
    createIPHeader_encoded dev)) fun p hp => .emit (.sendData hp _)

theorem getFile_keeps {i : Nat} {getBytes : JString → Bytes} {created : Bool} {filename : JString}
    (huse : .invoke i (.getFile getBytes created filename) ∈ uses) :
    Prog.Keeps (fun _ => True) (Speaks dev uses) (fun _ => True)
      (getFile dev getBytes created filename) := by
  intro s _
  obtain ⟨s', hrun, -, -, -, hfilename⟩ := getFile_run dev getBytes created filename s
  rw [hrun]
  rcases sendReadPacket_cases dev getBytes s' with ⟨-, e, hsend⟩ | ⟨hfits, message, hmessage, hsend⟩
  · rw [hsend]
    exact ⟨trivial, nofun, fun _ _ => trivial⟩
  · rw [hsend]
    rw [hfilename] at hfits hmessage
    rw [hmessage]
    exact sendMessage_keeps dev uses (I := fun _ => True) (fun _ _ => .readRequest huse hfits) s' trivial

theorem handleData_keeps (headerInfo : Info) {server_ip : Option Bytes}
    (huse : .construct (.tftp server_ip) ∈ uses) :
    Prog.Keeps (fun _ => True) (Speaks dev uses) (fun _ => True) (handleData dev headerInfo) := by
  have hset : ∀ data_block, Prog.Keeps (fun _ => True) (Speaks dev uses) (fun _ => True)
      (setBlock data_block) := fun _ => .modify fun _ _ => trivial
  have hack : Prog.Keeps (fun _ => True) (Speaks dev uses) (fun _ => True) (sendACKPacket dev) := by
    intro s hs
    rw [sendACKPacket_eq]
    exact sendMessage_keeps dev uses (I := fun _ => True) (fun _ _ => .acknowledgement huse) s hs
  have hclose : Prog.Keeps (fun _ => True) (Speaks dev uses) (fun _ => True) close :=
    .bind .read fun _ _ => .bind_any fun _ => .modify fun _ _ => trivial
  have hwrite : ∀ file_content, Prog.Keeps (fun _ => True) (Speaks dev uses) (fun _ => True)
      (write file_content) := by
    refine fun file_content => .bind .read fun _ _ => .bind_any fun _ => ?_
    split
    · exact .modify fun _ _ => trivial
    · exact .pure trivial
  have hacknowledge : ∀ left_len, Prog.Keeps (fun _ => True) (Speaks dev uses) (fun _ => True)
      (acknowledge dev left_len) := by
    intro left_len
    unfold acknowledge
    split
    · exact .bind hack fun _ _ => .bind .read fun _ _ => hset _
    split
    · exact .bind hack fun _ _ => .bind hclose fun _ _ => hset _
    · exact .pure trivial
  refine .bind_any fun data => ?_
  split
  · exact .pure trivial
  refine .bind_any fun _ => .bind (.modify fun _ _ => trivial) fun _ _ => .bind_any fun _ => ?_
  dsimp only
  split
  · exact .bind_any fun _ => .bind (hset _) fun _ _ => .bind_any fun _ =>
      .bind (hwrite _) fun _ _ => hacknowledge _
  split
  · exact .bind_any fun _ => .bind_any fun _ => .pure trivial
  · exact .pure trivial

end

end TFTPClient

namespace DHCPApplication

theorem createIP4Header_encoded {len : JInt} {header : Bytes}
    (h : createIP4Header dev len = .ok (some header)) : Encoded dev len 17 header := by
  have hsrc := ByteBuffer.getInt_wrap (a := [0, 0, 0, 0]) rfl
  have hdst := ByteBuffer.getInt_wrap (a := [255, 255, 255, 255]) rfl
  simp only [createIP4Header, hsrc, hdst, ok_bind] at h
  refine ⟨_, _, _, ⟨rfl, rfl, rfl, rfl, rfl, ⟨0, rfl⟩, ⟨0, rfl⟩, ⟨srcPort, rfl⟩, ⟨0, rfl⟩, ⟨0, rfl⟩,
    ⟨64, rfl⟩⟩, rfl, rfl, rfl, ?_, h⟩
  rw [intBytes_intOf (show ([0, 0, 0, 0] : Bytes).length = 4 from rfl)]
  exact List.mem_cons_of_mem _ (List.mem_cons_of_mem _ List.mem_cons_self)

/-- The two parts of a message are a client's own, if they are there. -/
structure MadeStatics (s : DHCPStatics) : Prop where
  first_part : ∀ part, s.dhcp_first_part = some part → part.length = 236 ∧
    ∃ nextInt, .construct (.dhcp nextInt) ∈ uses ∧ slice part 4 4 = intBytes nextInt
  options_part : ∀ part, s.dhcp_options_part = some part →
    part = discoveryPart dev ∨ ∃ ip, ip.length = 4 ∧ part = requestPart dev ip

/-- The offered address has four bytes. -/
def Offered (this : DHCPApplication) : Prop := ∀ ip, this.server_supply_ip = some ip → ip.length = 4

structure MadeScope (s : Scope) : Prop where
  statics : MadeStatics dev uses s.statics
  this : Offered s.this

theorem construct_made {nextInt : JInt} (huse : .construct (.dhcp nextInt) ∈ uses)
    {statics : DHCPStatics} {s : Scope} (h : construct dev nextInt statics = .ok s) :
    MadeScope dev uses s := by
  obtain ⟨part, hpart, hlen, hid⟩ := constructDHCPFirstPart_ok dev nextInt
  simp only [construct, hpart, constructDHCPOptionsPart_eq, ok_bind] at h
  cases h
  refine ⟨⟨?_, ?_⟩, ?_⟩
  · rintro first_part hfirst
    obtain rfl := Option.some.inj hfirst
    exact ⟨hlen, nextInt, huse, hid⟩
  · rintro options_part hpart
    exact .inl (Option.some.inj hpart).symm
  · rintro ip hip
    cases hip

/-- A message of these parts is broadcast. -/
theorem broadCast_keeps {I : Scope → Prop} {s : DHCPStatics} (hs : MadeStatics dev uses s)
    {first options : Bytes} (hfirst : s.dhcp_first_part = some first)
    (hoptions : options = discoveryPart dev ∨ ∃ ip, ip.length = 4 ∧ options = requestPart dev ip)
    {udpHeader : Option Bytes}
    (hudp : createUDPHeader (first ++ MAGIC_COOKIE ++ options) = .ok udpHeader) :
    Prog.Keeps I (Speaks dev uses) (fun _ => True)
      (Prog.lift (Application.packet udpHeader (createIP4Header dev)) >>= fun p =>
        Prog.emit (.broadCast (some p))) := by
  obtain ⟨hlen, nextInt, huse, hid⟩ := hs.first_part first hfirst
  exact .bind (.lift (packet_carries_udp ⟨rfl, rfl, rfl⟩ (.dhcp huse hlen hid hoptions) hudp
    fun len header => createIP4Header_encoded dev)) fun p hp => .emit (.broadCast hp)

theorem dhcpDiscovery_keeps :
    Prog.Keeps (MadeScope dev uses) (Speaks dev uses) (fun _ => True) (dhcpDiscovery dev) := by
  refine .bind .read fun s hs => ?_
  refine .bind (.lift (notNull_returns fun _ h => h)) fun first_part hfirst => ?_
  refine .bind (.lift (notNull_returns fun _ h => h)) fun options_part hoptions => ?_
  refine .bind (.lift fun udpHeader hudp => hudp) fun udpHeader hudp => ?_
  split
  · exact .pure trivial
  · exact broadCast_keeps dev uses hs.statics hfirst (hs.statics.options_part _ hoptions) hudp

theorem dhcpRequest_keeps :
    Prog.Keeps (MadeScope dev uses) (Speaks dev uses) (fun _ => True) (dhcpRequest dev) := by
  refine .bind .read fun s hs => ?_
  split
  · exact .pure trivial
  next ip hip =>
  have hlen := hs.this ip hip
  rw [constructDHCPRequestOptions_eq dev hlen, Prog.lift_ok_bind]
  refine .bind (.modify fun s hs => ⟨⟨hs.statics.first_part, ?_⟩, hs.this⟩) fun _ _ => ?_
  · rintro part hpart
    exact .inr ⟨ip, hlen, (Option.some.inj hpart).symm⟩
  refine .bind .read fun s hs => ?_
  refine .bind (.lift (notNull_returns fun _ h => h)) fun first_part hfirst => ?_
  refine .bind (.lift fun udpHeader hudp => hudp) fun udpHeader hudp => ?_
  exact broadCast_keeps dev uses hs.statics hfirst (.inr ⟨ip, hlen, rfl⟩) hudp

theorem readFirstPart_keeps (data : Bytes) :
    Prog.Keeps (MadeScope dev uses) (Speaks dev uses) (fun _ => True) (readFirstPart data) := by
  refine .bind_any fun _ => ?_
  split
  · exact .pure trivial
  refine .bind_any fun _ => .bind (.lift ByteBuffer.take_length) fun r hr => ?_
  refine .bind (.modify fun s hs => ⟨hs.statics, ?_⟩) fun _ _ => .bind_any fun _ =>
    .bind_any fun _ => .pure trivial
  rintro ip hip
  obtain rfl := Option.some.inj hip
  exact hr

theorem handleData_keeps (headerInfo : Info) :
    Prog.Keeps (MadeScope dev uses) (Speaks dev uses) (fun _ => True) (handleData dev headerInfo) := by
  have hloop : ∀ n buffer, Prog.Keeps (MadeScope dev uses) (Speaks dev uses) (fun _ => True)
      (optionLoop n buffer) := by
    intro n buffer
    refine .of_obeys (optionLoop_obeys (T := .emits (fun s =>
      (s.this, s.statics.dhcp_first_part, s.statics.dhcp_options_part)) fun _ => Speaks dev uses)
      (fun s _ => ⟨rfl, nofun⟩) n buffer) fun s s' h hs => ?_
    obtain ⟨hthis, hparts⟩ := Prod.mk.inj h
    obtain ⟨hfirst, hoptions⟩ := Prod.mk.inj hparts
    exact ⟨⟨by rw [hfirst]; exact hs.statics.first_part, by rw [hoptions]; exact hs.statics.options_part⟩,
      by rw [hthis]; exact hs.this⟩
  refine .bind_any fun _ => .bind_any fun data => .bind (readFirstPart_keeps dev uses data) fun _ _ => ?_
  split
  · refine .bind_any fun _ => .bind (hloop _ _) fun _ _ => .bind .read fun s _ => ?_
    split
    · refine .bind .read fun s _ => ?_
      split
      · exact dhcpRequest_keeps dev uses
      · exact .pure trivial
    · exact .pure trivial
  · exact .pure trivial

end DHCPApplication

namespace PingApp

theorem createIP4Header_encoded {this : PingApp} {len : JInt} {header : Bytes}
    (h : createIP4Header dev this len = .ok (some header)) : Encoded dev len 1 header := by
  unfold createIP4Header at h
  split at h
  · cases h
  obtain ⟨ip, -, h⟩ := bind_eq_ok_iff.mp h
  obtain ⟨⟨destIP, _⟩, -, h⟩ := bind_eq_ok_iff.mp h
  refine ⟨_, _, _, ⟨rfl, rfl, rfl, rfl, rfl, ⟨0, rfl⟩, ⟨0, rfl⟩, ⟨_, rfl⟩, ⟨0, rfl⟩, ⟨0, rfl⟩,
    ⟨64, rfl⟩⟩, rfl, rfl, rfl, ?_, h⟩
  rw [intBytes_intOf dev.deviceIPAddress_length]
  exact List.mem_cons_self

/-- The object has the identifier it drew. -/
def Made (this : PingApp) : Prop :=
  ∃ times destIP nextInt, .construct (.ping times destIP nextInt) ∈ uses ∧
    (0 < times.toInt → this.identifier = (nextInt &&& 0x0000FFFF).setWidth 16)

/-- An ICMP query of a round. -/
def IsQuery (header : Option Bytes) : Prop :=
  ∀ message, header = some message → Body 1 message ∧ Message dev uses 1 message

theorem createICMPHeader_keeps {P : Call → Prop} (clock : Clock) :
    Prog.Keeps (Made uses) P (IsQuery dev uses) (createICMPHeader clock) := by
  intro this hthis
  have hlen : (longBytes clock.currentTimeMillis).length = 8 := beDigits_length ..
  let headerInfo := Info.empty
    |>.put .header (.string "echo")
    |>.put .identifier (.short this.identifier)
    |>.put .sequence_number (.short this.sequence)
    |>.put .data (.bytes (longBytes clock.currentTimeMillis))
  have hid : headerInfo.getOr .identifier Obj.asShort ((0 : JInt).setWidth 16) = .ok this.identifier := rfl
  have hseq : headerInfo.getOr .sequence_number Obj.asShort 0 = .ok this.sequence := rfl
  obtain ⟨c, hc⟩ := ICMPProtocolLayer.createHeader_echo rfl rfl hid hseq (by rw [hlen]; omega)
  refine ⟨hthis, nofun, ?_⟩
  show Returns (ICMPProtocolLayer.createHeader 0 _) (IsQuery dev uses)
  rw [hc]
  obtain ⟨times, destIP, nextInt, huse, hmade⟩ := hthis
  refine .ok fun message hmessage => ?_
  obtain rfl := Option.some.inj hmessage
  exact ⟨.icmp (by omega), .echo huse hmade hlen⟩

/-- Each round sends a query, or fails on the way. -/
theorem startPing_keeps {σ : Type} {I : σ → Prop} {ping : σ → PingApp}
    {createICMPHeader : Clock → AppM σ (Option Bytes)}
    (h : ∀ clock, Prog.Keeps I (Speaks dev uses) (IsQuery dev uses) (createICMPHeader clock))
    (clock : Nat → Clock) : Prog.Keeps I (Speaks dev uses) (fun _ => True)
      (startPing dev ping createICMPHeader clock) := by
  have hpackage : ∀ clock, Prog.Keeps I (Speaks dev uses) (Carries dev (Message dev uses))
      (createPackage dev ping createICMPHeader clock) := by
    refine fun clock => .bind (h clock) fun header hheader => ?_
    split
    · exact .throw _
    next message =>
    obtain ⟨hbody, hmessage⟩ := hheader message rfl
    exact .bind .read fun s _ => .lift (packet_carries hbody hmessage fun len header =>
      createIP4Header_encoded dev)
  have hloop : ∀ clocks, Prog.Keeps I (Speaks dev uses) (fun _ => True)
      (pingLoop dev ping createICMPHeader clocks) := by
    intro clocks
    induction clocks with
    | nil => exact .pure trivial
    | cons clock clocks ih =>
      refine .bind (.catching (.bind (hpackage clock) fun p hp => ?_)) fun _ _ => ih
      exact .bind .read fun _ _ => .emit (.sendData hp _)
  exact .bind .read fun _ _ => hloop _

theorem handleData_keeps (clock : Clock) (data : Info) :
    Prog.Keeps (Made uses) (Speaks dev uses) (fun _ => True) (handleData clock data) :=
  .bind_any fun _ => .bind_any fun _ => .bind_any fun _ => .bind_any fun _ => .emit nofun

end PingApp

namespace HPingApp

def Made (this : HPingApp) : Prop :=
  ∃ times destIP nextInt, .construct (.hping times destIP nextInt) ∈ uses ∧
    (0 < times.toInt → this.toPingApp.identifier = (nextInt &&& 0x0000FFFF).setWidth 16)

theorem createICMPHeader_keeps {P : Call → Prop} (clock : Clock) :
    Prog.Keeps (Made uses) P (PingApp.IsQuery dev uses) (createICMPHeader clock) := by
  intro this hthis
  obtain ⟨c, hrun⟩ := createICMPHeader_eq clock this
  rw [hrun]
  refine ⟨hthis, nofun, .ok fun message hmessage => ?_⟩
  obtain rfl := Option.some.inj hmessage
  obtain ⟨times, destIP, nextInt, huse, hmade⟩ := hthis
  exact ⟨.icmp (Nat.le_refl 12), .timestamp huse hmade⟩

theorem handleData_keeps (data : Info) :
    Prog.Keeps (Made uses) (Speaks dev uses) (fun _ => True) (handleData data) :=
  .bind_any fun _ => .bind_any fun _ => .bind .read fun _ _ => .bind (.emit nofun) fun _ _ =>
    .bind_any fun _ => .emit nofun

end HPingApp

namespace TraceRoute

theorem createIP4Header_encoded {this : TraceRoute} {len : JInt} {header : Bytes}
    (h : createIP4Header dev this len = .ok (some header)) : Encoded dev len 17 header := by
  unfold createIP4Header at h
  split at h
  · cases h
  obtain ⟨ip, -, h⟩ := bind_eq_ok_iff.mp h
  obtain ⟨⟨destIP, _⟩, -, h⟩ := bind_eq_ok_iff.mp h
  refine ⟨_, _, _, ⟨rfl, rfl, rfl, rfl, rfl, ⟨0, rfl⟩, ⟨0, rfl⟩, ⟨_, rfl⟩, ⟨0, rfl⟩, ⟨0, rfl⟩,
    ⟨_, rfl⟩⟩, rfl, rfl, rfl, ?_, h⟩
  rw [intBytes_intOf dev.deviceIPAddress_length]
  exact List.mem_cons_self

section

variable {uses} {dest_ip : Option Bytes} (huse : .construct (.trace dest_ip) ∈ uses)

include huse

theorem startTraceRoute_keeps (self : Nat) :
    Prog.Keeps (fun _ => True) (Speaks dev uses) (fun _ => True) (startTraceRoute dev self) := by
  refine .catching (.bind .read fun this _ => ?_)
  refine .bind (.lift (R := Carries dev (Message dev uses)) fun p hp => ?_)
    fun p hp => .bind (.emit (.sendData hp _)) fun _ _ => .emit nofun
  obtain ⟨udpHeader, hudp, hp⟩ := bind_eq_ok_iff.mp hp
  split at hp
  · cases hp
  · exact packet_carries_udp ⟨rfl, rfl, rfl⟩ (.probe huse) hudp
      (fun len header => createIP4Header_encoded dev) p hp

theorem handleData_keeps (self : Nat) (data : Info) :
    Prog.Keeps (fun _ => True) (Speaks dev uses) (fun _ => True) (handleData dev self data) := by
  unfold handleData
  split
  · refine .bind_any fun type => ?_
    split
    · exact .pure trivial
    refine .bind_any fun code => ?_
    split
    · exact .pure trivial
    refine .bind_any fun _ => .catching (.bind_any fun routerIP => .bind .read fun _ _ =>
      .bind (.emit nofun) fun _ _ => .bind (.modify fun _ _ => trivial) fun _ _ =>
      startTraceRoute_keeps dev huse self)
  · exact .pure trivial

end

end TraceRoute

end TcpIpStack
