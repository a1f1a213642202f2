import TcpIpStack.Application.DHCPApplication
import TcpIpStack.Protocol.IPFrame

/-!
# The states of the DHCP client

A reply's type alone decides the state it leaves, whatever the state it meets:
`OFFER` leaves `REQUESTING`, `ACK` leaves `ACK`, any other type changes nothing
(`next`). A request goes out whenever the state left is `REQUESTING`.
-/

namespace TcpIpStack.DHCPApplication

open TcpIpStack.Java TcpIpStack.Lib

/-- A reply whose options are its message type and the end. -/
structure Reply where
  fixed : Bytes
  fixed_length : fixed.length = 240
  op : fixed.getD 0 0 = 2
  msg_type : Byte
  padding : Bytes

def Reply.data (r : Reply) : Bytes := r.fixed ++ [53, 1, r.msg_type, 0xff] ++ r.padding

/-- The table the UDP layer hands over with the reply. -/
def Reply.info (r : Reply) : Info := Info.empty.put .data (.bytes r.data)

/-- What a message type does to the state. -/
def next (state : DHCPState) (msg_type : Byte) : DHCPState :=
  if msg_type = DHCP_MSG_OFFER then .REQUESTING
  else if msg_type = DHCP_MSG_ACK then .ACK
  else state

/-- The packet is a broadcast DHCP message of type 3. -/
def IsRequest (packet : Bytes) : Prop :=
  ∃ (header : IPProtocolLayer.Header) (message : Bytes),
    packet = header.bytes ++ UDPProtocolLayer.datagram srcPort dstPort message ∧
    header.protocol = 17 ∧ header.destination_ip = [255, 255, 255, 255] ∧
    slice message 236 7 = MAGIC_COOKIE ++ [53, 1, 3]

/-- The object was constructed: both parts of its messages are there. -/
def Constructed (s : Scope) : Prop :=
  (∃ part, s.statics.dhcp_first_part = some part ∧ part.length = 236) ∧
    ∃ options, s.statics.dhcp_options_part = some options ∧ options.length ≤ 74

section

variable (dev : DataLinkLayer)

theorem constructDHCPFirstPart_ok (transaction_id : JInt) :
    ∃ part, constructDHCPFirstPart dev transaction_id = .ok part ∧ part.length = 236 ∧
      slice part 4 4 = intBytes transaction_id := by
  have hlen : ([[MESSAGE_TYPE_REQUEST], [HARDWARE_TYPE], [HARDWARE_ADDR_LENGTH], [DHCP_HOPS],
      intBytes transaction_id, shortBytes secs_elapsed, shortBytes bootp_flags, client_ip_address,
      your_ip_address, next_server_ip_address, relay_agent_ip_address, dev.deviceMacAddress,
      List.replicate 10 0, List.replicate 64 0, List.replicate 128 0] : List Bytes).flatten.length =
        236 := by
    simp only [List.flatten_cons, List.flatten_nil, List.length_append, List.length_cons,
      List.length_nil, List.length_replicate, intBytes_length, shortBytes_length,
      DataLinkLayer.deviceMacAddress_length, client_ip_address, your_ip_address,
      next_server_ip_address, relay_agent_ip_address]
  refine ⟨_, ByteBuffer.fill_eq (by rw [hlen]; decide), ?_, ?_⟩
  · rw [List.length_append, hlen]
    rfl
  · simp only [List.flatten_cons, List.append_assoc]
    have hslice : ∀ post, slice ([MESSAGE_TYPE_REQUEST, HARDWARE_TYPE, HARDWARE_ADDR_LENGTH, DHCP_HOPS] ++
        (intBytes transaction_id ++ post)) 4 4 = intBytes transaction_id := fun post => by
      rw [← List.append_assoc]
      exact slice_append rfl (intBytes_length _)
    exact hslice _

/-- A message of ordinary length goes out behind a header from nobody to
everybody. -/
theorem packet_ok {message : Bytes} (h : message.length + 8 < 2 ^ 15) :
    createUDPHeader message = .ok (some (UDPProtocolLayer.datagram srcPort dstPort message)) ∧
    ∃ packet, Application.packet (some (UDPProtocolLayer.datagram srcPort dstPort message))
        (createIP4Header dev) = .ok packet ∧
      Application.IsDatagram packet [0, 0, 0, 0] [255, 255, 255, 255] srcPort dstPort message := by
  refine ⟨UDPProtocolLayer.createHeader_eq ⟨rfl, rfl, rfl⟩ h, ?_⟩
  have hsrc := ByteBuffer.getInt_wrap (a := [0, 0, 0, 0]) rfl
  have hdst := ByteBuffer.getInt_wrap (a := [255, 255, 255, 255]) rfl
  have hcreate : ∀ len, createIP4Header dev len = IPProtocolLayer.createHeader dev (Info.empty
      |>.put .data_length (.int len)
      |>.put .source_ip (.int (intOf [0, 0, 0, 0]))
      |>.put .destination_ip (.int (intOf [255, 255, 255, 255]))
      |>.put .protocol (.byte UDPProtocolLayer.PROTOCOL_UDP)
      |>.put .identification (.short srcPort)) := by
    intro len
    simp only [createIP4Header, hsrc, hdst, ok_bind]
  obtain ⟨packet, hpacket, hdatagram⟩ := Application.packet_isDatagram hcreate
    (fun _ => ⟨rfl, rfl, rfl, rfl, rfl, ⟨0, rfl⟩, ⟨0, rfl⟩, ⟨srcPort, rfl⟩, ⟨0, rfl⟩, ⟨0, rfl⟩,
      ⟨64, rfl⟩⟩) (fun _ => rfl) srcPort dstPort message
  rw [intBytes_intOf rfl, intBytes_intOf rfl] at hdatagram
  exact ⟨packet, hpacket, hdatagram⟩

theorem clientIdentifier_eq : clientIdentifier dev = .ok ([61, 7, 1] ++ dev.deviceMacAddress) := by
  rw [clientIdentifier, ByteBuffer.fill_eq (by simp [OPTION_CLIENT_IDENTIFIER_LENGTH])]
  simp [OPTION_CLIENT_IDENTIFIER_LENGTH, OPTION_CLIENT_IDENTIFIER,
    OPTION_CLIENT_IDENTIFIER_DATA_LENGTH, OPTION_CLIENT_IDENTIFIER_HARDWARE_TYPE]

theorem hostName_eq : hostName = .ok ([12, 10] ++ OPTION_HOST_NAME_CONTENT) := rfl

theorem vendor_eq : vendor = .ok ([60, 8] ++ OPTION_VENDOR_IDENTIFIER) := rfl

theorem parameterRequestList_eq : parameterRequestList = .ok ([55, 14] ++ option_buffer) := rfl

/-- The options of a discovery. -/
def discoveryPart : Bytes :=
  [53, 1, 1] ++ ([61, 7, 1] ++ dev.deviceMacAddress) ++ ([50, 4] ++ dev.deviceIPAddress) ++
    ([12, 10] ++ OPTION_HOST_NAME_CONTENT) ++ ([60, 8] ++ OPTION_VENDOR_IDENTIFIER) ++
    ([55, 14] ++ option_buffer) ++ [OPTION_END] ++ [0, 0, 0]

/-- The options of a request, with the four bytes left over after option 50. -/
def requestPart (ip : Bytes) : Bytes :=
  [53, 1, 3] ++ ([61, 7, 1] ++ dev.deviceMacAddress) ++ ([50, 4] ++ ip ++ [0, 0, 0, 0]) ++
    ([12, 10] ++ OPTION_HOST_NAME_CONTENT) ++ ([60, 8] ++ OPTION_VENDOR_IDENTIFIER) ++
    ([55, 14] ++ option_buffer) ++ [57, 2, 0x05, 0xDC] ++ [51, 4, 0x00, 0x76, 0xA7, 0x00] ++
    [OPTION_END] ++ [0, 0, 0]

theorem discoveryPart_length : (discoveryPart dev).length = 60 := by
  simp [discoveryPart, OPTION_HOST_NAME_CONTENT, OPTION_VENDOR_IDENTIFIER, option_buffer]

theorem requestPart_length {ip : Bytes} (h : ip.length = 4) : (requestPart dev ip).length = 74 := by
  simp [requestPart, h, OPTION_HOST_NAME_CONTENT, OPTION_VENDOR_IDENTIFIER, option_buffer]

theorem constructDHCPOptionsPart_eq : constructDHCPOptionsPart dev = .ok (discoveryPart dev) := by
  have htype : ByteBuffer.fill OPTION_MSG_TYPE_LENGTH
      [[OPTION_MSG_TYPE], [OPTION_MSG_DATA_LENGTH], [OPTION_MSG_TYPE_DISCOVERY]] = .ok [53, 1, 1] := rfl
  have haddr : ByteBuffer.fill (OPTION_REQUESTED_IP_LENGTH.toNat + 2)
      [[OPTION_REQUESTED_IP_TYPE], [OPTION_REQUESTED_IP_LENGTH], dev.deviceIPAddress] =
        .ok ([50, 4] ++ dev.deviceIPAddress) := by
    rw [ByteBuffer.fill_eq (by simp [OPTION_REQUESTED_IP_LENGTH])]
    simp [OPTION_REQUESTED_IP_LENGTH, OPTION_REQUESTED_IP_TYPE]
  simp only [constructDHCPOptionsPart, htype, clientIdentifier_eq, haddr, hostName_eq, vendor_eq,
    parameterRequestList_eq, ok_bind]
  rfl

theorem constructDHCPRequestOptions_eq {ip : Bytes} (hip : ip.length = 4) :
    constructDHCPRequestOptions dev ip = .ok (requestPart dev ip) := by
  have haddr : ByteBuffer.fill (OPTION_REQUESTED_IP_TYPE_LENGTH + ip.length)
      [[OPTION_REQUESTED_IP_TYPE], [OPTION_REQUESTED_IP_LENGTH], ip] =
        .ok ([50, 4] ++ ip ++ [0, 0, 0, 0]) := by
    rw [ByteBuffer.fill_eq (by simp [OPTION_REQUESTED_IP_TYPE_LENGTH, hip])]
    simp [OPTION_REQUESTED_IP_TYPE_LENGTH, OPTION_REQUESTED_IP_TYPE, OPTION_REQUESTED_IP_LENGTH, hip]
  have hmax : ByteBuffer.fill OPTION_MAXIMUN_DHCP_MESSAGE_SIZE_LENGTH
      [[OPTION_MAXIMUM_DHCP_MESSAGE_SIZE_TYPE], [OPTION_MAXIMUN_DHCP_MESSAGE_SIZE_DATA_LENGTH],
        shortBytes OPTION_MAXIMUN_DHCP_MESSAGE_SIZE_CONTENT] = .ok [57, 2, 0x05, 0xDC] := rfl
  have hlease : ByteBuffer.fill OPTION_IP_LEASE_TIME_LENGTH [[OPTION_IP_LEASE_TIME],
      [OPTION_IP_LEASE_TIME_DATA_LENGTH], intBytes OPTION_IP_LEASE_TIME_CONTENT] =
        .ok [51, 4, 0x00, 0x76, 0xA7, 0x00] := rfl
  have htype : ByteBuffer.fill OPTION_MSG_TYPE_LENGTH
      [[DHCP_MSG_TYPE], [OPTION_MSG_REQUEST_LENGTH], [OPTION_MSG_REQUEST_TYPE]] = .ok [53, 1, 3] := rfl
  simp only [constructDHCPRequestOptions, htype, clientIdentifier_eq, hmax, haddr, hlease,
    hostName_eq, vendor_eq, parameterRequestList_eq, ok_bind]
  rfl

/-- A request is made of the first part and of the address remembered, and its
options stay behind. -/
theorem dhcpRequest_sends {s : Scope} {part : Bytes} (hpart : s.statics.dhcp_first_part = some part)
    (hpartLen : part.length = 236) {ip : Bytes} (hip : s.this.server_supply_ip = some ip)
    (hlen : ip.length = 4) :
    ∃ packet, dhcpRequest dev s = ⟨.ok (), { s with statics := { s.statics with
        dhcp_options_part := some (requestPart dev ip) } }, [.broadCast (some packet)]⟩ ∧
      Application.IsDatagram packet [0, 0, 0, 0] [255, 255, 255, 255] srcPort dstPort
        (part ++ MAGIC_COOKIE ++ requestPart dev ip) := by
  have hlength : (part ++ MAGIC_COOKIE ++ requestPart dev ip).length + 8 < 2 ^ 15 := by
    rw [List.length_append, List.length_append, hpartLen, requestPart_length dev hlen]
    decide
  obtain ⟨hudp, packet, hpacket, hdatagram⟩ := packet_ok dev hlength
  refine ⟨packet, ?_, hdatagram⟩
  unfold dhcpRequest
  rw [Prog.read_bind_run, hip]
  simp only [constructDHCPRequestOptions_eq dev hlen, Prog.lift_ok_bind, Prog.modify_bind_run,
    Prog.read_bind_run, hpart, Application.notNull, hudp, hpacket]
  rfl

/-- A discovery is made of the static parts as they are, and changes nothing. -/
theorem dhcpDiscovery_sends {s : Scope} {part options : Bytes}
    (hpart : s.statics.dhcp_first_part = some part) (hpartLen : part.length = 236)
    (hoptions : s.statics.dhcp_options_part = some options) (hoptionsLen : options.length ≤ 74) :
    ∃ packet, dhcpDiscovery dev s = ⟨.ok (), s, [.broadCast (some packet)]⟩ ∧
      Application.IsDatagram packet [0, 0, 0, 0] [255, 255, 255, 255] srcPort dstPort
        (part ++ MAGIC_COOKIE ++ options) := by
  have hlength : (part ++ MAGIC_COOKIE ++ options).length + 8 < 2 ^ 15 := by
    rw [List.length_append, List.length_append, hpartLen, show MAGIC_COOKIE.length = 4 from rfl]
    omega
  obtain ⟨hudp, packet, hpacket, hdatagram⟩ := packet_ok dev hlength
  refine ⟨packet, ?_, hdatagram⟩
  unfold dhcpDiscovery
  rw [Prog.read_bind_run]
  simp only [hpart, hoptions, Application.notNull, Prog.lift_ok_bind, hudp, hpacket]
  rfl

/-- In the state `REQUESTING` a request goes out. -/
theorem dhcpRequest_run {s : Scope} (hs : Constructed s) {ip : Bytes}
    (hip : s.this.server_supply_ip = some ip) (hlen : ip.length = 4) :
    ∃ packet options, IsRequest packet ∧ options.length ≤ 74 ∧ dhcpRequest dev s =
      ⟨.ok (), { s with statics := { s.statics with dhcp_options_part := some options } },
        [.broadCast (some packet)]⟩ := by
  obtain ⟨⟨part, hpart, hpartLen⟩, -⟩ := hs
  obtain ⟨packet, hrun, header, hpacket, -, hproto, -, hdst⟩ :=
    dhcpRequest_sends dev hpart hpartLen hip hlen
  refine ⟨packet, requestPart dev ip, ⟨header, _, hpacket, hproto, hdst, ?_⟩,
    Nat.le_of_eq (requestPart_length dev hlen), hrun⟩
  -- the type is the first of the options
  have htype := @slice_append part (MAGIC_COOKIE ++ [53, 1, 3]) ((requestPart dev ip).drop 3) 236 7
    hpartLen rfl
  rw [← List.append_assoc, List.append_assoc (part ++ MAGIC_COOKIE)] at htype
  exact htype

/-- A reply's fixed part yields the offered address. -/
theorem readFirstPart_run {data : Bytes} (s : Scope) (hlen : 24 ≤ data.length)
    (hop : data.getD 0 0 = 2) :
    ∃ addr, addr.length = 4 ∧ readFirstPart data s =
      ⟨.ok true, { s with this := { s.this with server_supply_ip := some addr } }, []⟩ := by
  refine ⟨slice data 16 4, slice_length (by omega), ?_⟩
  have hreply : (ByteBuffer.wrap data).getAt DHCP_MSG_TYPE_OFFSET = .ok 2 := by
    rw [ByteBuffer.getAt_ok (by show 0 < data.length; omega)]
    exact congrArg Except.ok hop
  have hpos : (ByteBuffer.wrap data).setPosition DHCP_YOUR_IP_ADDRESS_OFFSET =
      .ok ⟨data, 16, by omega⟩ := ByteBuffer.setPosition_ok rfl _
  have haddr : ByteBuffer.take ⟨data, 16, by omega⟩ 4 = .ok (slice data 16 4, ⟨data, 20, by omega⟩) :=
    ByteBuffer.take_ok (by show 16 + 4 ≤ data.length; omega)
  have hpos' : ByteBuffer.setPosition ⟨data, 20, by omega⟩ DHCP_NEXT_IP_ADDRESS_OFFSET =
      .ok ⟨data, 20, by omega⟩ := ByteBuffer.setPosition_ok rfl _
  have hserver : ByteBuffer.take ⟨data, 20, by omega⟩ 4 = .ok (slice data 20 4, ⟨data, 24, by omega⟩) :=
    ByteBuffer.take_ok (by show 20 + 4 ≤ data.length; omega)
  simp only [readFirstPart, hreply, hpos, haddr, hpos', hserver, Prog.lift_ok_bind,
    Prog.modify_bind_run, DHCP_MSG_OFFER, ne_eq, not_true_eq_false, ↓reduceIte]
  rfl

/-- Option 53 assigns the state. -/
theorem readOption_msg_type (s : Scope) (r : Bytes) (len t : Byte) (rest : Bytes) :
    readOption 53 (ByteBuffer.reading r (len :: t :: rest)) s =
      ⟨.ok (ByteBuffer.reading (r ++ [len] ++ [t]) rest), { s with statics := { s.statics with
        dhcp_current_state := next s.statics.dhcp_current_state t } }, []⟩ := by
  unfold readOption
  rw [if_pos (by decide)]
  simp only [ByteBuffer.reading_get_cons, Prog.lift_ok_bind]
  unfold next
  by_cases hoffer : t = DHCP_MSG_OFFER
  · rw [if_pos hoffer, if_pos hoffer]
    rfl
  by_cases hack : t = DHCP_MSG_ACK
  · rw [if_neg hoffer, if_pos hack, if_neg hoffer, if_pos hack]
    rfl
  · rw [if_neg hoffer, if_neg hack, if_neg hoffer, if_neg hack]
    rfl

/-- The options of a reply leave the state its type says. -/
theorem optionLoop_run (s : Scope) (r : Bytes) (t : Byte) (rest : Bytes) (n : Nat) :
    optionLoop (n + 2) (ByteBuffer.reading r (53 :: 1 :: t :: 0xff :: rest)) s =
      ⟨.ok (), { s with statics := { s.statics with
        dhcp_current_state := next s.statics.dhcp_current_state t } }, []⟩ := by
  rw [optionLoop, ByteBuffer.reading_get_cons, Prog.lift_ok_bind]
  show (if (53 : Byte) = OPTION_END then _ else _ : AppM Scope Unit) s = _
  rw [if_neg (by decide)]
  refine Prog.bind_run_ok (readOption_msg_type s _ 1 t _) ?_
  rw [optionLoop, ByteBuffer.reading_get_cons, Prog.lift_ok_bind]
  show (if (0xff : Byte) = OPTION_END then _ else _ : AppM Scope Unit) _ = _
  rw [if_pos (by decide)]
  rfl

/-- Walking the options and acting on the state they leave. -/
theorem readOptions_run {s : Scope} (hs : Constructed s) {addr : Bytes} (hlen : addr.length = 4)
    (haddr : s.this.server_supply_ip = some addr) (r : Reply) :
    ∃ s' o, readOptions dev r.data s = ⟨.ok (), s', o⟩ ∧ Constructed s' ∧
      s'.statics.dhcp_current_state = next s.statics.dhcp_current_state r.msg_type ∧
      if s'.statics.dhcp_current_state = .REQUESTING then
        ∃ packet, o = [.broadCast (some packet)] ∧ IsRequest packet
      else o = [] := by
  have hdata : r.data = r.fixed ++ (53 :: 1 :: r.msg_type :: 0xff :: r.padding) := by
    simp [Reply.data]
  have hpos := ByteBuffer.setPosition_reading r.fixed (53 :: 1 :: r.msg_type :: 0xff :: r.padding)
    (b := ByteBuffer.wrap r.data) (p := DHCP_OPTIONS_OFFSET) hdata (by rw [r.fixed_length]; rfl)
  let s1 : Scope := { s with statics := { s.statics with
    dhcp_current_state := next s.statics.dhcp_current_state r.msg_type } }
  have hloop : optionLoop (r.padding.length + 3 + 2) (ByteBuffer.reading r.fixed
      (53 :: 1 :: r.msg_type :: 0xff :: r.padding)) s = ⟨.ok (), s1, []⟩ := optionLoop_run ..
  have hrun : readOptions dev r.data s = (if s1.statics.dhcp_current_state = .REQUESTING then
      trigger_action_by_state dev else pure ()) s1 := by
    simp only [readOptions, hpos, Prog.lift_ok_bind, ByteBuffer.reading_remaining, List.length_cons]
    rw [Prog.bind_run, hloop]
    rfl
  rw [hrun]
  by_cases hstate : s1.statics.dhcp_current_state = .REQUESTING
  · rw [if_pos hstate]
    obtain ⟨packet, options, hreq, hoptions, hdhcp⟩ := dhcpRequest_run dev (s := s1) hs haddr hlen
    refine ⟨{ s1 with statics := { s1.statics with dhcp_options_part := some options } },
      [.broadCast (some packet)], ?_, ⟨hs.1, options, rfl, hoptions⟩, rfl, ?_⟩
    · unfold trigger_action_by_state
      rw [Prog.read_bind_run, hstate]
      exact hdhcp
    · rw [if_pos hstate]
      exact ⟨packet, rfl, hreq⟩
  · rw [if_neg hstate]
    refine ⟨s1, [], rfl, hs, rfl, ?_⟩
    rw [if_neg hstate]

/-- What one reply does. -/
theorem handleData_reply {s : Scope} (hs : Constructed s) (r : Reply) :
    ∃ s' o, handleData dev r.info s = ⟨.ok (), s', o⟩ ∧ Constructed s' ∧
      s'.statics.dhcp_current_state = next s.statics.dhcp_current_state r.msg_type ∧
      if s'.statics.dhcp_current_state = .REQUESTING then
        ∃ packet, o = [.broadCast (some packet)] ∧ IsRequest packet
      else o = [] := by
  have hlen : r.data.length = 244 + r.padding.length := by
    simp only [Reply.data, List.length_append, r.fixed_length, List.length_cons, List.length_nil]
  have hop : r.data.getD 0 0 = 2 := by
    rw [Reply.data, List.append_assoc, List.getD_append _ _ _ _ (by rw [r.fixed_length]; decide), r.op]
  obtain ⟨addr, haddr, hfirst⟩ := readFirstPart_run s (by omega) hop
  obtain ⟨s', o, hrun, hs', hstate, hout⟩ := readOptions_run dev
    (s := { s with this := { s.this with server_supply_ip := some addr } }) hs haddr rfl r
  refine ⟨s', o, ?_, hs', hstate, hout⟩
  have hinfo : r.info.getBytes .data = .ok (some r.data) := rfl
  simp only [handleData, hinfo, Prog.lift_ok_bind, Application.notNull]
  exact Prog.bind_run_ok hfirst hrun

/-- The constructor fills the parts of the messages and leaves the state as it
finds it. -/
theorem construct_ok (nextInt : JInt) (statics : DHCPStatics) :
    ∃ s, construct dev nextInt statics = .ok s ∧ Constructed s ∧
      s.statics.dhcp_current_state = statics.dhcp_current_state := by
  obtain ⟨part, hpart, hpartLen, -⟩ := constructDHCPFirstPart_ok dev nextInt
  simp only [construct, hpart, constructDHCPOptionsPart_eq, ok_bind]
  exact ⟨_, rfl, ⟨⟨part, rfl, hpartLen⟩, _, rfl, by rw [discoveryPart_length]; decide⟩, rfl⟩

/-- `dhcpDiscovery` broadcasts and changes nothing. -/
theorem dhcpDiscovery_run {s : Scope} (hs : Constructed s) :
    ∃ packet, dhcpDiscovery dev s = ⟨.ok (), s, [.broadCast (some packet)]⟩ := by
  obtain ⟨⟨part, hpart, hpartLen⟩, options, hoptions, hoptionsLen⟩ := hs
  obtain ⟨packet, hrun, -⟩ := dhcpDiscovery_sends dev hpart hpartLen hoptions hoptionsLen
  exact ⟨packet, hrun⟩

/-- A new client that has sent its discovery. -/
def started (nextInt : JInt) (statics : DHCPStatics) : Except Throwable Scope := do
  let s ← construct dev nextInt statics
  return (dhcpDiscovery dev s).state

/-- The client after replies. -/
def afterReplies (replies : List Reply) (s : Scope) : Scope :=
  (Prog.runs (fun r : Reply => handleData dev r.info) replies s).1

theorem started_ok (nextInt : JInt) (statics : DHCPStatics) :
    ∃ s, started dev nextInt statics = .ok s ∧ Constructed s ∧
      s.statics.dhcp_current_state = statics.dhcp_current_state := by
  obtain ⟨s, hs, hc, hstate⟩ := construct_ok dev nextInt statics
  obtain ⟨packet, hrun⟩ := dhcpDiscovery_run dev hc
  refine ⟨s, ?_, hc, hstate⟩
  rw [started, hs, ok_bind, hrun]
  rfl

/-- Over a run the state follows the types of the replies. -/
theorem afterReplies_state {s : Scope} (hs : Constructed s) (replies : List Reply) :
    Constructed (afterReplies dev replies s) ∧
      (afterReplies dev replies s).statics.dhcp_current_state =
        (replies.map Reply.msg_type).foldl next s.statics.dhcp_current_state := by
  induction replies generalizing s with
  | nil => exact ⟨hs, rfl⟩
  | cons r replies ih =>
    obtain ⟨s', o, hrun, hs', hstate, -⟩ := handleData_reply dev hs r
    obtain ⟨hc, hfold⟩ := ih hs'
    have hcons : afterReplies dev (r :: replies) s = afterReplies dev replies s' := by
      rw [afterReplies, Prog.runs_cons, hrun]; rfl
    rw [hcons]
    refine ⟨hc, ?_⟩
    rw [hfold, List.map_cons, List.foldl_cons, hstate]

/-- After a discovery and any replies, the state is what the types of the replies
make it, from whatever state; and the next reply broadcasts one request exactly
when it leaves the state `REQUESTING`. -/
theorem dhcp_replies (nextInt : JInt) (statics : DHCPStatics) :
    ∃ s, started dev nextInt statics = .ok s ∧ ∀ replies : List Reply,
      (afterReplies dev replies s).statics.dhcp_current_state =
        (replies.map Reply.msg_type).foldl next statics.dhcp_current_state ∧
      ∀ r : Reply, ∃ s' o, handleData dev r.info (afterReplies dev replies s) = ⟨.ok (), s', o⟩ ∧
        s'.statics.dhcp_current_state =
          next (afterReplies dev replies s).statics.dhcp_current_state r.msg_type ∧
        if s'.statics.dhcp_current_state = .REQUESTING then
          ∃ packet, o = [.broadCast (some packet)] ∧ IsRequest packet
        else o = [] := by
  obtain ⟨s, hs, hc, hstate⟩ := started_ok dev nextInt statics
  refine ⟨s, hs, fun replies => ?_⟩
  obtain ⟨hc', hfold⟩ := afterReplies_state dev hc replies
  refine ⟨by rw [hfold, hstate], fun r => ?_⟩
  obtain ⟨s', o, hrun, -, hnext, hout⟩ := handleData_reply dev hc' r
  exact ⟨s', o, hrun, hnext, hout⟩

end

/-- A reply of the given type. -/
def sampleReply (msg_type : Byte) : Reply where
  fixed := 2 :: List.replicate 239 0
  fixed_length := by rw [List.length_cons, List.length_replicate]
  op := rfl
  msg_type := msg_type
  padding := []

/-- An `ACK` moves a client out of `DISCOVER`; and a second `OFFER` makes it
send a second request. -/
theorem dhcp_unguarded :
    (¬ ∀ (dev : DataLinkLayer) (nextInt : JInt) (s : Scope) (replies : List Reply) (r : Reply),
      started dev nextInt initialStatics = .ok s →
      ∀ (st st' : DHCPState), (afterReplies dev replies s).statics.dhcp_current_state = st →
      (afterReplies dev (replies ++ [r]) s).statics.dhcp_current_state = st' → st ≠ st' →
        (st = .DISCOVER ∧ r.msg_type = DHCP_MSG_OFFER ∧ st' = .REQUESTING) ∨
        (st = .REQUESTING ∧ r.msg_type = DHCP_MSG_ACK ∧ st' = .ACK)) ∧
    (¬ ∀ (dev : DataLinkLayer) (nextInt : JInt) (s : Scope) (replies : List Reply) (r : Reply),
      started dev nextInt initialStatics = .ok s →
      (handleData dev r.info (afterReplies dev replies s)).out ≠ [] →
        (afterReplies dev replies s).statics.dhcp_current_state = .DISCOVER) := by
  constructor
  · intro h
    obtain ⟨s, hs, hc, hstate⟩ := started_ok sampleDevice 7 initialStatics
    have hack : (afterReplies sampleDevice ([] ++ [sampleReply DHCP_MSG_ACK]) s).statics.dhcp_current_state
        = .ACK := by
      rw [List.nil_append, (afterReplies_state sampleDevice hc _).2, hstate]
      rfl
    have hne : DHCPState.DISCOVER ≠ .ACK := by decide
    rcases h sampleDevice 7 s [] (sampleReply DHCP_MSG_ACK) hs _ _ hstate hack hne with
      ⟨-, htype, -⟩ | ⟨hreq, -, -⟩
    · exact absurd htype (by decide)
    · exact absurd hreq (by decide)
  · intro h
    obtain ⟨s, hs, hc, hstate⟩ := started_ok sampleDevice 7 initialStatics
    obtain ⟨hc', hoffer⟩ := afterReplies_state sampleDevice hc [sampleReply DHCP_MSG_OFFER]
    rw [hstate] at hoffer
    obtain ⟨s', o, hrun, -, hnext, hout⟩ :=
      handleData_reply sampleDevice hc' (sampleReply DHCP_MSG_OFFER)
    rw [hoffer] at hnext
    rw [hnext] at hout
    obtain ⟨packet, rfl, -⟩ := hout
    have hdiscover := h sampleDevice 7 s [sampleReply DHCP_MSG_OFFER] (sampleReply DHCP_MSG_OFFER) hs
      (by rw [hrun]; exact List.cons_ne_nil _ _)
    rw [hoffer] at hdiscover
    exact absurd hdiscover (by decide)

end TcpIpStack.DHCPApplication
