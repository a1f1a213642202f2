import TcpIpStack.Application.DHCPOptions
import TcpIpStack.Application.Requests

/-!
# What a DHCP client sends

A reply is any payload whose first byte is 2 and that reaches to the offered
address; nothing else of it is checked, so every other payload changes nothing
and sends nothing. A request is made from the reply at hand; a discovery from the
static options part, which every request overwrites.
-/

namespace TcpIpStack.DHCPApplication

open TcpIpStack.Java TcpIpStack.Lib
open UDPProtocolLayer (Received)

/-- What `readFirstPart` takes for a reply. -/
def IsReply (data : Bytes) : Prop := data.getD 0 0 = DHCP_MSG_OFFER ∧ 20 ≤ data.length

instance : DecidablePred IsReply := fun _ => inferInstanceAs (Decidable (_ ∧ _))

/-- `your_addr`, as a reply carries it. -/
def your_addr (data : Bytes) : Bytes := slice data 16 4

theorem IsReply.your_addr_length {data : Bytes} (h : IsReply data) : (your_addr data).length = 4 :=
  slice_length h.2

/-- The object remembers an address. -/
def Scope.offered (s : Scope) (ip : Bytes) : Scope :=
  { s with this := { s.this with server_supply_ip := some ip } }

/-- The runs that send nothing and change no field but `dhcp_current_state`. -/
def quiet : Prog.Trace Scope Call :=
  .emits (fun s => (s.this, s.statics.dhcp_first_part, s.statics.dhcp_options_part))
    fun _ _ => False

/-- What is no reply is not read any further. -/
theorem readFirstPart_other {data : Bytes} (h : ¬ IsReply data) (s : Scope) :
    readFirstPart data s = ⟨.ok false, s, []⟩ ∨
      ∃ e, readFirstPart data s = ⟨.error e, s, []⟩ := by
  unfold readFirstPart
  by_cases hempty : data.length = 0
  · have hget : (ByteBuffer.wrap data).getAt DHCP_MSG_TYPE_OFFSET = .error .indexOutOfBounds :=
      dif_neg (by show ¬ 0 < data.length; omega)
    rw [hget, Prog.lift_error_bind]
    exact .inr ⟨_, rfl⟩
  have hget : (ByteBuffer.wrap data).getAt DHCP_MSG_TYPE_OFFSET = .ok (data.getD 0 0) :=
    ByteBuffer.getAt_ok (by show 0 < data.length; omega)
  rw [hget, Prog.lift_ok_bind]
  by_cases hop : data.getD 0 0 = DHCP_MSG_OFFER
  · rw [if_neg (not_not.mpr hop)]
    have hlen : data.length < 20 := Nat.lt_of_not_le fun hle => h ⟨hop, hle⟩
    right
    by_cases h16 : 16 ≤ data.length
    · have hpos : (ByteBuffer.wrap data).setPosition DHCP_YOUR_IP_ADDRESS_OFFSET =
          .ok ⟨data, 16, h16⟩ := ByteBuffer.setPosition_ok rfl _
      have htake : ByteBuffer.take ⟨data, 16, h16⟩ 4 = .error .bufferUnderflow :=
        dif_neg (by show ¬ 16 + 4 ≤ data.length; omega)
      rw [hpos, Prog.lift_ok_bind, htake, Prog.lift_error_bind]
      exact ⟨_, rfl⟩
    · have hpos : (ByteBuffer.wrap data).setPosition DHCP_YOUR_IP_ADDRESS_OFFSET =
          .error .illegalArgument := dif_neg (by
        show ¬ (0 ≤ (16 : Int) ∧ (16 : Int) ≤ data.length)
        omega)
      rw [hpos, Prog.lift_error_bind]
      exact ⟨_, rfl⟩
  · rw [if_pos hop]
    exact .inl rfl

/-- The address of a reply is remembered, whatever comes of the rest. -/
theorem readFirstPart_reply {data : Bytes} (h : IsReply data) (s : Scope) :
    readFirstPart data s = ⟨if 24 ≤ data.length then .ok true else .error .bufferUnderflow,
      s.offered (your_addr data), []⟩ := by
  obtain ⟨hop, hlen⟩ := h
  have hget : (ByteBuffer.wrap data).getAt DHCP_MSG_TYPE_OFFSET = .ok DHCP_MSG_OFFER := by
    rw [← hop]
    exact ByteBuffer.getAt_ok (by show 0 < data.length; omega)
  have hpos : (ByteBuffer.wrap data).setPosition DHCP_YOUR_IP_ADDRESS_OFFSET =
      .ok ⟨data, 16, by omega⟩ := ByteBuffer.setPosition_ok rfl _
  have haddr : ByteBuffer.take ⟨data, 16, by omega⟩ 4 = .ok (your_addr data, ⟨data, 20, hlen⟩) :=
    ByteBuffer.take_ok (by show 16 + 4 ≤ data.length; omega)
  have hpos' : ByteBuffer.setPosition ⟨data, 20, hlen⟩ DHCP_NEXT_IP_ADDRESS_OFFSET =
      .ok ⟨data, 20, hlen⟩ := ByteBuffer.setPosition_ok rfl _
  unfold readFirstPart
  rw [hget, Prog.lift_ok_bind, if_neg (not_not.mpr rfl), hpos, Prog.lift_ok_bind, haddr,
    Prog.lift_ok_bind]
  dsimp only
  rw [Prog.modify_bind_run, hpos', Prog.lift_ok_bind, ByteBuffer.take_mk]
  by_cases h24 : 24 ≤ data.length
  · rw [dif_pos h24, if_pos h24]
    rfl
  · rw [dif_neg h24, if_neg h24]
    rfl

section

variable (dev : DataLinkLayer)

/-- Of the table only the data is read. -/
theorem handleData_congr {headerInfo headerInfo' : Info}
    (h : headerInfo.getBytes .data = headerInfo'.getBytes .data) :
    handleData dev headerInfo = handleData dev headerInfo' := by
  unfold handleData
  rw [h]

theorem handleData_received (d : Received) :
    handleData dev d.info = (readFirstPart d.data >>= fun readSuccess =>
      if readSuccess then readOptions dev d.data else pure ()) := by
  have hdata : d.info.getBytes .data = .ok (some d.data) := rfl
  unfold handleData
  rw [hdata, Prog.lift_ok_bind, Application.notNull, Prog.lift_ok_bind]

/-- The options leave the address and the parts; what is sent is a request made
from the state they leave. -/
theorem readOptions_cases (data : Bytes) (s : Scope) :
    ∃ s1, quiet.rel s [] s1 ∧
      ((readOptions dev data s).state = s1 ∧ (readOptions dev data s).out = [] ∨
        s1.statics.dhcp_current_state = .REQUESTING ∧ readOptions dev data s = dhcpRequest dev s1) := by
  unfold readOptions
  cases hpos : (ByteBuffer.wrap data).setPosition DHCP_OPTIONS_OFFSET with
  | error e => exact ⟨s, quiet.refl s, .inl ⟨rfl, rfl⟩⟩
  | ok buffer =>
  rw [Prog.lift_ok_bind]
  have hquiet : Prog.Obeys quiet (optionLoop (buffer.remaining + 1) buffer) :=
    optionLoop_obeys (T := quiet) (fun _ _ => ⟨rfl, nofun⟩) _ _
  obtain ⟨hkey, hnone⟩ := hquiet s
  have hout := List.eq_nil_iff_forall_not_mem.mpr hnone
  refine ⟨(optionLoop (buffer.remaining + 1) buffer s).state, ⟨hkey, nofun⟩, ?_⟩
  rcases Prog.bind_run_silent hout (fun _ => Prog.read >>= fun s => if s.statics.dhcp_current_state =
    .REQUESTING then trigger_action_by_state dev else pure ()) with ⟨e, hrun⟩ | ⟨_, -, hrun⟩
  · exact .inl ⟨by rw [hrun], by rw [hrun]⟩
  rw [Prog.read_bind_run] at hrun
  split at hrun
  · rename_i hrequesting
    rw [trigger_action_by_state_eq, if_pos hrequesting] at hrun
    exact .inr ⟨hrequesting, hrun⟩
  · exact .inl ⟨by rw [hrun]; rfl, by rw [hrun]; rfl⟩

/-- What a datagram does: nothing if it is no reply; else the offered address is
remembered, the state perhaps assigned, and perhaps a request made from there. -/
theorem handleData_cases (d : Received) (s : Scope) :
    ¬ IsReply d.data ∧ (handleData dev d.info s).state = s ∧ (handleData dev d.info s).out = [] ∨
    IsReply d.data ∧ ∃ s1, quiet.rel (s.offered (your_addr d.data)) [] s1 ∧
      ((handleData dev d.info s).state = s1 ∧ (handleData dev d.info s).out = [] ∨
        s1.statics.dhcp_current_state = .REQUESTING ∧
          (handleData dev d.info s).state = (dhcpRequest dev s1).state ∧
          (handleData dev d.info s).out = (dhcpRequest dev s1).out) := by
  rw [handleData_received]
  by_cases hreply : IsReply d.data
  · refine .inr ⟨hreply, ?_⟩
    have hstate := congrArg Outcome.state (readFirstPart_reply hreply s)
    have hout := congrArg Outcome.out (readFirstPart_reply hreply s)
    rcases Prog.bind_run_silent hout (fun readSuccess => if readSuccess then readOptions dev d.data
      else pure ()) with ⟨e, hrun⟩ | ⟨readSuccess, -, hrun⟩
    · exact ⟨_, quiet.refl _, .inl ⟨hrun ▸ hstate, hrun ▸ rfl⟩⟩
    rw [hstate] at hrun
    cases readSuccess with
    | false => exact ⟨_, quiet.refl _, .inl ⟨by rw [hrun]; rfl, by rw [hrun]; rfl⟩⟩
    | true =>
      obtain ⟨s1, hquiet, ⟨hs1, hnone⟩ | ⟨hrequesting, hrequest⟩⟩ :=
        readOptions_cases dev d.data (s.offered (your_addr d.data))
      · exact ⟨s1, hquiet, .inl ⟨by rw [hrun]; exact hs1, by rw [hrun]; exact hnone⟩⟩
      · rw [hrun]
        exact ⟨s1, hquiet, .inr ⟨hrequesting, congrArg Outcome.state hrequest,
          congrArg Outcome.out hrequest⟩⟩
  · refine .inl ⟨hreply, ?_⟩
    rcases readFirstPart_other hreply s with hrun | ⟨e, hrun⟩
    · rw [Prog.bind_run_ok hrun rfl]
      exact ⟨rfl, rfl⟩
    · rw [Prog.bind_run_error hrun]
      exact ⟨rfl, rfl⟩

theorem handleData_other {d : Received} (h : ¬ IsReply d.data) (s : Scope) :
    (handleData dev d.info s).state = s ∧ (handleData dev d.info s).out = [] := by
  rcases handleData_cases dev d s with ⟨-, hstate, hout⟩ | ⟨hreply, -⟩
  · exact ⟨hstate, hout⟩
  · exact absurd hreply h

/-- The client after datagrams, and what it sent. -/
def afterDatagrams (datagrams : List Received) (s : Scope) : Scope × List Call :=
  Prog.runs (fun d : Received => handleData dev d.info) datagrams s

/-- Handling the datagram changes the state or the offered address, or sends. -/
def Moves (d : Received) (s : Scope) : Prop :=
  (handleData dev d.info s).state.statics.dhcp_current_state ≠ s.statics.dhcp_current_state ∨
    (handleData dev d.info s).state.this.server_supply_ip ≠ s.this.server_supply_ip ∨
    (handleData dev d.info s).out ≠ []

/-- Only replies move the client, whatever has come before: without the other
datagrams a run ends in the same state and has sent the same. -/
theorem only_replies_move (datagrams : List Received) (s : Scope) :
    (∀ before d after, datagrams = before ++ d :: after →
      Moves dev d (afterDatagrams dev before s).1 → IsReply d.data) ∧
    afterDatagrams dev datagrams s =
      afterDatagrams dev (datagrams.filter fun d => IsReply d.data) s := by
  constructor
  · intro before d after _ hmoves
    by_contra hreply
    obtain ⟨hstate, hout⟩ := handleData_other dev hreply (afterDatagrams dev before s).1
    rcases hmoves with hcurrent | hsupply | hsent
    · exact hcurrent (by rw [hstate])
    · exact hsupply (by rw [hstate])
    · exact hsent hout
  · refine Prod.ext_iff.mpr (Prog.runs_filter (R := Eq) ?_ ?_ datagrams rfl)
    · rintro d s _ hother rfl
      exact handleData_other dev (of_decide_eq_false hother) s
    · rintro d s _ - rfl
      exact ⟨rfl, rfl⟩

end

/-- An `OFFER` to another client moves this one. -/
theorem foreign_offer_moves : ¬ ∀ (dev : DataLinkLayer) (datagrams : List Received) (s : Scope),
    Ready s → ∀ before d after, datagrams = before ++ d :: after →
      Moves dev d (afterDatagrams dev before s).1 →
        d.data.getD 0 0 = DHCP_MSG_OFFER ∧
        slice d.data 4 4 = intBytes (afterDatagrams dev before s).1.this.transaction_id ∧
        slice d.data 236 4 = MAGIC_COOKIE := by
  intro h
  have hmoves : Moves sampleDevice ⟨[], (sampleReply DHCP_MSG_OFFER).data⟩ sampleScope := by
    obtain ⟨s', o, hrun, -, hstate, -⟩ :=
      handleData_reply sampleDevice sampleScope_ready.1 (sampleReply DHCP_MSG_OFFER)
    have hreceived : handleData sampleDevice
        (Received.info ⟨[], (sampleReply DHCP_MSG_OFFER).data⟩) sampleScope = ⟨.ok (), s', o⟩ :=
      (congrFun (handleData_congr sampleDevice rfl) sampleScope).trans hrun
    left
    rw [hreceived, hstate]
    decide
  obtain ⟨-, hid, -⟩ := h sampleDevice _ sampleScope sampleScope_ready [] _ [] rfl hmoves
  exact absurd hid (by decide)

/-! ## The kinds of messages -/

/-- An option other than the message type and the times. -/
def otherOption (code : Byte) (value : Bytes)
    (hcode : code ∉ [0, OPTION_END, DHCP_MSG_TYPE] ++ timeOptions) (hlen : value.length ≤ 255) :
    DHCPOption :=
  .tlv ⟨code, value, ⟨fun h => hcode (by rw [h]; decide), fun h => hcode (by rw [h]; decide)⟩, hlen,
    fun h => absurd (by rw [h]; decide) hcode, fun h => absurd (List.mem_append_right _ h) hcode⟩

def typeOption (t : Byte) : DHCPOption :=
  .tlv ⟨DHCP_MSG_TYPE, [t], by decide, Nat.le_add_left 1 254, fun _ => rfl,
    fun h => absurd h (by decide)⟩

def leaseOption : DHCPOption :=
  .tlv ⟨51, [0x00, 0x76, 0xA7, 0x00], by decide, by decide, by decide, by decide⟩

/-- The address asked for, if this is option 50. -/
def DHCPOption.requested_ip : DHCPOption → Option Bytes
  | .pad => none
  | .tlv o => if o.code = OPTION_REQUESTED_IP_TYPE then some o.value else none

def requestedIPs (options : List DHCPOption) : List Bytes :=
  options.filterMap DHCPOption.requested_ip

/-- The packet broadcasts a message of the transaction with these options. -/
def IsMessage (packet : Bytes) (transaction_id : JInt) (options : List DHCPOption) : Prop :=
  ∃ first padding, first.length = 236 ∧ slice first 4 4 = intBytes transaction_id ∧
    Application.IsDatagram packet [0, 0, 0, 0] [255, 255, 255, 255] srcPort dstPort
      (first ++ MAGIC_COOKIE ++ (optionBytes options ++ OPTION_END :: padding))

/-- The call broadcasts a `DISCOVER`. -/
def Discovers (call : Call) (transaction_id : JInt) : Prop :=
  ∃ packet options, call = .broadCast (some packet) ∧ IsMessage packet transaction_id options ∧
    messageTypes options = [OPTION_MSG_TYPE_DISCOVERY]

/-- The call broadcasts a `REQUEST` for the address. -/
def Requests (call : Call) (transaction_id : JInt) (ip : Bytes) : Prop :=
  ∃ packet options, call = .broadCast (some packet) ∧ IsMessage packet transaction_id options ∧
    messageTypes options = [OPTION_MSG_REQUEST_TYPE] ∧ requestedIPs options = [ip]

section

variable (dev : DataLinkLayer)

def clientOption : DHCPOption :=
  otherOption 61 (1 :: dev.deviceMacAddress) (by decide) (by simp)

def nameOption : DHCPOption := otherOption 12 OPTION_HOST_NAME_CONTENT (by decide) (by decide)

def vendorOption : DHCPOption := otherOption 60 OPTION_VENDOR_IDENTIFIER (by decide) (by decide)

def parametersOption : DHCPOption := otherOption 55 option_buffer (by decide) (by decide)

def sizeOption : DHCPOption := otherOption 57 [0x05, 0xDC] (by decide) (by decide)

def addressOption (ip : Bytes) (h : ip.length = 4) : DHCPOption :=
  otherOption 50 ip (by decide) (by rw [h]; decide)

/-- The options of a discovery, read by the grammar. -/
def discoveryOptions : List DHCPOption :=
  [typeOption 1, clientOption dev, addressOption dev.deviceIPAddress dev.deviceIPAddress_length,
    nameOption, vendorOption, parametersOption]

/-- The options of a request: what is left over after option 50 are pads. -/
def requestOptions (ip : Bytes) (h : ip.length = 4) : List DHCPOption :=
  [typeOption 3, clientOption dev, addressOption ip h, .pad, .pad, .pad, .pad, nameOption,
    vendorOption, parametersOption, sizeOption, leaseOption]

theorem clientOption_bytes : (clientOption dev).bytes = [61, 7, 1] ++ dev.deviceMacAddress := by
  simp [clientOption, otherOption, DHCPOption.bytes]

theorem addressOption_bytes {ip : Bytes} (h : ip.length = 4) :
    (addressOption ip h).bytes = [50, 4] ++ ip := by
  simp [addressOption, otherOption, DHCPOption.bytes, h]

theorem discoveryPart_options :
    discoveryPart dev = optionBytes (discoveryOptions dev) ++ OPTION_END :: [0, 0, 0] := by
  simp only [optionBytes, discoveryOptions, List.flatMap_cons, List.flatMap_nil, clientOption_bytes,
    addressOption_bytes, discoveryPart, List.append_assoc]
  rfl

theorem requestPart_options {ip : Bytes} (h : ip.length = 4) :
    requestPart dev ip = optionBytes (requestOptions dev ip h) ++ OPTION_END :: [0, 0, 0] := by
  simp only [optionBytes, requestOptions, List.flatMap_cons, List.flatMap_nil, clientOption_bytes,
    addressOption_bytes, requestPart, List.append_assoc]
  rfl

theorem discoveryOptions_type : messageTypes (discoveryOptions dev) = [1] := rfl

theorem requestOptions_type {ip : Bytes} (h : ip.length = 4) :
    messageTypes (requestOptions dev ip h) = [3] := rfl

theorem requestOptions_ip {ip : Bytes} (h : ip.length = 4) :
    requestedIPs (requestOptions dev ip h) = [ip] := rfl

/-- Options that start with option 53 have its type first. -/
theorem messageTypes_head {options : List DHCPOption} {rest bytes : Bytes} {t : Byte}
    (h : optionBytes options ++ OPTION_END :: rest = [53, 1, t] ++ bytes) :
    (messageTypes options).head? = some t := by
  cases options with
  | nil => exact absurd (List.cons.inj h).1 (by decide)
  | cons o options =>
    cases o with
    | pad => exact absurd (List.cons.inj h).1 (by decide)
    | tlv o =>
      have hbytes : optionBytes (.tlv o :: options) ++ OPTION_END :: rest = o.code ::
          BitVec.ofNat 8 o.value.length :: (o.value ++ (optionBytes options ++ OPTION_END :: rest)) := by
        simp [optionBytes, DHCPOption.bytes]
      obtain ⟨hcode, htail⟩ := List.cons.inj (hbytes.symm.trans h)
      have htype : o.code = DHCP_MSG_TYPE := hcode
      obtain ⟨v, hv⟩ := List.length_eq_one_iff.mp (o.type_length htype)
      have hvalue := (List.cons.inj htail).2
      rw [hv] at hvalue
      rw [← (List.cons.inj hvalue).1, messageTypes, List.filterMap_cons_some (b := v)]
      · rfl
      · show (if o.code = DHCP_MSG_TYPE then o.value.head? else none) = some v
        rw [if_pos htype, hv]
        rfl

/-! ### Runs of discoveries and replies -/

inductive Action where
  | dhcpDiscovery
  | receive (d : Received)

def act : Action → AppM Scope Unit
  | .dhcpDiscovery => dhcpDiscovery dev
  | .receive d => handleData dev d.info

/-- The client after calls and datagrams. -/
def afterActions (actions : List Action) (s : Scope) : Scope := (Prog.runs (act dev) actions s).1

/-- What is broadcast is of the kind its sender is for. -/
def KeepsKind (action : Action) (s : Scope) : Prop :=
  ∀ call ∈ (act dev action s).out,
    match action with
    | .dhcpDiscovery => Discovers call s.this.transaction_id
    | .receive d => Requests call s.this.transaction_id (your_addr d.data)

/-- The static options part is the one a constructor builds. -/
def Untouched (s : Scope) : Prop :=
  s.statics.dhcp_options_part = (constructDHCPOptionsPart dev).toOption

/-- What a client's fields hold: the parts are a constructor's, or the options
those of its last request. -/
structure Client (s : Scope) : Prop where
  first_part : ∃ part, s.statics.dhcp_first_part = some part ∧ part.length = 236 ∧
    slice part 4 4 = intBytes s.this.transaction_id
  options_part : s.statics.dhcp_options_part = some (discoveryPart dev) ∨
    ∃ ip, ip.length = 4 ∧ s.statics.dhcp_options_part = some (requestPart dev ip)

theorem construct_client (nextInt : JInt) (statics : DHCPStatics) :
    ∃ s, construct dev nextInt statics = .ok s ∧ s.this.transaction_id = nextInt ∧
      Client dev s := by
  obtain ⟨part, hpart, hpartLen, hid⟩ := constructDHCPFirstPart_ok dev nextInt
  simp only [construct, hpart, constructDHCPOptionsPart_eq, ok_bind]
  exact ⟨_, rfl, rfl, ⟨part, rfl, hpartLen, hid⟩, .inl rfl⟩

theorem Client.of_quiet {s s' : Scope} (hs : Client dev s) (h : quiet.rel s [] s') : Client dev s' := by
  obtain ⟨hthis, hparts⟩ := Prod.mk.inj h.1
  obtain ⟨hfirst, hoptions⟩ := Prod.mk.inj hparts
  exact ⟨by rw [hthis, hfirst]; exact hs.first_part, by rw [hoptions]; exact hs.options_part⟩

/-- A client that has taken an address from a reply. -/
theorem Client.of_offered {s s' : Scope} (hs : Client dev s) {ip : Bytes}
    (h : quiet.rel (s.offered ip) [] s') : Client dev s' ∧ s'.this.server_supply_ip = some ip ∧
      s'.this.transaction_id = s.this.transaction_id := by
  have hthis : s'.this = (s.offered ip).this := (Prod.mk.inj h.1).1
  refine ⟨Client.of_quiet dev (s := s.offered ip) ⟨hs.first_part, hs.options_part⟩ h, ?_, ?_⟩
  · rw [hthis]
    rfl
  · rw [hthis]
    rfl

theorem Client.options_length {s : Scope} (hs : Client dev s) :
    ∃ options, s.statics.dhcp_options_part = some options ∧ options.length ≤ 74 := by
  rcases hs.options_part with hoptions | ⟨ip, hip, hoptions⟩
  · exact ⟨_, hoptions, by rw [discoveryPart_length]; decide⟩
  · exact ⟨_, hoptions, Nat.le_of_eq (requestPart_length dev hip)⟩

/-- A request is for the address remembered. -/
theorem dhcpRequest_requests {s : Scope} (hs : Client dev s) {ip : Bytes}
    (hip : s.this.server_supply_ip = some ip) (hlen : ip.length = 4) :
    Client dev (dhcpRequest dev s).state ∧
      ∀ call ∈ (dhcpRequest dev s).out, Requests call s.this.transaction_id ip := by
  obtain ⟨part, hpart, hpartLen, hid⟩ := hs.first_part
  obtain ⟨packet, hrun, hdatagram⟩ := dhcpRequest_sends dev hpart hpartLen hip hlen
  rw [requestPart_options dev hlen] at hdatagram
  rw [hrun]
  refine ⟨⟨⟨part, hpart, hpartLen, hid⟩, .inr ⟨ip, hlen, rfl⟩⟩, fun call hcall => ?_⟩
  obtain rfl := List.mem_singleton.mp hcall
  exact ⟨packet, requestOptions dev ip hlen, rfl, ⟨part, _, hpartLen, hid, hdatagram⟩,
    requestOptions_type dev hlen, requestOptions_ip dev hlen⟩

/-- Whatever comes in, what goes out is a request for the address in it. -/
theorem receive_step {s : Scope} (hs : Client dev s) (d : Received) :
    Client dev (act dev (.receive d) s).state ∧ KeepsKind dev (.receive d) s := by
  rcases handleData_cases dev d s with ⟨-, hstate, hout⟩ | ⟨hreply, s1, hquiet, hrest⟩
  · refine ⟨by rw [show (act dev (.receive d) s).state = s from hstate]; exact hs, fun call hcall => ?_⟩
    rw [show (act dev (.receive d) s).out = [] from hout] at hcall
    cases hcall
  obtain ⟨hs1, hip, hid⟩ := Client.of_offered dev hs hquiet
  rcases hrest with ⟨hstate, hout⟩ | ⟨-, hstate, hout⟩
  · refine ⟨by rw [show (act dev (.receive d) s).state = s1 from hstate]; exact hs1,
      fun call hcall => ?_⟩
    rw [show (act dev (.receive d) s).out = [] from hout] at hcall
    cases hcall
  · obtain ⟨hclient, hrequests⟩ := dhcpRequest_requests dev hs1 hip hreply.your_addr_length
    refine ⟨by rw [show (act dev (.receive d) s).state = _ from hstate]; exact hclient,
      fun call hcall => ?_⟩
    rw [show (act dev (.receive d) s).out = _ from hout] at hcall
    have hrequest := hrequests call hcall
    rw [hid] at hrequest
    exact hrequest

/-- A discovery goes out as one if and only if no request has been made since the
options were built. -/
theorem dhcpDiscovery_step {s : Scope} (hs : Client dev s) :
    (act dev .dhcpDiscovery s).state = s ∧ (KeepsKind dev .dhcpDiscovery s ↔ Untouched dev s) := by
  obtain ⟨part, hpart, hpartLen, hid⟩ := hs.first_part
  obtain ⟨options, hoptions, hoptionsLen⟩ := hs.options_length
  obtain ⟨packet, hrun, hdatagram⟩ := dhcpDiscovery_sends dev hpart hpartLen hoptions hoptionsLen
  have hout : (act dev .dhcpDiscovery s).out = [.broadCast (some packet)] := congrArg Outcome.out hrun
  refine ⟨congrArg Outcome.state hrun, ?_⟩
  have huntouched : Untouched dev s ↔ options = discoveryPart dev := by
    rw [Untouched, hoptions, constructDHCPOptionsPart_eq]
    exact Option.some_inj
  rw [huntouched]
  constructor
  · intro hkeeps
    obtain ⟨packet', options', hcall, ⟨first, padding, hfirstLen, -, hmessage⟩, htypes⟩ :=
      hkeeps _ (by rw [hout]; exact List.mem_singleton_self _)
    cases hcall
    -- the two readings of the packet agree on the options
    have hpayload := hdatagram.payload_eq.symm.trans hmessage.payload_eq
    have hsame : options = optionBytes options' ++ OPTION_END :: padding :=
      (List.append_inj hpayload (by simp [hpartLen, hfirstLen])).2
    rcases hs.options_part with hpartEq | ⟨ip, hip, hpartEq⟩
    · exact Option.some.inj (hoptions.symm.trans hpartEq)
    · have hrequest : options = requestPart dev ip := Option.some.inj (hoptions.symm.trans hpartEq)
      have hstarts : optionBytes options' ++ OPTION_END :: padding =
          [53, 1, 3] ++ (requestPart dev ip).drop 3 := hsame.symm.trans hrequest
      have hhead := messageTypes_head hstarts
      rw [htypes] at hhead
      cases hhead
  · rintro rfl call hcall
    rw [hout] at hcall
    obtain rfl := List.mem_singleton.mp hcall
    rw [discoveryPart_options] at hdatagram
    exact ⟨packet, discoveryOptions dev, rfl, ⟨part, _, hpartLen, hid, hdatagram⟩,
      discoveryOptions_type dev⟩

theorem act_client {s : Scope} (hs : Client dev s) (action : Action) :
    Client dev (act dev action s).state := by
  cases action with
  | dhcpDiscovery => rw [(dhcpDiscovery_step dev hs).1]; exact hs
  | receive d => exact (receive_step dev hs d).1

/-- A request leaves its options behind. -/
theorem request_touches {s : Scope} (hs : Client dev s) {d : Received}
    (hsent : (act dev (.receive d) s).out ≠ []) : ¬ Untouched dev (act dev (.receive d) s).state := by
  rcases handleData_cases dev d s with ⟨-, -, hout⟩ | ⟨hreply, s1, hquiet, ⟨-, hout⟩ | ⟨-, hstate, -⟩⟩
  · exact absurd hout hsent
  · exact absurd hout hsent
  obtain ⟨hs1, hip, -⟩ := Client.of_offered dev hs hquiet
  obtain ⟨part, hpart, hpartLen, -⟩ := hs1.first_part
  obtain ⟨packet, hrun, -⟩ := dhcpRequest_sends dev hpart hpartLen hip hreply.your_addr_length
  rw [show (act dev (.receive d) s).state = (dhcpRequest dev s1).state from hstate, hrun, Untouched,
    constructDHCPOptionsPart_eq]
  intro h
  -- the types differ
  have htype := congrArg (fun bytes : Bytes => bytes.getD 2 0) (Option.some.inj h)
  cases htype

/-- In a run from the constructor, whatever the order, every message is of its
sender's kind if and only if every discovery is called while the options are still
those the constructor built. -/
theorem messages_keep_kind_iff (nextInt : JInt) (statics : DHCPStatics) :
    ∃ s, construct dev nextInt statics = .ok s ∧ s.this.transaction_id = nextInt ∧
      ∀ actions : List Action,
        (∀ before action after, actions = before ++ action :: after →
          KeepsKind dev action (afterActions dev before s)) ↔
        ∀ before after, actions = before ++ .dhcpDiscovery :: after →
          Untouched dev (afterActions dev before s) := by
  obtain ⟨s, hs, hid, hclient⟩ := construct_client dev nextInt statics
  have hrun : ∀ actions, Client dev (afterActions dev actions s) := fun actions =>
    Prog.runs_invariant (P := Client dev) (fun action _ _ hs => act_client dev hs action) hclient
  refine ⟨s, hs, hid, fun actions => ⟨fun h before after hsplit => ?_,
    fun h before action after hsplit => ?_⟩⟩
  · exact (dhcpDiscovery_step dev (hrun before)).2.mp (h before _ after hsplit)
  · cases action with
    | dhcpDiscovery => exact (dhcpDiscovery_step dev (hrun before)).2.mpr (h before after hsplit)
    | receive d => exact (receive_step dev (hrun before) d).2

end

/-- Discovery, `OFFER`, discovery: the last goes out as a request. -/
theorem discovery_after_offer : ¬ ∀ (dev : DataLinkLayer) (nextInt : JInt) (s : Scope)
    (actions : List Action), construct dev nextInt initialStatics = .ok s →
      ∀ before action after, actions = before ++ action :: after →
        KeepsKind dev action (afterActions dev before s) := by
  intro h
  obtain ⟨s, hs, -, hclient⟩ := construct_client sampleDevice 7 initialStatics
  obtain ⟨d, hd⟩ : ∃ d : Received, d = ⟨[], (sampleReply DHCP_MSG_OFFER).data⟩ := ⟨_, rfl⟩
  have hconstructed : Constructed s := by
    obtain ⟨part, hpart, hpartLen, -⟩ := hclient.first_part
    exact ⟨⟨part, hpart, hpartLen⟩, hclient.options_length⟩
  have hsent : (act sampleDevice (.receive d) s).out ≠ [] := by
    obtain ⟨s', o, hrun, -, hnext, hout⟩ :=
      handleData_reply sampleDevice hconstructed (sampleReply DHCP_MSG_OFFER)
    have hreceived : act sampleDevice (.receive d) s = ⟨.ok (), s', o⟩ := by
      subst hd
      exact (congrFun (handleData_congr sampleDevice rfl) s).trans hrun
    rw [if_pos (by rw [hnext]; rfl)] at hout
    obtain ⟨packet, rfl, -⟩ := hout
    rw [hreceived]
    exact List.cons_ne_nil _ _
  have htouched := request_touches sampleDevice hclient hsent
  have hkeeps := h sampleDevice 7 s [.dhcpDiscovery, .receive d, .dhcpDiscovery] hs
    [.dhcpDiscovery, .receive d] .dhcpDiscovery [] rfl
  have hafter : afterActions sampleDevice [.dhcpDiscovery, .receive d] s =
      (act sampleDevice (.receive d) s).state := by
    rw [afterActions, Prog.runs_cons, (dhcpDiscovery_step sampleDevice hclient).1]
    rfl
  rw [hafter] at hkeeps
  exact htouched ((dhcpDiscovery_step sampleDevice
    (act_client sampleDevice hclient (.receive d))).2.mp hkeeps)

end TcpIpStack.DHCPApplication
