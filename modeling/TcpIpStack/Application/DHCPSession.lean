import TcpIpStack.Application.DHCPMalformed
import TcpIpStack.Application.Sessions
import TcpIpStack.Application.Transmissions
import TcpIpStack.Protocol.Turns

/-!
# The DHCP client over the stack

What `ProtocolEntry.main` starts: a `DHCPApplication` that asks for an address while
frames come in. After the question for the router it lets out the `DISCOVER` and then
one request for each message that a machine of three states answers (`main_sends`).
-/

namespace TcpIpStack

open TcpIpStack.Java TcpIpStack.Lib
open UDPProtocolLayer (Received)

namespace DHCPApplication

/-! ## The machine -/

/-- The state after a message: a reply's options assign it as far as they are read. -/
def heard (state : DHCPState) (data : Bytes) : DHCPState :=
  if IsReply data then (walked data).types.foldl next state else state

/-- The message is answered: it is a reply whose options are read to their end and leave the
machine requesting. -/
def Answers (state : DHCPState) (data : Bytes) : Prop :=
  IsReply data ∧ (walked data).ended = true ∧ heard state data = .REQUESTING

instance (state : DHCPState) (data : Bytes) : Decidable (Answers state data) :=
  inferInstanceAs (Decidable (_ ∧ _))

/-- Those of the messages that are answered. -/
def answered : DHCPState → List Received → List Received
  | _, [] => []
  | state, d :: datagrams =>
    if Answers state d.data then d :: answered (heard state d.data) datagrams
    else answered (heard state d.data) datagrams

/-! ## The client is the machine -/

section

variable (dev : DataLinkLayer)

/-- A client of the transaction, whose options are the discovery's or those of a request
for an address of which `P` holds. -/
structure Tracks (P : Bytes → Prop) (transaction_id : JInt) (s : Scope) : Prop where
  client : Client dev s
  id_eq : s.this.transaction_id = transaction_id
  options_part : s.statics.dhcp_options_part = some (discoveryPart dev) ∨
    ∃ ip, P ip ∧ ip.length = 4 ∧ s.statics.dhcp_options_part = some (requestPart dev ip)

/-- A `DISCOVER` or a `REQUEST` for an address of which `P` holds. -/
def Asking (P : Bytes → Prop) (transaction_id : JInt) (call : Call) : Prop :=
  Discovers call transaction_id ∨ ∃ ip, P ip ∧ Requests call transaction_id ip

variable {dev} {P : Bytes → Prop} {transaction_id : JInt}

theorem construct_tracks (dev : DataLinkLayer) (P : Bytes → Prop) (nextInt : JInt)
    (statics : DHCPStatics) : ∃ s, construct dev nextInt statics = .ok s ∧ Tracks dev P nextInt s := by
  obtain ⟨part, hpart, hpartLen, hid⟩ := constructDHCPFirstPart_ok dev nextInt
  simp only [construct, hpart, constructDHCPOptionsPart_eq, ok_bind]
  exact ⟨_, rfl, ⟨⟨part, rfl, hpartLen, hid⟩, .inl rfl⟩, rfl, .inl rfl⟩

theorem dhcpDiscovery_tracks : Prog.Keeps (Tracks dev P transaction_id) (Asking P transaction_id)
    (fun _ => True) (dhcpDiscovery dev) := by
  intro s hs
  obtain ⟨part, hpart, hpartLen, hid⟩ := hs.client.first_part
  obtain ⟨options, hoptions, hoptionsLen⟩ := hs.client.options_length
  obtain ⟨packet, hrun, hdatagram⟩ := dhcpDiscovery_sends dev hpart hpartLen hoptions hoptionsLen
  rw [hs.id_eq] at hid
  rw [hrun]
  refine ⟨hs, fun call hcall => ?_, fun _ _ => trivial⟩
  obtain rfl := List.mem_singleton.mp hcall
  rcases hs.options_part with hpartEq | ⟨ip, hP, hlen, hpartEq⟩
  · obtain rfl : options = discoveryPart dev := Option.some.inj (hoptions.symm.trans hpartEq)
    rw [discoveryPart_options] at hdatagram
    exact .inl ⟨packet, discoveryOptions dev, rfl, ⟨part, _, hpartLen, hid, hdatagram⟩,
      discoveryOptions_type dev⟩
  · obtain rfl : options = requestPart dev ip := Option.some.inj (hoptions.symm.trans hpartEq)
    rw [requestPart_options dev hlen] at hdatagram
    exact .inr ⟨ip, hP, packet, requestOptions dev ip hlen, rfl, ⟨part, _, hpartLen, hid, hdatagram⟩,
      requestOptions_type dev hlen, requestOptions_ip dev hlen⟩

/-- A new client's discovery. -/
theorem discovery_discovers {nextInt : JInt} {s : Scope}
    (h : construct dev nextInt initialStatics = .ok s) :
    s.statics.dhcp_current_state = .DISCOVER ∧
      ∃ call, dhcpDiscovery dev s = ⟨.ok (), s, [call]⟩ ∧ Discovers call nextInt := by
  obtain ⟨part, hpart, hpartLen, hid⟩ := constructDHCPFirstPart_ok dev nextInt
  simp only [construct, hpart, constructDHCPOptionsPart_eq, ok_bind] at h
  have hs := (Except.ok.inj h).symm
  have hfirst : s.statics.dhcp_first_part = some part := by rw [hs]
  have hoptions : s.statics.dhcp_options_part = some (discoveryPart dev) := by rw [hs]
  obtain ⟨packet, hrun, hdatagram⟩ := dhcpDiscovery_sends dev hfirst hpartLen hoptions
    (by rw [discoveryPart_length]; decide)
  rw [discoveryPart_options] at hdatagram
  exact ⟨by rw [hs]; rfl, _, hrun, packet, discoveryOptions dev, rfl,
    ⟨part, _, hpartLen, hid, hdatagram⟩, discoveryOptions_type dev⟩

theorem Tracks.replied {s : Scope} (hs : Tracks dev P transaction_id s) (ip : Bytes)
    (state : DHCPState) : Tracks dev P transaction_id ((s.offered ip).assign state) :=
  ⟨⟨hs.client.first_part, hs.client.options_part⟩, hs.id_eq, hs.options_part⟩

/-- The run of a reply that the client reads to its end. -/
theorem handleData_ended {d : Received} (hreply : IsReply d.data)
    (hended : (walked d.data).ended = true) (s : Scope) : handleData dev d.info s =
      trigger_action_by_state dev
        ((s.offered (your_addr d.data)).assign (heard s.statics.dhcp_current_state d.data)) := by
  have h24 : 24 ≤ d.data.length := by
    by_contra hshort
    rw [walked_short (by omega)] at hended
    cases hended
  have hfirst := readFirstPart_reply hreply s
  rw [if_pos h24] at hfirst
  obtain ⟨s1, hs1, hoptions⟩ := readOptions_eq dev d.data (s.offered (your_addr d.data))
  rw [if_pos hended] at hoptions
  rw [handleData_received, heard, if_pos hreply]
  rw [hs1] at hoptions
  exact Prog.bind_run_ok hfirst hoptions

/-- The run of a reply that ends too early. -/
theorem handleData_cut {d : Received} (hreply : IsReply d.data)
    (hcut : ¬ (walked d.data).ended = true) (s : Scope) : ∃ e, handleData dev d.info s = ⟨.error e,
      (s.offered (your_addr d.data)).assign (heard s.statics.dhcp_current_state d.data), []⟩ := by
  have hfirst := readFirstPart_reply hreply s
  rw [handleData_received, heard, if_pos hreply]
  by_cases h24 : 24 ≤ d.data.length
  · rw [if_pos h24] at hfirst
    obtain ⟨s1, hs1, hoptions⟩ := readOptions_eq dev d.data (s.offered (your_addr d.data))
    rw [if_neg hcut, hs1] at hoptions
    obtain ⟨e, he⟩ := hoptions
    exact ⟨e, Prog.bind_run_ok hfirst he⟩
  · rw [if_neg h24] at hfirst
    rw [walked_short (by omega)]
    exact ⟨_, Prog.bind_run_error hfirst⟩

/-- What a datagram makes the client do: it goes to the state the machine goes to, and lets
out the request the machine answers with, if it answers. -/
theorem receive_once {s : Scope} (hs : Tracks dev P transaction_id s) {d : Received}
    (hP : IsReply d.data → P (your_addr d.data)) :
    Tracks dev P transaction_id (handleData dev d.info s).state ∧
      (handleData dev d.info s).state.statics.dhcp_current_state =
        heard s.statics.dhcp_current_state d.data ∧
      if Answers s.statics.dhcp_current_state d.data then
        ∃ call, (handleData dev d.info s).out = [call] ∧
          Requests call transaction_id (your_addr d.data)
      else (handleData dev d.info s).out = [] := by
  by_cases hreply : IsReply d.data
  · have hs1 := hs.replied (your_addr d.data) (heard s.statics.dhcp_current_state d.data)
    by_cases hended : (walked d.data).ended = true
    · rw [handleData_ended hreply hended, trigger_action_by_state_eq, Scope.assign_state]
      by_cases hrequesting : heard s.statics.dhcp_current_state d.data = .REQUESTING
      · rw [if_pos hrequesting, if_pos ⟨hreply, hended, hrequesting⟩]
        obtain ⟨part, hpart, hpartLen, hslice⟩ := hs1.client.first_part
        have hlen := hreply.your_addr_length
        obtain ⟨packet, hrun, hdatagram⟩ := dhcpRequest_sends dev hpart hpartLen rfl hlen
        rw [requestPart_options dev hlen] at hdatagram
        rw [hs1.id_eq] at hslice
        rw [hrun]
        refine ⟨⟨⟨hs1.client.first_part, .inr ⟨_, hlen, rfl⟩⟩, hs1.id_eq,
          .inr ⟨_, hP hreply, hlen, rfl⟩⟩, rfl, _, rfl, packet, requestOptions dev _ hlen, rfl,
          ⟨part, _, hpartLen, hslice, hdatagram⟩, requestOptions_type dev hlen,
          requestOptions_ip dev hlen⟩
      · rw [if_neg hrequesting, if_neg fun h => hrequesting h.2.2]
        exact ⟨hs1, rfl, rfl⟩
    · obtain ⟨e, hrun⟩ := handleData_cut hreply hended s
      rw [hrun, if_neg fun h => hended h.2.1]
      exact ⟨hs1, rfl, rfl⟩
  · obtain ⟨hstate, hout⟩ := handleData_other dev hreply s
    rw [hstate, hout, heard, if_neg hreply, if_neg fun h => hreply h.1]
    exact ⟨hs, rfl, rfl⟩

/-- Datagrams make the client let out a request for each one the machine answers. -/
theorem receive_requests {s : Scope} (hs : Tracks dev P transaction_id s) (datagrams : List Received)
    (hP : ∀ d ∈ datagrams, IsReply d.data → P (your_addr d.data)) :
    List.Forall₂ (fun d call => Requests call transaction_id (your_addr d.data))
      (answered s.statics.dhcp_current_state datagrams) (afterDatagrams dev datagrams s).2 := by
  unfold afterDatagrams
  induction datagrams generalizing s with
  | nil => exact .nil
  | cons d datagrams ih =>
    obtain ⟨hs', hstate, hout⟩ := receive_once hs (hP d List.mem_cons_self)
    have hrest := ih hs' fun d hd => hP d (List.mem_cons_of_mem _ hd)
    rw [hstate] at hrest
    rw [Prog.runs_cons, answered]
    split at hout
    · rename_i hanswers
      obtain ⟨call, hone, hrequest⟩ := hout
      rw [if_pos hanswers, hone]
      exact .cons hrequest hrest
    · rename_i hsilent
      rw [if_neg hsilent, hout]
      exact hrest

end

end DHCPApplication

open ApplicationManager

namespace ProtocolManager

open DHCPApplication

section

variable (net : Network) (depth : Nat) (clock : Clock)

/-- The client has been handed a reply that offers the address. -/
def OfferedIn (actions : List ApplicationManager.Action) (ip : Bytes) : Prop :=
  ∃ d : Received, .deliver 0 d.info ∈ actions ∧ IsReply d.data ∧ ip = your_addr d.data

/-- In any program that constructs one `DHCPApplication`, it lets out nothing but its
`DISCOVER`, and requests for addresses it has been offered. -/
theorem dhcp_client_asks {before after : List Use} {nextInt : JInt}
    (h : Unrivalled .dhcp (before ++ after)) :
    ∀ call ∈ ownCalls net depth clock before after (.dhcp nextInt),
      Asking (OfferedIn (ownActions net depth clock before after (.dhcp nextInt))) nextInt call := by
  obtain ⟨s, r, hs, rfl, -, hcalls⟩ := dhcp_session net depth clock h
  obtain ⟨s', hs', hstart⟩ := construct_tracks net.dataLinkLayer
    (OfferedIn (ownActions net depth clock before after (.dhcp nextInt))) nextInt initialStatics
  obtain rfl := Except.ok.inj (hs'.symm.trans hs)
  rw [hcalls]
  have hdatagrams (info : Info)
      (hinfo : .deliver 0 info ∈ ownActions net depth clock before after (.dhcp nextInt)) :
      ∃ d : Received, info = d.info := own_datagrams net depth clock (k := .dhcp nextInt) nofun hinfo
  refine (Prog.Keeps.runs (fun action haction => ?_) hstart).2
  cases action with
  | construct k => exact .pure trivial
  | tick clock => exact .pure trivial
  | invoke j method =>
    cases j with
    | succ j => exact .pure trivial
    | zero =>
      cases method with
      | dhcpDiscovery => exact dhcpDiscovery_tracks
      | _ => exact .pure trivial
  | deliver j info =>
    cases j with
    | succ j => exact .pure trivial
    | zero =>
      obtain ⟨d, rfl⟩ := hdatagrams info haction
      intro s hs
      obtain ⟨hnext, -, hout⟩ := receive_once hs fun hreply => ⟨d, haction, hreply, rfl⟩
      refine ⟨hnext, fun call hcall => ?_, fun _ _ => trivial⟩
      change call ∈ (DHCPApplication.handleData net.dataLinkLayer d.info s).out at hcall
      split at hout
      · rename_i hanswers
        obtain ⟨call', hone, hrequest⟩ := hout
        rw [hone] at hcall
        obtain rfl := List.mem_singleton.mp hcall
        exact .inr ⟨_, ⟨d, haction, hanswers.1, rfl⟩, hrequest⟩
      · rw [hout] at hcall
        cases hcall

theorem dhcp_client_asks_discovery :
    ∃ call ∈ ownCalls sampleNetwork 0 ⟨0, 0, 0, 0⟩ [] [.invoke 0 .dhcpDiscovery] (.dhcp 7),
      Asking (OfferedIn (ownActions sampleNetwork 0 ⟨0, 0, 0, 0⟩ [] [.invoke 0 .dhcpDiscovery]
        (.dhcp 7))) 7 call := by
  have hcalls : 0 < (ownCalls sampleNetwork 0 ⟨0, 0, 0, 0⟩ [] [.invoke 0 .dhcpDiscovery]
      (.dhcp 7)).length := by decide +kernel
  obtain ⟨call, hcall⟩ := List.exists_mem_of_length_pos hcalls
  refine ⟨call, hcall, dhcp_client_asks sampleNetwork 0 ⟨0, 0, 0, 0⟩ (fun _ k hk => ?_) call hcall⟩
  rcases List.mem_singleton.mp hk

/-- `ProtocolEntry.main`, and the frames that come in. -/
def mainUses (nextInt : JInt) (frames : List (Option Packet)) : List Use :=
  .construct (.dhcp nextInt) :: .invoke 0 .dhcpDiscovery :: frames.map .receivePacket

/-- The frame broadcasts a packet that makes such a call. -/
def Broadcasts (kind : Call → Prop) (frame : Frame) : Prop :=
  frame = ipFrame net broadcast frame.data ∧ kind (.broadCast (some frame.data))

/-- The tables an action delivers to the first object. -/
def toldFirst (action : ApplicationManager.Action) : Option Info :=
  match action with
  | .deliver 0 info => some info
  | _ => none

/-- The datagrams among deliveries to the first object, and what they make a client call. -/
theorem turns_datagrams {actions : List ApplicationManager.Action}
    (hdeliver : ∀ action ∈ actions, ∃ j info, action = .deliver j info)
    (hdatagrams : ∀ info, .deliver 0 info ∈ actions → ∃ d : Received, info = d.info) (s : Scope) :
    ∃ datagrams : List Received,
      datagrams.map Received.info = actions.filterMap toldFirst ∧
      Prog.runs (turnOf (dhcpCall net.dataLinkLayer) (DHCPApplication.handleData net.dataLinkLayer))
        actions s = afterDatagrams net.dataLinkLayer datagrams s := by
  induction actions generalizing s with
  | nil => exact ⟨[], rfl, rfl⟩
  | cons action actions ih =>
    have ih := ih (fun a ha => hdeliver a (List.mem_cons_of_mem _ ha))
      fun info hinfo => hdatagrams info (List.mem_cons_of_mem _ hinfo)
    obtain ⟨j, info, rfl⟩ := hdeliver action List.mem_cons_self
    cases j with
    | succ j =>
      obtain ⟨datagrams, hmap, hruns⟩ := ih s
      exact ⟨datagrams, hmap, hruns⟩
    | zero =>
      obtain ⟨d, rfl⟩ := hdatagrams info List.mem_cons_self
      obtain ⟨datagrams, hmap, hruns⟩ := ih (DHCPApplication.handleData net.dataLinkLayer d.info s).state
      refine ⟨d :: datagrams, congrArg (d.info :: ·) hmap, ?_⟩
      have hturn : turnOf (dhcpCall net.dataLinkLayer) (DHCPApplication.handleData net.dataLinkLayer)
          (.deliver 0 d.info) s = DHCPApplication.handleData net.dataLinkLayer d.info s := rfl
      rw [Prog.runs_cons, hturn, hruns]
      rfl

/-- Frames do nothing but deliveries. -/
theorem actions_frames (frames : List (Option Packet)) (s : ProtocolManager ApplicationManager) :
    ∀ action ∈ actions net depth (frames.map .receivePacket) s, ∃ j info, action = .deliver j info := by
  induction frames generalizing s with
  | nil => exact nofun
  | cons frame frames ih =>
    intro action haction
    rcases List.mem_append.mp haction with h | h
    · obtain ⟨⟨j, info⟩, -, rfl⟩ := List.mem_map.mp h
      exact ⟨j, info, rfl⟩
    · exact ih _ action h

theorem deliveredTo_first (uses : List Use) : deliveredTo 0 (usedLog net depth clock uses) =
    (actions net depth uses (emptyTables (initial clock))).filterMap toldFirst := by
  rw [usedLog, log_eq_cons]
  show deliveredTo 0 (Prog.runs _ _ _).2 = _
  rw [deliveredTo, deliveries_actions, List.filterMap_filterMap]
  refine List.filterMap_congr fun action _ => ?_
  cases action with
  | deliver j info => cases j <;> rfl
  | _ => rfl

/-- The stack when the client has asked and the frames start to come in. -/
def listening (nextInt : JInt) : ProtocolManager ApplicationManager :=
  (step net (appLayer net.dataLinkLayer depth)
    ((Use.invoke 0 .dhcpDiscovery).input net.dataLinkLayer)
    (constructed net depth clock [] (.dhcp nextInt))).state

/-- What the frames then deliver. -/
def told (nextInt : JInt) (frames : List (Option Packet)) : List ApplicationManager.Action :=
  actions net depth (frames.map .receivePacket) (listening net depth clock nextInt)

theorem place_first : place net depth clock [] = 0 := by
  rw [place, used_nil]
  rfl

theorem constructed_first (k : Construction) : constructed net depth clock [] k =
    (step net (appLayer net.dataLinkLayer depth) ((Use.construct k).input net.dataLinkLayer)
      (emptyTables (initial clock))).state := by
  rw [constructed, used_concat, used_nil]

theorem listening_served (nextInt : JInt) : Served 0 (listening net depth clock nextInt) := by
  have hserved := @constructed_served net depth clock [] (.dhcp nextInt) nofun
  rw [place_first] at hserved
  exact step_served net depth (.invoke 0 .dhcpDiscovery) hserved

theorem main_actions (nextInt : JInt) (frames : List (Option Packet)) :
    actions net depth (mainUses nextInt frames) (emptyTables (initial clock)) =
      .construct (.dhcp nextInt) :: .invoke 0 .dhcpDiscovery :: told net depth clock nextInt frames := by
  rw [told, listening, constructed_first]
  rfl

theorem told_plain (nextInt : JInt) (frames : List (Option Packet)) :
    ∀ action ∈ .invoke 0 .dhcpDiscovery :: told net depth clock nextInt frames,
      ∀ k, action ≠ .construct k := by
  intro action haction k
  rcases List.mem_cons.mp haction with rfl | hmem
  · exact nofun
  · obtain ⟨j, info, rfl⟩ := actions_frames net depth frames _ action hmem
    exact nofun

/-- A run that starts with a construction. -/
theorem runs_construct {dev : DataLinkLayer} {depth : Nat} (k : Construction)
    (actions : List ApplicationManager.Action) (m : ApplicationManager) :
    Prog.runs (act dev depth) (.construct k :: actions) m =
      Prog.runs (act dev depth) actions (ApplicationManager.construct dev m k) := by
  rw [Prog.runs_cons]
  rfl

/-- What the program calls, as the client's own run. -/
theorem main_run (nextInt : JInt) (frames : List (Option Packet)) :
    ∃ s datagrams, DHCPApplication.construct net.dataLinkLayer nextInt initialStatics = .ok s ∧
      datagrams.map Received.info = deliveredTo 0 (usedLog net depth clock (mainUses nextInt frames)) ∧
      (Prog.runs (act net.dataLinkLayer depth)
        (actions net depth (mainUses nextInt frames) (emptyTables (initial clock))) (initial clock)).2 =
          (DHCPApplication.dhcpDiscovery net.dataLinkLayer s).out ++
            (afterDatagrams net.dataLinkLayer datagrams
              (DHCPApplication.dhcpDiscovery net.dataLinkLayer s).state).2 := by
  obtain ⟨s, hs, -⟩ := DHCPApplication.construct_client net.dataLinkLayer nextInt initialStatics
  obtain ⟨-, hout⟩ := (dhcpFields net.dataLinkLayer depth).run_all rfl rfl
    (told_plain net depth clock nextInt frames) (construct_onlyDHCP net.dataLinkLayer clock hs)
  obtain ⟨datagrams, hmap, hruns⟩ := turns_datagrams net
    (actions_frames net depth frames (listening net depth clock nextInt))
    (fun info hinfo => actions_datagrams net depth _ (listening_served net depth clock nextInt) hinfo)
    (DHCPApplication.dhcpDiscovery net.dataLinkLayer s).state
  have hturns : (Prog.runs (turnOf (dhcpCall net.dataLinkLayer)
      (DHCPApplication.handleData net.dataLinkLayer))
      (.invoke 0 .dhcpDiscovery :: told net depth clock nextInt frames) s).2 =
        (DHCPApplication.dhcpDiscovery net.dataLinkLayer s).out ++
          (afterDatagrams net.dataLinkLayer datagrams
            (DHCPApplication.dhcpDiscovery net.dataLinkLayer s).state).2 := by
    rw [Prog.runs_cons]
    exact congrArg (_ ++ ·) (congrArg Prod.snd hruns)
  refine ⟨s, datagrams, hs, ?_, ?_⟩
  · rw [deliveredTo_first, main_actions net depth clock]
    exact hmap
  · rw [main_actions net depth clock, runs_construct]
    exact hout.trans hturns

/-- The frames of requests. -/
theorem frames_requests {nextInt : JInt} {replies : List Received} {calls : List Call}
    (h : List.Forall₂ (fun d call => Requests call nextInt (your_addr d.data)) replies calls) :
    handedBy calls = [] ∧
      List.Forall₂ (fun d frame => Broadcasts net (Requests · nextInt (your_addr d.data)) frame)
        replies ((packets calls).map (ipFrame net broadcast)) := by
  induction h with
  | nil => exact ⟨rfl, .nil⟩
  | cons hrequest _ ih =>
    obtain ⟨packet, options, rfl, hmessage⟩ := hrequest
    exact ⟨ih.1, .cons ⟨rfl, packet, options, rfl, hmessage⟩ ih.2⟩

/-- Whatever frames come in, the program transmits the question for the router, a broadcast
that asks for an address, then for each datagram delivered to it that the machine answers,
in their order, a broadcast that asks for the address in it, and nothing else. -/
theorem main_sends (nextInt : JInt) (frames : List (Option Packet)) :
    ∃ discover requests datagrams,
      transmitted (usedLog net depth clock (mainUses nextInt frames)) =
        questionFrame net :: discover :: requests ∧
      Broadcasts net (Discovers · nextInt) discover ∧
      datagrams.map Received.info =
        deliveredTo 0 (usedLog net depth clock (mainUses nextInt frames)) ∧
      List.Forall₂ (fun d frame => Broadcasts net (Requests · nextInt (your_addr d.data)) frame)
        (answered .DISCOVER datagrams) requests := by
  obtain ⟨s, datagrams, hs, hdelivered, hcalls⟩ := main_run net depth clock nextInt frames
  obtain ⟨s', hs', htracks⟩ := construct_tracks net.dataLinkLayer (fun _ => True) nextInt initialStatics
  obtain rfl := Except.ok.inj (hs'.symm.trans hs)
  obtain ⟨hstart, call, hrun, hdiscovers⟩ := discovery_discovers hs
  rw [hrun] at hcalls
  have hrequests := receive_requests htracks datagrams fun _ _ _ => trivial
  rw [hstart] at hrequests
  obtain ⟨hnone, hframes⟩ := frames_requests net hrequests
  obtain ⟨packet, options, rfl, hmessage⟩ := hdiscovers
  have hcarried := used_carried net depth clock (mainUses nextInt frames)
  have hhanded := hcarried.handed_eq.trans (congrArg handedBy hcalls)
  have hemitted := hcarried.emitted_eq.trans (congrArg packets hcalls)
  refine ⟨ipFrame net broadcast packet, _, datagrams, ?_, ⟨rfl, packet, options, rfl, hmessage⟩,
    hdelivered, hframes⟩
  refine (transmitted_unhanded net _ _ _ (hhanded.trans hnone)).trans ?_
  exact congrArg (fun emitted => questionFrame net :: emitted.map (ipFrame net broadcast)) hemitted

end

end ProtocolManager

end TcpIpStack
