import Mathlib.Logic.Function.Iterate
import TcpIpStack.Application.ApplicationManager
import TcpIpStack.Protocol.ICMPChain
import TcpIpStack.Protocol.Turns

/-!
# Runs of the route tracer

`TraceRoute` takes every message the time-exceeded handler lets through for an
answer to its last probe: the datagram the message quotes is never compared with
a probe. So a run is at some probe number `k`, whatever was received, and what is
not a time-exceeded message leaves it there.
-/

namespace TcpIpStack

open TcpIpStack.Java TcpIpStack.Lib

namespace ICMPProtocolLayer

/-- A time-exceeded message. -/
def Expired (message : Bytes) : Prop :=
  8 ≤ message.length ∧ message.getD 0 0 = 11 ∧ message.getD 1 0 = 0

/-- A message the time-exceeded handler never sees, or rejects. -/
def Other (message : Bytes) : Prop :=
  message.length < 8 ∨ message.getD 0 0 = 0 ∨ message.getD 0 0 = 14 ∨
    message.getD 0 0 ≠ 11 ∧ message.getD 1 0 ≠ 0

/-- The table says time exceeded. -/
def SaysExpired (info : Info) : Prop :=
  info .type = some (.byte 11) ∧ info .code = some (.byte 0)

/-- An echo reply has no type in its table; nothing else is taken for one. -/
theorem echo_returns (packet : Packet) :
    Returns (ICMPEchoHeader.handlePacket packet) fun r =>
      (∀ info, r = some info → info .type = none) ∧ (r = none → packet.header.getD 0 0 ≠ 0) := by
  unfold ICMPEchoHeader.handlePacket
  refine .bind (ByteBuffer.getAt_returns _ 0) fun type htype => ?_
  split
  · rename_i hne
    exact .ok ⟨nofun, fun _ => htype ▸ hne⟩
  · refine .bind_any fun identifier => .bind_any fun sequence => .ok ⟨?_, nofun⟩
    rintro info ⟨⟩
    split <;> rfl

theorem timestamp_returns (packet : Packet) :
    Returns (ICMPTimeStampHeader.handlePacket packet) fun r =>
      (∀ info, r = some info → info .type = none) ∧ (r = none → packet.header.getD 0 0 ≠ 14) := by
  unfold ICMPTimeStampHeader.handlePacket
  refine .bind (ByteBuffer.getAt_returns _ 0) fun type htype => ?_
  split
  · rename_i hne
    exact .ok ⟨nofun, fun _ => htype ▸ hne⟩
  · refine .bind_any fun _ => .bind_any fun _ => .bind_any fun _ => .bind_any fun _ =>
      .bind_any fun _ => .ok ⟨?_, nofun⟩
    rintro info ⟨⟩
    rfl

/-- One of its two fields is that of a time-exceeded message. -/
theorem timeExceeded_returns (packet : Packet) :
    Returns (ICMPTimeExceededHeader.handlePacket packet) fun r => ∀ info, r = some info →
      SaysExpired info ∧ 8 ≤ packet.header.length ∧
        (packet.header.getD 0 0 = 11 ∨ packet.header.getD 1 0 = 0) := by
  unfold ICMPTimeExceededHeader.handlePacket
  refine .bind (ByteBuffer.getAt_returns _ 0) fun type htype => ?_
  -- the read behind the guard
  extract_lets read
  have hread : ∀ {field : Prop}, field → Returns (read ()) fun r => ∀ info, r = some info →
      SaysExpired info ∧ 8 ≤ packet.header.length ∧ field := by
    intro field hfield
    refine .bind (P := fun _ => 8 ≤ packet.header.length) (fun data hdata => ?_) fun _ hlen =>
      .bind_any fun _ => .bind_any fun _ => .ok ?_
    · unfold newArray at hdata
      split at hdata
      · cases hdata
      · rename_i h
        have : (ICMPTimeExceededHeader.ICMP_TIME_EXCEEDED_DATA_OFFSET : Int) = 8 := rfl
        omega
    · rintro info ⟨⟩
      exact ⟨⟨rfl, rfl⟩, hlen, hfield⟩
  split
  · refine .bind (ByteBuffer.getAt_returns _ 1) fun code hcode => ?_
    split
    · refine .ok ?_
      rintro info ⟨⟩
    · rename_i heq
      exact hread (.inr (by rw [← not_not (a := packet.header.getD 1 0 = 0)]; exact hcode ▸ heq))
  · rename_i heq
    exact hread (.inl (by rw [← not_not (a := packet.header.getD 0 0 = 11)]; exact htype ▸ heq))

/-- Whatever the message, its table has no type or says time exceeded, and the
latter never for another message. -/
theorem handlePacket_returns (packet : Packet) :
    Returns (handlePacket packet) fun r => ∀ info, r = some info →
      info .type = none ∨ SaysExpired info ∧ ¬ Other packet.header := by
  unfold handlePacket firstAnswer
  refine .bind (echo_returns packet) fun echo hecho => ?_
  cases echo with
  | some info => exact .ok fun _ h => .inl (hecho.1 _ h)
  | none =>
  unfold firstAnswer
  refine .bind (timestamp_returns packet) fun timestamp htimestamp => ?_
  cases timestamp with
  | some info => exact .ok fun _ h => .inl (htimestamp.1 _ h)
  | none =>
  unfold firstAnswer
  refine .bind (timeExceeded_returns packet) fun timeExceeded hexceeded => ?_
  cases timeExceeded with
  | none =>
    refine .ok ?_
    rintro info ⟨⟩
  | some info =>
  refine .ok fun _ h => .inr ?_
  obtain ⟨hexp, hlen, hfield⟩ := hexceeded _ h
  refine ⟨hexp, ?_⟩
  rintro (hshort | hzero | hfourteen | ⟨htype, hcode⟩)
  · omega
  · exact hecho.2 rfl hzero
  · exact htimestamp.2 rfl hfourteen
  · exact hfield.elim htype hcode

/-- A time-exceeded message reaches its handler. -/
theorem handlePacket_expired {packet : Packet} (h : Expired packet.header) :
    ∃ info, handlePacket packet = .ok (some info) ∧ SaysExpired info := by
  obtain ⟨hlen, htype, -⟩ := h
  have hget : (ByteBuffer.wrap packet.header).getAt 0 = .ok 11 := by
    rw [getAt_type (show 0 < packet.header.length by omega)]
    exact congrArg Except.ok htype
  have hecho : ICMPEchoHeader.handlePacket packet = .ok none := by
    unfold ICMPEchoHeader.handlePacket
    dsimp only
    rw [hget, ok_bind, if_pos (by decide)]
    rfl
  have htimestamp : ICMPTimeStampHeader.handlePacket packet = .ok none := by
    unfold ICMPTimeStampHeader.handlePacket
    dsimp only
    rw [hget, ok_bind, if_pos (by decide)]
    rfl
  refine ⟨ICMPTimeExceededHeader.info packet, ?_, rfl, rfl⟩
  simp only [handlePacket, firstAnswer, hecho, htimestamp, timeExceeded_eq hlen, ok_bind]
  rw [if_pos (.inl htype)]
  rfl

end ICMPProtocolLayer

namespace TraceRoute

/-- The probe after this one. -/
def advance (this : TraceRoute) : TraceRoute :=
  { this with dest_port := this.dest_port + 1, time_to_live := this.time_to_live + 1 }

section

variable (dev : DataLinkLayer)

/-- The probe of the object: a datagram of 24 zero bytes with its time to live. -/
def IsProbe (this : TraceRoute) (ip p : Bytes) : Prop :=
  ∃ header : IPProtocolLayer.Header,
    p = header.bytes ++ UDPProtocolLayer.datagram (this.port.setWidth 16) this.dest_port
      (List.replicate 24 0) ∧
    header.protocol = 17 ∧ header.source_ip = dev.deviceIPAddress ∧
    header.destination_ip = ip.take 4 ∧ header.time_to_live = this.time_to_live

/-- What goes out with the object's probe: nothing if there is no address to send
it to. -/
inductive Sends (this : TraceRoute) : List (Option Bytes × Option Bytes) → Prop
  | probe {ip p : Bytes} (hip : this.dest_ip = some ip) (hlen : 4 ≤ ip.length)
    (hp : IsProbe dev this ip p) : Sends this [(some p, some ip)]
  | nothing (h : ∀ ip, this.dest_ip = some ip → ip.length < 4) : Sends this []

/-- The UDP part never fails. -/
theorem createPacket_eq (this : TraceRoute) :
    createPacket dev this = (do
      return (← Application.notNull (← createIP4Header dev this 32)) ++
        UDPProtocolLayer.datagram (this.port.setWidth 16) this.dest_port (List.replicate 24 0)) := by
  have hudp : createUDPHeader this = .ok (some (UDPProtocolLayer.datagram (this.port.setWidth 16)
      this.dest_port (List.replicate 24 0))) :=
    UDPProtocolLayer.createHeader_eq ⟨rfl, rfl, rfl⟩ (by decide)
  have h32 : (BitVec.ofNat 32 ((List.replicate 24 (0 : Byte)).length + 8) : JInt) = 32 := by decide
  simp only [createPacket, hudp, ok_bind, Application.packet, Application.notNull,
    UDPProtocolLayer.datagram_length, h32]

theorem createPacket_ok {this : TraceRoute} {ip : Bytes} (hip : this.dest_ip = some ip)
    (hlen : 4 ≤ ip.length) : ∃ p, createPacket dev this = .ok p ∧ IsProbe dev this ip p := by
  have hint : (ByteBuffer.wrap ip).getInt = .ok (intOf (slice ip 0 4), ⟨ip, 4, hlen⟩) := by
    rw [ByteBuffer.wrap, ByteBuffer.getInt_mk, dif_pos (by omega)]
  have hplain : IPProtocolLayer.Plain dev (Info.empty
      |>.put .data_length (.int 32)
      |>.put .destination_ip (.int (intOf (slice ip 0 4)))
      |>.put .protocol (.byte UDPProtocolLayer.PROTOCOL_UDP)
      |>.put .identification (.short (this.port.setWidth 16))
      |>.put .time_to_live (.byte this.time_to_live))
      (intOf dev.deviceIPAddress) (intOf (slice ip 0 4)) UDPProtocolLayer.PROTOCOL_UDP :=
    ⟨rfl, rfl, rfl, rfl, rfl, ⟨0, rfl⟩, ⟨0, rfl⟩, ⟨_, rfl⟩, ⟨0, rfl⟩, ⟨0, rfl⟩, ⟨_, rfl⟩⟩
  obtain ⟨header, hheader, -, -, hproto, hsrc, hdst, httl⟩ := IPProtocolLayer.createHeader_ok hplain rfl
  refine ⟨_, ?_, header, rfl, hproto, ?_, ?_, (Except.ok.inj httl).symm⟩
  · have hip4 : createIP4Header dev this 32 = .ok (some header.bytes) := by
      have hpos : ¬ (32 : JInt).toInt < 0 := by decide
      simp only [createIP4Header, if_neg hpos, hip, Application.notNull, ok_bind, hint, hheader]
    rw [createPacket_eq, hip4]
    rfl
  · rw [hsrc, intBytes_intOf dev.deviceIPAddress_length]
  · rw [hdst, intBytes_intOf (slice_length (by omega)), slice, List.drop_zero]

/-- Without an address of four bytes there is no probe. -/
theorem createPacket_error {this : TraceRoute} (h : ∀ ip, this.dest_ip = some ip → ip.length < 4) :
    ∃ e, createPacket dev this = .error e := by
  have hpos : ¬ (32 : JInt).toInt < 0 := by decide
  have hip4 : ∃ e, createIP4Header dev this 32 = .error e := by
    cases hip : this.dest_ip with
    | none =>
      refine ⟨.nullPointer, ?_⟩
      simp only [createIP4Header, if_neg hpos, hip, Application.notNull]
      rfl
    | some ip =>
      have hint : (ByteBuffer.wrap ip).getInt = .error .bufferUnderflow := by
        have := h ip hip
        rw [ByteBuffer.wrap, ByteBuffer.getInt_mk, dif_neg (by omega)]
      refine ⟨.bufferUnderflow, ?_⟩
      simp only [createIP4Header, if_neg hpos, hip, Application.notNull, ok_bind, hint]
      rfl
  obtain ⟨e, he⟩ := hip4
  refine ⟨e, ?_⟩
  rw [createPacket_eq, he]
  rfl

open ProtocolManager (handedBy reportedBy)

theorem reportedBy_print (report : Report) (calls : List Call) :
    reportedBy (.print report :: calls) = report :: reportedBy calls := rfl

theorem handedBy_print (report : Report) (calls : List Call) :
    handedBy (.print report :: calls) = handedBy calls := rfl

/-- Starting sends the probe, and leaves the object alone. -/
theorem startTraceRoute_run (self : Nat) (this : TraceRoute) :
    (startTraceRoute dev self this).state = this ∧
      Sends dev this (handedBy (startTraceRoute dev self this).out) ∧
      reportedBy (startTraceRoute dev self this).out = [] := by
  unfold startTraceRoute
  rw [Prog.catching_state, Prog.catching_out, Prog.read_bind_run]
  by_cases h : ∃ ip, this.dest_ip = some ip ∧ 4 ≤ ip.length
  · obtain ⟨ip, hip, hlen⟩ := h
    obtain ⟨p, hp, hprobe⟩ := createPacket_ok dev hip hlen
    rw [hp, Prog.lift_ok_bind, hip]
    exact ⟨rfl, .probe hip hlen hprobe, rfl⟩
  · have hshort : ∀ ip, this.dest_ip = some ip → ip.length < 4 := fun ip hip =>
      Nat.lt_of_not_le fun hlen => h ⟨ip, hip, hlen⟩
    obtain ⟨e, he⟩ := createPacket_error dev hshort
    rw [he, Prog.lift_error_bind]
    exact ⟨rfl, .nothing hshort, rfl⟩

/-- What follows a time-exceeded message: a line, the next probe, another start. -/
theorem answered_run (start : AppM TraceRoute Unit) (routerIP : Bytes) (this : TraceRoute) :
    (Prog.emit (Call.print (.router this.time_to_live routerIP)) >>= fun _ =>
      Prog.modify advance >>= fun _ => start : AppM TraceRoute Unit) this =
      ⟨(start (advance this)).result, (start (advance this)).state,
        .print (.router this.time_to_live routerIP) :: (start (advance this)).out⟩ :=
  Prog.bind_run_ok (Prog.emit_run ..) (Prog.modify_bind_run ..)

/-- A table without a type is ignored. -/
theorem handleData_ignored (self : Nat) {info : Info} (h : info .type = none) (this : TraceRoute) :
    handleData dev self info this = ⟨.ok (), this, []⟩ := by
  simp only [handleData, h]
  rfl

/-- The table says time exceeded and has the sender's address. -/
def accepts (info : Info) : Bool :=
  match info .type, info .code, info .source_ip with
  | some (.byte type), some (.byte code), some (.bytes src) =>
    type = ICMP_TIME_EXCEEDED_TYPE && code = ICMP_TIME_EXCEEDED_CODE &&
      (src.length = 4 || src.length = 16)
  | _, _, _ => false

theorem accepts_iff {info : Info} : accepts info = true ↔ ICMPProtocolLayer.SaysExpired info ∧
    ∃ src, info .source_ip = some (.bytes src) ∧ (src.length = 4 ∨ src.length = 16) := by
  unfold accepts ICMPProtocolLayer.SaysExpired ICMP_TIME_EXCEEDED_TYPE ICMP_TIME_EXCEEDED_CODE
  constructor
  · intro h
    split at h
    · rename_i type code src htype hcode hsrc
      simp only [Bool.and_eq_true, Bool.or_eq_true, decide_eq_true_eq] at h
      obtain ⟨⟨rfl, rfl⟩, hlen⟩ := h
      exact ⟨⟨htype, hcode⟩, src, hsrc, hlen⟩
    · cases h
  · rintro ⟨⟨htype, hcode⟩, src, hsrc, hlen⟩
    rw [htype, hcode, hsrc]
    simp [hlen]

theorem getByAddress_eq_ok {addr : Option Bytes} {routerIP : Bytes}
    (h : getByAddress addr = .ok routerIP) :
    addr = some routerIP ∧ (routerIP.length = 4 ∨ routerIP.length = 16) := by
  cases addr with
  | none => cases h
  | some addr =>
    simp only [getByAddress, Application.notNull, ok_bind] at h
    split at h
    · rename_i hlen
      cases h
      exact ⟨rfl, hlen⟩
    · cases h

/-- Time exceeded: the router is reported and the next probe goes out. -/
theorem handleData_accepts (self : Nat) {info : Info} (h : ICMPProtocolLayer.SaysExpired info)
    {src : Bytes} (hsrc : info .source_ip = some (.bytes src))
    (hlen : src.length = 4 ∨ src.length = 16) (this : TraceRoute) :
    (handleData dev self info this).state = advance this ∧
      (handleData dev self info this).out = .print (.router this.time_to_live src) ::
        (startTraceRoute dev self (advance this)).out := by
  have hrouter : getByAddress (some src) = .ok src := by
    simp only [getByAddress, Application.notNull, ok_bind, if_pos hlen]
    rfl
  have hget : info.getBytes .source_ip = .ok (some src) := Info.getBytes_ok hsrc
  have htype : ¬ (11 : Byte) ≠ ICMP_TIME_EXCEEDED_TYPE := not_not.mpr rfl
  have hcode : ¬ (0 : Byte) ≠ ICMP_TIME_EXCEEDED_CODE := not_not.mpr rfl
  obtain ⟨hstart, -⟩ := startTraceRoute_run dev self (advance this)
  simp only [handleData, h.1, h.2, Obj.asByte, Prog.lift_ok_bind, if_neg htype, if_neg hcode, hget]
  rw [Prog.catching_state, Prog.catching_out, hrouter, Prog.lift_ok_bind, Prog.read_bind_run]
  generalize startTraceRoute dev self = start at hstart ⊢
  erw [answered_run]
  exact ⟨hstart, rfl⟩

/-- Any other table leaves the object at its probe. -/
theorem handleData_rejects (self : Nat) {info : Info} (h : accepts info = false)
    (this : TraceRoute) :
    (handleData dev self info this).state = this ∧ (handleData dev self info this).out = [] := by
  have hno := mt accepts_iff.mpr (by rw [h]; decide)
  cases htype : info .type with
  | none =>
    rw [handleData_ignored dev self htype]
    exact ⟨rfl, rfl⟩
  | some type =>
  cases hcode : info .code with
  | none =>
    simp only [handleData, htype, hcode]
    exact ⟨rfl, rfl⟩
  | some code =>
  simp only [handleData, htype, hcode]
  cases htype' : type.asByte with
  | error e => exact ⟨rfl, rfl⟩
  | ok type' =>
  rw [Prog.lift_ok_bind]
  split
  · exact ⟨rfl, rfl⟩
  cases hcode' : code.asByte with
  | error e => exact ⟨rfl, rfl⟩
  | ok code' =>
  rw [Prog.lift_ok_bind]
  split
  · exact ⟨rfl, rfl⟩
  cases hsource : info.getBytes .source_ip with
  | error e => exact ⟨rfl, rfl⟩
  | ok source_ip =>
  rw [Prog.lift_ok_bind, Prog.catching_state, Prog.catching_out]
  cases hrouter : getByAddress source_ip with
  | error e => exact ⟨rfl, rfl⟩
  | ok routerIP =>
  -- nothing is left for the table to be rejected for
  rename_i heleven hzero
  obtain rfl := Obj.asByte_eq_ok htype'
  obtain rfl := Obj.asByte_eq_ok hcode'
  obtain ⟨rfl, hlen⟩ := getByAddress_eq_ok hrouter
  rw [not_not.mp heleven] at htype
  rw [not_not.mp hzero] at hcode
  exact absurd ⟨⟨htype, hcode⟩, routerIP, Info.getBytes_eq_ok hsource, hlen⟩ hno

/-- Time exceeded, from an address as the network layer has it. -/
theorem handleData_expired (self : Nat) {info : Info} (h : ICMPProtocolLayer.SaysExpired info)
    {src : Bytes} (hsrc : info .source_ip = some (.bytes src)) (hlen : src.length = 4)
    (this : TraceRoute) :
    (handleData dev self info this).state = advance this ∧
      Sends dev (advance this) (handedBy (handleData dev self info this).out) ∧
      reportedBy (handleData dev self info this).out = [.router this.time_to_live src] := by
  obtain ⟨hstate, hout⟩ := handleData_accepts dev self h hsrc (.inl hlen) this
  obtain ⟨-, hsends, hreports⟩ := startTraceRoute_run dev self (advance this)
  refine ⟨hstate, ?_, ?_⟩
  · rwa [hout, handedBy_print]
  · rw [hout, reportedBy_print, hreports]

/-- Whatever is handed over, the object stays at its probe or moves to the next. -/
theorem handleData_state (self : Nat) (info : Info) (this : TraceRoute) :
    (handleData dev self info this).state = this ∨
      (handleData dev self info this).state = advance this := by
  cases haccepts : accepts info with
  | false => exact .inl (handleData_rejects dev self haccepts this).1
  | true =>
    obtain ⟨hexpired, src, hsrc, hlen⟩ := accepts_iff.mp haccepts
    exact .inr (handleData_accepts dev self hexpired hsrc hlen this).1

end

end TraceRoute

namespace ApplicationManager

theorem onTrace_run {α : Type} (i : Nat) (this : TraceRoute) (method : AppM TraceRoute α)
    (m : ApplicationManager) : onTrace i this method m =
      ⟨(method this).result, setApp i (.trace (method this).state) m, (method this).out⟩ := rfl

section

variable (dev : DataLinkLayer) (depth : Nat)

/-- Every method writes its own object back. -/
theorem separate_object (i : Nat) : ProtocolManager.Separate (appLayer dev depth) (object i) i := by
  intro j hj info m
  have hset : ∀ app (m' : ApplicationManager), m'.app_list = m.app_list →
      object i (setApp j app m') = object i m := by
    intro app m' hm'
    show (m'.app_list.set j app)[i]? = m.app_list[i]?
    rw [List.getElem?_set_ne hj, hm']
  show object i (handleData dev depth j info m).state = object i m
  unfold handleData
  rw [Prog.read_bind_run]
  cases m.app_list[j]? with
  | none => rfl
  | some app => cases app <;> exact hset _ _ rfl

theorem handleData_trace_eq {i : Nat} {m : ApplicationManager} {this : TraceRoute}
    (h : object i m = some (.trace this)) (info : Info) :
    handleData dev depth i info m = onTrace i this (TraceRoute.handleData dev i info) m := by
  unfold handleData
  rw [Prog.read_bind_run, show m.app_list[i]? = _ from h]

/-- The tracer's own turn is its `handleData`. -/
theorem handleData_trace {i : Nat} {m : ApplicationManager} {this : TraceRoute}
    (h : object i m = some (.trace this)) (info : Info) :
    object i (handleData dev depth i info m).state =
        some (.trace (TraceRoute.handleData dev i info this).state) ∧
      (handleData dev depth i info m).out = (TraceRoute.handleData dev i info this).out := by
  rw [handleData_trace_eq dev depth h, onTrace_run]
  exact ⟨List.getElem?_set_self (List.getElem?_eq_some_iff.mp h).1, rfl⟩

end

end ApplicationManager

namespace TraceRoute

open ProtocolManager ApplicationManager

section

variable (net : Network) (depth : Nat) {i : Nat}

theorem turn_trace {info : Info} {s s' : ProtocolManager ApplicationManager} {log : List Event}
    {this : TraceRoute} (h : object i s.apps = some (.trace this))
    (hturn : Turn (appLayer net.dataLinkLayer depth) (object i) i info s log s') :
    object i s'.apps = some (.trace (handleData net.dataLinkLayer i info this).state) ∧
      handed log = handedBy (handleData net.dataLinkLayer i info this).out ∧
      reports log = reportedBy (handleData net.dataLinkLayer i info this).out := by
  obtain ⟨m, hm, hobject, hhanded, hreports⟩ := hturn.exists_run
  obtain ⟨hstate, hout⟩ := handleData_trace net.dataLinkLayer depth (hm.trans h) info
  exact ⟨hobject.trans hstate, hhanded.trans (congrArg handedBy hout),
    hreports.trans (congrArg reportedBy hout)⟩

/-- What a step left: the object of the tracer, and what the tracer did. -/
structure Left (i : Nat) (this : TraceRoute) (sent : List Handed → Prop) (reported : List Report)
    (r : Outcome Throwable (ProtocolManager ApplicationManager) Event Unit) : Prop where
  object_eq : object i r.state.apps = some (.trace this)
  sent : sent (handed (own i r.out))
  reported_eq : reports (own i r.out) = reported

/-- Nothing changed and nothing was sent. -/
abbrev Stays (i : Nat) (this : TraceRoute) := Left i this (· = []) []

/-- The router was reported and the next probe went out. -/
abbrev Advances (dev : DataLinkLayer) (i : Nat) (this : TraceRoute) (routerIP : Bytes) :=
  Left i (advance this) (Sends dev (advance this)) [.router this.time_to_live routerIP]

theorem Left.of_eq {i : Nat} {this : TraceRoute} {sent : List Handed → Prop} {reported : List Report}
    {r r' : Outcome Throwable (ProtocolManager ApplicationManager) Event Unit}
    (h : r'.state = r.state ∧ r'.out = r.out) (hr : Left i this sent reported r) :
    Left i this sent reported r' := by
  obtain ⟨hstate, hout⟩ := h
  exact ⟨by rw [hstate]; exact hr.object_eq, by rw [hout]; exact hr.sent,
    by rw [hout]; exact hr.reported_eq⟩

/-- The table a receiver is handed with the message of a frame. -/
def handedOver (f : IPProtocolLayer.IPFrame) (info : Info) : Info :=
  fun key => (f.info key).or (info key)

variable {s : ProtocolManager ApplicationManager} {this : TraceRoute}

/-- A turn with a table that has no type. -/
theorem turn_stays {info : Info} (h : object i s.apps = some (.trace this))
    {log : List Event} {s' : ProtocolManager ApplicationManager}
    (hturn : Turn (appLayer net.dataLinkLayer depth) (object i) i info s log s')
    (htype : info .type = none) :
    object i s'.apps = some (.trace this) ∧ handed log = [] ∧ reports log = [] := by
  have hturn := turn_trace net depth h hturn
  rw [handleData_ignored _ i htype] at hturn
  exact hturn

/-- A turn with a table that says time exceeded. -/
theorem turn_advances {f : IPProtocolLayer.IPFrame} {info : Info}
    (h : object i s.apps = some (.trace this)) {log : List Event}
    {s' : ProtocolManager ApplicationManager}
    (hturn : Turn (appLayer net.dataLinkLayer depth) (object i) i (handedOver f info) s log s')
    (hexp : ICMPProtocolLayer.SaysExpired info) :
    object i s'.apps = some (.trace (advance this)) ∧
      Sends net.dataLinkLayer (advance this) (handed log) ∧
      reports log = [.router this.time_to_live f.header.source_ip] := by
  obtain ⟨hobject, hhanded, hreports⟩ := turn_trace net depth h hturn
  have hmin := f.header.min_length
  have hsrc : handedOver f info .source_ip = some (.bytes f.header.source_ip) := rfl
  have hexpiredOver : ICMPProtocolLayer.SaysExpired (handedOver f info) := hexp
  obtain ⟨hstate, hsends, hreported⟩ := handleData_expired net.dataLinkLayer i hexpiredOver hsrc
    (slice_length (by omega)) this
  exact ⟨hobject.trans (by rw [hstate]), by rwa [hhanded], hreports.trans hreported⟩

/-- The round over the receivers with the message of a frame. -/
theorem handleICMPPacket_law (h : object i s.apps = some (.trace this))
    (hnodup : s.icmpPacketReceiverList.Nodup) (packet : Packet) (f : IPProtocolLayer.IPFrame) :
    Stays i this (handleICMPPacket net (appLayer net.dataLinkLayer depth) packet f.info s) ∨
      ¬ ICMPProtocolLayer.Other packet.header ∧
      Advances net.dataLinkLayer i this f.header.source_ip
        (handleICMPPacket net (appLayer net.dataLinkLayer depth) packet f.info s) := by
  have hreturns := ICMPProtocolLayer.handlePacket_returns packet
  unfold handleICMPPacket
  cases hchain : ICMPProtocolLayer.handlePacket packet with
  | error e =>
    rw [Prog.lift_error_bind]
    exact .inl ⟨h, rfl, rfl⟩
  | ok answer =>
  rw [Prog.lift_ok_bind]
  cases answer with
  | none => exact .inl ⟨h, rfl, rfl⟩
  | some info =>
  dsimp only
  rw [Prog.read_bind_run]
  rcases forM_deliver_turn net (separate_object net.dataLinkLayer depth i) (handedOver f info) hnodup
    s false with hidle | ⟨-, hturn⟩
  · refine .inl ⟨hidle.object_eq.trans h, ?_, ?_⟩
    · exact congrArg handed hidle.own_eq
    · exact congrArg reports hidle.own_eq
  · rcases hreturns _ hchain info rfl with htype | ⟨hexp, hother⟩
    · obtain ⟨hobject, hsent, hreported⟩ := turn_stays net depth h hturn htype
      exact .inl ⟨hobject, hsent, hreported⟩
    · obtain ⟨hobject, hsent, hreported⟩ := turn_advances net depth h hturn hexp
      exact .inr ⟨hother, hobject, hsent, hreported⟩

/-- The only receiver is always reached. -/
theorem handleICMPPacket_only (h : object i s.apps = some (.trace this))
    (honly : s.icmpPacketReceiverList = [i]) {packet : Packet} (f : IPProtocolLayer.IPFrame)
    (hexpired : ICMPProtocolLayer.Expired packet.header) :
    Advances net.dataLinkLayer i this f.header.source_ip
      (handleICMPPacket net (appLayer net.dataLinkLayer depth) packet f.info s) := by
  obtain ⟨info, hchain, hexp⟩ := ICMPProtocolLayer.handlePacket_expired hexpired
  have hturn : Turn (appLayer net.dataLinkLayer depth) (object i) i (handedOver f info) s _ _ :=
    forM_deliver_only net (handedOver f info) s false
  unfold handleICMPPacket
  rw [hchain, Prog.lift_ok_bind]
  dsimp only
  rw [Prog.read_bind_run, honly]
  obtain ⟨hobject, hsent, hreported⟩ := turn_advances net depth h hturn hexp
  exact ⟨hobject, hsent, hreported⟩

/-! ## Whole runs -/

/-- The probe number only grows, and no application is registered twice. -/
def onward (i : Nat) : Prog.Trace (ProtocolManager ApplicationManager) Event where
  rel s _ s' := s.icmpPacketReceiverList.Nodup → ∀ this, object i s.apps = some (.trace this) →
    s'.icmpPacketReceiverList.Nodup ∧ ∃ k, object i s'.apps = some (.trace (advance^[k] this))
  refl _ hnodup _ h := ⟨hnodup, 0, h⟩
  trans h h' hnodup this hthis := by
    obtain ⟨hnodup, k, hk⟩ := h hnodup this hthis
    obtain ⟨hnodup, k', hk'⟩ := h' hnodup _ hk
    exact ⟨hnodup, k' + k, by rwa [Function.iterate_add_apply]⟩

/-- A delivery takes the tracer at most one probe further. -/
theorem deliver_onward (j : Nat) (info : Info) :
    Prog.Obeys (onward i) (deliver net (appLayer net.dataLinkLayer depth) j info) := by
  intro s hnodup this h
  obtain ⟨s', log, hrun, hperformed⟩ :=
    deliver_run net (appLayer net.dataLinkLayer depth) j info s
  rw [hrun]
  refine ⟨by rw [hperformed.receivers_eq]; exact nodup_foldl_register hnodup, ?_⟩
  rw [hperformed.apps_eq]
  by_cases hj : j = i
  · subst hj
    obtain ⟨hstate, -⟩ := handleData_trace net.dataLinkLayer depth h info
    rcases handleData_state net.dataLinkLayer j info this with hstays | hadvances
    · exact ⟨0, hstate.trans (by rw [hstays]; rfl)⟩
    · exact ⟨1, hstate.trans (by rw [hadvances]; rfl)⟩
  · exact ⟨0, (separate_object net.dataLinkLayer depth i j hj info s.apps).trans h⟩

theorem receivePacket_onward (packet : Option Packet) :
    Prog.Obeys (onward i) (receivePacket net (appLayer net.dataLinkLayer depth) packet) := by
  have hkeep : ∀ (s s' : ProtocolManager ApplicationManager) (log : List Event), s'.apps = s.apps →
      s'.icmpPacketReceiverList = s.icmpPacketReceiverList → (onward i).rel s log s' :=
    fun s s' log happs hreceivers hnodup this h => ⟨by rwa [hreceivers], 0, by rwa [happs]⟩
  exact receivePacket_obeys net _ (fun s s' => hkeep s s' []) (fun data mac s => hkeep s s _ rfl rfl)
    (deliver_onward net depth) packet

/-- `startTraceRoute` of the `i`th object. -/
def start (i : Nat) (this : TraceRoute) : Input ApplicationManager :=
  .app (onTrace i this (startTraceRoute net.dataLinkLayer i))

/-- The stack after the start and some frames. -/
def started (i : Nat) (this : TraceRoute) (packets : List (Option Packet))
    (s : ProtocolManager ApplicationManager) : ProtocolManager ApplicationManager :=
  (Prog.runs (step net (appLayer net.dataLinkLayer depth))
    (start net i this :: packets.map .receivePacket) s).1

/-- A method of the tracer called from outside. -/
theorem method_run (h : object i s.apps = some (.trace this)) (method : AppM TraceRoute Unit) :
    object i (runApp net (onTrace i this method) s).state.apps =
        some (.trace (method this).state) ∧
      handed (runApp net (onTrace i this method) s).out = handedBy (method this).out ∧
      (runApp net (onTrace i this method) s).state.icmpPacketReceiverList =
        (method this).out.foldl register s.icmpPacketReceiverList := by
  obtain ⟨s', log, hrun, hperformed⟩ := runApp_run net (onTrace i this method) s
  rw [hrun]
  refine ⟨?_, hperformed.handed_eq, hperformed.receivers_eq⟩
  rw [hperformed.apps_eq]
  exact List.getElem?_set_self (List.getElem?_eq_some_iff.mp h).1

theorem started_nil : started net depth i this [] s =
    (step net (appLayer net.dataLinkLayer depth) (start net i this) s).state := by
  rw [started, List.map_nil, Prog.runs_cons, Prog.runs_nil]

/-- The start sends the first probe and leaves the object alone. -/
theorem start_run (h : object i s.apps = some (.trace this)) :
    object i (step net (appLayer net.dataLinkLayer depth) (start net i this) s).state.apps =
        some (.trace this) ∧
      Sends net.dataLinkLayer this
        (handed (step net (appLayer net.dataLinkLayer depth) (start net i this) s).out) ∧
      (step net (appLayer net.dataLinkLayer depth) (start net i this) s).state.icmpPacketReceiverList =
        (startTraceRoute net.dataLinkLayer i this).out.foldl register s.icmpPacketReceiverList := by
  have hstep : step net (appLayer net.dataLinkLayer depth) (start net i this) =
      runApp net (onTrace i this (startTraceRoute net.dataLinkLayer i)) := by rw [start, step]
  rw [hstep]
  obtain ⟨hobject, hhanded, hreceivers⟩ := method_run net h (startTraceRoute net.dataLinkLayer i)
  obtain ⟨hstate, hsends, -⟩ := startTraceRoute_run net.dataLinkLayer i this
  rw [hstate] at hobject
  rw [← hhanded] at hsends
  exact ⟨hobject, hsends, hreceivers⟩

/-- A probe that can be sent registers its object. -/
theorem start_registers {ip : Bytes} (hip : this.dest_ip = some ip) (hlen : 4 ≤ ip.length)
    (receivers : List Nat) : (startTraceRoute net.dataLinkLayer i this).out.foldl register receivers =
      register receivers (.registToReceiveICMPPacket i) := by
  obtain ⟨p, hp, -⟩ := createPacket_ok net.dataLinkLayer hip hlen
  unfold startTraceRoute
  rw [Prog.catching_out, Prog.read_bind_run, hp, Prog.lift_ok_bind]
  rfl

/-- After any frames the object is at some probe. -/
theorem started_onward (hnodup : s.icmpPacketReceiverList.Nodup)
    (h : object i s.apps = some (.trace this)) (packets : List (Option Packet)) :
    (started net depth i this packets s).icmpPacketReceiverList.Nodup ∧
      ∃ k, object i (started net depth i this packets s).apps =
        some (.trace (advance^[k] this)) := by
  obtain ⟨hobject, -, hreceivers⟩ := start_run net depth h
  have hpackets : ∀ input ∈ packets.map Input.receivePacket,
      Prog.Obeys (onward i) (step net (appLayer net.dataLinkLayer depth) input) := by
    intro input hinput
    obtain ⟨packet, -, rfl⟩ := List.mem_map.mp hinput
    exact receivePacket_onward net depth packet
  have hrest := Prog.runs_obeys hpackets
    (step net (appLayer net.dataLinkLayer depth) (start net i this) s).state
  exact hrest (by rw [hreceivers]; exact nodup_foldl_register hnodup) this hobject

/-- A captured ICMP message. -/
structure ICMPFrame extends IPProtocolLayer.IPFrame where
  protocol_eq : header.protocol = 1
  packet : Packet
  frametype_eq : packet.frametype = ETHERTYPE_IP
  bytes_eq : packet.header ++ packet.data = toIPFrame.bytes

/-- What one message does to the tracer. -/
theorem receivePacket_law (hnodup : s.icmpPacketReceiverList.Nodup)
    (h : object i s.apps = some (.trace this)) (f : ICMPFrame) :
    Stays i this (receivePacket net (appLayer net.dataLinkLayer depth) (some f.packet) s) ∨
      (f.Accepted net.dataLinkLayer ∧ ¬ ICMPProtocolLayer.Other f.payload) ∧
      Advances net.dataLinkLayer i this f.header.source_ip
        (receivePacket net (appLayer net.dataLinkLayer depth) (some f.packet) s) := by
  by_cases haccepted : f.Accepted net.dataLinkLayer
  · have hsame := receivePacket_icmp net (appLayer net.dataLinkLayer depth) f.frametype_eq
      f.bytes_eq haccepted f.protocol_eq s
    rcases handleICMPPacket_law net depth h hnodup { f.packet with header := f.payload } f.toIPFrame with
      hstays | ⟨hother, hadvances⟩
    · exact .inl (hstays.of_eq hsame)
    · exact .inr ⟨⟨haccepted, hother⟩, hadvances.of_eq hsame⟩
  · obtain ⟨hstate, hout⟩ := receivePacket_dropped net (appLayer net.dataLinkLayer depth)
      f.frametype_eq f.bytes_eq haccepted s
    exact .inl ⟨by rwa [hstate], by rw [hout]; rfl, by rw [hout]; rfl⟩

/-- A time-exceeded message takes the only receiver to its next probe. -/
theorem receivePacket_advances (h : object i s.apps = some (.trace this))
    (honly : s.icmpPacketReceiverList = [i]) (f : ICMPFrame)
    (haccepted : f.Accepted net.dataLinkLayer) (hexpired : ICMPProtocolLayer.Expired f.payload) :
    Advances net.dataLinkLayer i this f.header.source_ip
      (receivePacket net (appLayer net.dataLinkLayer depth) (some f.packet) s) := by
  have hadvances : Advances net.dataLinkLayer i this f.header.source_ip
      (handleICMPPacket net (appLayer net.dataLinkLayer depth)
        { f.packet with header := f.payload } f.info s) :=
    handleICMPPacket_only net depth h honly f.toIPFrame hexpired
  exact hadvances.of_eq (receivePacket_icmp net (appLayer net.dataLinkLayer depth) f.frametype_eq
    f.bytes_eq haccepted f.protocol_eq s)

/-- A tracer that was started has sent its probe, and is, after any frames, at some
probe `k`; the next ICMP message leaves it there and makes it send nothing, or it
reports the sender and sends probe `k + 1`. The latter happens for no message
without the type and the code of a time-exceeded message and, where the tracer is
the only receiver, for every such message to the device. -/
theorem expired_advances (hnodup : s.icmpPacketReceiverList.Nodup)
    (h : object i s.apps = some (.trace this)) (packets : List (Option Packet)) :
    Sends net.dataLinkLayer this
        (handed (step net (appLayer net.dataLinkLayer depth) (start net i this) s).out) ∧
    ∃ k, object i (started net depth i this packets s).apps = some (.trace (advance^[k] this)) ∧
      ∀ f : ICMPFrame,
        (Stays i (advance^[k] this) (step net (appLayer net.dataLinkLayer depth)
            (.receivePacket (some f.packet)) (started net depth i this packets s)) ∨
          Advances net.dataLinkLayer i (advance^[k] this) f.header.source_ip
            (step net (appLayer net.dataLinkLayer depth) (.receivePacket (some f.packet))
              (started net depth i this packets s))) ∧
        (¬ f.Accepted net.dataLinkLayer ∨ ICMPProtocolLayer.Other f.payload →
          Stays i (advance^[k] this) (step net (appLayer net.dataLinkLayer depth)
            (.receivePacket (some f.packet)) (started net depth i this packets s))) ∧
        (f.Accepted net.dataLinkLayer → ICMPProtocolLayer.Expired f.payload →
          (started net depth i this packets s).icmpPacketReceiverList = [i] →
          Advances net.dataLinkLayer i (advance^[k] this) f.header.source_ip
            (step net (appLayer net.dataLinkLayer depth) (.receivePacket (some f.packet))
              (started net depth i this packets s))) := by
  obtain ⟨hnodup', k, hk⟩ := started_onward net depth hnodup h packets
  refine ⟨(start_run net depth h).2.1, k, hk, fun f => ⟨?_, fun hother => ?_, fun haccepted hexpired honly =>
    receivePacket_advances net depth hk honly f haccepted hexpired⟩⟩
  · exact (receivePacket_law net depth hnodup' hk f).imp_right And.right
  · rcases receivePacket_law net depth hnodup' hk f with hstays | ⟨⟨haccepted, hnot⟩, -⟩
    · exact hstays
    · exact absurd hother (by rintro (hno | hyes) <;> contradiction)

end

/-- The message quotes the addresses and ports of the probe. -/
def Quotes (message p : Bytes) : Prop :=
  slice message 20 8 = slice p 12 8 ∧ slice message 28 4 = slice p 20 4

/-- A tracer of `8.8.8.8`. -/
def sampleTracer : TraceRoute := construct (some [8, 8, 8, 8])

/-- A stack with that tracer and nothing else. -/
def sampleStack : ProtocolManager ApplicationManager :=
  emptyTables ((ApplicationManager.initial ⟨0, 0, 0, 0⟩).construct sampleDevice
    (.trace (some [8, 8, 8, 8])))

/-- Time exceeded, about a datagram whose header is all zeros. -/
def foreignMessage : ICMPFrame where
  link := List.replicate 14 0
  link_length := IPProtocolLayer.zeroLink_length
  header := ⟨[0x45, 0, 0, 56, 0, 0, 0, 0, 64, 1, 0, 0] ++ [192, 168, 1, 1] ++ [192, 168, 1, 118],
    by decide, by decide⟩
  body := [11, 0, 0, 0, 0, 0, 0, 0] ++ List.replicate 28 0
  protocol_eq := rfl
  packet := ⟨ETHERTYPE_IP, List.replicate 14 0 ++ ([0x45, 0, 0, 56, 0, 0, 0, 0, 64, 1, 0, 0] ++
    [192, 168, 1, 1] ++ [192, 168, 1, 118]) ++ ([11, 0, 0, 0, 0, 0, 0, 0] ++ List.replicate 28 0), []⟩
  frametype_eq := rfl
  bytes_eq := rfl

theorem foreignMessage_accepted : foreignMessage.Accepted sampleNetwork.dataLinkLayer := by
  unfold IPProtocolLayer.IPFrame.Accepted
  decide

theorem foreignMessage_expired : ICMPProtocolLayer.Expired foreignMessage.payload := by
  unfold ICMPProtocolLayer.Expired
  decide

theorem sampleStack_started :
    object 0 (started sampleNetwork 0 0 sampleTracer [] sampleStack).apps =
        some (.trace sampleTracer) ∧
      (started sampleNetwork 0 0 sampleTracer [] sampleStack).icmpPacketReceiverList = [0] := by
  have happs : object 0 sampleStack.apps = some (.trace sampleTracer) := rfl
  have hreceivers : sampleStack.icmpPacketReceiverList = [] := rfl
  obtain ⟨hobject, -, hreceivers'⟩ := start_run sampleNetwork 0 happs
  have hdest : sampleTracer.dest_ip = some [8, 8, 8, 8] := rfl
  rw [hreceivers, start_registers sampleNetwork hdest (by decide)] at hreceivers'
  rw [started_nil]
  exact ⟨hobject, hreceivers'⟩

theorem expired_advances_sample : ∃ k, object 0
    (started sampleNetwork 0 0 sampleTracer [] sampleStack).apps =
      some (.trace (advance^[k] sampleTracer)) ∧
    Advances sampleNetwork.dataLinkLayer 0 (advance^[k] sampleTracer) [192, 168, 1, 1]
      (step sampleNetwork (appLayer sampleNetwork.dataLinkLayer 0)
        (.receivePacket (some foreignMessage.packet))
        (started sampleNetwork 0 0 sampleTracer [] sampleStack)) := by
  have htracer : object 0 sampleStack.apps = some (.trace sampleTracer) := rfl
  obtain ⟨-, k, hk, hstep⟩ := expired_advances sampleNetwork 0 List.nodup_nil htracer []
  exact ⟨k, hk, (hstep foreignMessage).2.2 foreignMessage_accepted foreignMessage_expired
    sampleStack_started.2⟩

/-- The tracer advances on a message about a datagram it never sent. -/
theorem foreign_message_advances :
    ¬ ∀ (net : Network) (depth i : Nat) (this this' : TraceRoute)
      (s : ProtocolManager ApplicationManager) (packets : List (Option Packet)) (f : ICMPFrame),
      s.icmpPacketReceiverList.Nodup → object i s.apps = some (.trace this) →
      object i (started net depth i this packets s).apps = some (.trace this') →
      Advances net.dataLinkLayer i this' f.header.source_ip
        (step net (appLayer net.dataLinkLayer depth) (.receivePacket (some f.packet))
          (started net depth i this packets s)) →
      ICMPProtocolLayer.Expired f.payload ∧ ∀ ip p, this'.dest_ip = some ip →
        IsProbe net.dataLinkLayer this' ip p → Quotes f.payload p := by
  intro h
  obtain ⟨hobject, honly⟩ := sampleStack_started
  obtain ⟨-, hquotes⟩ := h sampleNetwork 0 0 sampleTracer sampleTracer sampleStack [] foreignMessage
    List.nodup_nil rfl hobject (receivePacket_advances sampleNetwork 0 hobject honly
      foreignMessage foreignMessage_accepted foreignMessage_expired)
  have hdest : sampleTracer.dest_ip = some [8, 8, 8, 8] := rfl
  obtain ⟨p, -, hprobe⟩ := createPacket_ok sampleNetwork.dataLinkLayer hdest (by decide)
  obtain ⟨haddresses, -⟩ := hquotes _ p rfl hprobe
  -- the probe carries the device's address, the quote zeros
  obtain ⟨header, rfl, -, hsrc, -⟩ := hprobe
  have hmin := header.min_length
  have hsource : (slice (header.bytes ++ UDPProtocolLayer.datagram (sampleTracer.port.setWidth 16)
      sampleTracer.dest_port (List.replicate 24 0)) 12 8).take 4 = header.source_ip := by
    rw [slice_append_left (by omega), slice, List.take_take]
    rfl
  rw [← haddresses, hsrc] at hsource
  exact absurd hsource (by decide)

end TraceRoute

end TcpIpStack
