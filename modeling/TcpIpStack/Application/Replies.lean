import TcpIpStack.Application.TraceRouteRuns
import TcpIpStack.Application.Uses
import TcpIpStack.Protocol.ICMPChain

/-!
# Who gets an ICMP message

A message goes to every receiver, one after the other. All receivers are tracers,
and no message makes a tracer throw, so the round is never cut short. But no
`PingApp` ever registers: a message reaches whom it answers only if it answers
nobody.
-/

namespace TcpIpStack

open TcpIpStack.Java TcpIpStack.Lib
open ICMPProtocolLayer (typeOf SaysExpired)

/-- A table that comes with an ICMP message makes no tracer throw. -/
theorem TraceRoute.handleData_ok (dev : DataLinkLayer) (self : Nat) {info : Info} {src : Bytes}
    (h : info .type = none ∨ SaysExpired info) (hsrc : info .source_ip = some (.bytes src))
    (this : TraceRoute) : (handleData dev self info this).result = .ok () := by
  rcases h with h | h
  · rw [handleData_ignored dev self h]
  have hget : info.getBytes .source_ip = .ok (some src) := Info.getBytes_ok hsrc
  have htype : ¬ (11 : Byte) ≠ ICMP_TIME_EXCEEDED_TYPE := not_not.mpr rfl
  have hcode : ¬ (0 : Byte) ≠ ICMP_TIME_EXCEEDED_CODE := not_not.mpr rfl
  simp only [handleData, h.1, h.2, Obj.asByte, Prog.lift_ok_bind, if_neg htype, if_neg hcode, hget]
  have hthrows := (answer_within dev self (some src) this).2
  cases hresult : (Prog.catching Throwable.isException _ this).result with
  | ok u => rfl
  | error e => exact (hthrows.of_eq hresult).elim

namespace ProtocolManager

open ApplicationManager
open TraceRoute (ICMPFrame handedOver)

section

variable (net : Network) (depth : Nat)

/-- Every tracer of a round gets its delivery. -/
theorem forM_deliver_tracers {info : Info} {src : Bytes}
    (hinfo : info .type = none ∨ SaysExpired info) (hsrc : info .source_ip = some (.bytes src))
    {receivers : List Nat} {s : ProtocolManager ApplicationManager}
    (h : ∀ j ∈ receivers, IsTracer j s.apps) :
    deliveries (receivers.forM (deliver net (appLayer net.dataLinkLayer depth) · info) s).out =
      receivers.map fun j => (j, info) := by
  induction receivers generalizing s with
  | nil => rfl
  | cons j receivers ih =>
    obtain ⟨s', log, hrun, hdeliveries, hkeep⟩ := deliver_tracers net depth j info s
    obtain ⟨this, hthis⟩ := h j List.mem_cons_self
    have hok : (handleData net.dataLinkLayer depth j info s.apps).result = .ok () := by
      rw [handleData_trace_eq net.dataLinkLayer depth hthis, onTrace_run]
      exact TraceRoute.handleData_ok net.dataLinkLayer j hinfo hsrc this
    rw [hok] at hrun
    have hrest : ∀ k ∈ receivers, IsTracer k s'.apps := fun k hk =>
      hkeep k (h k (List.mem_cons_of_mem _ hk))
    rcases Prog.forM_cons_cases (deliver net (appLayer net.dataLinkLayer depth) · info) j receivers s with
      ⟨e, hresult, -⟩ | ⟨-, h⟩
    · rw [hrun] at hresult
      cases hresult
    · rw [h, hrun, deliveries_append, ih hrest]
      exact congrArg ((j, info) :: · ++ _) hdeliveries

/-- The message of a frame, as the ICMP layer gets it. -/
def message (f : ICMPFrame) : Packet := { f.packet with header := f.payload }

/-- A message is delivered to nobody, or its fields are to every receiver. -/
theorem receivePacket_deliveries {s : ProtocolManager ApplicationManager} (hs : Orderly s)
    (f : ICMPFrame) :
    deliveries (receivePacket net (appLayer net.dataLinkLayer depth) (some f.packet) s).out = [] ∨
      ∃ info, ICMPProtocolLayer.handlePacket (message f) = .ok (some info) ∧
        deliveries (receivePacket net (appLayer net.dataLinkLayer depth) (some f.packet) s).out =
          s.icmpPacketReceiverList.map fun j => (j, handedOver f.toIPFrame info) := by
  by_cases haccepted : f.Accepted net.dataLinkLayer
  · rw [(receivePacket_icmp net _ f.frametype_eq f.bytes_eq haccepted f.protocol_eq s).2]
    show deliveries (handleICMPPacket net _ (message f) f.info s).out = [] ∨ ∃ info, _ ∧
      deliveries (handleICMPPacket net _ (message f) f.info s).out = _
    unfold handleICMPPacket
    cases hchain : ICMPProtocolLayer.handlePacket (message f) with
    | error e => exact .inl rfl
    | ok answer =>
    cases answer with
    | none => exact .inl rfl
    | some info =>
    refine .inr ⟨info, rfl, ?_⟩
    have hinfo : handedOver f.toIPFrame info .type = none ∨
        SaysExpired (handedOver f.toIPFrame info) :=
      (ICMPProtocolLayer.handlePacket_returns (message f) _ hchain info rfl).imp_right And.left
    rw [Prog.lift_ok_bind]
    dsimp only
    rw [Prog.read_bind_run]
    exact forM_deliver_tracers net depth hinfo rfl hs.isTracer
  · rw [(receivePacket_dropped net _ f.frametype_eq f.bytes_eq haccepted s).2]
    exact .inl rfl

end

/-- The message answers the application: an echo reply a `PingApp`, a timestamp
reply an `HPingApp`, by the identifier. -/
def Answers (message : Bytes) : App → Prop
  | .ping this =>
    8 ≤ message.length ∧ typeOf message = 0 ∧ shortOf (slice message 4 2) = this.identifier
  | .hping this =>
    20 ≤ message.length ∧ typeOf message = 14 ∧
      shortOf (slice message 4 2) = this.toPingApp.identifier
  | _ => False

/-- The `i`th object is a `PingApp` or an `HPingApp`. -/
def IsPing (i : Nat) (m : ApplicationManager) : Prop :=
  (∃ this, object i m = some (.ping this)) ∨ ∃ this, object i m = some (.hping this)

theorem IsPing.not_isTracer {i : Nat} {m : ApplicationManager} (h : IsPing i m) : ¬ IsTracer i m := by
  rintro ⟨this, hthis⟩
  rcases h with ⟨_, h⟩ | ⟨_, h⟩ <;> cases hthis.symm.trans h

section

variable (net : Network) (depth : Nat)

/-- Among the uses `startPing` was called on the `i`th object. -/
def Started (clock : Clock) (uses : List Use) (i : Nat) : Prop :=
  ∃ before readings after, uses = before ++ .invoke i (.startPing readings) :: after ∧
    IsPing i (used net depth clock before).apps

/-- The frame brings the device an answer for the `i`th object. -/
def Replied (s : ProtocolManager ApplicationManager) (f : ICMPFrame) (i : Nat) : Prop :=
  f.Accepted net.dataLinkLayer ∧ ∃ app, object i s.apps = some app ∧ Answers f.payload app

variable {net depth} in
theorem Replied.isPing {s : ProtocolManager ApplicationManager} {f : ICMPFrame} {i : Nat}
    (h : Replied net s f i) : IsPing i s.apps := by
  obtain ⟨-, app, happ, hanswers⟩ := h
  cases app with
  | ping this => exact .inl ⟨this, happ⟩
  | hping this => exact .inr ⟨this, happ⟩
  | _ => cases hanswers

/-- The message of the frame reaches whom it answers: each started application it
answers gets its fields once, no other ping does, and no receiver that gets it
keeps it from another. -/
structure Reaches (started : Nat → Prop) (s : ProtocolManager ApplicationManager) (f : ICMPFrame) :
    Prop where
  once : ∀ i, started i → Replied net s f i →
    ∃ info, ICMPProtocolLayer.handlePacket (message f) = .ok (some info) ∧
      (deliveries (receivePacket net (appLayer net.dataLinkLayer depth) (some f.packet) s).out).filter
        (·.1 == i) = [(i, handedOver f.toIPFrame info)]
  only : ∀ i, started i → Replied net s f i → ∀ j, j ≠ i → IsPing j s.apps →
    ∀ d ∈ deliveries (receivePacket net (appLayer net.dataLinkLayer depth) (some f.packet) s).out,
      d.1 ≠ j
  everyone : ∀ d ∈
      deliveries (receivePacket net (appLayer net.dataLinkLayer depth) (some f.packet) s).out,
    ∀ j ∈ s.icmpPacketReceiverList,
      (j, d.2) ∈ deliveries (receivePacket net (appLayer net.dataLinkLayer depth) (some f.packet) s).out

variable {net depth}

/-- No ping is ever delivered to. -/
theorem Orderly.not_delivered {s : ProtocolManager ApplicationManager} (hs : Orderly s)
    (f : ICMPFrame) {i : Nat} (hi : IsPing i s.apps) :
    ∀ d ∈ deliveries (receivePacket net (appLayer net.dataLinkLayer depth) (some f.packet) s).out,
      d.1 ≠ i := by
  intro d hd
  rcases receivePacket_deliveries net depth hs f with hnone | ⟨info, -, hall⟩
  · rw [hnone] at hd
    cases hd
  · rw [hall] at hd
    obtain ⟨j, hj, rfl⟩ := List.mem_map.mp hd
    rintro rfl
    exact hi.not_isTracer (hs.isTracer j hj)

theorem Reaches.not_replied {started : Nat → Prop} {s : ProtocolManager ApplicationManager}
    {f : ICMPFrame} (h : Reaches net depth started s f) (hs : Orderly s) {i : Nat} (hi : started i) :
    ¬ Replied net s f i := by
  intro hreplied
  obtain ⟨info, -, hfilter⟩ := h.once i hi hreplied
  have hmem := List.mem_filter.mp (hfilter ▸ List.mem_singleton.mpr rfl :
    (i, handedOver f.toIPFrame info) ∈ List.filter (·.1 == i) _)
  exact hs.not_delivered f hreplied.isPing _ hmem.1 rfl

end

/-- After any uses of the stack, an ICMP message reaches whom it answers if and only
if it answers no started application. -/
theorem reaches_iff_unanswered (net : Network) (depth : Nat) (clock : Clock) (uses : List Use)
    (f : ICMPFrame) :
    Reaches net depth (Started net depth clock uses) (used net depth clock uses) f ↔
      ∀ i, Started net depth clock uses i → ¬ Replied net (used net depth clock uses) f i := by
  have hs := used_orderly net depth clock uses
  refine ⟨fun h i hi => h.not_replied hs hi, fun h => ⟨?_, ?_, ?_⟩⟩
  · exact fun i hi hreplied => absurd hreplied (h i hi)
  · exact fun i hi hreplied => absurd hreplied (h i hi)
  · intro d hd j hj
    rcases receivePacket_deliveries net depth hs f with hnone | ⟨info, -, hall⟩
    · rw [hnone] at hd
      cases hd
    · rw [hall] at hd ⊢
      obtain ⟨_, -, rfl⟩ := List.mem_map.mp hd
      exact List.mem_map.mpr ⟨j, hj, rfl⟩

/-- A `PingApp` of identifier 7 is constructed. -/
def sampleConstruction : Use := .construct (.ping 1 (some [8, 8, 8, 8]) 7)

/-- It is started. -/
def sampleStart : Use := .invoke 0 (.startPing fun _ => ⟨0, 0, 0, 0⟩)

/-- The echo reply to it. -/
def sampleEchoReply : ICMPFrame where
  link := List.replicate 14 0
  link_length := IPProtocolLayer.zeroLink_length
  header := ⟨[0x45, 0, 0, 36, 0, 0, 0, 0, 64, 1, 0, 0] ++ [8, 8, 8, 8] ++ [192, 168, 1, 118],
    by decide, by decide⟩
  body := [0, 0, 0, 0, 0, 7, 0, 0] ++ List.replicate 8 0
  protocol_eq := rfl
  packet := ⟨ETHERTYPE_IP, List.replicate 14 0 ++ ([0x45, 0, 0, 36, 0, 0, 0, 0, 64, 1, 0, 0] ++
    [8, 8, 8, 8] ++ [192, 168, 1, 118]) ++ [0, 0, 0, 0, 0, 7, 0, 0], List.replicate 8 0⟩
  frametype_eq := rfl
  bytes_eq := rfl

/-- Starting a `PingApp` leaves it its identifier. -/
theorem invoke_startPing (net : Network) (depth : Nat) {i : Nat}
    {s : ProtocolManager ApplicationManager} {this : PingApp} (h : object i s.apps = some (.ping this)) (clock : Nat → Clock) :
    ∃ this', object i (step net (appLayer net.dataLinkLayer depth)
      ((Use.invoke i (.startPing clock)).input net.dataLinkLayer) s).state.apps = some (.ping this') ∧
        this'.identifier = this.identifier := by
  obtain ⟨s', log, hrun, hperformed⟩ :=
    runApp_run net (invoke net.dataLinkLayer i (.startPing clock)) s
  have hobeys : Prog.Obeys (.keeps PingApp.identifier) (PingApp.startPing net.dataLinkLayer id
      PingApp.createICMPHeader clock) :=
    PingApp.startPing_obeys (fun _ _ => rfl) (fun _ _ _ => rfl) clock
  have hkeep := hobeys this
  refine ⟨_, ?_, hkeep⟩
  show object i (runApp net (invoke net.dataLinkLayer i (.startPing clock)) s).state.apps = _
  rw [hrun]
  show object i s'.apps = _
  rw [hperformed.apps_eq]
  unfold invoke
  rw [Prog.read_bind_run, show s.apps.app_list[i]? = _ from h]
  exact List.getElem?_set_self (List.getElem?_eq_some_iff.mp h).1

theorem reply_not_delivered : ¬ ∀ (net : Network) (depth : Nat) (clock : Clock) (uses : List Use)
    (f : ICMPFrame), Reaches net depth (Started net depth clock uses) (used net depth clock uses) f := by
  intro h
  have hreaches := h sampleNetwork 0 ⟨0, 0, 0, 0⟩ ([sampleConstruction] ++ [sampleStart]) sampleEchoReply
  have hconstructed : object 0 (used sampleNetwork 0 ⟨0, 0, 0, 0⟩ [sampleConstruction]).apps =
      some (.ping ⟨7, 1, 7, 0, some [8, 8, 8, 8]⟩) := rfl
  obtain ⟨this, hthis, hid⟩ := invoke_startPing sampleNetwork 0 hconstructed fun _ => ⟨0, 0, 0, 0⟩
  have hstarted : Started sampleNetwork 0 ⟨0, 0, 0, 0⟩ ([sampleConstruction] ++ [sampleStart]) 0 :=
    ⟨[sampleConstruction], _, [], rfl, .inl ⟨_, hconstructed⟩⟩
  have happ : object 0
      (used sampleNetwork 0 ⟨0, 0, 0, 0⟩ ([sampleConstruction] ++ [sampleStart])).apps =
        some (.ping this) := by
    rw [used_concat, sampleStart]
    exact hthis
  have hanswers : Answers sampleEchoReply.payload (.ping this) := by
    refine ⟨by decide, by decide, ?_⟩
    rw [hid]
    decide
  have haccepted : sampleEchoReply.Accepted sampleNetwork.dataLinkLayer := by
    unfold IPProtocolLayer.IPFrame.Accepted
    decide
  exact hreaches.not_replied (used_orderly ..) hstarted ⟨haccepted, .ping this, happ, hanswers⟩

end ProtocolManager

end TcpIpStack
