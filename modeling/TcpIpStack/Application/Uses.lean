import TcpIpStack.Application.Conduct
import TcpIpStack.Protocol.ARPCache

/-!
# Uses of the stack

A program constructs objects of the six classes, calls their methods and leaves
the rest to the frames that come in. Whatever it does, the receivers of ICMP
messages are route tracers, each registered once.
-/

namespace TcpIpStack

open TcpIpStack.Java TcpIpStack.Lib
open ProtocolManager (Input register)

namespace ApplicationManager

/-- A method a program calls on an object; `startPing` reads a clock in each round. -/
inductive Method where
  | dhcpDiscovery
  | queryDomain
  | getFile (getBytes : JString → Bytes) (created : Bool) (filename : JString)
  | startPing (clock : Nat → Clock)
  | startTraceRoute

/-- The method on the `i`th object, if its class has it. -/
def invoke (dev : DataLinkLayer) (i : Nat) (method : Method) : AppM ApplicationManager Unit := do
  let m ← Prog.read
  match method, m.app_list[i]? with
  | .dhcpDiscovery, some (.dhcp this) => onDHCP i this (DHCPApplication.dhcpDiscovery dev)
  | .queryDomain, some (.dns this) => onDNS i this (DNSApplication.queryDomain dev)
  | .getFile getBytes created filename, some (.tftp this) =>
    onTFTP i this (TFTPClient.getFile dev getBytes created filename)
  | .startPing clock, some (.ping this) =>
    onPing i this (PingApp.startPing dev id PingApp.createICMPHeader clock)
  | .startPing clock, some (.hping this) =>
    onHPing i this (PingApp.startPing dev HPingApp.toPingApp HPingApp.createICMPHeader clock)
  | .startTraceRoute, some (.trace this) => onTrace i this (TraceRoute.startTraceRoute dev i)
  | _, _ => return ()

/-- The `i`th object is a route tracer. -/
def IsTracer (i : Nat) (m : ApplicationManager) : Prop := ∃ this, object i m = some (.trace this)

/-- An object written back keeps its class. -/
theorem IsTracer.set {i : Nat} {app app' : App} {m m' : ApplicationManager}
    (happ : object i m = some app) (hm' : m'.app_list = m.app_list.set i app')
    (hclass : ∀ this, app = .trace this → ∃ this', app' = .trace this') {j : Nat}
    (h : IsTracer j m) : IsTracer j m' := by
  obtain ⟨this, hthis⟩ := h
  unfold IsTracer object
  rw [hm']
  by_cases hij : i = j
  · subst hij
    obtain ⟨this', rfl⟩ := hclass this (Option.some.inj (happ.symm.trans hthis))
    exact ⟨this', List.getElem?_set_self (List.getElem?_eq_some_iff.mp happ).1⟩
  · exact ⟨this, by rwa [List.getElem?_set_ne hij]⟩

/-- A constructor only adds an object. -/
theorem IsTracer.construct {dev : DataLinkLayer} {m : ApplicationManager} {j : Nat}
    (h : IsTracer j m) (c : Construction) : IsTracer j (construct dev m c) := by
  have hadd : ∀ m' : ApplicationManager, m'.app_list = m.app_list → ∀ app,
      IsTracer j (m'.addApplication app) := by
    intro m' hm' app
    obtain ⟨this, hthis⟩ := h
    refine ⟨this, ?_⟩
    show (m'.app_list ++ [app])[j]? = _
    rw [hm', List.getElem?_append_left (List.getElem?_eq_some_iff.mp hthis).1]
    exact hthis
  cases c <;> unfold ApplicationManager.construct <;> dsimp only <;> try split
  all_goals exact hadd _ rfl _

/-- Tracers stay tracers, and only they are registered. -/
def registering : Prog.Trace ApplicationManager Call where
  rel m calls m' := (∀ j, IsTracer j m → IsTracer j m') ∧
    ∀ j, .registToReceiveICMPPacket j ∈ calls → IsTracer j m'
  refl _ := ⟨fun _ h => h, nofun⟩
  trans h h' := ⟨fun j hj => h'.1 j (h.1 j hj), fun j hj =>
    (List.mem_append.mp hj).elim (fun hj => h'.1 j (h.2 j hj)) (h'.2 j)⟩

section

variable {ρ : Type} {i : Nat} {app : App} {m : ApplicationManager}

/-- A method that registers nobody, on an object that is no tracer. -/
theorem registering.zoom {get : ApplicationManager → ρ} {object' : ρ → App}
    {set : ρ → ApplicationManager → ApplicationManager} {method : AppM ρ Unit} {Q : Throwable → Prop}
    (happ : object i m = some app) (hno : ∀ this, app ≠ .trace this)
    (hset : ∀ r, (set r m).app_list = m.app_list.set i (object' r)) (h : Plain Q method) :
    registering.rel m (Prog.zoom get set method m).out (Prog.zoom get set method m).state :=
  ⟨fun _ => .set happ (hset _) fun this heq => absurd heq (hno this),
    fun j hj => absurd rfl ((h (get m)).1 _ hj j)⟩

/-- A method of a tracer. -/
theorem registering.onTrace {this : TraceRoute} (happ : object i m = some (.trace this))
    {method : AppM TraceRoute Unit} {Q : Throwable → Prop}
    (h : Prog.Within (TraceRoute.RegistersSelf i) Q method) :
    registering.rel m (onTrace i this method m).out (onTrace i this method m).state := by
  have hkeep : ∀ j, IsTracer j m → IsTracer j (ApplicationManager.onTrace i this method m).state :=
    fun j => .set happ rfl fun _ _ => ⟨_, rfl⟩
  refine ⟨hkeep, fun j hj => ?_⟩
  obtain rfl := (h this).1 _ hj j rfl
  exact hkeep j ⟨this, happ⟩

end

section

variable (dev : DataLinkLayer)

theorem handleData_registering (depth i : Nat) (info : Info) :
    Prog.Obeys registering (handleData dev depth i info) := by
  intro m
  unfold handleData
  rw [Prog.read_bind_run]
  cases happ : m.app_list[i]? with
  | none => exact registering.refl m
  | some app =>
  cases app with
  | dhcp this =>
    exact registering.zoom happ nofun (fun _ => rfl) (DHCPApplication.handleData_plain dev info)
  | dns this => exact registering.zoom happ nofun (fun _ => rfl) (DNSApplication.handleData_plain depth info)
  | tftp this =>
    exact registering.zoom happ nofun (fun _ => rfl) (TFTPClient.handleData_plain dev info)
  | ping this => exact registering.zoom happ nofun (fun _ => rfl) (PingApp.handleData_plain m.clock info)
  | hping this => exact registering.zoom happ nofun (fun _ => rfl) (HPingApp.handleData_plain info)
  | trace this => exact registering.onTrace happ (TraceRoute.handleData_within dev i info)

theorem invoke_registering (i : Nat) (method : Method) :
    Prog.Obeys registering (invoke dev i method) := by
  intro m
  unfold invoke
  rw [Prog.read_bind_run]
  cases happ : m.app_list[i]? with
  | none => cases method <;> exact registering.refl m
  | some app =>
  cases method with
  | dhcpDiscovery =>
    cases app with
    | dhcp this =>
      exact registering.zoom happ nofun (fun _ => rfl) (DHCPApplication.dhcpDiscovery_plain dev)
    | _ => exact registering.refl m
  | queryDomain =>
    cases app with
    | dns this => exact registering.zoom happ nofun (fun _ => rfl) (DNSApplication.queryDomain_plain dev)
    | _ => exact registering.refl m
  | getFile getBytes created filename =>
    cases app with
    | tftp this =>
      exact registering.zoom happ nofun (fun _ => rfl)
        (TFTPClient.getFile_plain dev getBytes created filename)
    | _ => exact registering.refl m
  | startPing clock =>
    cases app with
    | ping this =>
      exact registering.zoom happ nofun (fun _ => rfl)
        (PingApp.startPing_plain (fun _ _ => rfl) clock)
    | hping this =>
      exact registering.zoom happ nofun (fun _ => rfl)
        (PingApp.startPing_plain (fun _ _ => rfl) clock)
    | _ => exact registering.refl m
  | startTraceRoute =>
    cases app with
    | trace this => exact registering.onTrace happ (TraceRoute.startTraceRoute_within dev i)
    | _ => exact registering.refl m

end

/-- What happens to the stack: a program's doings, the time, and captured frames. -/
inductive Use where
  | construct (c : Construction)
  | invoke (i : Nat) (method : Method)
  | tick (clock : Clock)
  | receivePacket (packet : Option Packet)

def Use.input (dev : DataLinkLayer) : Use → Input ApplicationManager
  | construct c => .app (Prog.modify fun m => m.construct dev c)
  | invoke i method => .app (ApplicationManager.invoke dev i method)
  | tick clock => .app (Prog.modify fun m => { m with clock })
  | receivePacket packet => .receivePacket packet

end ApplicationManager

open ApplicationManager

namespace ProtocolManager

/-- The receivers are tracers, each registered once. -/
structure Orderly (s : ProtocolManager ApplicationManager) : Prop where
  nodup : s.icmpPacketReceiverList.Nodup
  isTracer : ∀ j ∈ s.icmpPacketReceiverList, IsTracer j s.apps

theorem Orderly.of_eq {s s' : ProtocolManager ApplicationManager} (happs : s'.apps = s.apps)
    (hreceivers : s'.icmpPacketReceiverList = s.icmpPacketReceiverList) (hs : Orderly s) :
    Orderly s' where
  nodup := by rw [hreceivers]; exact hs.nodup
  isTracer := by rw [hreceivers, happs]; exact hs.isTracer

theorem mem_foldl_register {calls : List Call} {receivers : List Nat} {j : Nat}
    (h : j ∈ calls.foldl register receivers) :
    j ∈ receivers ∨ .registToReceiveICMPPacket j ∈ calls := by
  induction calls generalizing receivers with
  | nil => exact .inl h
  | cons call calls ih =>
    rcases ih h with hmem | hmem
    · unfold register at hmem
      split at hmem
      · split at hmem
        · exact .inl hmem
        · rcases List.mem_append.mp hmem with hmem | hmem
          · exact .inl hmem
          · exact .inr (List.mem_singleton.mp hmem ▸ List.mem_cons_self)
      · exact .inl hmem
    · exact .inr (List.mem_cons_of_mem _ hmem)

/-- The runs that keep the receivers in order. -/
def keepsOrder : Prog.Trace (ProtocolManager ApplicationManager) Event where
  rel s _ s' := Orderly s → Orderly s'
  refl _ := id
  trans h h' hs := h' (h hs)

section

variable (net : Network) (depth : Nat)

/-- The calls of an application keep the order if they register tracers only. -/
theorem Performed.orderly {s s' : ProtocolManager ApplicationManager} {m : ApplicationManager}
    {calls : List Call} {log : List Event} (hs : Orderly s)
    (h : Performed calls { s with apps := m } log s') (hm : registering.rel s.apps calls m) :
    Orderly s' := by
  refine ⟨?_, fun j hj => ?_⟩
  · rw [h.receivers_eq]
    exact nodup_foldl_register hs.nodup
  · rw [h.receivers_eq] at hj
    rw [h.apps_eq]
    exact (mem_foldl_register hj).elim (fun hj => hm.1 j (hs.isTracer j hj)) (hm.2 j)

theorem deliver_orderly (j : Nat) (info : Info) :
    Prog.Obeys keepsOrder (deliver net (appLayer net.dataLinkLayer depth) j info) := by
  intro s hs
  obtain ⟨s', log, hrun, hperformed⟩ := deliver_run net (appLayer net.dataLinkLayer depth) j info s
  rw [hrun]
  exact hperformed.orderly hs (handleData_registering net.dataLinkLayer depth j info s.apps)

/-- A delivery leaves tracers what they are. -/
theorem deliver_tracers (j : Nat) (info : Info) (s : ProtocolManager ApplicationManager) :
    ∃ s' log, deliver net (appLayer net.dataLinkLayer depth) j info s =
        ⟨(handleData net.dataLinkLayer depth j info s.apps).result, s', .delivered j info :: log⟩ ∧
      deliveries log = [] ∧ ∀ k, IsTracer k s.apps → IsTracer k s'.apps := by
  obtain ⟨s', log, hrun, hperformed⟩ := deliver_run net (appLayer net.dataLinkLayer depth) j info s
  refine ⟨s', log, hrun, hperformed.deliveries_eq, fun k hk => ?_⟩
  rw [hperformed.apps_eq]
  exact (handleData_registering net.dataLinkLayer depth j info s.apps).1 k hk

theorem runApp_orderly {method : AppM ApplicationManager Unit} (h : Prog.Obeys registering method) :
    Prog.Obeys keepsOrder (runApp net method) := by
  intro s hs
  obtain ⟨s', log, hrun, hperformed⟩ := runApp_run net method s
  rw [hrun]
  exact hperformed.orderly hs (h s.apps)

theorem step_orderly (use : Use) : Prog.Obeys keepsOrder
    (step net (appLayer net.dataLinkLayer depth) (use.input net.dataLinkLayer)) := by
  cases use with
  | construct c => exact runApp_orderly net (.modify fun m => ⟨fun j hj => hj.construct c, nofun⟩)
  | invoke i method => exact runApp_orderly net (invoke_registering net.dataLinkLayer i method)
  | tick clock => exact runApp_orderly net (.modify fun m => ⟨fun j hj => hj, nofun⟩)
  | receivePacket packet =>
    exact receivePacket_obeys net _ (fun s s' => Orderly.of_eq) (fun data mac s => id)
      (deliver_orderly net depth) packet

/-- The stack after some uses. -/
def used (clock : Clock) (uses : List Use) : ProtocolManager ApplicationManager :=
  after net (appLayer net.dataLinkLayer depth) (initial clock)
    (uses.map (Use.input net.dataLinkLayer))

theorem used_nil (clock : Clock) : used net depth clock [] = emptyTables (initial clock) :=
  after_nil ..

/-- The last use. -/
theorem used_concat (clock : Clock) (uses : List Use) (use : Use) :
    used net depth clock (uses ++ [use]) = (step net (appLayer net.dataLinkLayer depth)
      (use.input net.dataLinkLayer) (used net depth clock uses)).state := by
  rw [used, List.map_append]
  exact after_snoc ..

theorem prepareRouterMac_orderly :
    Prog.Obeys keepsOrder (prepareRouterMac net : StackM ApplicationManager Unit) := by
  intro s
  obtain ⟨frame, hrun⟩ := prepareRouterMac_run net s
  rw [hrun]
  exact fun hs => hs

theorem used_orderly (clock : Clock) (uses : List Use) : Orderly (used net depth clock uses) := by
  refine log_obeys net _ _ (T := keepsOrder) (prepareRouterMac_orderly net) (fun input hinput => ?_)
    ⟨List.nodup_nil, nofun⟩
  obtain ⟨use, -, rfl⟩ := List.mem_map.mp hinput
  exact step_orderly net depth use

end

end ProtocolManager

end TcpIpStack
