import TcpIpStack.Application.Uses
import TcpIpStack.Protocol.ARPCache

/-!
# What happens to the applications

A use of the stack is one action on the applications, or, for a captured frame,
its deliveries. Tables, filters and the router's address decide which deliveries
there are and when packets leave, and nothing else: the applications end as the
actions alone leave them, and the log shows the calls they make on the way
(`applications_act_in_turn`).
-/

namespace TcpIpStack

open TcpIpStack.Java TcpIpStack.Lib

namespace ApplicationManager

inductive Action where
  | construct (c : Construction)
  | invoke (i : Nat) (method : Method)
  | tick (clock : Clock)
  | deliver (i : Nat) (info : Info)

/-- The delivery an action is, if it is one. -/
def Action.delivery : Action → Option (Nat × Info)
  | .deliver i info => some (i, info)
  | _ => none

def act (dev : DataLinkLayer) (depth : Nat) : Action → AppM ApplicationManager Unit
  | .construct c => Prog.modify fun m => m.construct dev c
  | .invoke i method => invoke dev i method
  | .tick clock => Prog.modify fun m => { m with clock }
  | .deliver i info => handleData dev depth i info

end ApplicationManager

open ApplicationManager

namespace ProtocolManager

/-- The deliveries of a log, as actions. -/
def delivered (log : List Event) : List Action :=
  (deliveries log).map fun (i, info) => .deliver i info

theorem delivered_append (log log' : List Event) :
    delivered (log ++ log') = delivered log ++ delivered log' := by
  rw [delivered, deliveries_append, List.map_append]
  rfl

/-- What a use does to the applications; `log` is what it left. -/
def actionsOf (log : List Event) : Use → List Action
  | .construct c => [.construct c]
  | .invoke i method => [.invoke i method]
  | .tick clock => [.tick clock]
  | .receivePacket _ => delivered log

section

variable (net : Network) (depth : Nat)

/-- What uses do to the applications, from a state of the stack on. -/
def actions : List Use → ProtocolManager ApplicationManager → List Action
  | [], _ => []
  | use :: uses, s =>
    let r := step net (appLayer net.dataLinkLayer depth) (use.input net.dataLinkLayer) s
    actionsOf r.out use ++ actions uses r.state

/-- Between the two states the applications did the actions, and the log shows their calls. -/
structure Carried (actions : List Action) (s : ProtocolManager ApplicationManager) (log : List Event)
    (s' : ProtocolManager ApplicationManager) : Prop where
  apps_eq : s'.apps = (Prog.runs (act net.dataLinkLayer depth) actions s.apps).1
  receivers_eq : s'.icmpPacketReceiverList =
    (Prog.runs (act net.dataLinkLayer depth) actions s.apps).2.foldl register s.icmpPacketReceiverList
  handed_eq : handed log = handedBy (Prog.runs (act net.dataLinkLayer depth) actions s.apps).2
  reports_eq : reports log = reportedBy (Prog.runs (act net.dataLinkLayer depth) actions s.apps).2
  emitted_eq : emitted log = packets (Prog.runs (act net.dataLinkLayer depth) actions s.apps).2

variable {net depth}

theorem Carried.nil (s : ProtocolManager ApplicationManager) : Carried net depth [] s [] s :=
  ⟨rfl, rfl, rfl, rfl, rfl⟩

theorem Carried.append {actions actions' : List Action} {log log' : List Event}
    {s s' s'' : ProtocolManager ApplicationManager} (h : Carried net depth actions s log s')
    (h' : Carried net depth actions' s' log' s'') :
    Carried net depth (actions ++ actions') s (log ++ log') s'' := by
  have hruns := Prog.runs_append (act net.dataLinkLayer depth) actions actions' s.apps
  have happs := h.apps_eq
  refine ⟨?_, ?_, ?_, ?_, ?_⟩ <;> rw [hruns] <;> dsimp only <;> rw [← happs]
  · exact h'.apps_eq
  · rw [List.foldl_append, ← h.receivers_eq]
    exact h'.receivers_eq
  · rw [handed_append, h.handed_eq, h'.handed_eq]
    exact List.filterMap_append.symm
  · rw [reports_append, h.reports_eq, h'.reports_eq]
    exact List.filterMap_append.symm
  · rw [emitted_append, h.emitted_eq, h'.emitted_eq]
    exact List.filterMap_append.symm

/-- The calls of one action, carried out. -/
theorem Performed.carried (action : Action) {s s' : ProtocolManager ApplicationManager}
    {log : List Event} (h : Performed (act net.dataLinkLayer depth action s.apps).out
      { s with apps := (act net.dataLinkLayer depth action s.apps).state } log s') :
    Carried net depth [action] s log s' := by
  have hruns : Prog.runs (act net.dataLinkLayer depth) [action] s.apps =
      ((act net.dataLinkLayer depth action s.apps).state,
        (act net.dataLinkLayer depth action s.apps).out) := by
    rw [Prog.runs_cons, Prog.runs_nil, List.append_nil]
  refine ⟨?_, ?_, ?_, ?_, ?_⟩ <;> rw [hruns]
  · exact h.apps_eq
  · exact h.receivers_eq
  · exact h.handed_eq
  · exact h.reports_eq
  · exact h.emitted_eq

variable (net depth)

theorem runApp_carried (action : Action) (s : ProtocolManager ApplicationManager) :
    Carried net depth [action] s (runApp net (act net.dataLinkLayer depth action) s).out
      (runApp net (act net.dataLinkLayer depth action) s).state := by
  obtain ⟨s', log, hrun, hperformed⟩ := runApp_run net (act net.dataLinkLayer depth action) s
  rw [hrun]
  exact hperformed.carried action

/-- The runs that do to the applications what their deliveries do. -/
def delivering : Prog.Trace (ProtocolManager ApplicationManager) Event where
  rel s log s' := Carried net depth (delivered log) s log s'
  refl := Carried.nil
  trans h h' := by
    rw [delivered_append]
    exact h.append h'

theorem deliver_delivering (i : Nat) (info : Info) : Prog.Obeys (delivering net depth)
    (deliver net (appLayer net.dataLinkLayer depth) i info) := by
  intro s
  obtain ⟨s', log, hrun, hperformed⟩ := deliver_run net (appLayer net.dataLinkLayer depth) i info s
  have hdelivered : delivered (.delivered i info :: log) = [.deliver i info] := by
    show .deliver i info :: delivered log = _
    rw [delivered, hperformed.deliveries_eq]
    rfl
  rw [hrun]
  show Carried net depth (delivered (.delivered i info :: log)) s _ s'
  rw [hdelivered]
  have hcarried : Carried net depth [.deliver i info] s log s' :=
    Performed.carried (.deliver i info) hperformed
  exact ⟨hcarried.apps_eq, hcarried.receivers_eq, hcarried.handed_eq, hcarried.reports_eq,
    hcarried.emitted_eq⟩

/-- What one use does to the stack is what its actions do to the applications. -/
theorem step_carried (use : Use) (s : ProtocolManager ApplicationManager) :
    Carried net depth
      (actionsOf (step net (appLayer net.dataLinkLayer depth) (use.input net.dataLinkLayer) s).out use) s
      (step net (appLayer net.dataLinkLayer depth) (use.input net.dataLinkLayer) s).out
      (step net (appLayer net.dataLinkLayer depth) (use.input net.dataLinkLayer) s).state := by
  cases use with
  | construct c => exact runApp_carried net depth (.construct c) s
  | invoke i method => exact runApp_carried net depth (.invoke i method) s
  | tick clock => exact runApp_carried net depth (.tick clock) s
  | receivePacket packet =>
    refine receivePacket_obeys net _ (T := delivering net depth) (fun s s' happs hreceivers => ?_)
      (fun data mac s => ?_) (deliver_delivering net depth) packet s
    · exact ⟨happs, hreceivers, rfl, rfl, rfl⟩
    · have hnone : delivered ((net.dataLinkLayer.sendData data mac ETHERTYPE_IP).map
          (Event.transmit .sendWaitingData)) = [] := by
        rw [delivered, deliveries_transmit]
        rfl
      show Carried net depth (delivered ((net.dataLinkLayer.sendData data mac ETHERTYPE_IP).map _)) s _ s
      rw [hnone]
      exact ⟨rfl, rfl, handed_transmit .., reports_transmit .., emitted_transmit ..⟩

theorem uses_carried (uses : List Use) (s : ProtocolManager ApplicationManager) :
    Carried net depth (actions net depth uses s) s
      (Prog.runs (step net (appLayer net.dataLinkLayer depth))
        (uses.map (Use.input net.dataLinkLayer)) s).2
      (Prog.runs (step net (appLayer net.dataLinkLayer depth))
        (uses.map (Use.input net.dataLinkLayer)) s).1 := by
  induction uses generalizing s with
  | nil => exact Carried.nil s
  | cons use uses ih =>
    rw [List.map_cons, Prog.runs_cons]
    exact (step_carried net depth use s).append (ih _)

/-- The deliveries among actions are those of the log. -/
theorem deliveries_actions (uses : List Use) (s : ProtocolManager ApplicationManager) :
    deliveries (Prog.runs (step net (appLayer net.dataLinkLayer depth))
      (uses.map (Use.input net.dataLinkLayer)) s).2 =
      (actions net depth uses s).filterMap Action.delivery := by
  induction uses generalizing s with
  | nil => rfl
  | cons use uses ih =>
    rw [List.map_cons, Prog.runs_cons, deliveries_append, ih, actions, List.filterMap_append]
    congr 1
    have hquiet : ∀ action, deliveries (runApp net (act net.dataLinkLayer depth action) s).out = [] := by
      intro action
      obtain ⟨s', log, hrun, hperformed⟩ := runApp_run net (act net.dataLinkLayer depth action) s
      rw [hrun]
      exact hperformed.deliveries_eq
    cases use with
    | construct k => exact hquiet (.construct k)
    | invoke i method => exact hquiet (.invoke i method)
    | tick clock => exact hquiet (.tick clock)
    | receivePacket packet =>
      show _ = (delivered _).filterMap Action.delivery
      rw [delivered, List.filterMap_map]
      exact List.filterMap_some.symm

/-- The log of a program that uses the stack. -/
def usedLog (clock : Clock) (uses : List Use) : List Event :=
  log net (appLayer net.dataLinkLayer depth) (initial clock) (uses.map (Use.input net.dataLinkLayer))

/-- The question of `getInstance` is no action. -/
theorem getInstance_carried (objects : ApplicationManager) :
    Carried net depth [] (emptyTables objects) (getInstance net objects).out (emptyTables objects) := by
  obtain ⟨frame, hrun⟩ := getInstance_run net objects
  rw [hrun]
  exact ⟨rfl, rfl, rfl, rfl, rfl⟩

theorem used_carried (clock : Clock) (uses : List Use) :
    Carried net depth (actions net depth uses (emptyTables (initial clock)))
      (emptyTables (initial clock)) (usedLog net depth clock uses) (used net depth clock uses) := by
  have hcarried := uses_carried net depth uses (emptyTables (initial clock))
  rw [usedLog, log, used, after, getInstance_state]
  exact (getInstance_carried net depth (initial clock)).append hcarried

end

end ProtocolManager

end TcpIpStack
