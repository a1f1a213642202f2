import TcpIpStack.Application.Actions
import TcpIpStack.Java.Charset
import TcpIpStack.Lib.Component

/-!
# An application among the others

The objects share a list, the receivers and the card. Still each of them does what
it would do alone in the stack, on its own calls and deliveries: no other object
reaches its fields, and the static fields only one of its class does
(`object_runs_alone`).
-/

namespace TcpIpStack

open TcpIpStack.Java TcpIpStack.Lib

inductive AppClass where
  | dhcp | dns | tftp | ping | hping | trace
  deriving DecidableEq

def App.getClass : App → AppClass
  | dhcp _ => .dhcp
  | dns _ => .dns
  | tftp _ => .tftp
  | ping _ => .ping
  | hping _ => .hping
  | trace _ => .trace

def Construction.getClass : Construction → AppClass
  | dhcp .. => .dhcp
  | dns .. => .dns
  | tftp .. => .tftp
  | ping .. => .ping
  | hping .. => .hping
  | trace .. => .trace

/-- The classes whose static fields change. -/
def AppClass.Shared (c : AppClass) : Prop := c = .dhcp ∨ c = .tftp

namespace ApplicationManager

/-- The `i`th object is the only one of its class. -/
def Sole (i : Nat) (c : AppClass) (m : ApplicationManager) : Prop :=
  ∀ j app, object j m = some app → app.getClass = c → j = i

/-- In `b` the `i`th object of `m` is alone, of the class `c` and with its static fields. -/
structure Seated (c : AppClass) (i : Nat) (m b : ApplicationManager) : Prop where
  single : b.app_list.length = 1
  object_eq : object i m = object 0 b
  class_eq : ∀ app, object i m = some app → app.getClass = c
  clock_eq : m.clock = b.clock
  sole : c.Shared → Sole i c m
  dhcpStatics_eq : c = .dhcp → m.dhcpStatics = b.dhcpStatics
  tftpStatics_eq : c = .tftp → m.tftpStatics = b.tftpStatics

/-- A registration, as it reads if the object is alone. -/
def asAlone : Call → Call
  | .registToReceiveICMPPacket _ => .registToReceiveICMPPacket 0
  | call => call

theorem asAlone_plain (call : Call) (h : call.Plain) : asAlone call = call := by
  cases call with
  | registToReceiveICMPPacket receiver => exact absurd rfl (h receiver)
  | _ => rfl

/-- What an action means for the `i`th object alone. -/
def addressedTo (i : Nat) : Action → Option Action
  | .construct _ => none
  | .invoke j method => if j = i then some (.invoke 0 method) else none
  | .tick clock => some (.tick clock)
  | .deliver j info => if j = i then some (.deliver 0 info) else none

/-- The action constructs no rival for the static fields of the class. -/
def Respects (c : AppClass) : Action → Prop
  | .construct c' => c.Shared → c'.getClass ≠ c
  | _ => True

section

variable {c : AppClass} {i j : Nat} {m m' b b' : ApplicationManager} {app app' : App}

theorem object_set_self (h : object i m = some app) (hm' : m'.app_list = m.app_list.set i app') :
    object i m' = some app' := by
  unfold object
  rw [hm']
  exact List.getElem?_set_self (List.getElem?_eq_some_iff.mp h).1

theorem object_set_ne (hij : i ≠ j) (hm' : m'.app_list = m.app_list.set i app') :
    object j m' = object j m := by
  unfold object
  rw [hm']
  exact List.getElem?_set_ne hij

/-- An object written back in its class leaves the classes of all. -/
theorem exists_class (h : object i m = some app) (hclass : app'.getClass = app.getClass)
    (hm' : m'.app_list = m.app_list.set i app') {k : Nat} {app'' : App}
    (hk : object k m' = some app'') : ∃ old, object k m = some old ∧ old.getClass = app''.getClass := by
  by_cases hik : i = k
  · subst hik
    obtain rfl := Option.some.inj ((object_set_self h hm').symm.trans hk)
    exact ⟨app, h, hclass.symm⟩
  · rw [object_set_ne hik hm'] at hk
    exact ⟨app'', hk, rfl⟩

/-- The object and the static fields of its class were written in both. -/
theorem Seated.set (h : Seated c i m b) (happ : object i m = some app)
    (hclass : app'.getClass = app.getClass) (hm' : m'.app_list = m.app_list.set i app')
    (hb' : b'.app_list = b.app_list.set 0 app') (hclock : m'.clock = b'.clock)
    (hdhcp : c = .dhcp → m'.dhcpStatics = b'.dhcpStatics)
    (htftp : c = .tftp → m'.tftpStatics = b'.tftpStatics) : Seated c i m' b' where
  single := by rw [hb', List.length_set, h.single]
  object_eq := by
    rw [object_set_self happ hm', object_set_self (h.object_eq.symm.trans happ) hb']
  class_eq := by
    intro app'' happ''
    obtain ⟨old, hold, hsame⟩ := exists_class happ hclass hm' happ''
    exact hsame.symm.trans (h.class_eq old hold)
  clock_eq := hclock
  sole := by
    intro hshared k app'' hk hkc
    obtain ⟨old, hold, hsame⟩ := exists_class happ hclass hm' hk
    exact h.sole hshared k old hold (hsame.trans hkc)
  dhcpStatics_eq := hdhcp
  tftpStatics_eq := htftp

/-- At most the `j`th object was written, and the static fields of its class. -/
inductive Wrote (j : Nat) (m : ApplicationManager) : ApplicationManager → Prop
  | nothing : Wrote j m m
  | object {app app' : App} {m' : ApplicationManager} (happ : object j m = some app)
      (hclass : app'.getClass = app.getClass) (hm' : m'.app_list = m.app_list.set j app')
      (hclock : m'.clock = m.clock) (hdhcp : app.getClass ≠ .dhcp → m'.dhcpStatics = m.dhcpStatics)
      (htftp : app.getClass ≠ .tftp → m'.tftpStatics = m.tftpStatics) : Wrote j m m'

theorem Seated.other (h : Seated c i m b) (hij : j ≠ i) (hwrote : Wrote j m m') : Seated c i m' b := by
  cases hwrote with
  | nothing => exact h
  | object happ hclass hm' hclock hdhcp htftp =>
  refine ⟨h.single, by rw [object_set_ne hij hm', h.object_eq], ?_, hclock.trans h.clock_eq, ?_, ?_, ?_⟩
  · rw [object_set_ne hij hm']
    exact h.class_eq
  · intro hshared k app'' hk hkc
    obtain ⟨old, hold, hsame⟩ := exists_class happ hclass hm' hk
    exact h.sole hshared k old hold (hsame.trans hkc)
  · rintro rfl
    rw [hdhcp fun heq => hij (h.sole (.inl rfl) j _ happ heq), h.dhcpStatics_eq rfl]
  · rintro rfl
    rw [htftp fun heq => hij (h.sole (.inr rfl) j _ happ heq), h.tftpStatics_eq rfl]

/-- An object was added that does not share the static fields. -/
theorem Seated.add (h : Seated c i m b) (hclass : c.Shared → app'.getClass ≠ c) (hm' : m'.app_list = m.app_list ++ [app'])
    (hclock : m'.clock = m.clock) (hdhcp : c = .dhcp → m'.dhcpStatics = m.dhcpStatics)
    (htftp : c = .tftp → m'.tftpStatics = m.tftpStatics) : Seated c i m' b := by
  have hsome : object 0 b = some (b.app_list.get ⟨0, by rw [h.single]; exact Nat.one_pos⟩) :=
    List.getElem?_eq_getElem _
  have hi : i < m.app_list.length := (List.getElem?_eq_some_iff.mp (h.object_eq.trans hsome)).1
  have hobject : object i m' = object i m := by
    unfold object
    rw [hm']
    exact List.getElem?_append_left hi
  refine ⟨h.single, hobject.trans h.object_eq, by rw [hobject]; exact h.class_eq,
    hclock.trans h.clock_eq, ?_, fun hc => (hdhcp hc).trans (h.dhcpStatics_eq hc),
    fun hc => (htftp hc).trans (h.tftpStatics_eq hc)⟩
  intro hshared k app'' hk hkc
  unfold object at hk
  rw [hm', List.getElem?_append] at hk
  split at hk
  · exact h.sole hshared k app'' hk hkc
  · obtain rfl := List.mem_singleton.mp (List.mem_of_getElem? hk)
    exact absurd hkc (hclass hshared)

/-! ### Methods -/

section

variable {ρ : Type} {method method' : AppM ρ Unit}

/-- A method on the fields of the object alone, in both. -/
theorem Seated.own (h : Seated c i m b) {this : ρ} {wrap : ρ → App} (happ : object i m = some (wrap this))
    (hclass : ∀ r, (wrap r).getClass = (wrap this).getClass) (hshared : ¬ c.Shared)
    (hm : Prog.Renames asAlone method method') :
    Seated c i (Prog.zoom (fun _ => this) (fun r => setApp i (wrap r)) method m).state
        (Prog.zoom (fun _ => this) (fun r => setApp 0 (wrap r)) method' b).state ∧
      (Prog.zoom (fun _ => this) (fun r => setApp i (wrap r)) method m).out.map asAlone =
        (Prog.zoom (fun _ => this) (fun r => setApp 0 (wrap r)) method' b).out := by
  obtain ⟨-, hstate, hout⟩ := hm this
  refine ⟨?_, hout⟩
  refine h.set happ (hclass _) rfl ?_ h.clock_eq (fun hc => absurd (.inl hc) hshared)
    fun hc => absurd (.inr hc) hshared
  rw [hstate]
  rfl

end

/-- A method on the fields of an object alone. -/
theorem Wrote.own {ρ : Type} {this : ρ} {wrap : ρ → App} (happ : ApplicationManager.object j m = some (wrap this))
    (hclass : ∀ r, (wrap r).getClass = (wrap this).getClass) (method : AppM ρ Unit) :
    Wrote j m (Prog.zoom (fun _ => this) (fun r => setApp j (wrap r)) method m).state :=
  .object happ (hclass _) rfl rfl (fun _ => rfl) fun _ => rfl

theorem Wrote.onDHCP {this : DHCPApplication} (happ : ApplicationManager.object j m = some (.dhcp this))
    (method : AppM DHCPApplication.Scope Unit) :
    Wrote j m (ApplicationManager.onDHCP j this method m).state := by
  refine .object happ ?_ rfl rfl (fun hne => absurd rfl hne) fun _ => rfl
  rfl

theorem Wrote.onTFTP {this : TFTPClient} (happ : ApplicationManager.object j m = some (.tftp this))
    (method : AppM TFTPClient.Scope Unit) :
    Wrote j m (ApplicationManager.onTFTP j this method m).state := by
  refine .object happ ?_ rfl rfl (fun _ => rfl) fun hne => absurd rfl hne
  rfl

/-- A method on the fields of the object and the static ones. -/
theorem Seated.onDHCP (h : Seated .dhcp i m b) {this : DHCPApplication}
    (happ : object i m = some (.dhcp this)) {method : AppM DHCPApplication.Scope Unit}
    {Q : Throwable → Prop} (hm : Plain Q method) :
    Seated .dhcp i (onDHCP i this method m).state (onDHCP 0 this method b).state ∧
      (onDHCP i this method m).out.map asAlone = (onDHCP 0 this method b).out := by
  have hstatics := h.dhcpStatics_eq rfl
  obtain ⟨-, -, hout⟩ := Prog.Renames.of_within hm asAlone_plain ⟨b.dhcpStatics, this⟩
  unfold ApplicationManager.onDHCP Prog.zoom
  dsimp only
  rw [hstatics]
  refine ⟨h.set happ ?_ rfl rfl h.clock_eq (fun _ => rfl) nofun, hout⟩
  rfl

theorem Seated.onTFTP (h : Seated .tftp i m b) {this : TFTPClient}
    (happ : object i m = some (.tftp this)) {method : AppM TFTPClient.Scope Unit}
    {Q : Throwable → Prop} (hm : Plain Q method) :
    Seated .tftp i (onTFTP i this method m).state (onTFTP 0 this method b).state ∧
      (onTFTP i this method m).out.map asAlone = (onTFTP 0 this method b).out := by
  have hstatics := h.tftpStatics_eq rfl
  obtain ⟨-, -, hout⟩ := Prog.Renames.of_within hm asAlone_plain ⟨b.tftpStatics, this⟩
  unfold ApplicationManager.onTFTP Prog.zoom
  dsimp only
  rw [hstatics]
  refine ⟨h.set happ ?_ rfl rfl h.clock_eq nofun fun _ => rfl, hout⟩
  rfl

end

end ApplicationManager

/-! ## The tracer's own name -/

namespace TraceRoute

open ApplicationManager (asAlone)

variable (dev : DataLinkLayer) (self : Nat)

theorem startTraceRoute_renames :
    Prog.Renames asAlone (startTraceRoute dev self) (startTraceRoute dev 0) :=
  .catching _ <| .bind .read fun _ => .bind (.lift _) fun _ => .bind (.emit rfl) fun _ => .emit rfl

theorem handleData_renames (data : Info) :
    Prog.Renames asAlone (handleData dev self data) (handleData dev 0 data) := by
  unfold handleData
  split
  · refine .bind (.lift _) fun _ => ?_
    split
    · exact .pure _
    refine .bind (.lift _) fun _ => ?_
    split
    · exact .pure _
    exact .bind (.lift _) fun _ => .catching _ <| .bind (.lift _) fun _ => .bind .read fun _ =>
      .bind (.emit rfl) fun _ => .bind (.modify _) fun _ => startTraceRoute_renames dev self
  · exact .pure _

end TraceRoute

namespace ApplicationManager

section

variable (dev : DataLinkLayer) (depth : Nat) {c : AppClass} {i j : Nat} {m b : ApplicationManager}

theorem handleData_turn (h : Seated c i m b) (info : Info) :
    Seated c i (handleData dev depth i info m).state (handleData dev depth 0 info b).state ∧
      (handleData dev depth i info m).out.map asAlone = (handleData dev depth 0 info b).out := by
  have hobject := h.object_eq
  unfold handleData
  rw [Prog.read_bind_run, Prog.read_bind_run]
  unfold object at hobject
  rw [← hobject]
  cases happ : m.app_list[i]? with
  | none => exact ⟨h, rfl⟩
  | some app =>
  obtain rfl := h.class_eq app happ
  cases app with
  | dhcp this => exact h.onDHCP happ (DHCPApplication.handleData_plain dev info)
  | dns this =>
    exact h.own happ (fun _ => rfl) nofun
      (.of_within (DNSApplication.handleData_plain depth info) asAlone_plain)
  | tftp this => exact h.onTFTP happ (TFTPClient.handleData_plain dev info)
  | ping this =>
    rw [h.clock_eq]
    exact h.own happ (fun _ => rfl) nofun
      (.of_within (PingApp.handleData_plain b.clock info) asAlone_plain)
  | hping this =>
    exact h.own happ (fun _ => rfl) nofun (.of_within (HPingApp.handleData_plain info) asAlone_plain)
  | trace this =>
    exact h.own happ (fun _ => rfl) nofun (TraceRoute.handleData_renames dev i info)

theorem handleData_wrote (info : Info) : Wrote j m (handleData dev depth j info m).state := by
  unfold handleData
  rw [Prog.read_bind_run]
  cases happ : m.app_list[j]? with
  | none => exact .nothing
  | some app =>
  cases app with
  | dhcp this => exact .onDHCP happ _
  | dns this => exact .own happ (fun _ => rfl) _
  | tftp this => exact .onTFTP happ _
  | ping this => exact .own happ (fun _ => rfl) _
  | hping this => exact .own happ (fun _ => rfl) _
  | trace this => exact .own happ (fun _ => rfl) _

theorem invoke_turn (h : Seated c i m b) (method : Method) :
    Seated c i (invoke dev i method m).state (invoke dev 0 method b).state ∧
      (invoke dev i method m).out.map asAlone = (invoke dev 0 method b).out := by
  have hobject := h.object_eq
  unfold invoke
  rw [Prog.read_bind_run, Prog.read_bind_run]
  unfold object at hobject
  rw [← hobject]
  have hnothing : Seated c i m b ∧ ([] : List Call).map asAlone = [] := ⟨h, rfl⟩
  cases happ : m.app_list[i]? with
  | none => cases method <;> exact hnothing
  | some app =>
  obtain rfl := h.class_eq app happ
  cases method with
  | dhcpDiscovery =>
    cases app with
    | dhcp this => exact h.onDHCP happ (DHCPApplication.dhcpDiscovery_plain dev)
    | _ => exact hnothing
  | queryDomain =>
    cases app with
    | dns this =>
      exact h.own happ (fun _ => rfl) nofun
        (.of_within (DNSApplication.queryDomain_plain dev) asAlone_plain)
    | _ => exact hnothing
  | getFile getBytes created filename =>
    cases app with
    | tftp this => exact h.onTFTP happ (TFTPClient.getFile_plain dev getBytes created filename)
    | _ => exact hnothing
  | startPing clock =>
    cases app with
    | ping this =>
      exact h.own happ (fun _ => rfl) nofun
        (.of_within (PingApp.startPing_plain (fun _ _ => rfl) clock) asAlone_plain)
    | hping this =>
      exact h.own happ (fun _ => rfl) nofun
        (.of_within (PingApp.startPing_plain (fun _ _ => rfl) clock) asAlone_plain)
    | _ => exact hnothing
  | startTraceRoute =>
    cases app with
    | trace this =>
      exact h.own happ (fun _ => rfl) nofun (TraceRoute.startTraceRoute_renames dev i)
    | _ => exact hnothing

theorem invoke_wrote (method : Method) : Wrote j m (invoke dev j method m).state := by
  unfold invoke
  rw [Prog.read_bind_run]
  cases happ : m.app_list[j]? with
  | none => cases method <;> exact .nothing
  | some app =>
  cases method with
  | dhcpDiscovery =>
    cases app with
    | dhcp this => exact .onDHCP happ _
    | _ => exact .nothing
  | queryDomain =>
    cases app with
    | dns this => exact .own happ (fun _ => rfl) _
    | _ => exact .nothing
  | getFile getBytes created filename =>
    cases app with
    | tftp this => exact .onTFTP happ _
    | _ => exact .nothing
  | startPing clock =>
    cases app with
    | ping this => exact .own happ (fun _ => rfl) _
    | hping this => exact .own happ (fun _ => rfl) _
    | _ => exact .nothing
  | startTraceRoute =>
    cases app with
    | trace this => exact .own happ (fun _ => rfl) _
    | _ => exact .nothing

/-- What a constructor call appends, and which static fields it assigns. -/
theorem construct_appends (m : ApplicationManager) (k : Construction) :
    ∃ app, app.getClass = k.getClass ∧ (construct dev m k).app_list = m.app_list ++ [app] ∧
      (construct dev m k).clock = m.clock ∧
      (k.getClass ≠ .dhcp → (construct dev m k).dhcpStatics = m.dhcpStatics) ∧
      (k.getClass ≠ .tftp → (construct dev m k).tftpStatics = m.tftpStatics) := by
  cases k with
  | tftp server_ip => exact ⟨_, rfl, rfl, rfl, fun _ => rfl, fun hne => absurd rfl hne⟩
  | trace dest_ip => exact ⟨_, rfl, rfl, rfl, fun _ => rfl, fun _ => rfl⟩
  | dhcp nextInt =>
    unfold construct
    dsimp only
    split <;> exact ⟨_, rfl, rfl, rfl, fun hne => absurd rfl hne, fun _ => rfl⟩
  | dns destIP domainName nextInt nextInt' =>
    unfold construct
    dsimp only
    split <;> exact ⟨_, rfl, rfl, rfl, fun _ => rfl, fun _ => rfl⟩
  | ping times destIP nextInt =>
    unfold construct
    dsimp only
    split <;> exact ⟨_, rfl, rfl, rfl, fun _ => rfl, fun _ => rfl⟩
  | hping times destIP nextInt =>
    unfold construct
    dsimp only
    split <;> exact ⟨_, rfl, rfl, rfl, fun _ => rfl, fun _ => rfl⟩

theorem construct_other (h : Seated c i m b) {k : Construction} (hk : c.Shared → k.getClass ≠ c) :
    Seated c i (construct dev m k) b := by
  obtain ⟨app, hclass, hlist, hclock, hdhcp, htftp⟩ := construct_appends dev m k
  refine h.add (by rw [hclass]; exact hk) hlist hclock ?_ ?_
  · rintro rfl
    exact hdhcp (hk (.inl rfl))
  · rintro rfl
    exact htftp (hk (.inr rfl))

/-- The `i`th object is a component of the applications. -/
def objectOf (c : AppClass) (i : Nat) : Component (act dev depth) (act dev depth) where
  rel := Seated c i
  select := addressedTo i
  rename := asAlone
  Allowed := Respects c
  idle := by
    intro action m b hrespects hselect h
    cases action with
    | construct k => exact construct_other dev h hrespects
    | invoke j method =>
      refine h.other (fun hij => ?_) (invoke_wrote dev method)
      rw [hij, addressedTo, if_pos rfl] at hselect
      cases hselect
    | tick clock => cases hselect
    | deliver j info =>
      refine h.other (fun hij => ?_) (handleData_wrote dev depth info)
      rw [hij, addressedTo, if_pos rfl] at hselect
      cases hselect
  turn := by
    intro action k m b hrespects hselect h
    cases action with
    | construct c' => cases hselect
    | invoke j method =>
      change (if j = i then some (.invoke 0 method) else none) = some k at hselect
      split at hselect
      · next hij =>
        subst hij
        cases hselect
        exact invoke_turn dev h method
      · cases hselect
    | tick clock =>
      cases hselect
      exact ⟨⟨h.single, h.object_eq, h.class_eq, rfl, h.sole, h.dhcpStatics_eq, h.tftpStatics_eq⟩, rfl⟩
    | deliver j info =>
      change (if j = i then some (.deliver 0 info) else none) = some k at hselect
      split at hselect
      · next hij =>
        subst hij
        cases hselect
        exact handleData_turn dev depth h info
      · cases hselect

/-! ### Before the construction -/

/-- No object shares the static fields of the class. -/
structure Absent (c : AppClass) (m : ApplicationManager) : Prop where
  none_of : c.Shared → ∀ j app, object j m = some app → app.getClass ≠ c
  dhcpStatics_eq : c = .dhcp → m.dhcpStatics = DHCPApplication.initialStatics

theorem initial_absent (c : AppClass) (clock : Clock) : Absent c (initial clock) :=
  ⟨nofun, fun _ => rfl⟩

theorem Absent.wrote {m' : ApplicationManager} (h : Absent c m) (hwrote : Wrote j m m') :
    Absent c m' := by
  cases hwrote with
  | nothing => exact h
  | object happ hclass hm' hclock hdhcp htftp =>
  refine ⟨fun hshared k app'' hk hkc => ?_, ?_⟩
  · obtain ⟨old, hold, hsame⟩ := exists_class happ hclass hm' hk
    exact h.none_of hshared k old hold (hsame.trans hkc)
  · rintro rfl
    rw [hdhcp (h.none_of (.inl rfl) j _ happ), h.dhcpStatics_eq rfl]

theorem Absent.construct (h : Absent c m) {k : Construction} (hk : c.Shared → k.getClass ≠ c) :
    Absent c (construct dev m k) := by
  obtain ⟨app, hclass, hlist, -, hdhcp, -⟩ := construct_appends dev m k
  refine ⟨fun hshared j app' hj hjc => ?_, ?_⟩
  · unfold object at hj
    rw [hlist, List.getElem?_append] at hj
    split at hj
    · exact h.none_of hshared j app' hj hjc
    · obtain rfl := List.mem_singleton.mp (List.mem_of_getElem? hj)
      exact hk hshared (hclass.symm.trans hjc)
  · rintro rfl
    rw [hdhcp (hk (.inl rfl)), h.dhcpStatics_eq rfl]

theorem act_absent {action : Action} (hrespects : Respects c action) (h : Absent c m) :
    Absent c (act dev depth action m).state := by
  cases action with
  | construct k => exact h.construct dev hrespects
  | invoke j method => exact h.wrote (invoke_wrote dev method)
  | tick clock => exact ⟨h.none_of, h.dhcpStatics_eq⟩
  | deliver j info => exact h.wrote (handleData_wrote dev depth info)

/-- A new object and the same object alone. -/
theorem Seated.new {m' b' : ApplicationManager} {app : App} (h : Absent c m)
    (hclass : app.getClass = c) (hm' : m'.app_list = m.app_list ++ [app]) (hb' : b'.app_list = [app])
    (hclock : m'.clock = b'.clock) (hdhcp : c = .dhcp → m'.dhcpStatics = b'.dhcpStatics)
    (htftp : c = .tftp → m'.tftpStatics = b'.tftpStatics) :
    Seated c m.app_list.length m' b' := by
  have hobject : object m.app_list.length m' = some app := by
    unfold object
    rw [hm', List.getElem?_append_right (Nat.le_refl _), Nat.sub_self]
    rfl
  refine ⟨by rw [hb']; rfl, by rw [hobject, object, hb']; rfl, ?_, hclock, ?_, hdhcp, htftp⟩
  · intro app' happ'
    obtain rfl := Option.some.inj (hobject.symm.trans happ')
    exact hclass
  · intro hshared j app' hj hjc
    unfold object at hj
    rw [hm', List.getElem?_append] at hj
    split at hj
    · exact absurd hjc (h.none_of hshared j app' hj)
    · next hlen =>
      have hlast := (List.getElem?_eq_some_iff.mp hj).1
      rw [List.length_singleton] at hlast
      omega

theorem construct_seated {k : Construction} (h : Absent k.getClass m) :
    Seated k.getClass m.app_list.length (construct dev m k) (construct dev (initial m.clock) k) := by
  cases k with
  | tftp server_ip => exact .new h rfl rfl rfl rfl nofun fun _ => rfl
  | trace dest_ip => exact .new h rfl rfl rfl rfl nofun nofun
  | dhcp nextInt =>
    have hstatics : m.dhcpStatics = (initial m.clock).dhcpStatics := h.dhcpStatics_eq rfl
    unfold construct
    dsimp only
    rw [hstatics]
    split
    · exact .new h rfl rfl rfl rfl (fun _ => rfl) nofun
    · exact .new h rfl rfl rfl rfl (fun _ => hstatics) nofun
  | dns destIP domainName nextInt nextInt' =>
    unfold construct
    dsimp only
    split <;> exact .new h rfl rfl rfl rfl nofun nofun
  | ping times destIP nextInt =>
    unfold construct
    dsimp only
    split <;> exact .new h rfl rfl rfl rfl nofun nofun
  | hping times destIP nextInt =>
    unfold construct
    dsimp only
    split <;> exact .new h rfl rfl rfl rfl nofun nofun

end

end ApplicationManager

/-! ## Programs -/

open ApplicationManager

namespace ProtocolManager

/-- The uses construct no rival for the static fields of the class. -/
def Unrivalled (c : AppClass) (uses : List Use) : Prop :=
  c.Shared → ∀ k, .construct k ∈ uses → k.getClass ≠ c

section

variable (net : Network) (depth : Nat)

theorem construct_mem_actions {uses : List Use} {s : ProtocolManager ApplicationManager}
    {k : Construction} (h : .construct k ∈ actions net depth uses s) : .construct k ∈ uses := by
  induction uses generalizing s with
  | nil => cases h
  | cons use uses ih =>
    rw [actions, List.mem_append] at h
    rcases h with h | h
    · cases use with
      | construct k' =>
        cases List.mem_singleton.mp h
        exact List.mem_cons_self
      | invoke i method => cases List.mem_singleton.mp h
      | tick clock => cases List.mem_singleton.mp h
      | receivePacket packet =>
        obtain ⟨d, -, hd⟩ := List.mem_map.mp h
        cases hd
    · exact List.mem_cons_of_mem _ (ih h)

theorem actions_respect {c : AppClass} {uses : List Use} (h : Unrivalled c uses)
    (s : ProtocolManager ApplicationManager) : ∀ action ∈ actions net depth uses s, Respects c action := by
  intro action haction
  cases action with
  | construct k => exact fun hshared => h hshared k (construct_mem_actions net depth haction)
  | invoke i method => trivial
  | tick clock => trivial
  | deliver i info => trivial

theorem used_absent {c : AppClass} {uses : List Use} (h : Unrivalled c uses) (clock : Clock) :
    Absent c (used net depth clock uses).apps := by
  rw [(used_carried net depth clock uses).apps_eq]
  exact Prog.runs_invariant (P := Absent c)
    (fun action haction m hm => act_absent _ _ (actions_respect net depth h _ action haction) hm)
    (initial_absent c clock)

variable (clock : Clock) (before after : List Use) (k : Construction)

/-- The stack after `before` and the construction. -/
def constructed : ProtocolManager ApplicationManager :=
  used net depth clock (before ++ [.construct k])

/-- The place the constructed object gets. -/
def place : Nat := (used net depth clock before).apps.app_list.length

/-- What happens to the object afterwards. -/
def ownActions : List Action :=
  (actions net depth after (constructed net depth clock before k)).filterMap
    (addressedTo (place net depth clock before))

/-- The calls the object makes afterwards. -/
def ownCalls : List Call :=
  (objectOf net.dataLinkLayer depth k.getClass (place net depth clock before)).outputs
    (actions net depth after (constructed net depth clock before k))
    (constructed net depth clock before k).apps

/-- The object alone, after its construction and these actions, and its calls. -/
def byItself : ApplicationManager × List Call :=
  Prog.runs (act net.dataLinkLayer depth) (ownActions net depth clock before after k)
    (construct net.dataLinkLayer (initial (used net depth clock before).apps.clock) k)

theorem constructed_apps : (constructed net depth clock before k).apps =
    construct net.dataLinkLayer (used net depth clock before).apps k := by
  obtain ⟨s', log, hrun, hperformed⟩ := runApp_run net
    (Prog.modify fun m => m.construct net.dataLinkLayer k) (used net depth clock before)
  rw [constructed, used_concat]
  show (runApp net _ _).state.apps = _
  rw [hrun]
  exact hperformed.apps_eq

variable {before after k} (h : Unrivalled k.getClass (before ++ after))

include h

theorem used_seated : Seated k.getClass (place net depth clock before)
      (used net depth clock (before ++ .construct k :: after)).apps
      (byItself net depth clock before after k).1 ∧
    ownCalls net depth clock before after k = (byItself net depth clock before after k).2 := by
  have hbefore : Unrivalled k.getClass before := fun hshared k' hk' =>
    h hshared k' (List.mem_append_left _ hk')
  have hafter : Unrivalled k.getClass after := fun hshared k' hk' =>
    h hshared k' (List.mem_append_right _ hk')
  have hstart := construct_seated net.dataLinkLayer (k := k) (used_absent net depth hbefore clock)
  rw [← constructed_apps] at hstart
  have hrun := (objectOf net.dataLinkLayer depth k.getClass (place net depth clock before)).run
    (actions_respect net depth hafter (constructed net depth clock before k)) hstart
  have hused : (used net depth clock (before ++ .construct k :: after)).apps =
      (Prog.runs (act net.dataLinkLayer depth)
        (actions net depth after (constructed net depth clock before k))
        (constructed net depth clock before k).apps).1 := by
    rw [← (uses_carried net depth after (constructed net depth clock before k)).apps_eq, constructed,
      used, used, List.append_cons, List.map_append, after_append]
  rw [hused]
  exact hrun

end

/-- In any program an object ends as it does by itself and makes the calls it makes by itself,
whatever the other objects do, as long as no other one has the static fields of its class. -/
theorem object_runs_alone (net : Network) (depth : Nat) (clock : Clock) {before after : List Use}
    {k : Construction} (h : Unrivalled k.getClass (before ++ after)) :
    object (place net depth clock before)
        (used net depth clock (before ++ .construct k :: after)).apps =
      object 0 (byItself net depth clock before after k).1 ∧
    ownCalls net depth clock before after k = (byItself net depth clock before after k).2 :=
  ⟨(used_seated net depth clock h).1.object_eq, (used_seated net depth clock h).2⟩

/-- A ping is constructed first; the file is asked for before the router is known. -/
def mixedUses : List Use :=
  [.invoke 0 (.startPing fun _ => ⟨0, 0, 0, 0⟩), .invoke 1 (.getFile UTF8.getBytes true [102]),
    .receivePacket (some sampleRouterReply)]

theorem object_runs_alone_client :
    object (place sampleNetwork 0 ⟨0, 0, 0, 0⟩ [.construct (.ping 1 (some [8, 8, 8, 8]) 7)])
        (used sampleNetwork 0 ⟨0, 0, 0, 0⟩ ([.construct (.ping 1 (some [8, 8, 8, 8]) 7)] ++
          .construct (.tftp (some [192, 168, 1, 1])) :: mixedUses)).apps =
      object 0 (byItself sampleNetwork 0 ⟨0, 0, 0, 0⟩ [.construct (.ping 1 (some [8, 8, 8, 8]) 7)]
        mixedUses (.tftp (some [192, 168, 1, 1]))).1 ∧
    ownCalls sampleNetwork 0 ⟨0, 0, 0, 0⟩ [.construct (.ping 1 (some [8, 8, 8, 8]) 7)] mixedUses
        (.tftp (some [192, 168, 1, 1])) =
      (byItself sampleNetwork 0 ⟨0, 0, 0, 0⟩ [.construct (.ping 1 (some [8, 8, 8, 8]) 7)] mixedUses
        (.tftp (some [192, 168, 1, 1]))).2 := by
  refine object_runs_alone sampleNetwork 0 ⟨0, 0, 0, 0⟩ fun _ k hk => ?_
  rcases List.mem_append.mp hk with hk | hk
  · cases List.mem_singleton.mp hk
    exact nofun
  · simp [mixedUses] at hk

end ProtocolManager

end TcpIpStack
