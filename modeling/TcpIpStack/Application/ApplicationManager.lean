import TcpIpStack.Application.DHCPApplication
import TcpIpStack.Application.DNSApplication
import TcpIpStack.Application.PingApp
import TcpIpStack.Application.TFTPClient
import TcpIpStack.Application.TraceRoute

/-!
# `Application.ApplicationManager`

Every object is appended to `app_list` when the constructor of `Application`
starts, before its own constructor sets its port, and is never taken out again.
Looking up a port returns the first object that has it.

The list, the static fields of the classes and the clock are the application
layer of the stack.
-/

namespace TcpIpStack

open TcpIpStack.Java TcpIpStack.Lib

/-- An object of one of the six classes. -/
inductive App where
  | dhcp (this : DHCPApplication)
  | dns (this : DNSApplication)
  | tftp (this : TFTPClient)
  | ping (this : PingApp)
  | hping (this : HPingApp)
  | trace (this : TraceRoute)
  deriving DecidableEq, Repr

/-- `getPort`. -/
def App.getPort : App → JInt
  | dhcp this => this.port
  | dns this => this.port
  | tftp this => this.port
  | ping this => this.port
  | hping this => this.toPingApp.port
  | trace this => this.port

structure ApplicationManager where
  app_list : List App
  dhcpStatics : DHCPStatics
  tftpStatics : TFTPStatics
  clock : Clock
  deriving DecidableEq, Repr

/-- A constructor call, with the numbers the random generator returns in it. -/
inductive Construction where
  | dhcp (nextInt : JInt)
  | dns (destIP : Option Bytes) (domainName : JString) (nextInt nextInt' : JInt)
  | tftp (server_ip : Option Bytes)
  | ping (times : JInt) (destIP : Option Bytes) (nextInt : JInt)
  | hping (times : JInt) (destIP : Option Bytes) (nextInt : JInt)
  | trace (dest_ip : Option Bytes)

namespace ApplicationManager

def initial (clock : Clock) : ApplicationManager :=
  ⟨[], DHCPApplication.initialStatics, TFTPClient.initialStatics, clock⟩

/-- `addApplication`. -/
def addApplication (m : ApplicationManager) (app : App) : ApplicationManager :=
  { m with app_list := m.app_list ++ [app] }

/-- `getApplicationByPort`. -/
def getApplicationByPort (m : ApplicationManager) (port : JInt) : Option Nat :=
  m.app_list.findIdx? fun app => app.getPort == port

/-- A constructor call. The object is registered whether or not it returns. -/
def construct (dev : DataLinkLayer) (m : ApplicationManager) : Construction → ApplicationManager
  | .dhcp nextInt =>
    match DHCPApplication.construct dev nextInt m.dhcpStatics with
    | .ok s => { m with dhcpStatics := s.statics }.addApplication (.dhcp s.this)
    | .error _ => m.addApplication (.dhcp ⟨DHCPApplication.srcPort.setWidth 32, nextInt, none⟩)
  | .dns destIP domainName nextInt nextInt' =>
    match DNSApplication.construct destIP domainName nextInt nextInt' with
    | .ok this => m.addApplication (.dns this)
    | .error _ => m.addApplication (.dns ⟨(nextInt'.setWidth 16).signExtend 32, destIP, domainName, [],
        [], nextInt.setWidth 16⟩)
  | .tftp server_ip =>
    let s := TFTPClient.construct server_ip
    { m with tftpStatics := s.statics }.addApplication (.tftp s.this)
  | .ping times destIP nextInt =>
    match PingApp.construct times destIP nextInt with
    | .ok this => m.addApplication (.ping this)
    | .error _ => m.addApplication (.ping PingApp.fresh)
  | .hping times destIP nextInt =>
    match HPingApp.construct times destIP nextInt with
    | .ok this => m.addApplication (.hping this)
    | .error _ => m.addApplication (.hping ⟨PingApp.fresh, 0⟩)
  | .trace dest_ip => m.addApplication (.trace (TraceRoute.construct dest_ip))

/-- The `i`th object. -/
def object (i : Nat) (m : ApplicationManager) : Option App := m.app_list[i]?

/-- `i`th object, after one of its methods. -/
def setApp (i : Nat) (app : App) (m : ApplicationManager) : ApplicationManager :=
  { m with app_list := m.app_list.set i app }

section

variable {α : Type} (i : Nat)

/-- A method of the `i`th object runs on its own fields and its class's. -/
def onDHCP (this : DHCPApplication) (method : AppM DHCPApplication.Scope α) :
    AppM ApplicationManager α :=
  Prog.zoom (fun m => ⟨m.dhcpStatics, this⟩)
    (fun s m => setApp i (.dhcp s.this) { m with dhcpStatics := s.statics }) method

def onTFTP (this : TFTPClient) (method : AppM TFTPClient.Scope α) : AppM ApplicationManager α :=
  Prog.zoom (fun m => ⟨m.tftpStatics, this⟩)
    (fun s m => setApp i (.tftp s.this) { m with tftpStatics := s.statics }) method

def onDNS (this : DNSApplication) (method : AppM DNSApplication α) : AppM ApplicationManager α :=
  Prog.zoom (fun _ => this) (fun this => setApp i (.dns this)) method

def onPing (this : PingApp) (method : AppM PingApp α) : AppM ApplicationManager α :=
  Prog.zoom (fun _ => this) (fun this => setApp i (.ping this)) method

def onHPing (this : HPingApp) (method : AppM HPingApp α) : AppM ApplicationManager α :=
  Prog.zoom (fun _ => this) (fun this => setApp i (.hping this)) method

def onTrace (this : TraceRoute) (method : AppM TraceRoute α) : AppM ApplicationManager α :=
  Prog.zoom (fun _ => this) (fun this => setApp i (.trace this)) method

end

/-- `handleData` of the `i`th object; `depth` bounds the stack. -/
def handleData (dev : DataLinkLayer) (depth : Nat) (i : Nat) (info : Info) :
    AppM ApplicationManager Unit := do
  let m ← Prog.read
  match m.app_list[i]? with
  | none => return ()
  | some (.dhcp this) => onDHCP i this (DHCPApplication.handleData dev info)
  | some (.dns this) => onDNS i this (DNSApplication.handleData depth info)
  | some (.tftp this) => onTFTP i this (TFTPClient.handleData dev info)
  | some (.ping this) => onPing i this (PingApp.handleData m.clock info)
  | some (.hping this) => onHPing i this (HPingApp.handleData info)
  | some (.trace this) => onTrace i this (TraceRoute.handleData dev i info)

/-- The application layer of the stack. -/
def appLayer (dev : DataLinkLayer) (depth : Nat) : AppLayer ApplicationManager where
  getApplicationByPort := getApplicationByPort
  handleData := handleData dev depth

end ApplicationManager

end TcpIpStack
