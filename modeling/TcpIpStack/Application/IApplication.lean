import TcpIpStack.Protocol.IProtocol

/-!
# Applications, as the stack sees them

An application answers `getPort` and is handed header tables through
`handleData`. What it does in return is a list of calls on `ProtocolManager`,
none of which gives it anything back, and of figures it prints.
-/

namespace TcpIpStack

open TcpIpStack.Java TcpIpStack.Lib

/-- A figure an application prints. -/
inductive Report where
  /-- `TraceRoute`: the router that answered the probe of this time to live. -/
  | router (time_to_live : Byte) (routerIP : Bytes)
  /-- `PingApp` and `HPingApp`: the delay of a reply, in the unit printed. -/
  | reply (sequence : Short) (time : Long)
  /-- `DNSApplication`: one character of a name. -/
  | char (c : JChar)
  | hostAddress (ip : Bytes)
  deriving DecidableEq, Repr

/-- What an application does besides changing its own fields. -/
inductive Call where
  | sendData (data ip : Option Bytes)
  | broadCast (data : Option Bytes)
  | registToReceiveICMPPacket (receiver : Nat)
  | print (report : Report)
  deriving DecidableEq, Repr

/-- A method of an application: its objects' fields are the state, its calls
the outputs. -/
abbrev AppM (σ α : Type) : Type := Prog Throwable σ Call α

/-- The registered application objects, named by their index in `app_list`. -/
structure AppLayer (σ : Type) where
  /-- `ApplicationManager.getApplicationByPort`. -/
  getApplicationByPort : σ → JInt → Option Nat
  handleData : Nat → Info → AppM σ Unit

end TcpIpStack
