import TcpIpStack.Java.ByteBuffer

/-!
# Header tables, packets and the device

The protocol objects exchange `HashMap<String, Object>` tables: `Info`, keyed
by the key strings of the source (`Key`), holding boxed values (`Obj`). Reading
a field is a `get` followed by a cast, which throws on an absent (`null`) or
differently boxed value.

`Packet` is a captured frame as the capture library hands it over, and
`DataLinkLayer` the device: its addresses and the frames it puts on the wire.
-/

namespace TcpIpStack

open TcpIpStack.Java

/-- The key strings of the header tables. -/
inductive Key where
  | header | data | type | code
  | identifier | sequence | sequence_number | sequenceNumber | sequence_num
  | original_time | receive_time | transmit_time
  | internet_header_length | dscp | ecn | data_length | options | identification
  | flag | fragment_offset | time_to_live | protocol
  | source_ip | destination_ip | dest_ip
  | source_port | src_port | dest_port | length
  | sender_ip | sender_mac
  deriving DecidableEq, Repr

/-- A boxed value. -/
inductive Obj where
  | byte (v : Byte)
  | short (v : Short)
  | char (v : JChar)
  | int (v : JInt)
  | bytes (v : Bytes)
  | string (v : String)
  deriving DecidableEq, Repr

namespace Obj

def asByte : Obj → Except Throwable Byte
  | byte v => .ok v
  | _ => .error .classCast

def asShort : Obj → Except Throwable Short
  | short v => .ok v
  | _ => .error .classCast

def asChar : Obj → Except Throwable JChar
  | char v => .ok v
  | _ => .error .classCast

def asInt : Obj → Except Throwable JInt
  | int v => .ok v
  | _ => .error .classCast

def asBytes : Obj → Except Throwable Bytes
  | bytes v => .ok v
  | _ => .error .classCast

def asString : Obj → Except Throwable String
  | string v => .ok v
  | _ => .error .classCast

theorem asByte_eq_ok {o : Obj} {v : Byte} (h : o.asByte = .ok v) : o = .byte v := by
  cases o <;> cases h
  rfl

theorem asBytes_eq_ok {o : Obj} {v : Bytes} (h : o.asBytes = .ok v) : o = .bytes v := by
  cases o <;> cases h
  rfl

end Obj

/-- `HashMap<String, Object>`. -/
abbrev Info := Key → Option Obj

namespace Info

def empty : Info := fun _ => none

def put (m : Info) (k : Key) (v : Obj) : Info := fun k' => if k' = k then some v else m k'

@[simp] theorem put_apply (m : Info) (k k' : Key) (v : Obj) :
    m.put k v k' = if k' = k then some v else m k' := rfl

@[simp] theorem empty_apply (k : Key) : empty k = none := rfl

/-- `(T) m.get(k)` where an absent key is unboxed or dereferenced. -/
def unbox {α : Type} (m : Info) (k : Key) (cast : Obj → Except Throwable α) : Except Throwable α :=
  match m k with
  | some o => cast o
  | none => .error .nullPointer

theorem unbox_ok {α : Type} {m : Info} {k : Key} {o : Obj} {cast : Obj → Except Throwable α} {v : α}
    (h : m k = some o) (hcast : cast o = .ok v) : m.unbox k cast = .ok v := by
  rw [unbox, h]
  exact hcast

/-- `if (m.get(k) != null) x = (T) m.get(k)` over the default `d`. -/
def getOr {α : Type} (m : Info) (k : Key) (cast : Obj → Except Throwable α) (d : α) :
    Except Throwable α :=
  match m k with
  | some o => cast o
  | none => .ok d

theorem getOr_some {α : Type} {m : Info} {k : Key} {o : Obj} (h : m k = some o)
    (cast : Obj → Except Throwable α) (d : α) : m.getOr k cast d = cast o := by
  rw [getOr, h]

theorem getOr_none {α : Type} {m : Info} {k : Key} (h : m k = none)
    (cast : Obj → Except Throwable α) (d : α) : m.getOr k cast d = .ok d := by
  rw [getOr, h]

/-- An entry whose value is `v`, or the default `d` if it is absent. -/
theorem getOr_of_getD {α : Type} {m : Info} {k : Key} {cast : Obj → Except Throwable α}
    {box : α → Obj} {d v : α} (hcast : ∀ x, cast (box x) = .ok x)
    (h : (m k).getD (box d) = box v) : m.getOr k cast d = .ok v := by
  have hv : cast ((m k).getD (box d)) = .ok v := by rw [h, hcast]
  cases hk : m k with
  | none =>
    rw [hk, Option.getD_none, hcast] at hv
    rwa [getOr_none hk]
  | some o =>
    rw [hk, Option.getD_some] at hv
    rwa [getOr_some hk]

/-- `(byte[]) m.get(k)`: `null` casts to any reference type. -/
def getBytes (m : Info) (k : Key) : Except Throwable (Option Bytes) :=
  match m k with
  | some o => some <$> o.asBytes
  | none => .ok none

theorem getBytes_ok {m : Info} {k : Key} {v : Bytes} (h : m k = some (.bytes v)) :
    m.getBytes k = .ok (some v) := by
  rw [getBytes, h]
  rfl

theorem getBytes_eq_ok {m : Info} {k : Key} {v : Bytes} (h : m.getBytes k = .ok (some v)) :
    m k = some (.bytes v) := by
  unfold getBytes at h
  split at h
  · rename_i o ho
    cases hbytes : o.asBytes with
    | error e => rw [hbytes] at h; cases h
    | ok bytes =>
      rw [hbytes] at h
      cases h
      rw [ho, Obj.asBytes_eq_ok hbytes]
  · cases h

end Info

/-- An IPv4 address, as `InetAddress.getAddress` returns it. -/
structure Inet4Address where
  getAddress : Bytes
  length_eq : getAddress.length = 4

/-- The device: `deviceIPAddress` and `deviceMacAddress` of `DataLinkLayer`. -/
structure DataLinkLayer where
  ipAddress : Inet4Address
  macAddress : Bytes
  mac_length : macAddress.length = 6

def DataLinkLayer.deviceIPAddress (d : DataLinkLayer) : Bytes := d.ipAddress.getAddress

def DataLinkLayer.deviceMacAddress (d : DataLinkLayer) : Bytes := d.macAddress

@[simp] theorem DataLinkLayer.deviceIPAddress_length (d : DataLinkLayer) :
    d.deviceIPAddress.length = 4 := d.ipAddress.length_eq

@[simp] theorem DataLinkLayer.deviceMacAddress_length (d : DataLinkLayer) :
    d.deviceMacAddress.length = 6 := d.mac_length

/-- The device `192.168.1.118` of the shipped configuration. -/
def sampleDevice : DataLinkLayer where
  ipAddress := ⟨[192, 168, 1, 118], rfl⟩
  macAddress := [0x34, 0x41, 0x5D, 0xED, 0x28, 0x0D]
  mac_length := rfl

/-- `EthernetPacket.ETHERTYPE_IP`. -/
def ETHERTYPE_IP : Short := 0x0800

/-- `EthernetPacket.ETHERTYPE_ARP`. -/
def ETHERTYPE_ARP : Short := 0x0806

/-- `jpcap.packet.Packet` with its Ethernet datalink header's `frametype`. -/
structure Packet where
  frametype : Short
  header : Bytes
  data : Bytes
  deriving DecidableEq, Repr

/-- A frame handed to the network card. -/
structure Frame where
  dst_mac : Bytes
  src_mac : Bytes
  frametype : Short
  data : Bytes
  deriving DecidableEq, Repr

/-- `DataLinkLayer.sendData`: `null` data is dropped. -/
def DataLinkLayer.sendData (d : DataLinkLayer) (data : Option Bytes) (dstMacAddress : Bytes)
    (frameType : Short) : List Frame :=
  match data with
  | none => []
  | some data => [⟨dstMacAddress, d.macAddress, frameType, data⟩]

end TcpIpStack
