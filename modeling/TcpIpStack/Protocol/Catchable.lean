import TcpIpStack.Application.Application
import TcpIpStack.Protocol.ICMP

/-!
# What `catch (Exception e)` catches

Reads and writes past an array, negative lengths, `null` and casts are all
exceptions, so whatever the protocol layers throw is caught. The one error of the
model is a stack overflow, and no layer recurses.
-/

namespace TcpIpStack

open TcpIpStack.Java TcpIpStack.Lib

namespace Java

/-- Whatever is thrown is an `Exception`. -/
abbrev Catchable {α : Type} (x : Except Throwable α) : Prop := Throws x fun e => e.isException

theorem Catchable.ite {α : Type} {c : Prop} [Decidable c] {a : α} {e : Throwable}
    (he : e.isException) : Catchable (if c then .ok a else .error e) := by
  split
  · exact .ok
  · exact .error he

theorem Catchable.dite {α : Type} {c : Prop} [Decidable c] {a : c → α} {e : Throwable}
    (he : e.isException) : Catchable (if h : c then .ok (a h) else .error e) := by
  split
  · exact .ok
  · exact .error he

theorem newArray_catchable (n : Int) : Catchable (newArray n) := by
  unfold newArray
  split
  · exact .error rfl
  · exact .ok

namespace ByteBuffer

variable (b : ByteBuffer)

theorem setPosition_catchable (p : Int) : Catchable (b.setPosition p) := Catchable.dite rfl

theorem take_catchable (n : Nat) : Catchable (b.take n) := Catchable.dite rfl

theorem get_catchable : Catchable b.get := Catchable.dite rfl

theorem getShort_catchable : Catchable b.getShort := .bind (b.take_catchable 2) fun _ => .ok

theorem getInt_catchable : Catchable b.getInt := .bind (b.take_catchable 4) fun _ => .ok

theorem getLong_catchable : Catchable b.getLong := .bind (b.take_catchable 8) fun _ => .ok

theorem getAt_catchable (i : Nat) : Catchable (b.getAt i) := Catchable.dite rfl

/-- Every relative write is one of bytes. -/
theorem putBytes_catchable (xs : Bytes) : Catchable (b.putBytes xs) := Catchable.dite rfl

theorem putShortAt_catchable (i : Nat) (s : Short) : Catchable (b.putShortAt i s) := Catchable.dite rfl

theorem putAll_catchable (parts : List Bytes) : Catchable (b.putAll parts) := by
  induction parts generalizing b with
  | nil => exact .ok
  | cons xs rest ih => exact .bind (b.putBytes_catchable xs) fun b => ih b

theorem fill_catchable (n : Nat) (parts : List Bytes) : Catchable (fill n parts) :=
  .bind (putAll_catchable _ parts) fun _ => .ok

end ByteBuffer

end Java

/-! ## Tables -/

section

variable {α : Type} {cast : Obj → Except Throwable α}

theorem Obj.asByte_catchable (o : Obj) : Catchable o.asByte := by
  cases o
  case byte => exact .ok
  all_goals exact .error rfl

theorem Obj.asShort_catchable (o : Obj) : Catchable o.asShort := by
  cases o
  case short => exact .ok
  all_goals exact .error rfl

theorem Obj.asChar_catchable (o : Obj) : Catchable o.asChar := by
  cases o
  case char => exact .ok
  all_goals exact .error rfl

theorem Obj.asInt_catchable (o : Obj) : Catchable o.asInt := by
  cases o
  case int => exact .ok
  all_goals exact .error rfl

theorem Obj.asBytes_catchable (o : Obj) : Catchable o.asBytes := by
  cases o
  case bytes => exact .ok
  all_goals exact .error rfl

theorem Info.unbox_catchable (hcast : ∀ o, Catchable (cast o)) (m : Info) (k : Key) :
    Catchable (m.unbox k cast) := by
  unfold Info.unbox
  split
  · exact hcast _
  · exact .error rfl

theorem Info.getOr_catchable (hcast : ∀ o, Catchable (cast o)) (m : Info) (k : Key) (d : α) :
    Catchable (m.getOr k cast d) := by
  unfold Info.getOr
  split
  · exact hcast _
  · exact .ok

theorem Info.getBytes_catchable (m : Info) (k : Key) : Catchable (m.getBytes k) := by
  unfold Info.getBytes
  split
  · exact .map (Obj.asBytes_catchable _)
  · exact .ok

end

/-! ## The layers -/

theorem Utility.storeChecksum_catchable (o : Nat) (header : Option ByteBuffer) :
    Catchable (storeChecksum o header) := by
  cases header with
  | none => exact .ok
  | some bb => exact .bind (Catchable.ite rfl) fun _ => .bind (bb.putShortAt_catchable o _) fun _ => .ok

namespace IPProtocolLayer

variable (dev : DataLinkLayer)

theorem layoutHeader_catchable (headerInfo : Info) : Catchable (layoutHeader dev headerInfo) := by
  have hbyte := fun k d => Info.getOr_catchable Obj.asByte_catchable headerInfo k d
  have hshort := fun k d => Info.getOr_catchable Obj.asShort_catchable headerInfo k d
  have hint := fun k d => Info.getOr_catchable Obj.asInt_catchable headerInfo k d
  unfold layoutHeader
  refine .bind (hbyte ..) fun ihl => .bind (newArray_catchable _) fun buffer =>
    .bind (ByteBuffer.putBytes_catchable ..) fun b1 => .bind (hbyte ..) fun dscp =>
    .bind (hbyte ..) fun ecn => .bind (ByteBuffer.putBytes_catchable ..) fun b2 => ?_
  split
  · exact .ok
  refine .bind (Info.getBytes_catchable ..) fun options => .bind (Obj.asInt_catchable _) fun len =>
    .bind (ByteBuffer.putBytes_catchable ..) fun b4 => .bind (hshort ..) fun ident =>
    .bind (ByteBuffer.putBytes_catchable ..) fun b6 => .bind (hshort ..) fun flag =>
    .bind (hshort ..) fun off => .bind (ByteBuffer.putBytes_catchable ..) fun b8 =>
    .bind (hbyte ..) fun ttl => .bind (ByteBuffer.putBytes_catchable ..) fun b9 => ?_
  split
  · exact .ok
  refine .bind (Obj.asByte_catchable _) fun proto => .bind (ByteBuffer.putBytes_catchable ..) fun b10 =>
    .bind (ByteBuffer.putBytes_catchable ..) fun b12 =>
    .bind (ByteBuffer.getInt_catchable _) fun deviceIP => .bind (hint ..) fun src =>
    .bind (ByteBuffer.putBytes_catchable ..) fun b16 => ?_
  split
  · exact .ok
  refine .bind (Obj.asInt_catchable _) fun dst => .bind (ByteBuffer.putBytes_catchable ..) fun b20 => ?_
  split
  · exact .ok
  · exact .bind (ByteBuffer.putBytes_catchable ..) fun _ => .ok

theorem createHeader_catchable (headerInfo : Info) : Catchable (createHeader dev headerInfo) :=
  .bind (layoutHeader_catchable dev headerInfo) fun _ => Utility.storeChecksum_catchable ..

end IPProtocolLayer

namespace UDPProtocolLayer

theorem createHeader_catchable (headerInfo : Info) : Catchable (createHeader headerInfo) := by
  unfold createHeader
  refine .bind (Info.getBytes_catchable ..) fun data => .bind (newArray_catchable _) fun _ => ?_
  split
  · exact .ok
  refine .bind (Obj.asChar_catchable _) fun _ => .bind (ByteBuffer.putBytes_catchable ..) fun _ => ?_
  split
  · exact .ok
  refine .bind (Obj.asChar_catchable _) fun _ => .bind (ByteBuffer.putBytes_catchable ..) fun _ =>
    .bind (ByteBuffer.putBytes_catchable ..) fun _ => .bind (ByteBuffer.putBytes_catchable ..) fun _ => ?_
  split
  · exact .ok
  · exact .bind (ByteBuffer.putBytes_catchable ..) fun _ => .ok

end UDPProtocolLayer

namespace ICMPProtocolLayer

end ICMPProtocolLayer

/-! ## Packets of the applications -/

namespace Application

theorem notNull_catchable {α : Type} (o : Option α) : Catchable (notNull o) := by
  cases o with
  | none => exact .error rfl
  | some a => exact .ok

theorem packet_catchable (udpHeader : Option Bytes)
    {createIPHeader : JInt → Except Throwable (Option Bytes)}
    (h : ∀ len, Catchable (createIPHeader len)) : Catchable (packet udpHeader createIPHeader) :=
  .bind (notNull_catchable _) fun _ => .bind (h _) fun _ => .bind (notNull_catchable _) fun _ => .ok

end Application

end TcpIpStack
