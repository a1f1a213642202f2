import TcpIpStack.Protocol.AppCalls

/-!
# The payload of a UDP datagram

The IP layer cuts its payload out by the total length and puts it in the place of
the header; the UDP layer reads its own length field there and hands over the
data of the capture library, whatever the length says.
-/

namespace TcpIpStack

open TcpIpStack.Java TcpIpStack.Lib

namespace IPProtocolLayer.IPFrame

/-- What the frame holds between its IP header and its total length. -/
def datagram (f : IPFrame) : Bytes :=
  f.body.take (f.header.total_length.toNat - f.header.bytes.length)

/-- The split of the capture library: the data starts behind the UDP header. -/
def captured (f : IPFrame) : Packet :=
  ⟨ETHERTYPE_IP, f.link ++ f.header.bytes ++ f.body.take 8, f.body.drop 8⟩

theorem captured_bytes (f : IPFrame) : f.captured.header ++ f.captured.data = f.bytes := by
  show f.link ++ f.header.bytes ++ f.body.take 8 ++ f.body.drop 8 = _
  rw [List.append_assoc _ (f.body.take 8), List.take_append_drop]
  rfl

/-- A frame that is taken has no sign bit in its total length. -/
theorem payload_eq_datagram {dev : DataLinkLayer} {f : IPFrame} (h : f.Accepted dev) :
    f.payload = f.datagram := by
  have htotal : f.header.total_length.toInt = f.header.total_length.toNat := by
    have hpos := h.2.1
    have hlt := f.header.total_length.isLt
    unfold BitVec.toInt at *
    split at hpos <;> split <;> omega
  rw [payload, datagram, htotal]
  congr 1
  omega

end IPProtocolLayer.IPFrame

namespace UDPProtocolLayer

/-- The length field of a datagram. -/
def lengthField (u : Bytes) : Nat := (shortOf (slice u 4 2)).toNat

/-- The destination port, as `handleUDPPacket` looks it up. -/
def destPort (u : Bytes) : JInt := (shortOf (slice u 2 2)).signExtend 32

/-- What is handed to an application for the datagram is its own payload. -/
def IsPayload (u : Bytes) (headerInfo : Info) : Prop :=
  8 ≤ lengthField u ∧ lengthField u ≤ u.length ∧
    headerInfo .data = some (.bytes (slice u 8 (lengthField u - 8)))

/-- The data behind the header is the payload if the length field covers the
datagram and the datagram the capture. -/
theorem isPayload_iff {u body : Bytes} (hu : 8 ≤ u.length) (hbody : ∃ n, u = body.take n) :
    IsPayload u (info u (body.drop 8)) ↔ lengthField u = u.length ∧ body = u := by
  obtain ⟨n, hn⟩ := hbody
  have hle : u.length ≤ body.length := by
    rw [hn, List.length_take]
    exact Nat.min_le_right ..
  have hdata : info u (body.drop 8) .data = some (.bytes (body.drop 8)) := rfl
  unfold IsPayload
  rw [hdata]
  constructor
  · rintro ⟨hlo, hhi, heq⟩
    have hlen := congrArg List.length (Obj.bytes.inj (Option.some.inj heq))
    rw [slice_length (by omega), List.length_drop] at hlen
    have hall : body.take n = body := by
      have htake := congrArg List.length hn
      rw [List.length_take] at htake
      exact List.take_of_length_le (by omega)
    rw [hall] at hn
    exact ⟨by omega, hn.symm⟩
  · rintro ⟨hlength, rfl⟩
    rw [hlength]
    refine ⟨hu, Nat.le_refl _, ?_⟩
    rw [slice, List.take_of_length_le (by rw [List.length_drop])]

end UDPProtocolLayer

namespace ProtocolManager

variable {σ : Type} (net : Network) (apps : AppLayer σ)

/-- Whatever application is called for the frame is handed its datagram's payload. -/
def DeliversPayload (f : IPProtocolLayer.IPFrame) (s : ProtocolManager σ) : Prop :=
  ∀ app headerInfo,
    (app, headerInfo) ∈ deliveries (receivePacket net apps (some f.captured) s).out →
      UDPProtocolLayer.IsPayload f.datagram headerInfo

/-- A frame that is taken goes to the application of its port, with all the data
behind its UDP header. -/
theorem captured_deliveries {f : IPProtocolLayer.IPFrame} (hproto : f.header.protocol = 17)
    (hlen : 8 ≤ f.datagram.length) (haccepted : f.Accepted net.dataLinkLayer)
    (s : ProtocolManager σ) :
    deliveries (receivePacket net apps (some f.captured) s).out =
      ((apps.getApplicationByPort s.apps (UDPProtocolLayer.destPort f.datagram)).map fun app =>
        (app, UDPProtocolLayer.info f.datagram (f.body.drop 8))).toList := by
  have hout := (receivePacket_udp net apps rfl f.captured_bytes haccepted hproto s).2
  rw [IPProtocolLayer.IPFrame.payload_eq_datagram haccepted] at hout
  rw [hout]
  exact handleUDPPacket_deliveries net apps hlen s

/-- Which frames have their payload delivered, and only it: if the frame is taken
and its port found, the UDP length must be that of the datagram, and the capture
must end with the datagram. -/
theorem delivers_payload_iff {f : IPProtocolLayer.IPFrame} (hproto : f.header.protocol = 17)
    (hlen : 8 ≤ f.datagram.length) (s : ProtocolManager σ) :
    DeliversPayload net apps f s ↔ (f.Accepted net.dataLinkLayer →
      (apps.getApplicationByPort s.apps (UDPProtocolLayer.destPort f.datagram)).isSome →
        UDPProtocolLayer.lengthField f.datagram = f.datagram.length ∧ f.body = f.datagram) := by
  unfold DeliversPayload
  by_cases haccepted : f.Accepted net.dataLinkLayer
  · rw [captured_deliveries net apps hproto hlen haccepted s,
      ← UDPProtocolLayer.isPayload_iff hlen ⟨_, rfl⟩]
    cases apps.getApplicationByPort s.apps (UDPProtocolLayer.destPort f.datagram) with
    | none => simp
    | some app => simp [haccepted]
  · rw [(receivePacket_dropped net apps rfl f.captured_bytes haccepted s).2]
    exact iff_of_true nofun fun h => absurd h haccepted

/-- An application layer with one object, on port 68. -/
def oneApplication : AppLayer Unit where
  getApplicationByPort _ port := if port = 68 then some 0 else none
  handleData _ _ := pure ()

/-- A frame to the device whose IP header is followed by a datagram of nine bytes for
port 68, with a length field. -/
def lengthFrame (length : Short) : IPProtocolLayer.IPFrame where
  link := List.replicate 14 0
  link_length := IPProtocolLayer.zeroLink_length
  header := ⟨[0x45, 0, 0, 29, 0, 1, 0x20, 0, 64, 17, 0, 0, 10, 0, 0, 1] ++ sampleDevice.deviceIPAddress,
    by decide, by decide⟩
  body := [0, 53, 0, 68] ++ shortBytes length ++ [0, 0, 7]

theorem delivers_nine_bytes :
    DeliversPayload sampleNetwork oneApplication (lengthFrame 9) (emptyTables ()) :=
  (delivers_payload_iff sampleNetwork oneApplication rfl (by decide) (emptyTables ())).mpr
    fun _ _ => ⟨by decide, by decide⟩

/-- The first fragment of a datagram of a hundred bytes is delivered. -/
theorem fragment_delivered : ¬ ∀ (σ : Type) (net : Network) (apps : AppLayer σ)
    (f : IPProtocolLayer.IPFrame) (s : ProtocolManager σ), f.header.protocol = 17 →
      8 ≤ f.datagram.length → DeliversPayload net apps f s := by
  intro h
  have hdelivers := h Unit sampleNetwork oneApplication (lengthFrame 100) (emptyTables ()) rfl
    (by decide)
  have haccepted : (lengthFrame 100).Accepted sampleNetwork.dataLinkLayer := by
    refine ⟨rfl, ?_, ?_⟩ <;> decide
  have hdeliveries := captured_deliveries sampleNetwork oneApplication (f := lengthFrame 100) rfl
    (by decide) haccepted (emptyTables ())
  have hpayload := hdelivers 0 (UDPProtocolLayer.info (lengthFrame 100).datagram
    ((lengthFrame 100).body.drop 8)) (by rw [hdeliveries]; exact List.mem_singleton_self _)
  exact absurd hpayload.2.1 (by decide)

end ProtocolManager

end TcpIpStack
