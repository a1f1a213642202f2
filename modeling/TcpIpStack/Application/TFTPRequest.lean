import TcpIpStack.Application.TFTPMessages
import TcpIpStack.Java.Charset

/-!
# The TFTP read request

The array of the request has a byte for every character of the name and the mode;
what is written to it are the bytes the platform's charset makes of them. So the
request is whole just if the two are as many.
-/

namespace TcpIpStack.TFTPClient

open TcpIpStack.Java TcpIpStack.Lib

/-- Opcode 1, the name and a zero, the mode and a zero. -/
def readRequest (getBytes : JString → Bytes) (filename : JString) : Bytes :=
  [0, 1] ++ getBytes filename ++ [0] ++ getBytes mode ++ [0]

/-- The bytes are no more than the characters the array is made for. -/
def Fits (getBytes : JString → Bytes) (filename : JString) : Prop :=
  (getBytes filename).length + (getBytes mode).length ≤ filename.length + mode.length

theorem readRequest_length (getBytes : JString → Bytes) (filename : JString) :
    (readRequest getBytes filename).length =
      (getBytes filename).length + (getBytes mode).length + 4 := by
  simp only [readRequest, List.length_append, List.length_cons, List.length_nil]
  omega

section

variable (dev : DataLinkLayer)

/-- A message that was sent had an address and fitted. -/
theorem sendMessage_canSend {message : Bytes} {s : Scope} (h : (sendMessage dev message s).out ≠ []) :
    (∃ ip, s.this.server_ip = some ip ∧ 4 ≤ ip.length) ∧ message.length + 8 < 2 ^ 15 := by
  unfold sendMessage at h
  rw [Prog.read_bind_run] at h
  cases hudp : createUDPHeader s message with
  | error e => rw [hudp] at h; exact absurd rfl h
  | ok udp_header =>
  obtain ⟨rfl, hlen⟩ := UDPProtocolLayer.createHeader_eq_ok ⟨rfl, rfl, rfl⟩ hudp
  refine ⟨?_, hlen⟩
  rw [hudp, Prog.lift_ok_bind] at h
  cases hip : s.this.server_ip with
  | none =>
    have hpacket : Application.packet (some (UDPProtocolLayer.datagram (s.this.port.setWidth 16)
        s.statics.server_port message)) (createIPHeader dev s) = .error .nullPointer := by
      simp only [Application.packet, Application.notNull, ok_bind, createIPHeader, hip, error_bind]
    rw [hpacket] at h
    exact absurd rfl h
  | some ip =>
    refine ⟨ip, rfl, ?_⟩
    by_contra hshort
    have hdest : (ByteBuffer.wrap ip).getInt = .error .bufferUnderflow :=
      (ByteBuffer.getInt_mk (Nat.zero_le _)).trans (dif_neg (by omega))
    have hpacket : Application.packet (some (UDPProtocolLayer.datagram (s.this.port.setWidth 16)
        s.statics.server_port message)) (createIPHeader dev s) = .error .bufferUnderflow := by
      simp only [Application.packet, Application.notNull, ok_bind, createIPHeader, hip, hdest,
        error_bind]
    rw [hpacket] at h
    exact absurd rfl h

variable (getBytes : JString → Bytes)

/-- If its bytes fit the request is sent, the rest of the array after it. -/
theorem sendReadPacket_cases (s : Scope) :
    (¬ Fits getBytes s.this.filename ∧ ∃ e, sendReadPacket dev getBytes s = ⟨.error e, s, []⟩) ∨
    (Fits getBytes s.this.filename ∧ ∃ message,
      message = readRequest getBytes s.this.filename ++
        List.replicate (s.this.filename.length + 12 -
          (readRequest getBytes s.this.filename).length) 0 ∧
      sendReadPacket dev getBytes s = sendMessage dev message s) := by
  let parts : List Bytes :=
    [shortBytes OPTION_CODE_READ, getBytes s.this.filename, [0], getBytes mode, [0]]
  have hparts : parts.flatten = readRequest getBytes s.this.filename := by
    simp [parts, readRequest, show shortBytes OPTION_CODE_READ = [0, 1] from rfl]
  have hsize : OPTION_CODE_LENGTH + s.this.filename.length + 1 + mode.length + 1 =
      s.this.filename.length + 12 := by
    show 2 + s.this.filename.length + 1 + 8 + 1 = _
    omega
  have hfits : Fits getBytes s.this.filename ↔ parts.flatten.length ≤ s.this.filename.length + 12 := by
    have hmode : mode.length = 8 := rfl
    rw [hparts, readRequest_length, Fits]
    omega
  unfold sendReadPacket
  rw [Prog.read_bind_run, hsize]
  by_cases hle : parts.flatten.length ≤ s.this.filename.length + 12
  · refine .inr ⟨hfits.mpr hle, _, rfl, ?_⟩
    rw [ByteBuffer.fill_eq hle, Prog.lift_ok_bind, hparts]
  · refine .inl ⟨mt hfits.mp hle, ?_⟩
    cases hfill : ByteBuffer.fill (s.this.filename.length + 12) parts with
    | ok message => exact absurd (ByteBuffer.fill_eq_ok hfill) hle
    | error e => exact ⟨e, rfl⟩

/-! ## Whole requests -/

/-- The method returns and hands in one datagram for the server, with this payload. -/
def HandsIn (method : AppM Scope Unit) (s : Scope) (payload : Bytes) : Prop :=
  (method s).result = .ok () ∧ ∃ packet dst,
    (method s).out = [.sendData (some packet) s.this.server_ip] ∧
      Application.IsDatagram packet fake_ip dst (s.this.port.setWidth 16) s.statics.server_port payload

/-- A message goes out as it is, if there is an address and it fits in a datagram. -/
theorem sendMessage_handsIn_iff (message payload : Bytes) (s : Scope) :
    HandsIn (sendMessage dev message) s payload ↔
      (∃ ip, s.this.server_ip = some ip ∧ 4 ≤ ip.length) ∧ message.length + 8 < 2 ^ 15 ∧
        payload = message := by
  constructor
  · rintro ⟨-, packet, dst, hout, hpayload⟩
    have hsent := sendMessage_canSend dev (show (sendMessage dev message s).out ≠ [] by
      rw [hout]; exact List.cons_ne_nil _ _)
    refine ⟨hsent.1, hsent.2, ?_⟩
    rcases sendMessage_cases dev message s with ⟨e, hrun⟩ | ⟨packet', dst', hrun, hmessage⟩
    · rw [hrun] at hout
      cases hout
    · rw [hrun] at hout
      cases hout
      exact hpayload.payload_eq.symm.trans hmessage.payload_eq
  · rintro ⟨⟨ip, hip, hfour⟩, hlen, rfl⟩
    obtain ⟨packet, hrun, hdatagram⟩ := sendMessage_sends dev hlen hip hfour
    unfold HandsIn
    rw [hrun, hip]
    exact ⟨rfl, packet, _, rfl, hdatagram⟩

theorem sendReadPacket_handsIn_iff (s : Scope) :
    HandsIn (sendReadPacket dev getBytes) s (readRequest getBytes s.this.filename) ↔
      (∃ ip, s.this.server_ip = some ip ∧ 4 ≤ ip.length) ∧
        (getBytes s.this.filename).length + (getBytes mode).length =
          s.this.filename.length + mode.length ∧
        s.this.filename.length + 20 < 2 ^ 15 := by
  have hmode : mode.length = 8 := rfl
  have hlen := readRequest_length getBytes s.this.filename
  rcases sendReadPacket_cases dev getBytes s with ⟨hfits, e, hrun⟩ | ⟨hfits, message, hmessage, hrun⟩
  · refine iff_of_false (fun h => ?_) fun h => hfits (Nat.le_of_eq h.2.1)
    rw [HandsIn, hrun] at h
    cases h.1
  have hsame : HandsIn (sendReadPacket dev getBytes) s (readRequest getBytes s.this.filename) ↔
      HandsIn (sendMessage dev message) s (readRequest getBytes s.this.filename) := by
    rw [HandsIn, HandsIn, hrun]
  rw [hsame, sendMessage_handsIn_iff]
  refine and_congr_right fun _ => ?_
  unfold Fits at hfits
  have hmessageLen : message.length = s.this.filename.length + 12 := by
    rw [hmessage, List.length_append, List.length_replicate]
    omega
  -- the array is the request just if nothing of it is left over
  have hwhole : readRequest getBytes s.this.filename = message ↔
      (getBytes s.this.filename).length + (getBytes mode).length =
        s.this.filename.length + mode.length := by
    constructor
    · intro heq
      rw [heq, hmessageLen] at hlen
      omega
    · intro heq
      have hzero : s.this.filename.length + 12 - (readRequest getBytes s.this.filename).length = 0 := by
        omega
      rw [hmessage, hzero, List.replicate_zero, List.append_nil]
  rw [hwhole, hmessageLen]
  omega

/-- The file opened or not, the request is sent. -/
theorem getFile_run (created : Bool) (filename : JString) (s : Scope) :
    ∃ s' : Scope, getFile dev getBytes created filename s = sendReadPacket dev getBytes s' ∧
      s'.statics = s.statics ∧ s'.this.port = s.this.port ∧ s'.this.server_ip = s.this.server_ip ∧
      s'.this.filename = filename := by
  unfold getFile
  rw [Prog.modify_bind_run]
  cases created with
  | true => exact ⟨_, rfl, rfl, rfl, rfl, rfl⟩
  | false => exact ⟨_, rfl, rfl, rfl, rfl, rfl⟩

theorem getFile_handsIn_iff (created : Bool) (filename : JString) (s : Scope) :
    HandsIn (getFile dev getBytes created filename) s (readRequest getBytes filename) ↔
      (∃ ip, s.this.server_ip = some ip ∧ 4 ≤ ip.length) ∧
        (getBytes filename).length + (getBytes mode).length = filename.length + mode.length ∧
        filename.length + 20 < 2 ^ 15 := by
  obtain ⟨s', hrun, hstatics, hport, hip, rfl⟩ := getFile_run dev getBytes created filename s
  have hiff := sendReadPacket_handsIn_iff dev getBytes s'
  unfold HandsIn at hiff ⊢
  rwa [hrun, ← hstatics, ← hport, ← hip]

/-- In UTF-8 the bytes are as many as the characters for a name of narrow characters. -/
theorem utf8_length_iff (filename : JString) :
    (UTF8.getBytes filename).length + (UTF8.getBytes mode).length =
      filename.length + mode.length ↔ UTF8.AllNarrow filename := by
  have hmode : (UTF8.getBytes mode).length = mode.length := rfl
  rw [hmode, Nat.add_right_cancel_iff, (UTF8.length_getBytes filename).2]

/-- The request is well formed if and only if the server has an address, the charset makes as
many bytes as there are characters, and they fit in a datagram. In UTF-8 it makes as many just
for a name of narrow characters. -/
theorem readRequest_iff (created : Bool) (filename : JString) (s : Scope) :
    (HandsIn (getFile dev getBytes created filename) s (readRequest getBytes filename) ↔
      (∃ ip, s.this.server_ip = some ip ∧ 4 ≤ ip.length) ∧
        (getBytes filename).length + (getBytes mode).length = filename.length + mode.length ∧
        filename.length + 20 < 2 ^ 15) ∧
    (HandsIn (getFile dev UTF8.getBytes created filename) s (readRequest UTF8.getBytes filename) ↔
      (∃ ip, s.this.server_ip = some ip ∧ 4 ≤ ip.length) ∧ UTF8.AllNarrow filename ∧
        filename.length + 20 < 2 ^ 15) := by
  refine ⟨getFile_handsIn_iff dev getBytes created filename s, ?_⟩
  rw [getFile_handsIn_iff, utf8_length_iff]

end

/-- An umlaut makes two bytes in UTF-8. -/
theorem umlaut_overflows : ¬ ∀ (dev : DataLinkLayer) (getBytes : JString → Bytes) (created : Bool)
    (filename : JString), 0 ∉ filename →
    HandsIn (getFile dev getBytes created filename) (construct (some [192, 168, 1, 1]))
      (readRequest getBytes filename) := by
  intro h
  have hwhole := h sampleDevice UTF8.getBytes true [0xE4] (by decide)
  obtain ⟨-, hlength, -⟩ := (getFile_handsIn_iff sampleDevice UTF8.getBytes true [0xE4] _).mp hwhole
  exact absurd hlength (by decide)

end TcpIpStack.TFTPClient
