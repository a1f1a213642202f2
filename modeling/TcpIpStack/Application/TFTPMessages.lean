import TcpIpStack.Application.Requests
import TcpIpStack.Application.TFTPDownload

/-!
# What a TFTP client does with a datagram

Before anything else of a datagram is looked at, its source port becomes the
server's. A whole DATA message is then written down and acknowledged, an ERROR
message printed; any other datagram has no further effect, whether it is ignored
or too short to be read.
-/

namespace TcpIpStack.TFTPClient

open TcpIpStack.Java TcpIpStack.Lib
open UDPProtocolLayer (Received)

/-- A DATA message with its block number. -/
def IsData (d : Received) : Prop := 4 ≤ d.data.length ∧ shortOf (slice d.data 0 2) = OPTION_CODE_DATA

/-- An ERROR message with its code. -/
def IsError (d : Received) : Prop :=
  4 ≤ d.data.length ∧ shortOf (slice d.data 0 2) = OPTION_CODE_ERROR

instance : DecidablePred IsData := fun _ => inferInstanceAs (Decidable (_ ∧ _))

instance : DecidablePred IsError := fun _ => inferInstanceAs (Decidable (_ ∧ _))

/-- The block number of a DATA message. -/
def blockOf (d : Received) : Short := shortOf (slice d.data 2 2)

/-- What a DATA message carries. -/
def contentOf (d : Received) : Bytes := d.data.drop 4

/-- The server answers from another port. -/
def withPort (s : Scope) (port : JChar) : Scope := { s with statics := ⟨port⟩ }

/-! ## Sending -/

section

variable (dev : DataLinkLayer)

/-- A message goes out as one datagram to the port of the server, or not at all. -/
theorem sendMessage_cases (message : Bytes) (s : Scope) :
    (∃ e, sendMessage dev message s = ⟨.error e, s, []⟩) ∨
    ∃ packet dst, sendMessage dev message s =
        ⟨.ok (), s, [.sendData (some packet) s.this.server_ip]⟩ ∧
      Application.IsDatagram packet fake_ip dst (s.this.port.setWidth 16) s.statics.server_port
        message := by
  unfold sendMessage
  rw [Prog.read_bind_run]
  cases hudp : createUDPHeader s message with
  | error e => exact .inl ⟨e, rfl⟩
  | ok udp_header =>
  rw [Prog.lift_ok_bind]
  cases hp : Application.packet udp_header (createIPHeader dev s) with
  | error e => exact .inl ⟨e, rfl⟩
  | ok packet =>
  obtain ⟨dst, hdatagram⟩ := Application.packet_datagram ⟨rfl, rfl, rfl⟩ hudp
    (fun len header => createIPHeader_isHeader dev) hp
  exact .inr ⟨packet, dst, rfl, hdatagram⟩

/-- The server's address, if it has the four bytes a destination is read from. -/
def destination (s : Scope) : Option Bytes := s.this.server_ip.filter fun ip => 4 ≤ ip.length

theorem destination_eq_some {s : Scope} {ip : Bytes} :
    destination s = some ip ↔ s.this.server_ip = some ip ∧ 4 ≤ ip.length := by
  rw [destination, Option.filter_eq_some_iff, decide_eq_true_eq]

/-- Without one no message goes out. -/
theorem sendMessage_throws (message : Bytes) {s : Scope} (h : destination s = none) :
    ∃ e, sendMessage dev message s = ⟨.error e, s, []⟩ := by
  have hheader : ∀ len, ∃ e, createIPHeader dev s len = .error e := by
    intro len
    unfold createIPHeader
    cases hip : s.this.server_ip with
    | none => exact ⟨_, rfl⟩
    | some ip =>
      have hshort : ¬ 4 ≤ ip.length := fun hfour => by
        rw [destination_eq_some.mpr ⟨hip, hfour⟩] at h
        cases h
      have hread : (ByteBuffer.wrap ip).getInt = .error .bufferUnderflow :=
        (ByteBuffer.getInt_mk (Nat.zero_le _)).trans (dif_neg (by omega))
      rw [Application.notNull, ok_bind, hread]
      exact ⟨_, rfl⟩
  unfold sendMessage
  rw [Prog.read_bind_run]
  cases hudp : createUDPHeader s message with
  | error e => exact ⟨e, rfl⟩
  | ok udp_header =>
    rw [Prog.lift_ok_bind]
    cases udp_header with
    | none => exact ⟨_, rfl⟩
    | some udp =>
      obtain ⟨e, he⟩ := hheader (BitVec.ofNat 32 udp.length)
      rw [Application.packet, Application.notNull, ok_bind, he]
      exact ⟨e, rfl⟩

/-- To an address it does go out. -/
theorem sendMessage_sends {message : Bytes} (hlen : message.length + 8 < 2 ^ 15) {s : Scope} {ip : Bytes}
    (hip : s.this.server_ip = some ip) (hfour : 4 ≤ ip.length) :
    ∃ packet, sendMessage dev message s = ⟨.ok (), s, [.sendData (some packet) (some ip)]⟩ ∧
      Application.IsDatagram packet fake_ip (ip.take 4) (s.this.port.setWidth 16)
        s.statics.server_port message := by
  have hudp : createUDPHeader s message = .ok (some (UDPProtocolLayer.datagram
      (s.this.port.setWidth 16) s.statics.server_port message)) :=
    UDPProtocolLayer.createHeader_eq ⟨rfl, rfl, rfl⟩ hlen
  have hdest : (ByteBuffer.wrap ip).getInt = .ok (intOf (ip.take 4), ⟨ip, 4, hfour⟩) := by
    rw [ByteBuffer.getInt, ByteBuffer.take_ok (by show 0 + 4 ≤ ip.length; omega)]
    rfl
  have hsource := ByteBuffer.getInt_wrap (show fake_ip.length = 4 from rfl)
  have hcreate : ∀ len, createIPHeader dev s len = IPProtocolLayer.createHeader dev (Info.empty
      |>.put .data_length (.int len)
      |>.put .destination_ip (.int (intOf (ip.take 4)))
      |>.put .source_ip (.int (intOf fake_ip))
      |>.put .protocol (.byte UDPProtocolLayer.PROTOCOL_UDP)) := by
    intro len
    simp only [createIPHeader, hip, Application.notNull, ok_bind, hdest, hsource]
  obtain ⟨packet, hpacket, hdatagram⟩ := Application.packet_isDatagram hcreate
    (fun _ => ⟨rfl, rfl, rfl, rfl, rfl, ⟨0, rfl⟩, ⟨0, rfl⟩, ⟨0, rfl⟩, ⟨0, rfl⟩, ⟨0, rfl⟩,
      ⟨64, rfl⟩⟩) (fun _ => rfl) (s.this.port.setWidth 16) s.statics.server_port message
  rw [intBytes_intOf rfl, intBytes_intOf (by rw [List.length_take]; omega)] at hdatagram
  refine ⟨packet, ?_, hdatagram⟩
  unfold sendMessage
  rw [Prog.read_bind_run, hudp, Prog.lift_ok_bind, hpacket, Prog.lift_ok_bind, hip]
  rfl

/-! ## Receiving -/

theorem isData_dataMessage (header : Bytes) (block : Short) (payload : Bytes) :
    IsData ⟨header, dataMessage block payload⟩ := by
  constructor
  · show 4 ≤ (shortBytes OPTION_CODE_DATA ++ shortBytes block ++ payload).length
    rw [List.length_append, List.length_append, shortBytes_length, shortBytes_length]
    omega
  · show shortOf (slice (shortBytes OPTION_CODE_DATA ++ shortBytes block ++ payload) 0 2) = _
    rw [List.append_assoc, slice_zero_append (shortBytes_length _), shortOf_shortBytes]

theorem IsData.data_eq {d : Received} (h : IsData d) :
    d.data = dataMessage (blockOf d) (contentOf d) := by
  obtain ⟨hlen, hcode⟩ := h
  have hrest : slice d.data 2 2 ++ d.data.drop 4 = d.data.drop 2 := by
    have htake := List.take_append_drop 2 (d.data.drop 2)
    rwa [List.drop_drop] at htake
  have hsplit : d.data = slice d.data 0 2 ++ slice d.data 2 2 ++ d.data.drop 4 := by
    rw [List.append_assoc, hrest]
    exact (List.take_append_drop 2 d.data).symm
  rw [dataMessage, ← hcode, shortBytes_shortOf (slice_length (by omega)), blockOf,
    shortBytes_shortOf (slice_length (by omega)), contentOf, ← hsplit]

/-- A DATA message is written down and acknowledged. -/
theorem handleData_isData {d : Received} (h : IsData d) (s : Scope) :
    handleData dev d.info s =
      (write (contentOf d) >>= fun _ => acknowledge dev (contentOf d).length)
        (received s d.header (blockOf d)) := by
  have hinfo : d.info = UDPProtocolLayer.info d.header (dataMessage (blockOf d) (contentOf d)) := by
    rw [← h.data_eq]
    rfl
  rw [hinfo, handleData_data]

/-- What comes before the operation code is looked at. -/
theorem handleData_opCode (d : Received) (s : Scope) :
    handleData dev d.info s = (Prog.lift (ByteBuffer.wrap d.data).getShort >>= fun p =>
      if p.1 = OPTION_CODE_DATA then handleDataPacket dev p.2
      else if p.1 = OPTION_CODE_ERROR then handleErrorPacket p.2
      else pure ()) (withPort s d.src_port) := by
  have hdata : d.info.getBytes .data = .ok (some d.data) := rfl
  have hport : d.info.unbox .src_port Obj.asShort = .ok d.src_port := rfl
  unfold handleData
  rw [hdata, Prog.lift_ok_bind]
  dsimp only
  rw [hport, Prog.lift_ok_bind, Prog.modify_bind_run]
  rfl

/-- An ERROR message is printed. -/
theorem handleData_isError {d : Received} (h : IsError d) (s : Scope) :
    handleData dev d.info s = ⟨.ok (), withPort s d.src_port, []⟩ := by
  obtain ⟨hlen, hcode⟩ := h
  have hop : (ByteBuffer.wrap d.data).getShort = .ok (OPTION_CODE_ERROR, ⟨d.data, 2, by omega⟩) := by
    rw [← hcode]
    exact (ByteBuffer.getShort_mk (Nat.zero_le _)).trans (dif_pos (by omega))
  have herror : ByteBuffer.getShort ⟨d.data, 2, by omega⟩ =
      .ok (shortOf (slice d.data 2 2), ⟨d.data, 4, hlen⟩) :=
    (ByteBuffer.getShort_mk _).trans (dif_pos hlen)
  have htext : ByteBuffer.take ⟨d.data, 4, hlen⟩ (ByteBuffer.remaining ⟨d.data, 4, hlen⟩) =
      .ok (slice d.data 4 (d.data.length - 4), ⟨d.data, 4 + (d.data.length - 4), by omega⟩) :=
    ByteBuffer.take_ok (by show 4 + (d.data.length - 4) ≤ d.data.length; omega)
  rw [handleData_opCode, hop, Prog.lift_ok_bind]
  dsimp only
  rw [if_neg (by decide), if_pos rfl, handleErrorPacket, herror, Prog.lift_ok_bind]
  dsimp only
  rw [htext, Prog.lift_ok_bind]
  rfl

/-- Any other datagram leaves its port and nothing else. -/
theorem handleData_neither {d : Received} (hdata : ¬ IsData d) (herror : ¬ IsError d) (s : Scope) :
    (handleData dev d.info s).state = withPort s d.src_port ∧ (handleData dev d.info s).out = [] := by
  rw [handleData_opCode]
  by_cases htwo : 2 ≤ d.data.length
  · have hop : (ByteBuffer.wrap d.data).getShort =
        .ok (shortOf (slice d.data 0 2), ⟨d.data, 2, htwo⟩) :=
      (ByteBuffer.getShort_mk (Nat.zero_le _)).trans (dif_pos (by omega))
    have hshort : ¬ 4 ≤ d.data.length → ByteBuffer.getShort ⟨d.data, 2, htwo⟩ =
        .error .bufferUnderflow := fun h => (ByteBuffer.getShort_mk _).trans (dif_neg h)
    rw [hop, Prog.lift_ok_bind]
    dsimp only
    by_cases hthree : shortOf (slice d.data 0 2) = OPTION_CODE_DATA
    · rw [if_pos hthree, handleDataPacket, hshort fun hlen => hdata ⟨hlen, hthree⟩,
        Prog.lift_error_bind]
      exact ⟨rfl, rfl⟩
    by_cases hfive : shortOf (slice d.data 0 2) = OPTION_CODE_ERROR
    · rw [if_neg hthree, if_pos hfive, handleErrorPacket, hshort fun hlen => herror ⟨hlen, hfive⟩,
        Prog.lift_error_bind]
      exact ⟨rfl, rfl⟩
    · rw [if_neg hthree, if_neg hfive]
      exact ⟨rfl, rfl⟩
  · have hop : (ByteBuffer.wrap d.data).getShort = .error .bufferUnderflow :=
      (ByteBuffer.getShort_mk (Nat.zero_le _)).trans (dif_neg (by omega))
    rw [hop, Prog.lift_error_bind]
    exact ⟨rfl, rfl⟩

/-! ## Acknowledging -/

/-- The call sends the acknowledgement of the block to where the block came from. -/
def Acknowledges (ip : Bytes) (d : Received) (call : Call) : Prop :=
  ∃ (packet : Bytes) (srcPort : JChar), call = .sendData (some packet) (some ip) ∧
    Application.IsDatagram packet fake_ip (ip.take 4) srcPort d.src_port ([0, 4] ++ slice d.data 2 2)

/-- The stream after a write, whether it throws or not. -/
def appended (f : FileOutputStream) (p : Bytes) : FileOutputStream :=
  if f.isOpen then ⟨true, f.written ++ p⟩ else f

theorem withStream_self {s : Scope} {f : FileOutputStream} (h : stream s = some f) :
    withStream s f = s := by
  obtain ⟨statics, this⟩ := s
  obtain ⟨port, server_ip, data_block, filename, download_file_stream⟩ := this
  cases h
  rfl

theorem write_some {s : Scope} {f : FileOutputStream} (h : stream s = some f) (p : Bytes) :
    write p s = ⟨.ok (), withStream s (appended f p), []⟩ := by
  obtain ⟨isOpen, w⟩ := f
  cases isOpen with
  | true => exact write_open h p
  | false =>
    rw [show appended ⟨false, w⟩ p = ⟨false, w⟩ from rfl, withStream_self h]
    unfold write
    rw [Prog.read_bind_run, show s.this.download_file_stream = _ from h]
    rfl

/-- The stream after a block: a short one closes it. -/
def nextStream (f : FileOutputStream) (content : Bytes) : FileOutputStream :=
  if content.length < 512 then (appended f content).close else appended f content

/-- A closed stream stays as it is. -/
theorem nextStream_closed (w content : Bytes) : nextStream ⟨false, w⟩ content = ⟨false, w⟩ := by
  unfold nextStream
  split <;> rfl

theorem foldl_nextStream_closed (w : Bytes) (contents : List Bytes) :
    contents.foldl nextStream ⟨false, w⟩ = ⟨false, w⟩ := by
  induction contents with
  | nil => rfl
  | cons content contents ih =>
    rw [List.foldl_cons, nextStream_closed, ih]

theorem close_run {s : Scope} {f : FileOutputStream} (h : stream s = some f) :
    close s = ⟨.ok (), withStream s f.close, []⟩ := by
  unfold close
  rw [Prog.read_bind_run, show s.this.download_file_stream = _ from h]
  rfl

theorem sendACKPacket_eq (s : Scope) :
    sendACKPacket dev s = sendMessage dev ([0, 4] ++ shortBytes s.this.data_block) s := by
  have hfill : ByteBuffer.fill 4 [shortBytes OPTION_CODE_ACK, shortBytes s.this.data_block] =
      .ok ([0, 4] ++ shortBytes s.this.data_block) := by
    rw [ByteBuffer.fill_eq (by simp)]
    simp
    rfl
  unfold sendACKPacket
  rw [Prog.read_bind_run, hfill, Prog.lift_ok_bind]

section

variable {ip : Bytes} (hfour : 4 ≤ ip.length)

include hfour

/-- A block of at most 512 bytes is acknowledged, and then perhaps the last. -/
theorem acknowledge_sends {s : Scope} (hip : s.this.server_ip = some ip) {f : FileOutputStream}
    (hstream : stream s = some f) {n : Nat} (hn : n ≤ 512) :
    ∃ s' packet, acknowledge dev n s = ⟨.ok (), s', [.sendData (some packet) (some ip)]⟩ ∧
      Application.IsDatagram packet fake_ip (ip.take 4) (s.this.port.setWidth 16)
        s.statics.server_port ([0, 4] ++ shortBytes s.this.data_block) ∧
      s'.this.server_ip = some ip ∧ stream s' = some (if n < 512 then f.close else f) := by
  obtain ⟨packet, hrun, hdatagram⟩ := sendMessage_sends dev
    (show ([0, 4] ++ shortBytes s.this.data_block).length + 8 < 2 ^ 15 by simp) hip hfour
  rw [← sendACKPacket_eq] at hrun
  unfold acknowledge
  by_cases hfull : n = 512
  · subst hfull
    refine ⟨{ s with this := { s.this with data_block := s.this.data_block + 1 } }, packet, ?_,
      hdatagram, hip, hstream⟩
    rw [if_pos rfl]
    exact Prog.bind_run_ok hrun (Prog.read_bind_run _ s)
  · have hlt : n < 512 := by omega
    rw [if_neg hfull, if_pos hlt, if_pos hlt]
    refine ⟨{ withStream s f.close with this := { (withStream s f.close).this with data_block := 1 } },
      packet, ?_, hdatagram, hip, rfl⟩
    exact Prog.bind_run_ok hrun (Prog.bind_run_ok (close_run hstream) rfl)

/-- A block on a stream: it is written if the stream is open, and acknowledged if
it is not too long. -/
theorem data_step {s : Scope} (hip : s.this.server_ip = some ip) {f : FileOutputStream}
    (hstream : stream s = some f) {d : Received} (hdata : IsData d) :
    ∃ s' out, handleData dev d.info s = ⟨.ok (), s', out⟩ ∧ s'.this.server_ip = some ip ∧
      stream s' = some (nextStream f (contentOf d)) ∧
      if (contentOf d).length ≤ 512 then ∃ call, out = [call] ∧ Acknowledges ip d call
      else out = [] := by
  obtain ⟨s1, hs1⟩ : ∃ s1, s1 = withStream (received s d.header (blockOf d))
      (appended f (contentOf d)) := ⟨_, rfl⟩
  have hwrite : write (contentOf d) (received s d.header (blockOf d)) = ⟨.ok (), s1, []⟩ := by
    rw [hs1]
    exact write_some (s := received s d.header (blockOf d)) hstream _
  have hip1 : s1.this.server_ip = some ip := by rw [hs1]; exact hip
  have hstream1 : stream s1 = some (appended f (contentOf d)) := by rw [hs1]; rfl
  rw [handleData_isData dev hdata]
  by_cases hn : (contentOf d).length ≤ 512
  · obtain ⟨s', packet, hack, hdatagram, hip', hstream'⟩ :=
      acknowledge_sends dev hfour hip1 hstream1 hn
    refine ⟨s', _, Prog.bind_run_ok hwrite hack, hip', hstream', ?_⟩
    rw [if_pos hn]
    have hblock : shortBytes s1.this.data_block = slice d.data 2 2 := by
      rw [hs1]
      exact shortBytes_shortOf (slice_length hdata.1)
    have hport : s1.statics.server_port = d.src_port := by rw [hs1]; rfl
    rw [hblock, hport] at hdatagram
    exact ⟨_, rfl, packet, _, rfl, hdatagram⟩
  · refine ⟨s1, [], ?_, hip1, ?_, ?_⟩
    · refine Prog.bind_run_ok hwrite ?_
      unfold acknowledge
      rw [if_neg (by omega), if_neg (by omega)]
      rfl
    · rw [nextStream, if_neg (by omega)]
      exact hstream1
    · rw [if_neg hn]

end

/-- A block that cannot be acknowledged is written all the same, and closes nothing. -/
theorem data_step_unanswered {s : Scope} (hnone : destination s = none) {w : Bytes}
    (hopen : stream s = some ⟨true, w⟩) {d : Received} (hdata : IsData d) :
    stream (handleData dev d.info s).state = some ⟨true, w ++ contentOf d⟩ ∧
      destination (handleData dev d.info s).state = none ∧ (handleData dev d.info s).out = [] := by
  obtain ⟨s1, hs1⟩ : ∃ s1, s1 = withStream (received s d.header (blockOf d))
      ⟨true, w ++ contentOf d⟩ := ⟨_, rfl⟩
  have hwrite : write (contentOf d) (received s d.header (blockOf d)) = ⟨.ok (), s1, []⟩ := by
    rw [hs1]
    exact write_open (s := received s d.header (blockOf d)) hopen _
  have hnone1 : destination s1 = none := by rw [hs1]; exact hnone
  have hstream1 : stream s1 = some ⟨true, w ++ contentOf d⟩ := by rw [hs1]; rfl
  have hack : (acknowledge dev (contentOf d).length s1).state = s1 ∧
      (acknowledge dev (contentOf d).length s1).out = [] := by
    obtain ⟨e, hthrows⟩ := sendMessage_throws dev ([0, 4] ++ shortBytes s1.this.data_block) hnone1
    rw [← sendACKPacket_eq] at hthrows
    unfold acknowledge
    split
    · rw [Prog.bind_run_error hthrows]
      exact ⟨rfl, rfl⟩
    split
    · rw [Prog.bind_run_error hthrows]
      exact ⟨rfl, rfl⟩
    · exact ⟨rfl, rfl⟩
  rw [handleData_isData dev hdata, Prog.bind_run, hwrite]
  exact ⟨by rw [hack.1, hstream1], by rw [hack.1, hnone1], by rw [hack.2, List.append_nil]⟩

/-- The client after datagrams, and what it sent. -/
def afterDatagrams (datagrams : List Received) (s : Scope) : Scope × List Call :=
  Prog.runs (fun d : Received => handleData dev d.info) datagrams s

section

variable {ip : Bytes} (hfour : 4 ≤ ip.length)

include hfour

/-- A run of blocks: every one up to 512 bytes is acknowledged in its turn. -/
theorem afterDatagrams_data {s : Scope} (hip : s.this.server_ip = some ip) {f : FileOutputStream}
    (hstream : stream s = some f) {datagrams : List Received} (hdata : ∀ d ∈ datagrams, IsData d) :
    List.Forall₂ (Acknowledges ip) (datagrams.filter fun d => decide ((contentOf d).length ≤ 512))
      (afterDatagrams dev datagrams s).2 ∧
    stream (afterDatagrams dev datagrams s).1 =
      some ((datagrams.map contentOf).foldl nextStream f) := by
  induction datagrams generalizing s f with
  | nil => exact ⟨.nil, hstream⟩
  | cons d datagrams ih =>
    obtain ⟨s', out, hrun, hip', hstream', hout⟩ :=
      data_step dev hfour hip hstream (hdata d List.mem_cons_self)
    obtain ⟨hacks, hend⟩ := ih hip' hstream' fun e he => hdata e (List.mem_cons_of_mem _ he)
    have hcons : afterDatagrams dev (d :: datagrams) s = ((afterDatagrams dev datagrams s').1,
        out ++ (afterDatagrams dev datagrams s').2) := by
      rw [afterDatagrams, Prog.runs_cons, hrun]
      rfl
    rw [hcons]
    refine ⟨?_, hend⟩
    by_cases hn : (contentOf d).length ≤ 512
    · rw [if_pos hn] at hout
      obtain ⟨call, rfl, hcall⟩ := hout
      rw [List.filter_cons_of_pos (by exact decide_eq_true hn)]
      exact .cons hcall hacks
    · rw [if_neg hn] at hout
      rw [hout, List.filter_cons_of_neg (by rw [decide_eq_true_eq]; exact hn)]
      exact hacks

/-- After a short block nothing is written any more. -/
theorem written_after_short {s : Scope} (hip : s.this.server_ip = some ip) {f : FileOutputStream}
    (hstream : stream s = some f) {before after : List Received} {d : Received}
    (hdata : ∀ e ∈ before ++ d :: after, IsData e) (hshort : (contentOf d).length < 512) :
    written (afterDatagrams dev (before ++ d :: after) s).1 =
      written (afterDatagrams dev (before ++ [d]) s).1 := by
  have hsub : ∀ e ∈ before ++ [d], IsData e := by
    intro e he
    refine hdata e ?_
    rw [List.append_cons]
    exact List.mem_append_left _ he
  obtain ⟨-, hend⟩ := afterDatagrams_data dev hfour hip hstream hdata
  obtain ⟨-, hmid⟩ := afterDatagrams_data dev hfour hip hstream hsub
  rw [written, written, hend, hmid, List.append_cons, List.map_append, List.foldl_append]
  have hclosed : ∀ f : FileOutputStream, ∃ w, nextStream f (contentOf d) = ⟨false, w⟩ := fun f => by
    rw [nextStream, if_pos hshort]
    exact ⟨_, rfl⟩
  obtain ⟨w', hw'⟩ := hclosed ((before.map contentOf).foldl nextStream f)
  rw [List.map_append, List.map_singleton, List.foldl_concat, hw', foldl_nextStream_closed]

end

/-- A run of blocks no one can acknowledge. -/
theorem afterDatagrams_unanswered {s : Scope} (hnone : destination s = none) {w : Bytes}
    (hopen : stream s = some ⟨true, w⟩) {datagrams : List Received} (hdata : ∀ d ∈ datagrams, IsData d) :
    (afterDatagrams dev datagrams s).2 = [] ∧
      stream (afterDatagrams dev datagrams s).1 =
        some ⟨true, w ++ (datagrams.map contentOf).flatten⟩ := by
  induction datagrams generalizing s w with
  | nil => exact ⟨rfl, by rw [List.map_nil, List.flatten_nil, List.append_nil]; exact hopen⟩
  | cons d datagrams ih =>
    obtain ⟨hstream, hnone', hout⟩ :=
      data_step_unanswered dev hnone hopen (hdata d List.mem_cons_self)
    obtain ⟨hquiet, hend⟩ := ih hnone' hstream fun e he => hdata e (List.mem_cons_of_mem _ he)
    rw [afterDatagrams, Prog.runs_cons, hout]
    refine ⟨hquiet, ?_⟩
    rw [List.map_cons, List.flatten_cons, ← List.append_assoc]
    exact hend

/-- With a destination every block of at most 512 bytes is acknowledged once, in order, to
where it came from, and no other, and after one of fewer than 512 nothing is written any
more; without one no block is acknowledged and every block is written. -/
theorem ack_discipline {s : Scope} {w : Bytes} (hopen : stream s = some ⟨true, w⟩)
    {datagrams : List Received} (hdata : ∀ d ∈ datagrams, IsData d) :
    match destination s with
    | some ip =>
      List.Forall₂ (Acknowledges ip) (datagrams.filter fun d => decide ((contentOf d).length ≤ 512))
        (afterDatagrams dev datagrams s).2 ∧
      ∀ before d after, datagrams = before ++ d :: after → (contentOf d).length < 512 →
        written (afterDatagrams dev datagrams s).1 =
          written (afterDatagrams dev (before ++ [d]) s).1
    | none =>
      (afterDatagrams dev datagrams s).2 = [] ∧
      written (afterDatagrams dev datagrams s).1 = some (w ++ (datagrams.map contentOf).flatten) := by
  cases hdst : destination s with
  | some ip =>
    obtain ⟨hip, hfour⟩ := destination_eq_some.mp hdst
    refine ⟨(afterDatagrams_data dev hfour hip hopen hdata).1, ?_⟩
    rintro before d after rfl hshort
    exact written_after_short dev hfour hip hopen hdata hshort
  | none =>
    obtain ⟨hquiet, hend⟩ := afterDatagrams_unanswered dev hdst hopen hdata
    exact ⟨hquiet, by rw [written, hend]; rfl⟩

end

/-- Block 1 of two bytes, from port 40000. -/
def sampleBlock : Received := ⟨[0x9C, 0x40, 0xED, 0x22, 0, 14], dataMessage 1 [7, 8]⟩

/-- A client that has opened its file. -/
def sampleClient : Scope := withStream (construct (some [192, 168, 1, 1])) ⟨true, []⟩

theorem ack_discipline_two_blocks :
    List.Forall₂ (Acknowledges [192, 168, 1, 1]) [sampleBlock, sampleBlock]
      (afterDatagrams sampleDevice [sampleBlock, sampleBlock] sampleClient).2 ∧
    written (afterDatagrams sampleDevice [sampleBlock, sampleBlock] sampleClient).1 =
      written (afterDatagrams sampleDevice [sampleBlock] sampleClient).1 := by
  have hrun := ack_discipline sampleDevice (s := sampleClient) (w := []) rfl
    (show ∀ d ∈ [sampleBlock, sampleBlock], IsData d by decide)
  exact ⟨hrun.1, hrun.2 [] sampleBlock [sampleBlock] rfl (by decide)⟩

/-- A client for no server opens its file, writes both blocks and acknowledges neither. -/
theorem blocks_unanswered : ¬ ∀ (dev : DataLinkLayer) (getBytes : JString → Bytes)
    (server_ip : Option Bytes) (filename : JString) (datagrams : List Received),
    (∀ d ∈ datagrams, IsData d) →
    let s := (getFile dev getBytes true filename (construct server_ip)).state
    (afterDatagrams dev datagrams s).2.length =
        (datagrams.filter fun d => decide ((contentOf d).length ≤ 512)).length ∧
      ∀ before d after, datagrams = before ++ d :: after → (contentOf d).length < 512 →
        written (afterDatagrams dev datagrams s).1 =
          written (afterDatagrams dev (before ++ [d]) s).1 := by
  intro h
  obtain ⟨hone, -⟩ := h sampleDevice (fun _ => [102]) none [102] [sampleBlock, sampleBlock] (by decide)
  exact absurd hone (by decide)

end TcpIpStack.TFTPClient
