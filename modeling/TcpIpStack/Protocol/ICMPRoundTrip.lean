import TcpIpStack.Protocol.ICMPChain

/-!
# ICMP queries and their replies

An encoder appends its fields one after the other (`message`); the decoder of
the reply reads them at fixed offsets. `createHeader_echo` and
`createHeader_timestamp` are the messages the encoders build, `Query.Answered`
says that a reply brings back what the query was built from. A time that is
left out moves the later ones to its place, and an echo needs data.
-/

namespace TcpIpStack.ICMPProtocolLayer

open TcpIpStack.Java TcpIpStack.Lib

/-! ## The messages -/

/-- An ICMP query: type, code, checksum, identifier, sequence number and the rest. -/
def message (type : Byte) (c identifier sequence : Short) (rest : Bytes) : Bytes :=
  [type, 0] ++ shortBytes c ++ shortBytes identifier ++ shortBytes sequence ++ rest

theorem message_length (type : Byte) (c identifier sequence : Short) (rest : Bytes) :
    (message type c identifier sequence rest).length = 8 + rest.length := by
  simp [message]
  omega

theorem storeChecksum_message (type : Byte) (identifier sequence : Short) (w : Bytes) (k : Nat) :
    ∃ c, Utility.storeChecksum 2 (some (ByteBuffer.fresh (message type 0 identifier sequence w) k)) =
      .ok (some (message type c identifier sequence (w ++ List.replicate k 0))) := by
  obtain ⟨c, hc⟩ := @Utility.storeChecksum_eq 2
    (ByteBuffer.fresh (message type 0 identifier sequence w) k) (by simp [message])
  exact ⟨c, hc⟩

section

variable {ran : JInt} {headerInfo : Info} {identifier sequence : Short}

/-- The echo encoder writes its parts into an array it makes for them. -/
theorem echo_layout {data : Bytes} (hheader : headerInfo .header = some (.string "echo"))
    (hdata : headerInfo .data = some (.bytes data))
    (hid : headerInfo.getOr .identifier Obj.asShort (ran.setWidth 16) = .ok identifier)
    (hseq : headerInfo.getOr .sequence_number Obj.asShort 0 = .ok sequence) :
    ICMPEchoHeader.layoutHeader ran headerInfo = (do
      let buffer ← newArray (BitVec.ofNat 32 (8 + data.length)).toInt
      return some (← (ByteBuffer.wrap buffer).putAll
        [[8], [0], shortBytes 0, shortBytes identifier, shortBytes sequence, data])) := by
  unfold ICMPEchoHeader.layoutHeader Info.unbox
  simp only [hheader, hdata, hid, hseq, Obj.asString, Obj.asBytes, ok_bind, ByteBuffer.putAll,
    bind_assoc]
  rfl

/-- An echo of data that an array holds together with the header. -/
theorem createHeader_echo {data : Bytes} (hheader : headerInfo .header = some (.string "echo"))
    (hdata : headerInfo .data = some (.bytes data))
    (hid : headerInfo.getOr .identifier Obj.asShort (ran.setWidth 16) = .ok identifier)
    (hseq : headerInfo.getOr .sequence_number Obj.asShort 0 = .ok sequence)
    (hfits : 8 + data.length < 2 ^ 31) :
    ∃ c, createHeader ran headerInfo = .ok (some (message 8 c identifier sequence data)) := by
  have hint : (BitVec.ofNat 32 (8 + data.length)).toInt = (8 + data.length : Nat) := by
    rw [BitVec.toInt_eq_toNat_of_lt (by rw [BitVec.toNat_ofNat]; omega), BitVec.toNat_ofNat,
      Nat.mod_eq_of_lt (by omega)]
  have hflat : [[8], [0], shortBytes 0, shortBytes identifier, shortBytes sequence, data].flatten =
      message 8 0 identifier sequence data := by
    simp [message]
  have hlay : ICMPEchoHeader.layoutHeader ran headerInfo =
      .ok (some (ByteBuffer.fresh (message 8 0 identifier sequence data) 0)) := by
    rw [echo_layout hheader hdata hid hseq, hint, newArray, if_neg (by omega), Int.toNat_natCast,
      ok_bind, ByteBuffer.wrap_replicate, ByteBuffer.fresh_putAll, hflat, message_length,
      Nat.sub_self]
    · rfl
    · rw [hflat, message_length]
  obtain ⟨c, hc⟩ := storeChecksum_message 8 identifier sequence data 0
  refine ⟨c, ?_⟩
  rw [createHeader, firstAnswer, ICMPEchoHeader.createHeader, hlay, ok_bind, hc,
    List.replicate_zero, List.append_nil]
  rfl

/-- Data that leaves no room for the header in an array. -/
theorem createHeader_echo_long {data : Bytes}
    (hheader : headerInfo .header = some (.string "echo"))
    (hdata : headerInfo .data = some (.bytes data))
    (hid : headerInfo.getOr .identifier Obj.asShort (ran.setWidth 16) = .ok identifier)
    (hseq : headerInfo.getOr .sequence_number Obj.asShort 0 = .ok sequence)
    (hlong : 2 ^ 31 ≤ 8 + data.length) : ∃ e, createHeader ran headerInfo = .error e := by
  have hlay : ∃ e, ICMPEchoHeader.layoutHeader ran headerInfo = .error e := by
    rw [echo_layout hheader hdata hid hseq]
    have hlt := BitVec.toInt_lt (x := BitVec.ofNat 32 (8 + data.length))
    generalize (BitVec.ofNat 32 (8 + data.length)).toInt = n at hlt
    unfold newArray
    by_cases hneg : n < 0
    · rw [if_pos hneg]
      exact ⟨_, rfl⟩
    rw [if_neg hneg, ok_bind, ByteBuffer.wrap_replicate]
    cases hput : (ByteBuffer.fresh [] n.toNat).putAll
        [[8], [0], shortBytes 0, shortBytes identifier, shortBytes sequence, data] with
    | error e => exact ⟨e, rfl⟩
    | ok b =>
      have hle := ByteBuffer.fresh_putAll_eq_ok hput
      simp only [List.flatten_cons, List.flatten_nil, List.length_append, List.length_cons,
        List.length_nil, shortBytes_length] at hle
      omega
  obtain ⟨e, he⟩ := hlay
  rw [createHeader, firstAnswer, ICMPEchoHeader.createHeader, he]
  exact ⟨e, rfl⟩

/-- An echo without data: its length is asked for all the same. -/
theorem createHeader_echo_absent (hheader : headerInfo .header = some (.string "echo"))
    (hdata : headerInfo .data = none) : createHeader ran headerInfo = .error .nullPointer := by
  have hlay : ICMPEchoHeader.layoutHeader ran headerInfo = .error .nullPointer := by
    unfold ICMPEchoHeader.layoutHeader Info.unbox
    simp only [hheader, hdata, Obj.asString, ok_bind]
    rfl
  rw [createHeader, firstAnswer, ICMPEchoHeader.createHeader, hlay]
  rfl

/-! ## Timestamps -/

/-- The times that are there, in their order. -/
def sentTimes (original_time receive_time transmit_time : Option JInt) : List JInt :=
  original_time.toList ++ (receive_time.toList ++ transmit_time.toList)

theorem sentTimes_length (o r t : Option JInt) : (sentTimes o r t).length ≤ 3 := by
  cases o <;> cases r <;> cases t <;> simp [sentTimes]

/-- The three words behind the sequence number. -/
def timeBytes (times : List JInt) : Bytes :=
  intBytes (times.getD 0 0) ++ intBytes (times.getD 1 0) ++ intBytes (times.getD 2 0)

theorem flatten_intBytes_length (times : List JInt) :
    (times.map intBytes).flatten.length = 4 * times.length := by
  induction times with
  | nil => rfl
  | cons time times ih =>
    rw [List.map_cons, List.flatten_cons, List.length_append, ih, intBytes_length, List.length_cons]
    omega

/-- Where times are missing the zeros are at the end. -/
theorem flatten_intBytes {times : List JInt} (h : times.length ≤ 3) :
    (times.map intBytes).flatten ++ List.replicate (12 - 4 * times.length) 0 = timeBytes times := by
  have hzero : intBytes 0#32 = [0, 0, 0, 0] := by decide
  match times, h with
  | [], _ => simp [timeBytes, hzero]
  | [_], _ => simp [timeBytes, hzero]
  | [_, _], _ => simp [timeBytes, hzero]
  | [_, _, _], _ => simp [timeBytes]

theorem putTime_eq {k : Key} {time : Option JInt} (htime : headerInfo k = time.map .int)
    (b : ByteBuffer) :
    ICMPTimeStampHeader.putTime headerInfo k b = b.putAll (time.toList.map intBytes) := by
  rw [ICMPTimeStampHeader.putTime, htime]
  cases time with
  | none => rfl
  | some t =>
    simp only [Option.map_some, Option.toList_some, List.map_cons, List.map_nil, Obj.asInt, ok_bind,
      ByteBuffer.putAll]
    exact (bind_pure _).symm

section

variable {o r t : Option JInt}

/-- The timestamp encoder appends the times it has to an array for three of them. -/
theorem timestamp_layout (hheader : headerInfo .header = some (.string "timestamp"))
    (hid : headerInfo.getOr .identifier Obj.asShort (ran.setWidth 16) = .ok identifier)
    (hseq : headerInfo.getOr .sequenceNumber Obj.asShort 0 = .ok sequence)
    (ho : headerInfo .original_time = o.map .int) (hr : headerInfo .receive_time = r.map .int)
    (ht : headerInfo .transmit_time = t.map .int) :
    ICMPTimeStampHeader.layoutHeader ran headerInfo = (do
      let buffer ← newArray 20
      return some (← (ByteBuffer.wrap buffer).putAll
        ([[13], [0], shortBytes 0, shortBytes identifier, shortBytes sequence] ++
          (sentTimes o r t).map intBytes))) := by
  unfold ICMPTimeStampHeader.layoutHeader Info.unbox
  simp only [hheader, hid, hseq, Obj.asString, ok_bind, putTime_eq ho, putTime_eq hr,
    putTime_eq ht, ByteBuffer.putAll, bind_assoc, sentTimes, List.map_append,
    ByteBuffer.putAll_append, List.cons_append, List.nil_append]
  rfl

/-- A timestamp carries the times it has one after the other. -/
theorem createHeader_timestamp (hheader : headerInfo .header = some (.string "timestamp"))
    (hid : headerInfo.getOr .identifier Obj.asShort (ran.setWidth 16) = .ok identifier)
    (hseq : headerInfo.getOr .sequenceNumber Obj.asShort 0 = .ok sequence)
    (ho : headerInfo .original_time = o.map .int) (hr : headerInfo .receive_time = r.map .int)
    (ht : headerInfo .transmit_time = t.map .int) :
    ∃ c, createHeader ran headerInfo =
      .ok (some (message 13 c identifier sequence (timeBytes (sentTimes o r t)))) := by
  have hecho : ICMPEchoHeader.layoutHeader ran headerInfo = .ok none := by
    unfold ICMPEchoHeader.layoutHeader Info.unbox
    simp only [hheader, Obj.asString, ok_bind]
    rfl
  have hlay := timestamp_layout hheader hid hseq ho hr ht
  have hthree := sentTimes_length o r t
  generalize sentTimes o r t = times at hlay hthree ⊢
  have hflat : ([[13], [0], shortBytes 0, shortBytes identifier, shortBytes sequence] ++
      times.map intBytes).flatten = message 13 0 identifier sequence (times.map intBytes).flatten := by
    simp [message]
  have hlen : (message 13 0 identifier sequence (times.map intBytes).flatten).length =
      8 + 4 * times.length := by
    rw [message_length, flatten_intBytes_length]
  have hnew : newArray 20 = .ok (List.replicate 20 0) := rfl
  obtain ⟨c, hc⟩ := storeChecksum_message 13 identifier sequence (times.map intBytes).flatten
    (12 - 4 * times.length)
  rw [flatten_intBytes hthree] at hc
  have hroom : 20 - (8 + 4 * times.length) = 12 - 4 * times.length := by omega
  have hcreate : ICMPTimeStampHeader.createHeader ran headerInfo =
      .ok (some (message 13 c identifier sequence (timeBytes times))) := by
    rw [ICMPTimeStampHeader.createHeader, hlay, hnew, ok_bind, ByteBuffer.wrap_replicate,
      ByteBuffer.fresh_putAll (by rw [hflat, hlen]; omega), List.nil_append, hflat, hlen, hroom]
    exact hc
  refine ⟨c, ?_⟩
  rw [createHeader, firstAnswer, ICMPEchoHeader.createHeader, hecho, firstAnswer, hcreate]
  rfl

end

end

/-! ## Queries and replies -/

/-- What a query is about: data of an echo, or the times of a timestamp. -/
inductive Query where
  | echo (data : Option Bytes)
  | timestamp (original_time receive_time transmit_time : Option JInt)

namespace Query

/-- The table asks for this query; the two encoders read the sequence number
under different keys. -/
def EnteredIn (identifier sequence : Short) (headerInfo : Info) : Query → Prop
  | echo data => headerInfo .header = some (.string "echo") ∧
      headerInfo .identifier = some (.short identifier) ∧
      headerInfo .sequence_number = some (.short sequence) ∧ headerInfo .data = data.map .bytes
  | timestamp o r t => headerInfo .header = some (.string "timestamp") ∧
      headerInfo .identifier = some (.short identifier) ∧
      headerInfo .sequenceNumber = some (.short sequence) ∧
      headerInfo .original_time = o.map .int ∧ headerInfo .receive_time = r.map .int ∧
      headerInfo .transmit_time = t.map .int

def replyType : Query → Byte
  | echo _ => ICMPEchoHeader.ICMP_ECHO_REPLY_TYPE
  | timestamp _ _ _ => ICMPTimeStampHeader.ICMP_TIMESTAMP_REPLY_TYPE

/-- The reply: the query's bytes with another type. -/
def reply (q : Query) (b : Bytes) : Packet :=
  ⟨ETHERTYPE_IP, ByteBuffer.storeAt b 0 [q.replyType], b.drop 8⟩

/-- The table of a reply says what was asked, an absent time as 0. -/
def ReadBack (identifier sequence : Short) (info : Info) (q : Query) : Prop :=
  info .identifier = some (.short identifier) ∧ info .sequence = some (.short sequence) ∧
    match q with
    | echo data => info .data = data.map .bytes
    | timestamp o r t => info .original_time = some (.int (o.getD 0)) ∧
        info .receive_time = some (.int (r.getD 0)) ∧
        info .transmit_time = some (.int (t.getD 0))

/-- The query is built, and its reply read back. -/
def Answered (ran : JInt) (headerInfo : Info) (identifier sequence : Short) (q : Query) : Prop :=
  ∃ b info, createHeader ran headerInfo = .ok (some b) ∧
    handlePacket (q.reply b) = .ok (some info) ∧ q.ReadBack identifier sequence info

/-- There is data, and an array for it and the header; no time but zero comes
after one that is left out. -/
def Complete : Query → Prop
  | echo none => False
  | echo (some data) => 0 < data.length ∧ 8 + data.length < 2 ^ 31
  | timestamp o r t => (o = none → r.getD 0 = 0 ∧ t.getD 0 = 0) ∧ (r = none → t.getD 0 = 0)

end Query

/-- The decoder's table of an echo reply. -/
theorem handlePacket_echo_reply (data : Option Bytes) (c identifier sequence : Short) (rest : Bytes) :
    ∃ info, handlePacket ((Query.echo data).reply (message 8 c identifier sequence rest)) =
        .ok (some info) ∧
      info .identifier = some (.short identifier) ∧ info .sequence = some (.short sequence) ∧
      info .data = if rest = [] then none else some (.bytes rest) := by
  let packet := (Query.echo data).reply (message 8 c identifier sequence rest)
  have hlen : packet.header.length = 8 + rest.length := message_length 0 c identifier sequence rest
  have hecho := @echo_bare_eq packet (by omega)
  rw [if_pos (show typeOf packet.header = 0 from rfl)] at hecho
  have hchain : handlePacket packet = .ok (some (if packet.header.length > 8 then
      ICMPEchoHeader.info packet else ICMPEchoHeader.bareInfo packet)) := by
    rw [handlePacket, firstAnswer, hecho]
    rfl
  have hidentifier : shortOf (slice packet.header 4 2) = identifier := shortOf_shortBytes _
  have hsequence : shortOf (slice packet.header 6 2) = sequence := shortOf_shortBytes _
  refine ⟨_, hchain, ?_⟩
  by_cases hrest : rest = []
  · have hshort : ¬ packet.header.length > 8 := by rw [hlen, hrest, List.length_nil]; omega
    rw [if_neg hshort, if_pos hrest, ICMPEchoHeader.bareInfo, hidentifier, hsequence]
    exact ⟨rfl, rfl, rfl⟩
  · have hpos := List.length_pos_iff.mpr hrest
    rw [if_pos (show packet.header.length > 8 by omega), if_neg hrest, ICMPEchoHeader.info,
      hidentifier, hsequence]
    exact ⟨rfl, rfl, rfl⟩

/-- The decoder's table of a timestamp reply: three words at fixed places. -/
theorem handlePacket_timestamp_reply (o r t : Option JInt) (c identifier sequence : Short)
    (times : List JInt) :
    ∃ info, handlePacket ((Query.timestamp o r t).reply
        (message 13 c identifier sequence (timeBytes times))) = .ok (some info) ∧
      info .identifier = some (.short identifier) ∧ info .sequence = some (.short sequence) ∧
      info .original_time = some (.int (times.getD 0 0)) ∧
      info .receive_time = some (.int (times.getD 1 0)) ∧
      info .transmit_time = some (.int (times.getD 2 0)) := by
  let packet := (Query.timestamp o r t).reply (message 13 c identifier sequence (timeBytes times))
  have hlen : packet.header.length = 20 := rfl
  have hchain := @handlePacket_eq packet (by omega)
  have htype : typeOf packet.header = 14 := rfl
  rw [htype, if_neg (by decide), if_pos rfl] at hchain
  have hidentifier : shortOf (slice packet.header 4 2) = identifier := shortOf_shortBytes _
  have hsequence : shortOf (slice packet.header 6 2) = sequence := shortOf_shortBytes _
  have horiginal : intOf (slice packet.header 8 4) = times.getD 0 0 := intOf_intBytes _
  have hreceive : intOf (slice packet.header 12 4) = times.getD 1 0 := intOf_intBytes _
  have htransmit : intOf (slice packet.header 16 4) = times.getD 2 0 := intOf_intBytes _
  refine ⟨_, hchain, ?_⟩
  rw [ICMPTimeStampHeader.info, hidentifier, hsequence, horiginal, hreceive, htransmit]
  exact ⟨rfl, rfl, rfl, rfl, rfl⟩

/-- The times come back under their own names if none moved to an earlier place. -/
theorem sentTimes_read_iff (o r t : Option JInt) :
    ((sentTimes o r t).getD 0 0 = o.getD 0 ∧ (sentTimes o r t).getD 1 0 = r.getD 0 ∧
      (sentTimes o r t).getD 2 0 = t.getD 0) ↔ (Query.timestamp o r t).Complete := by
  unfold Query.Complete sentTimes
  cases o <;> cases r <;> cases t <;> simp <;> grind

section

variable {ran : JInt} {headerInfo : Info} {identifier sequence : Short} {q : Query}

theorem answered_iff_readBack {b : Bytes} {info : Info}
    (hb : createHeader ran headerInfo = .ok (some b))
    (hinfo : handlePacket (q.reply b) = .ok (some info)) :
    q.Answered ran headerInfo identifier sequence ↔ q.ReadBack identifier sequence info := by
  constructor
  · rintro ⟨b', info', hb', hinfo', hread⟩
    cases hb.symm.trans hb'
    cases hinfo.symm.trans hinfo'
    exact hread
  · intro hread
    exact ⟨b, info, hb, hinfo, hread⟩

theorem not_answered_of_error {e : Throwable} (he : createHeader ran headerInfo = .error e) :
    ¬ q.Answered ran headerInfo identifier sequence := by
  rintro ⟨b, info, hb, -⟩
  cases he.symm.trans hb

theorem echo_answered_iff {data : Option Bytes}
    (h : (Query.echo data).EnteredIn identifier sequence headerInfo) :
    (Query.echo data).Answered ran headerInfo identifier sequence ↔
      (Query.echo data).Complete := by
  obtain ⟨hheader, hid, hseq, hdata⟩ := h
  have hid : headerInfo.getOr .identifier Obj.asShort (ran.setWidth 16) = .ok identifier :=
    Info.getOr_some hid ..
  have hseq : headerInfo.getOr .sequence_number Obj.asShort 0 = .ok sequence :=
    Info.getOr_some hseq ..
  cases data with
  | none => exact iff_of_false (not_answered_of_error (createHeader_echo_absent hheader hdata)) id
  | some data =>
    by_cases hfits : 8 + data.length < 2 ^ 31
    · obtain ⟨c, hc⟩ := createHeader_echo hheader hdata hid hseq hfits
      obtain ⟨info, hinfo, hidentifier, hsequence, hread⟩ :=
        handlePacket_echo_reply (some data) c identifier sequence data
      rw [answered_iff_readBack hc hinfo]
      constructor
      · rintro ⟨-, -, hsame⟩
        refine ⟨List.length_pos_iff.mpr fun hnil => ?_, hfits⟩
        rw [if_pos hnil] at hread
        cases hread.symm.trans hsame
      · rintro ⟨hpos, -⟩
        rw [if_neg (List.length_pos_iff.mp hpos)] at hread
        exact ⟨hidentifier, hsequence, hread⟩
    · obtain ⟨e, he⟩ := createHeader_echo_long hheader hdata hid hseq (by omega)
      exact iff_of_false (not_answered_of_error he) fun hcomplete => hfits hcomplete.2

theorem timestamp_answered_iff {o r t : Option JInt}
    (h : (Query.timestamp o r t).EnteredIn identifier sequence headerInfo) :
    (Query.timestamp o r t).Answered ran headerInfo identifier sequence ↔
      (Query.timestamp o r t).Complete := by
  obtain ⟨hheader, hid, hseq, ho, hr, ht⟩ := h
  have hid : headerInfo.getOr .identifier Obj.asShort (ran.setWidth 16) = .ok identifier :=
    Info.getOr_some hid ..
  have hseq : headerInfo.getOr .sequenceNumber Obj.asShort 0 = .ok sequence :=
    Info.getOr_some hseq ..
  obtain ⟨c, hc⟩ := createHeader_timestamp hheader hid hseq ho hr ht
  obtain ⟨info, hinfo, hidentifier, hsequence, horiginal, hreceive, htransmit⟩ :=
    handlePacket_timestamp_reply o r t c identifier sequence (sentTimes o r t)
  rw [answered_iff_readBack hc hinfo, ← sentTimes_read_iff]
  unfold Query.ReadBack
  simp only [hidentifier, hsequence, horiginal, hreceive, htransmit, Option.some.injEq,
    Obj.int.injEq, true_and]

/-- A query is answered with its own fields if and only if it is complete. -/
theorem answered_iff_complete (h : q.EnteredIn identifier sequence headerInfo) :
    q.Answered ran headerInfo identifier sequence ↔ q.Complete := by
  cases q with
  | echo data => exact echo_answered_iff h
  | timestamp o r t => exact timestamp_answered_iff h

end

/-! ## Two queries -/

/-- The table of an echo. -/
def echoInfo (data : Bytes) : Info := Info.empty
  |>.put .header (.string "echo")
  |>.put .identifier (.short 7)
  |>.put .sequence_number (.short 1)
  |>.put .data (.bytes data)

theorem echo_answered : (Query.echo (some [1, 2, 3])).Answered 0 (echoInfo [1, 2, 3]) 7 1 := by
  have hentered : (Query.echo (some [1, 2, 3])).EnteredIn 7 1 (echoInfo [1, 2, 3]) :=
    ⟨rfl, rfl, rfl, rfl⟩
  refine (answered_iff_complete hentered).mpr ?_
  exact ⟨by decide, by decide⟩

/-- A timestamp with its transmit time only. -/
def transmitInfo : Info := Info.empty
  |>.put .header (.string "timestamp")
  |>.put .identifier (.short 7)
  |>.put .sequenceNumber (.short 1)
  |>.put .transmit_time (.int 1000)

/-- Its reply has the transmit time under the name of the original one. -/
theorem transmit_not_answered :
    (Query.timestamp none none (some 1000)).EnteredIn 7 1 transmitInfo ∧
      ¬ (Query.timestamp none none (some 1000)).Answered 0 transmitInfo 7 1 := by
  refine ⟨⟨rfl, rfl, rfl, rfl, rfl, rfl⟩, ?_⟩
  rintro ⟨b, info, hb, hinfo, -, -, horiginal, -⟩
  have hcreate : ∃ c, createHeader 0 transmitInfo =
      .ok (some (message 13 c 7 1 (timeBytes (sentTimes none none (some 1000))))) :=
    createHeader_timestamp rfl rfl rfl rfl rfl rfl
  obtain ⟨c, hc⟩ := hcreate
  obtain ⟨info', hinfo', -, -, hread, -⟩ := handlePacket_timestamp_reply none none (some 1000) c 7 1
    (sentTimes none none (some 1000))
  cases hc.symm.trans hb
  cases hinfo'.symm.trans hinfo
  rw [hread] at horiginal
  cases horiginal

end TcpIpStack.ICMPProtocolLayer
