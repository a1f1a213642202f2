import TcpIpStack.Application.DNSText

/-!
# The question of a query

The encoder splits the domain name at its dots and sizes the array by the length
of the string; the decoder puts the dots back between the labels it reads.
-/

namespace TcpIpStack.DNSApplication

open TcpIpStack.Java TcpIpStack.Lib

/-- A domain name: labels of ASCII characters other than dots. -/
structure DomainName where
  labels : List Label
  nonempty : labels ≠ []
  no_dot : ∀ l ∈ labels, dot ∉ l.text

namespace DomainName

/-- The labels joined by dots. -/
def string (d : DomainName) : JString := joined d.labels

end DomainName

theorem Label.text_length (l : Label) : l.text.length = l.bytes.length := List.length_map _

theorem joined_length (labels : List Label) (h : labels ≠ []) :
    (joined labels).length + 1 = (rowBytes labels).length := by
  induction labels with
  | nil => exact absurd rfl h
  | cons l labels ih =>
    rw [rowBytes_cons, List.length_append, l.encode_length]
    cases labels with
    | nil => simp [joined, Label.text_length]
    | cons l' labels =>
      have hrest := ih (List.cons_ne_nil l' labels)
      simp only [joined, List.map_cons, List.intercalate_cons_cons, List.length_append,
        List.length_singleton, Label.text_length] at hrest ⊢
      omega

theorem dot_mem_joined (l l' : Label) (labels : List Label) : dot ∈ joined (l :: l' :: labels) := by
  simp [joined, List.intercalate_cons_cons]

theorem text_not_isEmpty (l : Label) : ¬ l.text.isEmpty := by
  have := l.length_range
  rw [List.isEmpty_iff_length_eq_zero, l.text_length]
  omega

/-- Splitting undoes joining. -/
theorem split_joined {labels : List Label} (hne : labels ≠ []) (hdot : ∀ l ∈ labels, dot ∉ l.text) :
    split (joined labels) = labels.map Label.text := by
  unfold split
  split
  · have hsplit : (joined labels).splitOn dot = labels.map Label.text :=
      List.splitOn_intercalate dot (List.forall_mem_map.mpr hdot) (by simpa using hne)
    rw [hsplit, List.rdropWhile_eq_self_iff]
    intro hmap
    rw [List.getLast_map]
    exact text_not_isEmpty _
  · rename_i hno
    match labels with
    | [] => exact absurd rfl hne
    | [l] => simp [joined]
    | l :: l' :: labels => exact absurd (dot_mem_joined l l' labels) hno

/-- What the encoder writes for a label. -/
theorem encode_text (l : Label) :
    BitVec.ofNat 8 l.text.length :: l.text.map (·.setWidth 8) = l.encode := by
  have hback : l.text.map (·.setWidth 8) = l.bytes := by
    rw [Label.text, List.map_map]
    refine (List.map_congr_left fun b _ => ?_).trans (List.map_id _)
    apply BitVec.eq_of_toNat_eq
    have := b.isLt
    simp only [Function.comp_apply, id_eq, BitVec.toNat_setWidth]
    omega
  rw [hback, l.text_length]
  rfl

/-- The two numbers after the name of the question. -/
def questionTail : Bytes := shortBytes QUESTION_TYPE_A ++ shortBytes QUESTION_CLASS

theorem constructDNSPacketQuestion_ok (d : DomainName) :
    constructDNSPacketQuestion d.string = .ok (rowBytes d.labels ++ 0 :: questionTail) := by
  have hparts : ((split d.string).map
      (fun str => BitVec.ofNat 8 str.length :: str.map (·.setWidth 8)) ++
        [[0], shortBytes QUESTION_TYPE_A, shortBytes QUESTION_CLASS]).flatten =
      rowBytes d.labels ++ 0 :: questionTail := by
    rw [DomainName.string, split_joined d.nonempty d.no_dot, List.map_map, List.flatten_append]
    congr 1
    rw [rowBytes, List.flatMap]
    congr 1
    exact List.map_congr_left fun l _ => encode_text l
  have hlen : (rowBytes d.labels ++ 0 :: questionTail).length =
      1 + 1 + d.string.length + QUESTION_TYPE_LENGTH + QUESTION_CLASS_LENGTH := by
    have := joined_length d.labels d.nonempty
    rw [List.length_append, List.length_cons, ← this]
    show _ + (4 + 1) = 1 + 1 + _ + 2 + 2
    rw [DomainName.string]
    omega
  rw [constructDNSPacketQuestion, ByteBuffer.fill_eq (by rw [hparts, hlen]), hparts, hlen,
    Nat.sub_self]
  simp

theorem constructDNSPacketHeader_ok (transition_id : Short) : ∃ dnsHeader,
    constructDNSPacketHeader transition_id = .ok dnsHeader ∧ dnsHeader.length = 12 := by
  rw [constructDNSPacketHeader, ByteBuffer.fill_eq (by simp)]
  exact ⟨_, rfl, by simp⟩

/-- `readQuestions` with count 1, from position 12 of `data` on, prints the string
as the name of the question, reads type 1 and class 1 and reaches the end. -/
structure QuestionRead (depth : Nat) (data : Bytes) (string : JString) (this : DNSApplication)
    (start afterName afterType atEnd : ByteBuffer) : Prop where
  begins : (ByteBuffer.wrap data).setPosition 12 = .ok start
  name : readStringContent depth start this = ⟨.ok afterName, this, printed string⟩
  type : afterName.getShort = .ok (1, afterType)
  clasz : afterType.getShort = .ok (1, atEnd)
  question : readQuestions depth 1 start this = ⟨.ok atEnd, this, printed string⟩
  ends : atEnd.array = data ∧ atEnd.position = data.length

/-- A name with its two numbers behind the header. -/
theorem questionRead_of_spells {header name : Bytes} {string : JString}
    (hheader : header.length = 12) (depth : Nat)
    (hspells : Spells (header ++ (name ++ questionTail)) 12 string (12 + name.length))
    (hdeep : ¬ Deep (header ++ (name ++ questionTail)) depth 12) (this : DNSApplication) :
    QuestionRead depth (header ++ (name ++ questionTail)) string this
      (.reading header (name ++ questionTail)) (.reading (header ++ name) questionTail)
      (.reading (header ++ name ++ shortBytes 1) (shortBytes 1))
      (.reading (header ++ name ++ shortBytes 1 ++ shortBytes 1) []) := by
  have hp : 12 ≤ (header ++ (name ++ questionTail)).length := by
    rw [List.length_append, hheader]
    omega
  have hstart : ByteBuffer.reading header (name ++ questionTail) =
      ⟨header ++ (name ++ questionTail), 12, hp⟩ := ByteBuffer.ext rfl hheader
  have hafter : (⟨header ++ (name ++ questionTail), 12 + name.length, hspells.le⟩ : ByteBuffer) =
      .reading (header ++ name) questionTail := by
    refine ByteBuffer.ext (List.append_assoc ..).symm ?_
    show 12 + name.length = (header ++ name).length
    rw [List.length_append, hheader]
  have hname : readStringContent depth (.reading header (name ++ questionTail)) this =
      ⟨.ok (.reading (header ++ name) questionTail), this, printed string⟩ := by
    rw [hstart, hspells.run hdeep hp this, hafter]
  have htype : (ByteBuffer.reading (header ++ name) questionTail).getShort =
      .ok (1, .reading (header ++ name ++ shortBytes 1) (shortBytes 1)) :=
    ByteBuffer.reading_getShort (header ++ name) QUESTION_TYPE_A (shortBytes 1)
  have hclasz : (ByteBuffer.reading (header ++ name ++ shortBytes 1) (shortBytes 1)).getShort =
      .ok (1, .reading (header ++ name ++ shortBytes 1 ++ shortBytes 1) []) := by
    have h := ByteBuffer.reading_getShort (header ++ name ++ shortBytes 1) 1 []
    rwa [List.append_nil] at h
  refine ⟨ByteBuffer.setPosition_reading header _ rfl (by rw [hheader]; rfl), hname, htype, hclasz, ?_,
    ?_, ?_⟩
  · have hrest : (Prog.lift (ByteBuffer.reading (header ++ name) questionTail).getShort >>=
        fun type => Prog.lift type.2.getShort >>= fun clasz => readQuestions depth 0 clasz.2 :
          AppM DNSApplication ByteBuffer) this =
        ⟨.ok (.reading (header ++ name ++ shortBytes 1 ++ shortBytes 1) []), this, []⟩ := by
      rw [htype, Prog.lift_ok_bind, hclasz, Prog.lift_ok_bind]
      rfl
    exact (Prog.bind_run_ok hname hrest).trans (by rw [List.append_nil])
  · show header ++ name ++ shortBytes 1 ++ shortBytes 1 ++ [] = _
    simp [questionTail, QUESTION_TYPE_A, QUESTION_CLASS]
  · show (header ++ name ++ shortBytes 1 ++ shortBytes 1).length = _
    simp [questionTail]

/-- A name without a pointer takes one call. -/
theorem not_deep_of_zero {a : Bytes} {p q : Nat} (h : (labelsAt a p).ending = .zero q) (depth : Nat) :
    ¬ Deep a (depth + 1) p := by
  rw [deep_succ, target, h]
  rintro ⟨t, ⟨⟩, -⟩

/-- The decoder reads back the domain name the encoder was given. -/
theorem question_round_trip (d : DomainName) (transition_id : Short) (depth : Nat)
    (this : DNSApplication) : ∃ dnsHeader dnsQuestion,
      constructDNSPacketHeader transition_id = .ok dnsHeader ∧
      constructDNSPacketQuestion d.string = .ok dnsQuestion ∧
      dnsQuestion = rowBytes d.labels ++ 0 :: (shortBytes 1 ++ shortBytes 1) ∧
      dnsQuestion.length = d.string.length + 6 ∧
      ∃ start afterName afterType atEnd, QuestionRead (depth + 1) (dnsHeader ++ dnsQuestion) d.string
        this start afterName afterType atEnd := by
  obtain ⟨dnsHeader, hheader, hlen⟩ := constructDNSPacketHeader_ok transition_id
  refine ⟨dnsHeader, _, hheader, constructDNSPacketQuestion_ok d, rfl, ?_, ?_⟩
  · have := joined_length d.labels d.nonempty
    rw [List.length_append, List.length_cons, ← this]
    rfl
  · have hsplit : rowBytes d.labels ++ 0 :: questionTail =
        (rowBytes d.labels ++ [0]) ++ questionTail := List.append_cons ..
    have hdrop : (dnsHeader ++ (rowBytes d.labels ++ [0] ++ questionTail)).drop 12 =
        rowBytes d.labels ++ 0 :: questionTail := by
      rw [← hlen, List.drop_left, hsplit]
    have hrow := labelsAt_row (.inl rfl) d.labels hdrop
    have hending := congrArg Labels.ending hrow
    rw [endingOf_zero] at hending
    have hspells := Spells.zero hending
    have hchars : (joined d.labels ++ if d.labels = [] then [] else separator 0) = d.string := by
      rw [if_neg d.nonempty]
      exact List.append_nil _
    have hend : 12 + (rowBytes d.labels).length + 1 = 12 + (rowBytes d.labels ++ [0]).length := by
      rw [List.length_append]
      rfl
    rw [hrow, hend] at hspells
    rw [hsplit]
    exact ⟨_, _, _, _, questionRead_of_spells hlen (depth + 1) (hchars ▸ hspells)
      (not_deep_of_zero hending depth) this⟩

end TcpIpStack.DNSApplication
