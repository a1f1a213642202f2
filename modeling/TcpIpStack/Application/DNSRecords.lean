import TcpIpStack.Application.DNSText

/-!
# The records of a reply

A reply is a header, questions and answers laid one after the other (`Response`).
The parser stays on its records as long as every round ends where a record ends:
it reads only the low byte of a pointer, takes a name without a pointer from its
second byte on, reads four bytes for an address, a name for an alias, and leaves
any other data unread.
-/

namespace TcpIpStack.DNSApplication

open TcpIpStack.Java TcpIpStack.Lib

/-- A question of the array. -/
structure Question (a : Bytes) where
  start : Nat
  type_at : Nat
  name : Name a start type_at
  fits : type_at + 4 ≤ a.length

def Question.next {a : Bytes} (question : Question a) : Nat := question.type_at + 4

/-- An answer of the array: its data is as long as it says. -/
structure Answer (a : Bytes) where
  start : Nat
  type_at : Nat
  name : Name a start type_at
  fits : type_at + 10 + (shortOf (slice a (type_at + 8) 2)).toNat ≤ a.length

namespace Answer

variable {a : Bytes} (answer : Answer a)

def type : Short := shortOf (slice a answer.type_at 2)

/-- RDLENGTH. -/
def length : Nat := (shortOf (slice a (answer.type_at + 8) 2)).toNat

def next : Nat := answer.type_at + 10 + answer.length

end Answer

/-- Records laid one after the other from `p` on, the last of which ends at `q`. -/
def Contiguous {α : Type} (start next : α → Nat) : Nat → List α → Nat → Prop
  | p, [], q => q = p
  | p, record :: records, q => start record = p ∧ Contiguous start next (next record) records q

/-- A DNS message with its questions and answers. -/
structure Response (a : Bytes) where
  questions : List (Question a)
  answers : List (Answer a)
  /-- The end of the questions. -/
  first : Nat
  /-- The end of the answers. -/
  last : Nat
  header : 12 ≤ a.length
  question_count : (shortOf (slice a 4 2)).toNat = questions.length
  answer_count : (shortOf (slice a 6 2)).toNat = answers.length
  questions_laid : Contiguous Question.start Question.next 12 questions first
  answers_laid : Contiguous Answer.start Answer.next first answers last

/-- The position after `i` answers: the first byte of the next, or the end of all. -/
def boundary {a : Bytes} (last : Nat) (answers : List (Answer a)) (i : Nat) : Nat :=
  ((answers.drop i).head?.map Answer.start).getD last

/-- The address that is reported for a record whose type is at `p`. -/
def address (a : Bytes) (p : Nat) : List Bytes :=
  if shortOf (slice a p 2) = DNS_ANSWER_HOST_ADDRESS then [slice a (p + 10) 4] else []

/-- The addresses a run reports. -/
def addresses (out : List Call) : List Bytes := out.filterMap fun
  | .print (.hostAddress ip) => some ip
  | _ => none

/-- `handleData` visits the answers one by one and reports the data of those of
type A. -/
structure AnswersRead (depth : Nat) (headerInfo : Info) (this : DNSApplication) {a : Bytes}
    (response : Response a) : Prop where
  /-- The loop makes a round for every answer. -/
  rounds : count a 6 = response.answers.length
  positions : ∀ i ≤ response.answers.length, ∃ buffer out,
    (readQuestions depth (count a 4) ⟨a, 12, response.header⟩ >>= readAnswers depth i) this =
      ⟨.ok buffer, this, out⟩ ∧
    buffer.array = a ∧ buffer.position = boundary response.last response.answers i
  reported : ∃ out, handleData depth headerInfo this = ⟨.ok (), this, out⟩ ∧
    addresses out = response.answers.flatMap fun answer => address a answer.type_at

/-- The parser takes the type of the answer at `x` and ends where the answer ends. -/
def Answer.FoundAt {a : Bytes} (answer : Answer a) (x : Nat) : Prop :=
  if isNameCompression (a.getD answer.start 0) then
    -- the owner is a pointer: what its low byte leads to is readable
    x = answer.type_at ∧
      (∃ t u, pointsTo a (a.getD (answer.start + 1) 0) = some t ∧ Reads a t u) ∧
      if answer.type = DNS_ANSWER_CANONICAL_NAME_FOR_ALIAS then
        Reads a (answer.type_at + 10) answer.next
      else if answer.type = DNS_ANSWER_HOST_ADDRESS then answer.length = 4
      else answer.length = 0
  else
    -- a misreading from the second byte on that comes out even
    Reads a (answer.start + 1) x ∧ recordEnds a x answer.next

/-- The counts are not negative as `short`s, the questions' names are readable,
every answer is found, and where types are taken from the wrong bytes the
addresses come out right nevertheless. -/
structure Response.Aligned {a : Bytes} (response : Response a) : Prop where
  few_questions : response.questions.length < 2 ^ 15
  few_answers : response.answers.length < 2 ^ 15
  readable : ∀ question ∈ response.questions, ∃ u, Reads a question.start u
  found : ∃ xs, List.Forall₂ Answer.FoundAt response.answers xs ∧
    xs.flatMap (address a) = response.answers.flatMap fun answer => address a answer.type_at

section

variable {α : Type} {start next : α → Nat} {p q : Nat} {records : List α}

theorem Contiguous.le_of_forall {n : Nat} (hnext : ∀ record, next record ≤ n)
    (h : Contiguous start next p records q) (hp : p ≤ n) : q ≤ n := by
  induction records generalizing p with
  | nil =>
    obtain rfl : q = p := h
    exact hp
  | cons record records ih => exact ih h.2 (hnext record)

theorem Contiguous.le (hstep : ∀ record, start record < next record)
    (h : Contiguous start next p records q) : p ≤ q := by
  induction records generalizing p with
  | nil => exact Nat.le_of_eq (Eq.symm h)
  | cons record records ih =>
    have := ih h.2
    have := hstep record
    rw [← h.1]
    omega

theorem Contiguous.eq_nil (hstep : ∀ record, start record < next record)
    (h : Contiguous start next p records p) : records = [] := by
  cases records with
  | nil => rfl
  | cons record records =>
    have hle := h.2.le hstep
    have := hstep record
    rw [h.1] at this
    omega

end

/-! ## Where a round ends -/

section

variable {a : Bytes}

theorem Question.start_lt_next (question : Question a) : question.start < question.next := by
  have := question.name.lt_end
  unfold Question.next
  omega

theorem Answer.next_le (answer : Answer a) : answer.next ≤ a.length := answer.fits

/-- The round of an answer starts and ends with it. -/
theorem foundAt_iff (answer : Answer a) (x : Nat) :
    answer.FoundAt x ↔ ownerEnds a answer.start x ∧ recordEnds a x answer.next := by
  have hstart := answer.name.start_lt
  have hfits := answer.fits
  unfold Answer.FoundAt ownerEnds
  split
  · rename_i hcomp
    have htype := answer.name.pointer_end hcomp
    rw [← htype]
    have hlen : answer.start + 1 ≤ a.length ∧ answer.type_at ≤ a.length := by omega
    have hrecord : recordEnds a answer.type_at answer.next ↔
        if answer.type = DNS_ANSWER_CANONICAL_NAME_FOR_ALIAS then
          Reads a (answer.type_at + 10) answer.next
        else if answer.type = DNS_ANSWER_HOST_ADDRESS then answer.length = 4
        else answer.length = 0 := by
      rw [recordEnds, and_iff_right (by omega)]
      show (if answer.type = _ then _ else if answer.type = _ then _ else _) ↔ _
      split
      · rfl
      have hnext : answer.next = answer.type_at + 10 + answer.length := rfl
      have hle := answer.next_le
      split <;> omega
    rw [← hrecord]
    constructor
    · rintro ⟨rfl, ⟨t, u, ht, hu⟩, h⟩
      exact ⟨⟨hlen.1, hlen.2, t, ht, ⟨u, hu⟩, rfl⟩, h⟩
    · rintro ⟨⟨-, -, t, ht, ⟨u, hu⟩, rfl⟩, h⟩
      exact ⟨rfl, ⟨t, u, ht, hu⟩, h⟩
  · rw [and_iff_right (show answer.start + 1 ≤ a.length from hstart)]

theorem boundary_zero {p q : Nat} {answers : List (Answer a)}
    (h : Contiguous Answer.start Answer.next p answers q) : boundary q answers 0 = p := by
  cases answers with
  | nil => exact h
  | cons answer answers => exact h.1

/-- The first `i` records. -/
theorem Contiguous.take {p q : Nat} {answers : List (Answer a)}
    (h : Contiguous Answer.start Answer.next p answers q) (i : Nat) :
    Contiguous Answer.start Answer.next p (answers.take i) (boundary q answers i) := by
  induction i generalizing p answers with
  | zero => exact boundary_zero h
  | succ i ih =>
    cases answers with
    | nil => exact h
    | cons answer answers => exact ⟨h.1, ih h.2⟩

theorem questionEnds_iff {p q : Nat} {questions : List (Question a)}
    (h : Contiguous Question.start Question.next p questions q) :
    questionEnds a questions.length p q ↔ ∀ question ∈ questions, ∃ u, Reads a question.start u := by
  induction questions generalizing p with
  | nil => exact iff_of_true h nofun
  | cons question questions ih =>
    obtain ⟨rfl, hrest⟩ := h
    rw [List.forall_mem_cons, ← ih hrest]
    constructor
    · rintro ⟨r, hr, -, hends⟩
      obtain rfl := question.name.reads_end hr
      exact ⟨⟨_, hr⟩, hends⟩
    · rintro ⟨⟨u, hu⟩, hends⟩
      obtain rfl := question.name.reads_end hu
      exact ⟨_, hu, question.fits, hends⟩

end

/-! ## The rounds of the parser -/

section

variable {σ : Type} {a : Bytes} {depth : Nat}

theorem Follows.ends_of_ok {m : Nat → AppM σ ByteBuffer} {S E : Nat → Prop} (h : Follows a m S E)
    {s : σ} {buffer : ByteBuffer} (hok : (m depth s).result = .ok buffer) :
    buffer.array = a ∧ E buffer.position := by
  have hparsed := h.parsed (by rw [hok]; rintro ⟨⟩)
  rw [hok] at hparsed
  cases hparsed with
  | ok hq hends => exact ⟨rfl, (hends _).mpr rfl⟩

theorem addresses_printed (cs : List JChar) : addresses (printed cs) = [] :=
  List.filterMap_eq_nil_iff.mpr fun call hcall => by
    obtain ⟨c, -, rfl⟩ := List.mem_map.mp hcall
    rfl

/-- A `short` inside the packet is read. -/
theorem getShort_bind {β : Type} {p : Nat} {hp : p ≤ a.length} (h : p + 2 ≤ a.length)
    (f : Short × ByteBuffer → AppM σ β) : (Prog.lift (ByteBuffer.getShort ⟨a, p, hp⟩) >>= f) =
      f (shortOf (slice a p 2), ⟨a, p + 2, h⟩) := by
  rw [ByteBuffer.getShort_mk, dif_pos h, Prog.lift_ok_bind]

variable (hdepth : 128 < depth)

include hdepth

theorem Reads.run {p q : Nat} (h : Reads a p q) (hp : p ≤ a.length) (hq : q ≤ a.length) (s : σ) :
    ∃ cs, readStringContent depth ⟨a, p, hp⟩ s = ⟨.ok ⟨a, q, hq⟩, s, printed cs⟩ := by
  obtain ⟨cs, hcs⟩ := h.spells
  exact ⟨cs, hcs.run (h.not_deep hdepth) hp s⟩

theorem readQuestions_run {n p q : Nat} (h : questionEnds a n p q) (hp : p ≤ a.length)
    (hq : q ≤ a.length) (s : σ) :
    ∃ cs, readQuestions depth n ⟨a, p, hp⟩ s = ⟨.ok ⟨a, q, hq⟩, s, printed cs⟩ := by
  induction n generalizing p with
  | zero =>
    obtain rfl : q = p := h
    exact ⟨[], rfl⟩
  | succ n ih =>
    obtain ⟨r, hr, hle, h⟩ := h
    obtain ⟨cs, hname⟩ := hr.run hdepth hp (by omega) s
    obtain ⟨ds, hrest⟩ := ih h hle
    refine ⟨cs ++ ds, ?_⟩
    have hnext : (Prog.lift (ByteBuffer.getShort ⟨a, r, by omega⟩) >>= fun type =>
        Prog.lift type.2.getShort >>= fun clasz => readQuestions depth n clasz.2 :
          AppM σ ByteBuffer) s = ⟨.ok ⟨a, q, hq⟩, s, printed ds⟩ := by
      rw [getShort_bind (by omega)]
      dsimp only
      rw [getShort_bind (by omega)]
      exact hrest
    exact (Prog.bind_run_ok hname hnext).trans (by rw [printed_append])

theorem readOwner_run {p x : Nat} (h : ownerEnds a p x) (hp : p ≤ a.length) (hx : x ≤ a.length)
    (s : σ) : ∃ cs, readOwner depth ⟨a, p, hp⟩ s = ⟨.ok ⟨a, x, hx⟩, s, printed cs⟩ := by
  obtain ⟨hlt, h⟩ := h
  unfold readOwner
  rw [ByteBuffer.get_mk, dif_pos hlt, Prog.lift_ok_bind]
  dsimp only
  split at h
  · rename_i hcomp
    obtain ⟨hlt', t, ht, ⟨u, hu⟩, rfl⟩ := h
    obtain ⟨cs, hname⟩ := hu.run hdepth (pointsTo_le ht) hu.spells.choose_spec.le s
    rw [if_pos hcomp, ByteBuffer.get_mk, dif_pos hlt', Prog.lift_ok_bind]
    dsimp only
    rw [duplicate_some ht _ rfl, Prog.lift_ok_bind]
    exact ⟨cs, (Prog.bind_run_ok hname rfl).trans (by rw [List.append_nil])⟩
  · rename_i hcomp
    rw [if_neg hcomp]
    exact h.run hdepth hlt hx s

theorem readRecord_run {x r : Nat} (h : recordEnds a x r) (hx : x ≤ a.length) (hr : r ≤ a.length)
    (s : σ) : ∃ out, readRecord depth ⟨a, x, hx⟩ s = ⟨.ok ⟨a, r, hr⟩, s, out⟩ ∧
      addresses out = address a x := by
  obtain ⟨hlen, h⟩ := h
  unfold readRecord address
  rw [getShort_bind (by omega)]
  dsimp only
  rw [getShort_bind (by omega)]
  dsimp only
  rw [ByteBuffer.getInt_mk, dif_pos (by omega), Prog.lift_ok_bind]
  dsimp only
  rw [getShort_bind (by omega)]
  dsimp only
  split at h
  · rename_i halias
    obtain ⟨cs, hname⟩ := h.run hdepth hlen hr s
    rw [if_pos halias, halias]
    exact ⟨_, hname, addresses_printed cs⟩
  rename_i halias
  rw [if_neg halias]
  split at h
  · rename_i haddr
    obtain ⟨hlen', rfl⟩ := h
    rw [if_pos haddr, if_pos haddr, ByteBuffer.take_mk, dif_pos hlen', Prog.lift_ok_bind]
    exact ⟨_, rfl, rfl⟩
  · rename_i haddr
    subst h
    rw [if_neg haddr, if_neg haddr]
    exact ⟨_, rfl, rfl⟩

/-- A round that ends where its answer ends. -/
theorem readAnswer_run {answer : Answer a} {x : Nat} (h : answer.FoundAt x) (n : Nat)
    (hp : answer.start ≤ a.length) (s : σ) : ∃ out, addresses out = address a x ∧
      readAnswers depth (n + 1) ⟨a, answer.start, hp⟩ s =
        ⟨(readAnswers depth n ⟨a, answer.next, answer.next_le⟩ s).result,
          (readAnswers depth n ⟨a, answer.next, answer.next_le⟩ s).state,
          out ++ (readAnswers depth n ⟨a, answer.next, answer.next_le⟩ s).out⟩ := by
  obtain ⟨howner, hrecord⟩ := (foundAt_iff answer x).mp h
  have hx : x ≤ a.length := by
    have := hrecord.1
    omega
  obtain ⟨cs, hname⟩ := readOwner_run hdepth howner hp hx s
  obtain ⟨out, hrest, hout⟩ := readRecord_run hdepth hrecord hx answer.next_le s
  refine ⟨printed cs ++ out, ?_, ?_⟩
  · rw [addresses, List.filterMap_append]
    exact (congrArg₂ _ (addresses_printed cs) hout).trans (List.nil_append _)
  · rw [readAnswers, Prog.bind_run, hname]
    dsimp only
    rw [Prog.bind_run, hrest]
    simp only [List.append_assoc]

/-- The rounds of answers that are found. -/
theorem readAnswers_run {answers : List (Answer a)} {xs : List Nat}
    (hfound : List.Forall₂ Answer.FoundAt answers xs) {p q : Nat}
    (hlaid : Contiguous Answer.start Answer.next p answers q) (hp : p ≤ a.length) (s : σ) :
    ∃ hq out, readAnswers depth answers.length ⟨a, p, hp⟩ s = ⟨.ok ⟨a, q, hq⟩, s, out⟩ ∧
      addresses out = xs.flatMap (address a) := by
  induction hfound generalizing p with
  | nil =>
    obtain rfl : q = p := hlaid
    exact ⟨hp, [], rfl, rfl⟩
  | @cons answer x answers xs hx _ ih =>
    obtain ⟨rfl, hlaid⟩ := hlaid
    obtain ⟨out, hout, hround⟩ := readAnswer_run hdepth hx answers.length hp s
    obtain ⟨hq, out', hrest, hout'⟩ := ih hlaid answer.next_le
    refine ⟨hq, out ++ out', ?_, ?_⟩
    · rw [List.length_cons, hround, hrest]
    · rw [addresses, List.filterMap_append, List.flatMap_cons, ← hout, ← hout']
      rfl

/-- If every round ends with an answer, every answer is found. -/
theorem found_of_positions {answers : List (Answer a)} {p q : Nat}
    (hlaid : Contiguous Answer.start Answer.next p answers q) (hp : p ≤ a.length) (s : σ)
    (h : ∀ i ≤ answers.length, ∃ buffer, (readAnswers depth i ⟨a, p, hp⟩ s).result = .ok buffer ∧
      buffer.position = boundary q answers i) :
    ∃ xs, List.Forall₂ Answer.FoundAt answers xs := by
  induction answers generalizing p with
  | nil => exact ⟨[], .nil⟩
  | cons answer answers ih =>
    obtain ⟨rfl, hlaid⟩ := hlaid
    obtain ⟨buffer, hok, hpos⟩ := h 1 (by simp)
    obtain ⟨-, x, howner, r, hrecord, hends⟩ := (readAnswers_follows 1 hp).ends_of_ok hok
    obtain rfl : buffer.position = r := hends
    have hnext : boundary q (answer :: answers) 1 = answer.next := boundary_zero hlaid
    rw [hpos, hnext] at hrecord
    have hx := (foundAt_iff answer x).mpr ⟨howner, hrecord⟩
    obtain ⟨xs, hxs⟩ := ih hlaid answer.next_le fun i hi => by
      obtain ⟨buffer', hok', hpos'⟩ := h (i + 1) (by simpa using hi)
      obtain ⟨out, -, hround⟩ := readAnswer_run hdepth hx i hp s
      rw [hround] at hok'
      exact ⟨buffer', hok', hpos'⟩
    exact ⟨x :: xs, .cons hx hxs⟩

end

/-! ## The whole reply -/

section

variable {a : Bytes}

theorem readReply_eq {σ : Type} (depth : Nat) (h : 2 ≤ a.length) (h' : 12 ≤ a.length) :
    (readReply depth ⟨a, 2, h⟩ : AppM σ ByteBuffer) =
      (readQuestions depth (count a 4) ⟨a, 12, h'⟩ >>= readAnswers depth (count a 6)) := by
  unfold readReply count
  rw [getShort_bind (by omega)]
  dsimp only
  rw [getShort_bind (by omega)]
  dsimp only
  rw [getShort_bind (by omega)]
  dsimp only
  rw [getShort_bind (by omega)]
  dsimp only
  rw [getShort_bind (by omega)]

/-- A count is read as it is up to 32767, and as zero above. -/
theorem count_of_toNat {p n : Nat} (h : (shortOf (slice a p 2)).toNat = n) :
    count a p = if n < 2 ^ 15 then n else 0 := by
  have := (shortOf (slice a p 2)).isLt
  unfold count BitVec.toInt
  split <;> split <;> omega

namespace Response

variable (response : Response a)

theorem first_le : response.first ≤ a.length :=
  response.questions_laid.le_of_forall (fun question => question.fits) response.header

variable {this : DNSApplication} {headerInfo : Info} (hdata : headerInfo .data = some (.bytes a))
  (hid : slice a 0 2 = shortBytes this.transition_id) {depth : Nat} (hdepth : 128 < depth)

include hdata hid hdepth

/-- A reply whose answers are found reports what they are found to be. -/
theorem handleData_run (hquestions : count a 4 = response.questions.length)
    (hanswers : count a 6 = response.answers.length)
    (hreadable : ∀ question ∈ response.questions, ∃ u, Reads a question.start u) {xs : List Nat}
    (hfound : List.Forall₂ Answer.FoundAt response.answers xs) :
    ∃ out, handleData depth headerInfo this = ⟨.ok (), this, out⟩ ∧
      addresses out = xs.flatMap (address a) := by
  have hends := (questionEnds_iff response.questions_laid).mpr hreadable
  obtain ⟨cs, hrun⟩ := readQuestions_run hdepth hends response.header response.first_le this
  obtain ⟨hq, out, hrest, hout⟩ := readAnswers_run hdepth hfound response.answers_laid
    response.first_le this
  refine ⟨printed cs ++ out, ?_, ?_⟩
  · rw [handleData_eq hdata hid (le_length_of_id hid), readReply_eq depth _ response.header,
      hquestions, hanswers]
    exact (Prog.bind_run_ok (Prog.bind_run_ok hrun hrest) rfl).trans (by rw [List.append_nil])
  · rw [← hout, addresses, List.filterMap_append]
    exact (congrArg (· ++ _) (addresses_printed cs)).trans (List.nil_append _)

/-- Answers that are found are read one by one, -/
theorem answersRead (h : response.Aligned) : AnswersRead depth headerInfo this response := by
  have hquestions : count a 4 = response.questions.length := by
    rw [count_of_toNat response.question_count, if_pos h.few_questions]
  have hanswers : count a 6 = response.answers.length := by
    rw [count_of_toNat response.answer_count, if_pos h.few_answers]
  have hends := (questionEnds_iff response.questions_laid).mpr h.readable
  obtain ⟨xs, hfound, haddresses⟩ := h.found
  obtain ⟨cs, hrun⟩ := readQuestions_run hdepth hends response.header response.first_le this
  refine ⟨hanswers, fun i hi => ?_, ?_⟩
  · obtain ⟨hq, out, hrest, -⟩ := readAnswers_run hdepth (List.forall₂_take i hfound)
      (response.answers_laid.take i) response.first_le this
    rw [List.length_take, Nat.min_eq_left hi] at hrest
    rw [hquestions]
    exact ⟨_, _, Prog.bind_run_ok hrun hrest, rfl, rfl⟩
  · rw [← haddresses]
    exact response.handleData_run hdata hid hdepth hquestions hanswers h.readable hfound

/-- and answers that are read one by one are found. -/
theorem aligned (h : AnswersRead depth headerInfo this response) : response.Aligned := by
  have hquestions := count_of_toNat response.question_count
  have hanswers := count_of_toNat response.answer_count
  obtain ⟨start, out, hrun, harray, hpos⟩ := h.positions 0 (Nat.zero_le _)
  rw [boundary_zero response.answers_laid] at hpos
  -- the questions end where the answers begin
  replace hrun := (Prog.bind_pure_self _ _).symm.trans hrun
  obtain rfl : start = ⟨a, response.first, response.first_le⟩ := ByteBuffer.ext harray hpos
  have hends := ((readQuestions_follows (count a 4) response.header).ends_of_ok
    (congrArg Outcome.result hrun)).2
  have hfew : response.questions.length < 2 ^ 15 := by
    by_contra hmany
    rw [hquestions, if_neg hmany] at hends
    have hnil : response.questions = [] := by
      have hfirst : response.first = 12 := hends
      have hlaid := response.questions_laid
      rw [hfirst] at hlaid
      exact hlaid.eq_nil Question.start_lt_next
    exact hmany (by rw [hnil, List.length_nil]; decide)
  have hfew' : response.answers.length < 2 ^ 15 := by
    by_contra hmany
    rw [if_neg hmany, h.rounds] at hanswers
    omega
  rw [if_pos hfew] at hquestions
  rw [hquestions] at hends
  have hreadable := (questionEnds_iff response.questions_laid).mp hends
  obtain ⟨xs, hfound⟩ := found_of_positions hdepth response.answers_laid response.first_le this
    fun i hi => by
      obtain ⟨buffer, out, hi, -, hpos⟩ := h.positions i hi
      rw [Prog.bind_run, hrun] at hi
      exact ⟨buffer, congrArg Outcome.result hi, hpos⟩
  obtain ⟨out, hout, haddresses⟩ := h.reported
  obtain ⟨out', hout', haddresses'⟩ :=
    response.handleData_run hdata hid hdepth hquestions h.rounds hreadable hfound
  rw [hout] at hout'
  refine ⟨hfew, hfew', hreadable, xs, hfound, ?_⟩
  rw [← haddresses, ← haddresses']
  exact congrArg addresses (congrArg Outcome.out hout').symm

end Response

end

/-- On every stack with room for more calls than pointers have targets. -/
def ReadOneByOne (headerInfo : Info) (this : DNSApplication) {a : Bytes} (response : Response a) :
    Prop := ∀ depth, 128 < depth → AnswersRead depth headerInfo this response

/-- Which replies to this client's transaction are read record by record. -/
theorem answers_read_iff {this : DNSApplication} {headerInfo : Info} {data : Bytes}
    (hdata : headerInfo .data = some (.bytes data))
    (hid : slice data 0 2 = shortBytes this.transition_id) (response : Response data) :
    ReadOneByOne headerInfo this response ↔ response.Aligned :=
  ⟨fun h => response.aligned hdata hid (by decide) (h 129 (by decide)),
    fun h _ hdepth => response.answersRead hdata hid hdepth h⟩

/-- A question for `a` and answers that point to it. -/
def answering (answers : Nat) (records : Bytes) : Bytes :=
  [0, 1, 0x81, 0x80, 0, 1, 0, BitVec.ofNat 8 answers, 0, 0, 0, 0, 1, 97, 0, 0, 1, 0, 1] ++ records

/-- An address. -/
def addressRecord : Bytes := [0xC0, 12, 0, 1, 0, 1, 0, 0, 0, 60, 0, 4, 10, 0, 0, 1]

/-- A text of one byte. -/
def textRecord : Bytes := [0xC0, 12, 0, 16, 0, 1, 0, 0, 0, 60, 0, 1, 0]

def questionName (answers : Nat) (records : Bytes) : Name (answering answers records) 12 15 :=
  .plain [sampleLabel] (show _ = rowBytes [sampleLabel] ++ 0 :: ([0, 1, 0, 1] ++ records) from rfl)

/-- A pointer to the question's name. -/
def Name.pointer {a rest : Bytes} {p : Nat} (name : Name a 12 15) (hp : 12 < p)
    (written : a.drop p = 0xC0 :: 12 :: rest) : Name a p (p + 2) :=
  .compressed [] written pointer_marked rfl hp name

def addressReply : Response (answering 1 addressRecord) where
  questions := [⟨12, 15, questionName 1 addressRecord, by decide⟩]
  answers := [⟨19, 21, (questionName 1 addressRecord).pointer (by decide) rfl, by decide⟩]
  first := 19
  last := 35
  header := by decide
  question_count := by decide
  answer_count := by decide
  questions_laid := ⟨rfl, rfl⟩
  answers_laid := ⟨rfl, rfl⟩

/-- One address is read. -/
theorem address_reply_read :
    ReadOneByOne (Info.empty.put .data (.bytes (answering 1 addressRecord))) sampleClient
      addressReply := by
  have hname : Reads (answering 1 addressRecord) 12 15 := .zero (by decide)
  refine (answers_read_iff rfl (by decide) addressReply).mpr ⟨by decide, by decide, ?_, [21], ?_, rfl⟩
  · intro question hquestion
    rw [List.mem_singleton.mp hquestion]
    exact ⟨15, hname⟩
  · refine .cons ?_ .nil
    rw [Answer.FoundAt, if_pos (by decide)]
    refine ⟨rfl, ⟨12, 15, by decide, hname⟩, ?_⟩
    rw [if_neg (by decide), if_pos (by decide)]
    decide

/-- A text before the address. -/
def textReply : Response (answering 2 (textRecord ++ addressRecord)) where
  questions := [⟨12, 15, questionName 2 (textRecord ++ addressRecord), by decide⟩]
  answers :=
    [⟨19, 21, (questionName 2 (textRecord ++ addressRecord)).pointer (by decide) rfl, by decide⟩,
      ⟨32, 34, (questionName 2 (textRecord ++ addressRecord)).pointer (by decide) rfl, by decide⟩]
  first := 19
  last := 48
  header := by decide
  question_count := by decide
  answer_count := by decide
  questions_laid := ⟨rfl, rfl⟩
  answers_laid := ⟨rfl, rfl, rfl⟩

/-- The data of the text is left unread. -/
theorem text_reply_not_read :
    ¬ ∀ (this : DNSApplication) (headerInfo : Info) (data : Bytes) (response : Response data),
      headerInfo .data = some (.bytes data) → slice data 0 2 = shortBytes this.transition_id →
        ReadOneByOne headerInfo this response := by
  intro h
  let headerInfo := Info.empty.put .data (.bytes (answering 2 (textRecord ++ addressRecord)))
  have hread := h sampleClient headerInfo _ textReply rfl (by decide) 129 (by decide)
  obtain ⟨xs, hfound, -⟩ := (textReply.aligned rfl (by decide) (by decide) hread).found
  rcases hfound with _ | ⟨hx, -⟩
  rw [Answer.FoundAt, if_pos (by decide)] at hx
  have hlength := hx.2.2
  rw [if_neg (by decide), if_neg (by decide)] at hlength
  exact absurd hlength (by decide)

end TcpIpStack.DNSApplication
