import TcpIpStack.Application.TFTPMessages

/-!
# Sessions of a TFTP client

A session is a run of `getFile` calls and of datagrams in any order. Datagrams
that are no whole DATA message make no difference to the file or to the
acknowledgements, but a block is taken from any port. The stream keeps to the
transfers as long as a file is asked for between transfers, and no block comes
before the first and no error during one: a new stream replaces the old one as it
is, and an error closes nothing. Without a destination a short block closes
nothing either, since its acknowledgement throws.
-/

namespace TcpIpStack.TFTPClient

open TcpIpStack.Java TcpIpStack.Lib
open UDPProtocolLayer (Received)

inductive Event where
  | getFile (created : Bool) (filename : JString)
  | receive (d : Received)

section

variable (dev : DataLinkLayer) (getBytes : JString → Bytes)

/-! ## What an event leaves alone -/

/-- Sending changes no field. -/
theorem sendMessage_state (message : Bytes) (s : Scope) : (sendMessage dev message s).state = s := by
  rcases sendMessage_cases dev message s with ⟨e, hrun⟩ | ⟨packet, dst, hrun, -⟩ <;> rw [hrun]

theorem sendReadPacket_state (s : Scope) : (sendReadPacket dev getBytes s).state = s := by
  unfold sendReadPacket
  rw [Prog.read_bind_run]
  cases hfill : ByteBuffer.fill _ _ with
  | error e => rfl
  | ok read_request => rw [Prog.lift_ok_bind]; exact sendMessage_state dev read_request s

/-- `getFile` sets the name, and the stream if the file can be created. -/
theorem getFile_state (created : Bool) (filename : JString) (s : Scope) :
    (getFile dev getBytes created filename s).state = { s with this := { s.this with
      filename
      download_file_stream := if created then some ⟨true, []⟩ else s.this.download_file_stream } } := by
  unfold getFile
  rw [Prog.modify_bind_run]
  cases created with
  | true => exact sendReadPacket_state dev getBytes _
  | false => exact sendReadPacket_state dev getBytes _

/-- Once the port is taken over, a datagram does what a block does, or less. -/
theorem handleData_obeys {T : Prog.Trace Scope Call}
    (hblock : ∀ s data_block, T.rel s [] { s with this := { s.this with data_block } })
    (hstream : ∀ s stream, T.rel s [] (withStream s stream))
    (hsend : ∀ message, Prog.Obeys T (sendMessage dev message)) (d : Received) (s : Scope) :
    T.rel (withPort s d.src_port) (handleData dev d.info s).out (handleData dev d.info s).state := by
  rw [handleData_opCode]
  refine Prog.Obeys.bind (.lift _) (fun p => ?_) _
  split
  · exact handleDataPacket_obeys dev hblock hstream hsend p.2
  split
  · exact .bind (.lift _) fun _ => .bind (.lift _) fun _ => .pure ()
  · exact .pure ()

/-- Whatever a datagram is, the server's port is where it came from. -/
theorem handleData_port (d : Received) (s : Scope) :
    (handleData dev d.info s).state.statics.server_port = d.src_port :=
  handleData_obeys dev (T := .keeps fun s => s.statics.server_port) (fun _ _ => rfl) (fun _ _ => rfl)
    (fun message s => by rw [sendMessage_state]; rfl) d s

theorem handleData_server_ip (d : Received) (s : Scope) :
    (handleData dev d.info s).state.this.server_ip = s.this.server_ip :=
  handleData_obeys dev (T := .keeps fun s => s.this.server_ip) (fun _ _ => rfl) (fun _ _ => rfl)
    (fun message s => by rw [sendMessage_state]; rfl) d s

/-! ## Stray datagrams -/

/-- An event, with what is sent in answer to a datagram. -/
def answer : Event → AppM Scope Unit
  | .getFile created filename => Prog.mute (getFile dev getBytes created filename)
  | .receive d => handleData dev d.info

/-- The client after events, and what it sent in answer to the datagrams. -/
def afterEvents (events : List Event) (s : Scope) : Scope × List Call :=
  Prog.runs (answer dev getBytes) events s

/-- A datagram that is no whole DATA message. -/
def Event.isStray : Event → Bool
  | .getFile _ _ => false
  | .receive d => !decide (IsData d)

/-- Of what the object does only the port of a request depends on the static
field. -/
theorem answer_congr {e : Event} (he : e.isStray = false) {s s' : Scope} (h : s.this = s'.this) :
    (answer dev getBytes e s).state.this = (answer dev getBytes e s').state.this ∧
      (answer dev getBytes e s).out = (answer dev getBytes e s').out := by
  cases e with
  | getFile created filename =>
    refine ⟨?_, rfl⟩
    show (getFile dev getBytes created filename s).state.this =
      (getFile dev getBytes created filename s').state.this
    rw [getFile_state, getFile_state, h]
  | receive d =>
    show (handleData dev d.info s).state.this = (handleData dev d.info s').state.this ∧
      (handleData dev d.info s).out = (handleData dev d.info s').out
    have hdata : IsData d := by simpa [Event.isStray] using he
    have hreceived : received s d.header (blockOf d) = received s' d.header (blockOf d) := by
      rw [received, received, h]
    rw [handleData_isData dev hdata, handleData_isData dev hdata, hreceived]
    exact ⟨rfl, rfl⟩

theorem stray_step {d : Received} (hd : (Event.receive d).isStray = true) (s : Scope) :
    (handleData dev d.info s).state = withPort s d.src_port ∧ (handleData dev d.info s).out = [] := by
  have hdata : ¬ IsData d := by simpa [Event.isStray] using hd
  by_cases herror : IsError d
  · rw [handleData_isError dev herror]
    exact ⟨rfl, rfl⟩
  · exact handleData_neither dev hdata herror s

/-- A block is written to an open stream wherever it comes from. -/
theorem block_written {s : Scope} {w : Bytes} (hopen : stream s = some ⟨true, w⟩) {d : Received}
    (hdata : IsData d) : written (handleData dev d.info s).state = some (w ++ contentOf d) := by
  cases hdst : destination s with
  | some ip =>
    obtain ⟨hip, hfour⟩ := destination_eq_some.mp hdst
    obtain ⟨s', out, hrun, -, hstream, -⟩ := data_step dev hfour hip hopen hdata
    have hwritten : (nextStream ⟨true, w⟩ (contentOf d)).written = w ++ contentOf d := by
      unfold nextStream
      split <;> rfl
    rw [hrun, written, hstream, Option.map_some, hwritten]
  | none => rw [written, (data_step_unanswered dev hdst hopen hdata).1]; rfl

/-- A stray datagram leaves the object as it is and is not answered, and without
the strays of a session its file and its acknowledgements are the same. But every
datagram sets the port, and every block is written to an open stream. -/
theorem strays_ignored (events : List Event) (s : Scope) :
    (∀ before d after, events = before ++ .receive d :: after → (Event.receive d).isStray = true →
      (handleData dev d.info (afterEvents dev getBytes before s).1).state.this =
          (afterEvents dev getBytes before s).1.this ∧
        (handleData dev d.info (afterEvents dev getBytes before s).1).out = []) ∧
    (afterEvents dev getBytes events s).1.this =
      (afterEvents dev getBytes (events.filter fun e => !e.isStray) s).1.this ∧
    (afterEvents dev getBytes events s).2 =
      (afterEvents dev getBytes (events.filter fun e => !e.isStray) s).2 ∧
    (∀ before d after, events = before ++ .receive d :: after →
      (handleData dev d.info (afterEvents dev getBytes before s).1).state.statics.server_port =
        d.src_port) ∧
    ∀ before d after w, events = before ++ .receive d :: after → IsData d →
      stream (afterEvents dev getBytes before s).1 = some ⟨true, w⟩ →
      written (handleData dev d.info (afterEvents dev getBytes before s).1).state =
        some (w ++ contentOf d) := by
  have hfilter : (afterEvents dev getBytes events s).1.this =
      (afterEvents dev getBytes (events.filter fun e => !e.isStray) s).1.this ∧
    (afterEvents dev getBytes events s).2 =
      (afterEvents dev getBytes (events.filter fun e => !e.isStray) s).2 := by
    refine Prog.runs_filter (R := fun s s' : Scope => s.this = s'.this) ?_ ?_ events rfl
    · intro e s s' hkeep h
      have hstray : e.isStray = true := by rwa [Bool.not_eq_false'] at hkeep
      cases e with
      | getFile created filename => cases hstray
      | receive d =>
        obtain ⟨hstate, hout⟩ := stray_step dev hstray s
        refine ⟨?_, hout⟩
        show (handleData dev d.info s).state.this = s'.this
        rw [hstate]
        exact h
    · intro e s s' hkeep h
      exact answer_congr dev getBytes (by rwa [Bool.not_eq_true'] at hkeep) h
  refine ⟨?_, hfilter.1, hfilter.2, ?_, ?_⟩
  · intro before d after _ hstray
    obtain ⟨hstate, hout⟩ := stray_step dev hstray (afterEvents dev getBytes before s).1
    exact ⟨by rw [hstate]; rfl, hout⟩
  · intro before d after _
    exact handleData_port dev d _
  · intro before d after w _ hdata hopen
    exact block_written dev hopen hdata

end

/-- Block 1, a full one, from port 40000. -/
def sampleFull : Received := ⟨[0x9C, 0x40, 0xED, 0x22, 2, 12], dataMessage 1 (List.replicate 512 0)⟩

/-- An empty datagram from port 40001. -/
def sampleStray : Received := ⟨[0x9C, 0x41, 0xED, 0x22, 0, 8], []⟩

/-- A block of two bytes from port 40001. -/
def sampleForeign : Received := ⟨[0x9C, 0x41, 0xED, 0x22, 0, 14], dataMessage 1 [7, 8]⟩

/-- During a transfer an empty datagram from another port takes the port over, and a block
from another port is written to the file. -/
theorem stray_takes_port :
    (¬ ∀ (dev : DataLinkLayer) (s : Scope) (w : Bytes) (d d' : Received),
      stream s = some ⟨true, w⟩ → IsData d → (contentOf d).length = 512 →
        d'.src_port ≠ d.src_port ∨ (Event.receive d').isStray = true →
        (handleData dev d'.info (handleData dev d.info s).state).state.statics.server_port =
          (handleData dev d.info s).state.statics.server_port) ∧
    ¬ ∀ (dev : DataLinkLayer) (s : Scope) (w : Bytes) (d d' : Received),
      stream s = some ⟨true, w⟩ → IsData d → (contentOf d).length = 512 →
        d'.src_port ≠ d.src_port →
        written (handleData dev d'.info (handleData dev d.info s).state).state =
          written (handleData dev d.info s).state := by
  have hdata : IsData sampleFull := isData_dataMessage ..
  have hfull : (contentOf sampleFull).length = 512 := List.length_replicate ..
  constructor
  · intro h
    have hsame := h sampleDevice sampleClient [] sampleFull sampleStray rfl hdata hfull
      (.inl (by decide))
    rw [handleData_port, handleData_port] at hsame
    exact absurd hsame (by decide)
  · intro h
    have hsame := h sampleDevice sampleClient [] sampleFull sampleForeign rfl hdata hfull (by decide)
    obtain ⟨s', out, hrun, -, hstream, -⟩ :=
      data_step sampleDevice (by decide) (s := sampleClient) rfl rfl hdata
    have hopen : nextStream ⟨true, []⟩ (contentOf sampleFull) = ⟨true, contentOf sampleFull⟩ := by
      rw [nextStream, if_neg (by omega)]
      rfl
    rw [hopen] at hstream
    have htaken := block_written sampleDevice hstream
      (show IsData sampleForeign from isData_dataMessage ..)
    rw [hrun] at hsame
    rw [htaken, written, hstream, Option.map_some, Option.some.injEq] at hsame
    exact absurd (List.append_right_eq_self.mp hsame) (by decide)

/-! ## Transfers and the stream -/

/-- A transfer starts at `getFile` and ends at a short block or an error. -/
def transfer (inProgress : Bool) : Event → Bool
  | .getFile _ _ => true
  | .receive d =>
    if IsData d then inProgress && decide (512 ≤ (contentOf d).length)
    else inProgress && !decide (IsError d)

def inProgress (events : List Event) : Bool := events.foldl transfer false

/-- The stream may be written to. -/
def IsOpen (s : Scope) : Prop := ∃ w, stream s = some ⟨true, w⟩

section

variable (dev : DataLinkLayer) (getBytes : JString → Bytes)

/-- A session keeps the stream to its transfers. -/
structure KeepsStream (events : List Event) (s : Scope) : Prop where
  /-- It is open exactly while a transfer is in progress. -/
  open_iff : ∀ before after, events = before ++ after →
    (IsOpen (afterEvents dev getBytes before s).1 ↔ inProgress before = true)
  /-- Outside a transfer a message is taken quietly. -/
  idle : ∀ before d after, events = before ++ .receive d :: after → inProgress before = false →
    IsData d ∨ IsError d →
      (handleData dev d.info (afterEvents dev getBytes before s).1).result = .ok () ∧
      written (handleData dev d.info (afterEvents dev getBytes before s).1).state =
        written (afterEvents dev getBytes before s).1
  /-- It is closed before another replaces it. -/
  closed : ∀ before filename after, events = before ++ .getFile true filename :: after →
    ¬ IsOpen (afterEvents dev getBytes before s).1

/-- A file is asked for when no stream is open and can be created then, or cannot
and the stream of an earlier one serves on; a block comes when there is a stream,
and no short one where it cannot be acknowledged; an error when none is open. -/
def Allowed (e : Event) (s : Scope) : Prop :=
  match e with
  | .getFile created _ => created = true ↔ ¬ IsOpen s
  | .receive d =>
    (IsData d → stream s ≠ none ∧ ((destination s).isSome ∨ 512 ≤ (contentOf d).length)) ∧
      (IsError d → ¬ IsOpen s)

/-- Only a client with a destination closes its stream. -/
def Unclosed (s : Scope) : Prop := destination s = none → ∀ w, stream s ≠ some ⟨false, w⟩

theorem isOpen_some {s : Scope} {f : FileOutputStream} (h : stream s = some f) :
    IsOpen s ↔ f.isOpen = true := by
  obtain ⟨isOpen, w⟩ := f
  constructor
  · rintro ⟨w', hw'⟩
    rw [h] at hw'
    cases hw'
    rfl
  · intro hopen
    exact ⟨w, h.trans (by rw [show isOpen = true from hopen])⟩

theorem not_isOpen_none {s : Scope} (h : stream s = none) : ¬ IsOpen s := by
  rintro ⟨w, hw⟩
  rw [h] at hw
  cases hw

theorem IsData.not_isError {d : Received} (h : IsData d) : ¬ IsError d := by
  intro herror
  have hcode := h.2.symm.trans herror.2
  exact absurd hcode (by decide)

theorem nextStream_isOpen (f : FileOutputStream) (content : Bytes) :
    (nextStream f content).isOpen = (f.isOpen && decide (512 ≤ content.length)) := by
  obtain ⟨isOpen, w⟩ := f
  unfold nextStream
  split
  · rename_i hshort
    rw [decide_eq_false (by omega), Bool.and_false]
    rfl
  · rename_i hlong
    rw [decide_eq_true (by omega), Bool.and_true]
    cases isOpen <;> rfl

/-- Without a stream a block is a null pointer. -/
theorem handleData_none {s : Scope} (h : stream s = none) {d : Received} (hd : IsData d) :
    (handleData dev d.info s).result = .error .nullPointer := by
  rw [handleData_isData dev hd,
    Prog.bind_run_error (write_none (s := received s d.header (blockOf d)) h _)]

/-- What a step does to the lifecycle of the stream is right. -/
structure StepRight (b : Bool) (e : Event) (s : Scope) : Prop where
  open_iff : IsOpen (answer dev getBytes e s).state ↔ transfer b e = true
  idle : ∀ d, e = .receive d → b = false → IsData d ∨ IsError d →
    (handleData dev d.info s).result = .ok () ∧
      written (handleData dev d.info s).state = written s
  closed : ∀ filename, e = .getFile true filename → ¬ IsOpen s

theorem getFile_right_iff {s : Scope} {b : Bool} (created : Bool) (filename : JString) :
    StepRight dev getBytes b (.getFile created filename) s ↔ Allowed (.getFile created filename) s := by
  have hstate : (answer dev getBytes (.getFile created filename) s).state =
      (getFile dev getBytes created filename s).state := rfl
  rw [getFile_state] at hstate
  cases created with
  | true =>
    have hopen : IsOpen (answer dev getBytes (.getFile true filename) s).state :=
      ⟨[], by rw [hstate]; rfl⟩
    constructor
    · intro h
      exact iff_of_true rfl (h.closed filename rfl)
    · intro h
      exact ⟨iff_of_true hopen rfl, nofun, fun _ _ => h.mp rfl⟩
  | false =>
    have hsame : IsOpen (answer dev getBytes (.getFile false filename) s).state ↔ IsOpen s := by
      rw [hstate]
      exact Iff.rfl
    constructor
    · intro h
      exact iff_of_false (by decide) (not_not.mpr (hsame.mp (h.open_iff.mpr rfl)))
    · intro h
      have hopen : IsOpen s := not_not.mp fun hnot => absurd (h.mpr hnot) (by decide)
      exact ⟨iff_of_true (hsame.mpr hopen) rfl, nofun, nofun⟩

section

variable {s : Scope} {b : Bool} (hopen : IsOpen s ↔ b = true) {d : Received}

include hopen

/-- A block needs a stream, open or closed. -/
theorem block_right_iff (hunclosed : Unclosed s) (hdata : IsData d) :
    StepRight dev getBytes b (.receive d) s ↔ Allowed (.receive d) s := by
  cases hstream : stream s with
  | none =>
    have hb : b = false := by
      by_contra hb
      exact not_isOpen_none hstream (hopen.mpr (Bool.not_eq_false b ▸ hb))
    refine iff_of_false (fun h => ?_) fun h => (h.1 hdata).1 hstream
    have hresult := (h.idle d rfl hb (.inl hdata)).1
    rw [handleData_none dev hstream hdata] at hresult
    cases hresult
  | some f =>
  cases hdst : destination s with
  | none =>
    -- the stream is open, and the block leaves it open
    obtain ⟨isOpen, w⟩ := f
    have htrue : isOpen = true := by
      by_contra hnot
      rw [Bool.not_eq_true] at hnot
      exact hunclosed hdst w (by rw [hstream, hnot])
    subst htrue
    have hb : b = true := hopen.mp ⟨w, hstream⟩
    obtain ⟨hstream', -, -⟩ := data_step_unanswered dev hdst hstream hdata
    have hstays : IsOpen (answer dev getBytes (.receive d) s).state := ⟨_, hstream'⟩
    have htransfer : transfer b (.receive d) = decide (512 ≤ (contentOf d).length) := by
      rw [transfer, if_pos hdata, hb, Bool.true_and]
    constructor
    · intro h
      have hlong := h.open_iff.mp hstays
      rw [htransfer] at hlong
      exact ⟨fun _ => ⟨by rw [hstream]; nofun, .inr (of_decide_eq_true hlong)⟩,
        fun h => absurd h hdata.not_isError⟩
    · intro h
      have hlong : 512 ≤ (contentOf d).length := by
        rcases (h.1 hdata).2 with hsome | hlong
        · rw [hdst] at hsome
          cases hsome
        · exact hlong
      refine ⟨iff_of_true hstays (htransfer.trans (decide_eq_true hlong)), ?_, nofun⟩
      intro _ _ hfalse
      rw [hb] at hfalse
      cases hfalse
  | some ip =>
    obtain ⟨hip, hfour⟩ := destination_eq_some.mp hdst
    obtain ⟨s', out, hrun, -, hstream', -⟩ := data_step dev hfour hip hstream hdata
    have hstep : answer dev getBytes (.receive d) s = ⟨.ok (), s', out⟩ := hrun
    refine iff_of_true ⟨?_, ?_, nofun⟩
      ⟨fun _ => ⟨by rw [hstream]; nofun, .inl (by rw [hdst]; rfl)⟩,
        fun h => absurd h hdata.not_isError⟩
    · have hf : f.isOpen = b := Bool.eq_iff_iff.mpr ((isOpen_some hstream).symm.trans hopen)
      rw [hstep, isOpen_some hstream', nextStream_isOpen, hf, transfer, if_pos hdata]
    · rintro _ ⟨⟩ hb -
      obtain ⟨isOpen, w⟩ := f
      have hclosed : isOpen = false := by
        by_contra hnot
        exact absurd (hopen.mp ((isOpen_some hstream).mpr (Bool.not_eq_false isOpen ▸ hnot)))
          (by rw [hb]; decide)
      subst hclosed
      rw [nextStream_closed] at hstream'
      rw [hrun]
      exact ⟨rfl, by rw [written, written, hstream, hstream']⟩

/-- Another datagram leaves the stream as it is, which is right unless it is an
error and the stream is open. -/
theorem other_right_iff (hdata : ¬ IsData d) :
    StepRight dev getBytes b (.receive d) s ↔ Allowed (.receive d) s := by
  have hstate : stream (answer dev getBytes (.receive d) s).state = stream s := by
    show stream (handleData dev d.info s).state = _
    by_cases herror : IsError d
    · rw [handleData_isError dev herror]
      rfl
    · rw [(handleData_neither dev hdata herror s).1]
      rfl
  have hsame : IsOpen (answer dev getBytes (.receive d) s).state ↔ IsOpen s := by
    unfold IsOpen
    rw [hstate]
  by_cases herror : IsError d
  · have htransfer : transfer b (.receive d) = false := by
      rw [transfer, if_neg hdata, decide_eq_true herror, Bool.not_true, Bool.and_false]
    constructor
    · intro h
      refine ⟨fun h => absurd h hdata, fun _ hs => ?_⟩
      have htrue := h.open_iff.mp (hsame.mpr hs)
      rw [htransfer] at htrue
      cases htrue
    · intro h
      refine ⟨?_, ?_, nofun⟩
      · rw [hsame, htransfer]
        exact iff_of_false (h.2 herror) (by decide)
      · rintro _ ⟨⟩ - -
        rw [handleData_isError dev herror]
        exact ⟨rfl, rfl⟩
  · refine iff_of_true ⟨?_, ?_, nofun⟩ ⟨fun h => absurd h hdata, fun h => absurd h herror⟩
    · rw [hsame, hopen, transfer, if_neg hdata, decide_eq_false herror, Bool.not_false, Bool.and_true]
    · rintro _ ⟨⟩ - h
      exact absurd h (not_or.mpr ⟨hdata, herror⟩)

end

/-- A step is right if and only if it is allowed. -/
theorem step_right_iff {s : Scope} (hunclosed : Unclosed s) {b : Bool} (hopen : IsOpen s ↔ b = true)
    (e : Event) : StepRight dev getBytes b e s ↔ Allowed e s := by
  cases e with
  | getFile created filename => exact getFile_right_iff dev getBytes created filename
  | receive d =>
    by_cases hdata : IsData d
    · exact block_right_iff dev getBytes hopen hunclosed hdata
    · exact other_right_iff dev getBytes hopen hdata

theorem answer_destination (e : Event) (s : Scope) :
    destination (answer dev getBytes e s).state = destination s := by
  have hip : (answer dev getBytes e s).state.this.server_ip = s.this.server_ip := by
    cases e with
    | getFile created filename => exact congrArg (fun s => s.this.server_ip) (getFile_state ..)
    | receive d => exact handleData_server_ip dev d s
  rw [destination, hip, destination]

/-- Without a destination a stream once open stays open. -/
theorem answer_unclosed (e : Event) {s : Scope} (h : Unclosed s) :
    Unclosed (answer dev getBytes e s).state := by
  intro hdst w
  rw [answer_destination] at hdst
  cases e with
  | getFile created filename =>
    have hstate : stream (answer dev getBytes (.getFile created filename) s).state =
        if created then some ⟨true, []⟩ else stream s := congrArg stream (getFile_state ..)
    rw [hstate]
    cases created with
    | true => exact nofun
    | false => exact h hdst w
  | receive d =>
    show stream (handleData dev d.info s).state ≠ _
    by_cases hdata : IsData d
    · cases hstream : stream s with
      | none =>
        have hstays : stream (handleData dev d.info s).state = none := by
          rw [handleData_isData dev hdata,
            Prog.bind_run_error (write_none (s := received s d.header (blockOf d)) hstream _)]
          exact hstream
        rw [hstays]
        exact nofun
      | some f =>
        obtain ⟨isOpen, w'⟩ := f
        cases isOpen with
        | false => exact absurd hstream (h hdst w')
        | true =>
          rw [(data_step_unanswered dev hdst hstream hdata).1]
          exact nofun
    · obtain ⟨hstate, -⟩ := stray_step dev (d := d) (by simp [Event.isStray, hdata]) s
      rw [hstate]
      exact h hdst w

theorem afterEvents_concat (events : List Event) (e : Event) (s : Scope) :
    (afterEvents dev getBytes (events ++ [e]) s).1 =
      (answer dev getBytes e (afterEvents dev getBytes events s).1).state :=
  Prog.runs_concat ..

theorem inProgress_concat (events : List Event) (e : Event) :
    inProgress (events ++ [e]) = transfer (inProgress events) e := List.foldl_concat ..

/-- A session of a new client keeps the stream to its transfers if and only if all
its events are allowed. -/
theorem keepsStream_iff (server_ip : Option Bytes) (events : List Event) :
    KeepsStream dev getBytes events (construct server_ip) ↔
      ∀ before e after, events = before ++ e :: after →
        Allowed e (afterEvents dev getBytes before (construct server_ip)).1 := by
  have hunclosed : ∀ before, Unclosed (afterEvents dev getBytes before (construct server_ip)).1 :=
    fun before => Prog.runs_invariant (P := Unclosed)
      (fun e _ s hs => answer_unclosed dev getBytes e hs) fun _ _ => nofun
  constructor
  · intro h before e after hsplit
    have hopen := h.open_iff before (e :: after) hsplit
    refine (step_right_iff dev getBytes (hunclosed before) hopen e).mp ⟨?_, ?_, ?_⟩
    · rw [← afterEvents_concat, ← inProgress_concat]
      exact h.open_iff (before ++ [e]) after (by rw [hsplit, List.append_cons])
    · rintro d rfl hidle hmessage
      exact h.idle before d after hsplit hidle hmessage
    · rintro filename rfl
      exact h.closed before filename after hsplit
  · intro h
    have hopen : ∀ before after, events = before ++ after →
        (IsOpen (afterEvents dev getBytes before (construct server_ip)).1 ↔
          inProgress before = true) := by
      intro before
      induction before using List.reverseRecOn with
      | nil => exact fun _ _ => iff_of_false (not_isOpen_none rfl) (by decide)
      | append_singleton before e ih =>
        intro after hsplit
        rw [← List.append_cons] at hsplit
        rw [afterEvents_concat, inProgress_concat]
        exact ((step_right_iff dev getBytes (hunclosed before) (ih _ hsplit) e).mpr
          (h before e after hsplit)).open_iff
    have hright : ∀ before e after, events = before ++ e :: after →
        StepRight dev getBytes (inProgress before) e
          (afterEvents dev getBytes before (construct server_ip)).1 := fun before e after hsplit =>
      (step_right_iff dev getBytes (hunclosed before) (hopen _ _ hsplit) e).mpr
        (h before e after hsplit)
    exact ⟨hopen, fun before d after hsplit => (hright before _ after hsplit).idle d rfl,
      fun before filename after hsplit => (hright before _ after hsplit).closed filename rfl⟩

end

/-- A block that comes before the first request. -/
theorem block_before_request : ¬ ∀ (dev : DataLinkLayer) (getBytes : JString → Bytes)
    (server_ip : Option Bytes) (events : List Event),
    KeepsStream dev getBytes events (construct server_ip) := by
  intro h
  have hkeeps := h sampleDevice (fun _ => [102]) (some [192, 168, 1, 1]) [.receive sampleBlock]
  have hidle := hkeeps.idle [] sampleBlock [] rfl rfl (.inl (by decide))
  have hthrows := handleData_none sampleDevice (s := construct (some [192, 168, 1, 1])) rfl
    (d := sampleBlock) (by decide)
  have hresult := hthrows.symm.trans hidle.1
  cases hresult

end TcpIpStack.TFTPClient
