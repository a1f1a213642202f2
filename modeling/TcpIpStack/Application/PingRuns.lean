import TcpIpStack.Application.PingApp
import TcpIpStack.Protocol.Catchable
import TcpIpStack.Protocol.ICMPRoundTrip

/-!
# The messages of a ping

`startPing` builds one ICMP message a round. `recorded` is its run with what
`createICMPHeader` returned kept in a log, and `recorded_mirrors` says that it
is the same run. A `PingApp` numbers its messages 0, 1, 2 and so on; the number
an `HPingApp` enters is under a key its encoder does not read.
-/

namespace TcpIpStack

open TcpIpStack.Java TcpIpStack.Lib

namespace PingApp

section

variable {σ : Type} (dev : DataLinkLayer) (ping : σ → PingApp)
  (createICMPHeader : Clock → AppM σ (Option Bytes))

/-- What `createICMPHeader` returned, round by round. -/
abbrev Log : Type := List (Except Throwable (Option Bytes))

/-- `startPing` with a log. -/
def recorded (clock : Nat → Clock) : AppM (σ × Log) Unit :=
  startPing dev (fun s => ping s.1) (fun clock => Prog.recording (createICMPHeader clock)) clock

/-- Keeping the log changes nothing else. -/
theorem recorded_mirrors (clock : Nat → Clock) :
    Prog.Mirrors Prod.fst (recorded dev ping createICMPHeader clock)
      (startPing dev ping createICMPHeader clock) := by
  have hpackage : ∀ clock, Prog.Mirrors Prod.fst
      (createPackage dev (fun s => ping s.1) (fun clock => Prog.recording (createICMPHeader clock)) clock)
      (createPackage dev ping createICMPHeader clock) := by
    refine fun clock => .bind (.recording _) fun header => ?_
    cases header with
    | none => exact .throw _
    | some header => exact .bind_read fun s => .lift _
  have hloop : ∀ clocks, Prog.Mirrors Prod.fst
      (pingLoop dev (fun s => ping s.1) (fun clock => Prog.recording (createICMPHeader clock)) clocks)
      (pingLoop dev ping createICMPHeader clocks) := by
    intro clocks
    induction clocks with
    | nil => exact .pure _
    | cons clock clocks ih =>
      refine .bind (.catching _ ?_) fun _ => ih
      exact .bind (hpackage clock) fun packet => .bind_read fun s => .emit _
  exact .bind_read fun s => hloop _

variable {createICMPHeader}

/-- A round keeps what it built in the log, whether or not it could send it. -/
theorem recorded_round (log : Log) {clock : Clock} {s s' : σ} {message : Bytes}
    (h : createICMPHeader clock s = ⟨.ok (some message), s', []⟩) :
    ∃ out, Prog.catching Throwable.isException (do
        let packet ← createPackage dev (fun s => ping s.1)
          (fun clock => Prog.recording (createICMPHeader clock)) clock
        Prog.emit (.sendData (some packet) (ping (← Prog.read).1).destIp)) (s, log) =
      ⟨.ok (), (s', log ++ [.ok (some message)]), out⟩ := by
  have hrecord : Prog.recording (createICMPHeader clock) (s, log) =
      ⟨.ok (some message), (s', log ++ [.ok (some message)]), []⟩ := by
    simp only [Prog.recording, h]
  have hip : ∀ len, Catchable (createIP4Header dev (ping s') len) := by
    intro len
    unfold createIP4Header
    split
    · exact .ok
    · exact .bind (Application.notNull_catchable _) fun _ =>
        .bind (ByteBuffer.getInt_catchable _) fun _ => IPProtocolLayer.createHeader_catchable dev _
  have hpackage : createPackage dev (fun s => ping s.1)
      (fun clock => Prog.recording (createICMPHeader clock)) clock (s, log) =
      ⟨Application.packet (some message) (createIP4Header dev (ping s')),
        (s', log ++ [.ok (some message)]), []⟩ :=
    Prog.bind_run_ok hrecord rfl
  cases hpacket : Application.packet (some message) (createIP4Header dev (ping s')) with
  | ok packet =>
    rw [hpacket] at hpackage
    refine ⟨[] ++ [.sendData (some packet) (ping s').destIp], ?_⟩
    rw [Prog.catching, Prog.bind_run_ok hpackage rfl]
    rfl
  | error e =>
    rw [hpacket] at hpackage
    have he : e.isException = true := (Application.packet_catchable (some message) hip).of_eq hpacket
    refine ⟨[], ?_⟩
    rw [Prog.catching, Prog.bind_run_error hpackage]
    exact if_pos he

/-- A loop whose rounds build messages and count on the sequence number builds one
message for every reading of the clock, numbered from where it starts. -/
theorem recorded_loop (inv : Short → σ → Prop) (Numbered : Short → Bytes → Prop)
    (hstep : ∀ clock sequence s, inv sequence s → ∃ message s',
      createICMPHeader clock s = ⟨.ok (some message), s', []⟩ ∧ inv (sequence + 1) s' ∧
        Numbered sequence message)
    (clocks : List Clock) {sequence : Short} {s : σ} (hs : inv sequence s) (log : Log) :
    ∃ messages : List Bytes,
      (pingLoop dev (fun s => ping s.1) (fun clock => Prog.recording (createICMPHeader clock))
        clocks (s, log)).state.2 = log ++ messages.map (fun message => .ok (some message)) ∧
      messages.length = clocks.length ∧
      ∀ k message, messages[k]? = some message → Numbered (sequence + BitVec.ofNat 16 k) message := by
  induction clocks generalizing sequence s log with
  | nil => exact ⟨[], (List.append_nil _).symm, rfl, fun k message h => by cases h⟩
  | cons clock clocks ih =>
    obtain ⟨message, s', hcreate, hs', hnumbered⟩ := hstep clock sequence s hs
    obtain ⟨out, hround⟩ := recorded_round dev ping log hcreate
    obtain ⟨messages, hlog, hlen, hrest⟩ := ih hs' (log ++ [.ok (some message)])
    refine ⟨message :: messages, ?_, by rw [List.length_cons, List.length_cons, hlen], ?_⟩
    · rw [pingLoop, Prog.bind_run, hround, List.map_cons]
      exact hlog.trans (List.append_assoc ..)
    · intro k m hk
      cases k with
      | zero =>
        cases hk
        rw [BitVec.add_zero]
        exact hnumbered
      | succ k =>
        have hnext := hrest k m hk
        rwa [BitVec.add_assoc, BitVec.ofNat_eq_ofNat, ← BitVec.ofNat_add, Nat.add_comm 1 k] at hnext

/-- The messages of a run. -/
theorem recorded_run (inv : Short → σ → Prop) (Numbered : Short → Bytes → Prop)
    (hstep : ∀ clock sequence s, inv sequence s → ∃ message s',
      createICMPHeader clock s = ⟨.ok (some message), s', []⟩ ∧ inv (sequence + 1) s' ∧
        Numbered sequence message)
    (clock : Nat → Clock) {s : σ} (hs : inv 0 s) {k : Nat}
    (hk : k < (ping s).echo_times.toInt.toNat) :
    ∃ message, (recorded dev ping createICMPHeader clock (s, [])).state.2[k]? =
      some (.ok (some message)) ∧ Numbered (BitVec.ofNat 16 k) message := by
  obtain ⟨messages, hlog, hlen, hnumbered⟩ := recorded_loop dev ping inv Numbered hstep
    ((List.range (ping s).echo_times.toInt.toNat).map clock) hs []
  rw [List.length_map, List.length_range] at hlen
  have hget : messages[k]? = some messages[k] := List.getElem?_eq_getElem (by omega)
  have hnumber := hnumbered k _ hget
  rw [BitVec.ofNat_eq_ofNat, BitVec.zero_add] at hnumber
  refine ⟨messages[k], ?_, hnumber⟩
  have hrun : (recorded dev ping createICMPHeader clock (s, [])).state.2 =
      messages.map (fun message => .ok (some message)) := hlog
  rw [hrun, List.getElem?_map, hget, Option.map_some]

end

/-- A round of a `PingApp` builds an echo with its number and counts on. -/
theorem createICMPHeader_run (clock : Clock) (this : PingApp) :
    ∃ message, createICMPHeader clock this =
        ⟨.ok (some message), { this with sequence := this.sequence + 1 }, []⟩ ∧
      shortOf (slice message 4 2) = this.identifier ∧
      shortOf (slice message 6 2) = this.sequence := by
  have hecho : ∃ c, ICMPProtocolLayer.createHeader 0 (Info.empty
      |>.put .header (.string "echo")
      |>.put .identifier (.short this.identifier)
      |>.put .sequence_number (.short this.sequence)
      |>.put .data (.bytes (longBytes clock.currentTimeMillis))) =
        .ok (some (ICMPProtocolLayer.message 8 c this.identifier this.sequence
          (longBytes clock.currentTimeMillis))) :=
    ICMPProtocolLayer.createHeader_echo rfl rfl rfl rfl (by rw [longBytes, beDigits_length]; omega)
  obtain ⟨c, hc⟩ := hecho
  refine ⟨ICMPProtocolLayer.message 8 c this.identifier this.sequence
    (longBytes clock.currentTimeMillis), ?_, ?_, ?_⟩
  · unfold createICMPHeader
    rw [Prog.read_bind_run, Prog.modify_bind_run, Prog.lift_run, hc]
  · exact shortOf_shortBytes this.identifier
  · exact shortOf_shortBytes this.sequence

/-- The constructed object has not counted yet. -/
theorem construct_eq_ok {times : JInt} {destIP : Option Bytes} {nextInt : JInt} {this : PingApp}
    (h : construct times destIP nextInt = .ok this) :
    this.echo_times = times ∧ this.sequence = 0 := by
  unfold construct at h
  split at h
  · cases h
    exact ⟨rfl, rfl⟩
  · cases h

end PingApp

namespace HPingApp

/-- The time of day in milliseconds. -/
def timeOf (clock : Clock) : JInt := (clock.hour * 3600 + clock.minute * 60 + clock.second) * 1000

/-- A round builds a request that carries the time, and keeps the time. -/
theorem createICMPHeader_eq (clock : Clock) (this : HPingApp) :
    ∃ c, createICMPHeader clock this = ⟨.ok (some (ICMPProtocolLayer.message 13 c
        this.toPingApp.identifier 0 (ICMPProtocolLayer.timeBytes [timeOf clock, 0, 0]))),
      ⟨{ this.toPingApp with sequence := this.toPingApp.sequence + 1 }, timeOf clock⟩, []⟩ := by
  have htimestamp : ∃ c, ICMPProtocolLayer.createHeader 0 (Info.empty
      |>.put .header (.string "timestamp")
      |>.put .identifier (.short this.toPingApp.identifier)
      |>.put .sequence_num (.short this.toPingApp.sequence)
      |>.put .original_time (.int (timeOf clock))
      |>.put .receive_time (.int 0)
      |>.put .transmit_time (.int 0)) =
        .ok (some (ICMPProtocolLayer.message 13 c this.toPingApp.identifier 0
          (ICMPProtocolLayer.timeBytes (ICMPProtocolLayer.sentTimes (some (timeOf clock)) (some 0)
            (some 0))))) :=
    ICMPProtocolLayer.createHeader_timestamp rfl rfl rfl rfl rfl rfl
  obtain ⟨c, hc⟩ := htimestamp
  refine ⟨c, ?_⟩
  have htimes : ICMPProtocolLayer.sentTimes (some (timeOf clock)) (some 0) (some 0) =
    [timeOf clock, 0, 0] := rfl
  rw [htimes] at hc
  unfold createICMPHeader
  rw [Prog.read_bind_run]
  dsimp only
  rw [Prog.modify_bind_run, Prog.lift_run, show (clock.hour * 3600 + clock.minute * 60 + clock.second) *
    1000 = timeOf clock from rfl, hc]

/-- A round of an `HPingApp` counts on too, but its message says 0. -/
theorem createICMPHeader_run (clock : Clock) (this : HPingApp) :
    ∃ message send_time, createICMPHeader clock this = ⟨.ok (some message),
        ⟨{ this.toPingApp with sequence := this.toPingApp.sequence + 1 }, send_time⟩, []⟩ ∧
      shortOf (slice message 4 2) = this.toPingApp.identifier ∧
      shortOf (slice message 6 2) = 0 := by
  obtain ⟨c, hrun⟩ := createICMPHeader_eq clock this
  exact ⟨_, _, hrun, shortOf_shortBytes this.toPingApp.identifier, shortOf_shortBytes 0⟩

theorem construct_eq_ok {times : JInt} {destIP : Option Bytes} {nextInt : JInt} {this : HPingApp}
    (h : construct times destIP nextInt = .ok this) :
    this.toPingApp.echo_times = times ∧ this.toPingApp.sequence = 0 := by
  obtain ⟨toPingApp, hping, h⟩ := bind_eq_ok_iff.mp h
  cases h
  exact PingApp.construct_eq_ok hping

end HPingApp

/-! ## Runs of the two applications -/

/-- A `PingApp` or an `HPingApp`. -/
inductive Pinger where
  | ping (this : PingApp)
  | hping (this : HPingApp)

namespace Pinger

/-- The object its constructor makes. -/
def Constructed (times : JInt) (destIP : Option Bytes) (nextInt : JInt) : Pinger → Prop
  | ping this => PingApp.construct times destIP nextInt = .ok this
  | hping this => HPingApp.construct times destIP nextInt = .ok this

def identifier : Pinger → Short
  | ping this => this.identifier
  | hping this => this.toPingApp.identifier

/-- What `createICMPHeader` returned in the rounds of a run of `startPing`. -/
def built (dev : DataLinkLayer) (clock : Nat → Clock) : Pinger → PingApp.Log
  | ping this => (PingApp.recorded dev id PingApp.createICMPHeader clock (this, [])).state.2
  | hping this =>
    (PingApp.recorded dev HPingApp.toPingApp HPingApp.createICMPHeader clock (this, [])).state.2

/-- Round `k` built a message of this identifier with the number `k`. -/
def Numbered (dev : DataLinkLayer) (clock : Nat → Clock) (p : Pinger) (k : Nat) : Prop :=
  ∃ message, (p.built dev clock)[k]? = some (.ok (some message)) ∧
    shortOf (slice message 4 2) = p.identifier ∧
    (shortOf (slice message 6 2)).toNat = k % 2 ^ 16

/-- Its encoder reads the key the number is entered under. -/
def Reads : Pinger → Prop
  | ping _ => True
  | hping _ => False

section

variable (dev : DataLinkLayer) (clock : Nat → Clock) {times : JInt} {destIP : Option Bytes}
  {nextInt : JInt} {k : Nat}

/-- Round `k` of a `PingApp`. -/
theorem ping_round {this : PingApp} (h : (ping this).Constructed times destIP nextInt)
    (hk : k < times.toInt.toNat) :
    ∃ message, ((ping this).built dev clock)[k]? = some (.ok (some message)) ∧
      shortOf (slice message 4 2) = this.identifier ∧
      shortOf (slice message 6 2) = BitVec.ofNat 16 k := by
  obtain ⟨htimes, hsequence⟩ := PingApp.construct_eq_ok h
  refine PingApp.recorded_run dev id
    (fun sequence s => s.identifier = this.identifier ∧ s.sequence = sequence)
    (fun sequence message => shortOf (slice message 4 2) = this.identifier ∧
      shortOf (slice message 6 2) = sequence)
    ?_ clock ⟨rfl, hsequence⟩ (by rw [id_eq, htimes]; exact hk)
  rintro clock _ s ⟨hidentifier, rfl⟩
  obtain ⟨message, hrun, hid, hseq⟩ := PingApp.createICMPHeader_run clock s
  exact ⟨message, _, hrun, ⟨hidentifier, rfl⟩, hid.trans hidentifier, hseq⟩

/-- Round `k` of an `HPingApp`. -/
theorem hping_round {this : HPingApp} (h : (hping this).Constructed times destIP nextInt)
    (hk : k < times.toInt.toNat) :
    ∃ message, ((hping this).built dev clock)[k]? = some (.ok (some message)) ∧
      shortOf (slice message 4 2) = this.toPingApp.identifier ∧
      shortOf (slice message 6 2) = 0 := by
  obtain ⟨htimes, hsequence⟩ := HPingApp.construct_eq_ok h
  refine PingApp.recorded_run dev HPingApp.toPingApp
    (fun sequence s => s.toPingApp.identifier = this.toPingApp.identifier ∧
      s.toPingApp.sequence = sequence)
    (fun _ message => shortOf (slice message 4 2) = this.toPingApp.identifier ∧
      shortOf (slice message 6 2) = 0)
    ?_ clock ⟨rfl, hsequence⟩ (by rw [htimes]; exact hk)
  rintro clock _ s ⟨hidentifier, rfl⟩
  obtain ⟨message, send_time, hrun, hid, hseq⟩ := HPingApp.createICMPHeader_run clock s
  exact ⟨message, _, hrun, ⟨hidentifier, rfl⟩, hid.trans hidentifier, hseq⟩

end

/-- Round `k` numbers its message `k` if and only if the encoder reads the number
that is entered, or the number is 0 anyway. -/
theorem numbered_iff (dev : DataLinkLayer) (clock : Nat → Clock) {p : Pinger} {times : JInt}
    {destIP : Option Bytes} {nextInt : JInt} (h : p.Constructed times destIP nextInt) {k : Nat}
    (hk : k < times.toInt.toNat) : p.Numbered dev clock k ↔ p.Reads ∨ k % 2 ^ 16 = 0 := by
  cases p with
  | ping this =>
    obtain ⟨message, hbuilt, hid, hseq⟩ := ping_round dev clock h hk
    refine iff_of_true ⟨message, hbuilt, hid, ?_⟩ (.inl trivial)
    rw [hseq, BitVec.toNat_ofNat]
  | hping this =>
    obtain ⟨message, hbuilt, hid, hseq⟩ := hping_round dev clock h hk
    constructor
    · rintro ⟨message', hbuilt', -, hnumber⟩
      cases hbuilt.symm.trans hbuilt'
      rw [hseq] at hnumber
      exact .inr hnumber.symm
    · rintro (hreads | hzero)
      · exact hreads.elim
      · exact ⟨message, hbuilt, hid, by rw [hseq, hzero]; rfl⟩

/-! ## Three pings to nobody -/

/-- `new PingApp(3, null)` with 7 drawn. -/
def samplePing : PingApp := ⟨7, 3, 7, 0, none⟩

def sampleClock : Nat → Clock := fun _ => ⟨0, 0, 0, 0⟩

theorem numbered_ping : (ping samplePing).Numbered sampleDevice sampleClock 2 := by
  have hconstructed : (ping samplePing).Constructed 3 none 7 := rfl
  exact (numbered_iff sampleDevice sampleClock hconstructed (by decide)).mpr (.inl trivial)

/-- The second message of an `HPingApp` says 0 again. -/
theorem not_numbered_hping :
    (hping ⟨samplePing, 0⟩).Constructed 3 none 7 ∧
      ¬ (hping ⟨samplePing, 0⟩).Numbered sampleDevice sampleClock 1 := by
  have hconstructed : (hping ⟨samplePing, 0⟩).Constructed 3 none 7 := rfl
  refine ⟨hconstructed, ?_⟩
  rintro ⟨message, hbuilt, -, hnumber⟩
  obtain ⟨message', hbuilt', -, hzero⟩ :=
    hping_round sampleDevice sampleClock hconstructed (k := 1) (by decide)
  cases hbuilt'.symm.trans hbuilt
  rw [hzero] at hnumber
  cases hnumber

end Pinger

end TcpIpStack
