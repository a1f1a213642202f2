import TcpIpStack.Application.TraceRouteRuns

/-!
# The numbers of the probes

A trace is the start and whatever tables the tracer is handed after it. Every
accepted one moves the time to live and the port one on (`advance`), and neither
counter has a bound: probe 256 has the time to live 0.
-/

namespace TcpIpStack.TraceRoute

open TcpIpStack.Java TcpIpStack.Lib
open ProtocolManager (handedBy)

/-! ## Reading a probe -/

/-- The time to live in the IP header. -/
def timeToLive (probe : Bytes) : Nat := (probe.getD 8 0).toNat

/-- The destination port in the UDP header, which starts where the IP header says. -/
def destPort (probe : Bytes) : Nat :=
  (shortOf (slice probe (4 * ((probe.getD 0 0).toNat % 16) + 2) 2)).toNat

section

variable {dev : DataLinkLayer} {this : TraceRoute} {ip p : Bytes}

theorem IsProbe.timeToLive_eq (h : IsProbe dev this ip p) :
    timeToLive p = this.time_to_live.toNat := by
  obtain ⟨header, rfl, -, -, -, httl⟩ := h
  have hmin := header.min_length
  rw [timeToLive, List.getD_append _ _ _ _ (by omega), ← httl]
  rfl

theorem IsProbe.destPort_eq (h : IsProbe dev this ip p) : destPort p = this.dest_port.toNat := by
  obtain ⟨header, rfl, -⟩ := h
  have hmin := header.min_length
  rw [destPort, List.getD_append _ _ _ _ (by omega), ← header.length_eq,
    slice_append_right (by omega), Nat.add_sub_cancel_left]
  exact congrArg BitVec.toNat (shortOf_shortBytes this.dest_port)

end

/-! ## Advancing -/

/-- A counter that every advance counts up, after `k` of them. -/
theorem advance_count {w : Nat} {count : TraceRoute → BitVec w}
    (h : ∀ this, count (advance this) = count this + BitVec.ofNat w 1) (this : TraceRoute) (k : Nat) :
    count (advance^[k] this) = count this + BitVec.ofNat w k := by
  induction k with
  | zero => exact (BitVec.add_zero _).symm
  | succ k ih => rw [Function.iterate_succ_apply', h, ih, BitVec.ofNat_add, BitVec.add_assoc]

theorem advance_time_to_live (this : TraceRoute) (k : Nat) :
    (advance^[k] this).time_to_live = this.time_to_live + BitVec.ofNat 8 k :=
  advance_count (fun _ => rfl) this k

theorem advance_dest_port (this : TraceRoute) (k : Nat) :
    (advance^[k] this).dest_port = this.dest_port + BitVec.ofNat 16 k :=
  advance_count (fun _ => rfl) this k

/-! ## Traces -/

section

variable (dev : DataLinkLayer) (self : Nat)

/-- What calls send. -/
def sent (calls : List Call) : List Bytes := (handedBy calls).filterMap Prod.fst

theorem sent_append (calls calls' : List Call) : sent (calls ++ calls') = sent calls ++ sent calls' := by
  simp only [sent, handedBy, List.filterMap_append]

theorem sent_print (report : Report) (calls : List Call) :
    sent (.print report :: calls) = sent calls := rfl

/-- The calls of a trace: the tracer is started, then handed tables. -/
def trace (dest_ip : Option Bytes) (tables : List Info) : List Call :=
  (Prog.runs id (startTraceRoute dev self :: tables.map (handleData dev self))
    (construct dest_ip)).2

/-- The probes it has sent. -/
def probes (dest_ip : Option Bytes) (tables : List Info) : List Bytes :=
  sent (trace dev self dest_ip tables)

/-- There is an address to send to. -/
def Sendable (this : TraceRoute) : Prop := ∃ ip, this.dest_ip = some ip ∧ 4 ≤ ip.length

theorem start_sent {this : TraceRoute} (h : Sendable this) :
    ∃ ip p, sent (startTraceRoute dev self this).out = [p] ∧ IsProbe dev this ip p := by
  obtain ⟨-, hsends, -⟩ := startTraceRoute_run dev self this
  rw [sent]
  generalize handedBy (startTraceRoute dev self this).out = handed at hsends
  cases hsends with
  | probe hip hlen hp => exact ⟨_, _, rfl, hp⟩
  | nothing hnone =>
    obtain ⟨ip, hip, hlen⟩ := h
    exact absurd (hnone ip hip) (Nat.not_lt.mpr hlen)

theorem start_silent {this : TraceRoute} (h : ¬ Sendable this) :
    sent (startTraceRoute dev self this).out = [] := by
  obtain ⟨-, hsends, -⟩ := startTraceRoute_run dev self this
  rw [sent]
  generalize handedBy (startTraceRoute dev self this).out = handed at hsends
  cases hsends with
  | probe hip hlen hp => exact absurd ⟨_, hip, hlen⟩ h
  | nothing hnone => rfl

/-- A rejected table changes and sends nothing, an accepted one is another start. -/
theorem handleData_sent (table : Info) (this : TraceRoute) :
    accepts table = false ∧ (handleData dev self table this).state = this ∧
        sent (handleData dev self table this).out = [] ∨
      accepts table = true ∧ (handleData dev self table this).state = advance this ∧
        sent (handleData dev self table this).out =
          sent (startTraceRoute dev self (advance this)).out := by
  cases haccepts : accepts table with
  | false =>
    obtain ⟨hstate, hout⟩ := handleData_rejects dev self haccepts this
    exact .inl ⟨rfl, hstate, by rw [hout]; rfl⟩
  | true =>
    obtain ⟨hexpired, src, hsrc, hlen⟩ := accepts_iff.mp haccepts
    obtain ⟨hstate, hout⟩ := handleData_accepts dev self hexpired hsrc hlen this
    exact .inr ⟨rfl, hstate, by rw [hout, sent_print]⟩

/-- The tables make the tracer send a probe for each of them it accepts, of the object
as it has advanced by then. -/
theorem tables_sent {this : TraceRoute} (h : Sendable this) (tables : List Info) :
    (sent (Prog.runs id (tables.map (handleData dev self)) this).2).length =
        tables.countP accepts ∧
      ∀ k p, (sent (Prog.runs id (tables.map (handleData dev self)) this).2)[k]? = some p →
        ∃ ip, IsProbe dev (advance^[k + 1] this) ip p := by
  induction tables generalizing this with
  | nil => exact ⟨rfl, fun k p hk => by cases hk⟩
  | cons table tables ih =>
    rw [List.map_cons, Prog.runs_cons, sent_append, id_eq]
    rcases handleData_sent dev self table this with
      ⟨haccepts, hstate, hsent⟩ | ⟨haccepts, hstate, hsent⟩
    · rw [hstate, hsent, List.nil_append, List.countP_cons_of_neg (by rw [haccepts]; decide)]
      exact ih h
    · have hadvance : Sendable (advance this) := h
      obtain ⟨ip, p, hstart, hprobe⟩ := start_sent dev self hadvance
      obtain ⟨hlen, hrest⟩ := ih hadvance
      rw [hstate, hsent, hstart, List.countP_cons_of_pos haccepts]
      refine ⟨by rw [List.length_append, hlen, List.length_singleton, Nat.add_comm], ?_⟩
      intro k p' hk
      cases k with
      | zero =>
        cases hk
        exact ⟨ip, hprobe⟩
      | succ k => exact hrest k p' hk

theorem tables_silent {this : TraceRoute} (h : ¬ Sendable this) (tables : List Info) :
    sent (Prog.runs id (tables.map (handleData dev self)) this).2 = [] := by
  induction tables generalizing this with
  | nil => rfl
  | cons table tables ih =>
    rw [List.map_cons, Prog.runs_cons, sent_append, id_eq]
    rcases handleData_sent dev self table this with ⟨-, hstate, hsent⟩ | ⟨-, hstate, hsent⟩
    · rw [hstate, hsent, List.nil_append]
      exact ih h
    · have hadvance : ¬ Sendable (advance this) := h
      rw [hstate, hsent, start_silent dev self hadvance, List.nil_append]
      exact ih hadvance

theorem probes_eq (dest_ip : Option Bytes) (tables : List Info) :
    probes dev self dest_ip tables = sent (startTraceRoute dev self (construct dest_ip)).out ++
      sent (Prog.runs id (tables.map (handleData dev self)) (construct dest_ip)).2 := by
  obtain ⟨hstate, -⟩ := startTraceRoute_run dev self (construct dest_ip)
  rw [probes, trace, Prog.runs_cons, sent_append, id_eq, hstate]

/-- Probe `k` is of the object as constructed and advanced `k` times. -/
theorem probes_sent {dest_ip : Option Bytes} (h : Sendable (construct dest_ip))
    (tables : List Info) :
    (probes dev self dest_ip tables).length = tables.countP accepts + 1 ∧
      ∀ k p, (probes dev self dest_ip tables)[k]? = some p →
        ∃ ip, IsProbe dev (advance^[k] (construct dest_ip)) ip p := by
  obtain ⟨ip, p, hstart, hprobe⟩ := start_sent dev self h
  obtain ⟨hlen, hrest⟩ := tables_sent dev self h tables
  rw [probes_eq, hstart]
  refine ⟨by rw [List.length_append, hlen, List.length_singleton, Nat.add_comm], ?_⟩
  intro k p' hk
  cases k with
  | zero =>
    cases hk
    exact ⟨ip, hprobe⟩
  | succ k => exact hrest k p' hk

theorem probes_silent {dest_ip : Option Bytes} (h : ¬ Sendable (construct dest_ip))
    (tables : List Info) : probes dev self dest_ip tables = [] := by
  rw [probes_eq, start_silent dev self h, tables_silent dev self h]
  rfl

/-- Both counters, as the probes carry them. -/
theorem probes_numbers {dest_ip : Option Bytes} (h : Sendable (construct dest_ip))
    {tables : List Info} {k : Nat} {p : Bytes}
    (hk : (probes dev self dest_ip tables)[k]? = some p) :
    timeToLive p = (1 + k) % 256 ∧ destPort p = (33434 + k) % 65536 := by
  obtain ⟨ip, hprobe⟩ := (probes_sent dev self h tables).2 k p hk
  have hone : ((construct dest_ip).time_to_live).toNat = 1 := rfl
  have hport : ((construct dest_ip).dest_port).toNat = 33434 := rfl
  rw [hprobe.timeToLive_eq, hprobe.destPort_eq, advance_time_to_live, advance_dest_port,
    BitVec.toNat_add, BitVec.toNat_add, BitVec.toNat_ofNat, BitVec.toNat_ofNat, hone, hport]
  omega

end

/-! ## In the stack -/

section

open ProtocolManager ApplicationManager

variable (net : Network) (depth : Nat) {i : Nat}

/-- The object of the tracer and what it hands in are those of its own run over the
tables it is delivered. -/
def follows (i : Nat) : Prog.Trace (ProtocolManager ApplicationManager) Event where
  rel s log s' := ∀ this, object i s.apps = some (.trace this) →
    object i s'.apps = some (.trace (Prog.runs id
      ((deliveredTo i log).map (handleData net.dataLinkLayer i)) this).1) ∧
    ∀ mine, handed (ownFrom i mine log) = handedBy (Prog.runs id
      ((deliveredTo i log).map (handleData net.dataLinkLayer i)) this).2
  refl s this h := ⟨h, fun mine => by cases mine <;> rfl⟩
  trans {s s' s'' log log'} h h' this hthis := by
    obtain ⟨hobject, hhanded⟩ := h this hthis
    obtain ⟨hobject', hhanded'⟩ := h' _ hobject
    rw [deliveredTo_append, List.map_append, Prog.runs_append]
    refine ⟨hobject', fun mine => ?_⟩
    obtain ⟨mine', happend⟩ := exists_ownFrom_append i mine log
    rw [happend, handed_append, hhanded, hhanded', handedBy, handedBy, handedBy,
      List.filterMap_append]

theorem deliver_follows (j : Nat) (info : Info) :
    Prog.Obeys (follows net i) (deliver net (appLayer net.dataLinkLayer depth) j info) := by
  intro s this h
  obtain ⟨s', log, hrun, hperformed⟩ :=
    deliver_run net (appLayer net.dataLinkLayer depth) j info s
  rw [hrun]
  have hown : ∀ mine, ownFrom i mine (.delivered j info :: log) = if j == i then log else [] := by
    intro mine
    have happend := ownFrom_append hperformed.deliveries_eq i (j == i) []
    rw [List.append_nil] at happend
    exact happend.trans (by cases (j == i) <;> exact List.append_nil _)
  have hto : deliveredTo i (.delivered j info :: log) = if j = i then [info] else [] := by
    have hdeliveries : deliveries (.delivered j info :: log) = [(j, info)] :=
      congrArg ((j, info) :: ·) hperformed.deliveries_eq
    rw [deliveredTo, hdeliveries, List.filterMap_cons]
    split <;> simp_all
  rw [hto, hperformed.apps_eq]
  by_cases hj : j = i
  · subst hj
    obtain ⟨hstate, hout⟩ := handleData_trace net.dataLinkLayer depth h info
    rw [if_pos rfl]
    refine ⟨hstate, fun mine => ?_⟩
    rw [hown, beq_self_eq_true, if_pos rfl, hperformed.handed_eq]
    exact congrArg handedBy (hout.trans (List.append_nil _).symm)
  · rw [if_neg hj]
    refine ⟨(separate_object net.dataLinkLayer depth i j hj info s.apps).trans h, fun mine => ?_⟩
    rw [hown, beq_eq_false_iff_ne.mpr hj]
    rfl

theorem receivePacket_follows (packet : Option Packet) :
    Prog.Obeys (follows net i) (receivePacket net (appLayer net.dataLinkLayer depth) packet) := by
  -- what touches no application delivers nothing and hands nothing in
  have hkeep : ∀ (s s' : ProtocolManager ApplicationManager) (log : List Event), s'.apps = s.apps →
      deliveries log = [] → handed log = [] → (follows net i).rel s log s' := by
    intro s s' log happs hdeliveries hhanded this h
    have hto : deliveredTo i log = [] := by rw [deliveredTo, hdeliveries]; rfl
    rw [hto, happs]
    refine ⟨h, fun mine => ?_⟩
    have happend := ownFrom_append hdeliveries i mine []
    rw [List.append_nil] at happend
    rw [happend]
    cases mine
    · rfl
    · exact (handed_append ..).trans (by rw [if_pos rfl, hhanded]; rfl)
  refine receivePacket_obeys net _ (fun s s' happs _ => hkeep s s' [] happs rfl rfl)
    (fun data mac s => hkeep s s _ rfl ?_ ?_) (deliver_follows net depth) packet
  · exact deliveries_transmit ..
  · exact handed_transmit ..

/-- The log of the frames after the start. -/
def startedLog (i : Nat) (this : TraceRoute) (packets : List (Option Packet))
    (s : ProtocolManager ApplicationManager) : List Event :=
  (Prog.runs (step net (appLayer net.dataLinkLayer depth)) (packets.map .receivePacket)
    (step net (appLayer net.dataLinkLayer depth) (start net i this) s).state).2

/-- What a tracer in the stack hands in is the trace over the tables it is delivered. -/
theorem started_probes {dest_ip : Option Bytes} {s : ProtocolManager ApplicationManager}
    (h : object i s.apps = some (.trace (construct dest_ip))) (packets : List (Option Packet)) :
    (handed (step net (appLayer net.dataLinkLayer depth) (start net i (construct dest_ip)) s).out ++
        handed (own i (startedLog net depth i (construct dest_ip) packets s))).filterMap Prod.fst =
      probes net.dataLinkLayer i dest_ip
        (deliveredTo i (startedLog net depth i (construct dest_ip) packets s)) := by
  obtain ⟨hobject, -, -⟩ := start_run net depth h
  have hpackets : ∀ input ∈ packets.map Input.receivePacket,
      Prog.Obeys (follows net i) (step net (appLayer net.dataLinkLayer depth) input) := by
    intro input hinput
    obtain ⟨packet, -, rfl⟩ := List.mem_map.mp hinput
    exact receivePacket_follows net depth packet
  have hrest := Prog.runs_obeys hpackets
    (step net (appLayer net.dataLinkLayer depth) (start net i (construct dest_ip)) s).state
  have hown := (hrest _ hobject).2 false
  have hstep : step net (appLayer net.dataLinkLayer depth) (start net i (construct dest_ip)) =
      runApp net (onTrace i (construct dest_ip) (startTraceRoute net.dataLinkLayer i)) := by
    rw [start, step]
  have hstart := (method_run net h (startTraceRoute net.dataLinkLayer i)).2.1
  rw [← hstep] at hstart
  rw [probes_eq, sent, sent, ← List.filterMap_append, ← hstart, own, startedLog, hown]

end

/-! ## The numbering -/

/-- The probes carry 1, 2, 3 and so on with the ports from 33434 on, no number twice
and never 0, so that there are no more than a byte can number. -/
structure Numbered (probes : List Bytes) : Prop where
  times_to_live : probes.map timeToLive = List.range' 1 probes.length
  dest_ports : probes.map destPort = List.range' 33434 probes.length
  distinct : (probes.map timeToLive).Nodup ∧ (probes.map destPort).Nodup
  nonzero : ∀ p ∈ probes, timeToLive p ≠ 0
  length_le : probes.length ≤ 255

theorem map_eq_range' {α : Type} {l : List α} {f : α → Nat} {c : Nat}
    (h : ∀ k a, l[k]? = some a → f a = c + k) : l.map f = List.range' c l.length := by
  apply List.ext_getElem
  · rw [List.length_map, List.length_range']
  · intro k hk hk'
    rw [List.length_map] at hk
    rw [List.getElem_map, List.getElem_range', h k l[k] (List.getElem?_eq_getElem hk), Nat.one_mul]

/-- Probes whose counters are where they should be. -/
theorem numbered_of_counters {probes : List Bytes} (hlen : probes.length ≤ 255)
    (hcounters : ∀ k p, probes[k]? = some p → timeToLive p = 1 + k ∧ destPort p = 33434 + k) :
    Numbered probes := by
  have htimes := map_eq_range' fun k p hk => (hcounters k p hk).1
  have hports := map_eq_range' fun k p hk => (hcounters k p hk).2
  refine ⟨htimes, hports, ⟨?_, ?_⟩, ?_, hlen⟩
  · rw [htimes]
    exact List.nodup_range'
  · rw [hports]
    exact List.nodup_range'
  · intro p hp
    obtain ⟨k, hk, rfl⟩ := List.mem_iff_getElem.mp hp
    have := (hcounters k _ (List.getElem?_eq_getElem hk)).1
    omega

/-- The probes of a trace are numbered if and only if the tracer has accepted at most
254 tables, or has no address to send anything to. -/
theorem probes_numbered_iff (dev : DataLinkLayer) (self : Nat) (dest_ip : Option Bytes)
    (tables : List Info) :
    Numbered (probes dev self dest_ip tables) ↔
      tables.countP accepts ≤ 254 ∨ ¬ Sendable (construct dest_ip) := by
  by_cases h : Sendable (construct dest_ip)
  · obtain ⟨hlen, -⟩ := probes_sent dev self h tables
    constructor
    · intro hnumbered
      have := hnumbered.length_le
      exact .inl (by omega)
    · rintro (hfew | hnone)
      · refine numbered_of_counters (by omega) fun k p hk => ?_
        obtain ⟨hk', -⟩ := List.getElem?_eq_some_iff.mp hk
        obtain ⟨htime, hport⟩ := probes_numbers dev self h hk
        omega
      · exact absurd h hnone
  · rw [probes_silent dev self h]
    exact iff_of_true (numbered_of_counters (Nat.zero_le _) fun k p hk => by cases hk) (.inr h)

/-- The table of a time-exceeded message from `192.168.1.1`. -/
def expiredTable : Info := Info.empty
  |>.put .type (.byte 11)
  |>.put .code (.byte 0)
  |>.put .source_ip (.bytes [192, 168, 1, 1])

/-- After 255 of them the last probe has the time to live 0. -/
theorem probes_wrap :
    ¬ Numbered (probes sampleDevice 0 (some [8, 8, 8, 8]) (List.replicate 255 expiredTable)) := by
  intro hnumbered
  have hsendable : Sendable (construct (some [8, 8, 8, 8])) := ⟨_, rfl, by decide⟩
  have haccepts : accepts expiredTable = true := by decide
  obtain ⟨hlen, -⟩ := probes_sent sampleDevice 0 hsendable (List.replicate 255 expiredTable)
  rw [List.countP_replicate, if_pos haccepts] at hlen
  have hlast := List.getElem?_eq_getElem (show 255 < (probes sampleDevice 0 (some [8, 8, 8, 8])
    (List.replicate 255 expiredTable)).length by omega)
  have hzero := (probes_numbers sampleDevice 0 hsendable hlast).1
  exact hnumbered.nonzero _ (List.getElem_mem _) hzero

end TcpIpStack.TraceRoute
