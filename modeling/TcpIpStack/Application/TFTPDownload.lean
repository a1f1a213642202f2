import Mathlib.Data.List.Induction
import TcpIpStack.Application.TFTPClient
import TcpIpStack.Lib.StopAndWait

/-!
# Downloading a file

The server splits the file into blocks of 512 bytes and a shorter last one and
sends them in lock step. The client writes down every block it is handed, so
the file comes out right exactly when no block was handed to it twice before
the last.
-/

namespace TcpIpStack.TFTPClient

open TcpIpStack.Java TcpIpStack.Lib

/-- A file as the server splits it. -/
structure SplitFile where
  full : List Bytes
  full_length : ∀ b ∈ full, b.length = 512
  last : Bytes
  last_length : last.length < 512

namespace SplitFile

def content (f : SplitFile) : Bytes := f.full.flatten ++ f.last

/-- The number of blocks. -/
def n (f : SplitFile) : Nat := f.full.length + 1

/-- The payload of block `k`, counted from 1. -/
def payload (f : SplitFile) (k : Nat) : Bytes := (f.full ++ [f.last]).getD (k - 1) []

theorem payload_n (f : SplitFile) : f.payload f.n = f.last := by
  show (f.full ++ [f.last]).getD f.full.length [] = f.last
  rw [List.getD_append_right _ _ _ _ (Nat.le_refl _), Nat.sub_self]
  rfl

theorem payload_length (f : SplitFile) {k : Nat} (hpos : 1 ≤ k) (hle : k ≤ f.full.length) :
    (f.payload k).length = 512 := by
  have hlt : k - 1 < f.full.length := by omega
  rw [payload, List.getD_append _ _ _ _ hlt, List.getD_eq_getElem _ _ hlt]
  exact f.full_length _ (List.getElem_mem hlt)

theorem content_length (f : SplitFile) :
    f.content.length = f.full.length * 512 + f.last.length := by
  rw [content, List.length_append, List.length_flatten, List.map_congr_left f.full_length,
    List.map_const', List.sum_replicate_nat]

/-- The blocks before the last make up the content before it. -/
theorem flatMap_payload (f : SplitFile) :
    (List.range' 1 f.full.length).flatMap f.payload = f.full.flatten := by
  rw [List.flatMap_def]
  congr 1
  refine List.ext_getElem (by rw [List.length_map, List.length_range']) fun i hi hi' => ?_
  rw [List.getElem_map, List.getElem_range', payload, Nat.one_mul, Nat.add_sub_cancel_left,
    List.getD_append _ _ _ _ hi', List.getD_eq_getElem _ _ hi']

end SplitFile

/-- A block as it arrives, behind any UDP header. -/
structure Delivery where
  header : Bytes
  block : Nat

/-- A DATA message. -/
def dataMessage (block : Short) (payload : Bytes) : Bytes :=
  shortBytes OPTION_CODE_DATA ++ shortBytes block ++ payload

/-- The table the UDP layer hands over with a block. -/
def Delivery.info (file : SplitFile) (d : Delivery) : Info :=
  UDPProtocolLayer.info d.header (dataMessage (BitVec.ofNat 16 d.block) (file.payload d.block))

section

variable (dev : DataLinkLayer)

/-- The stream of the object. -/
def stream (s : Scope) : Option FileOutputStream := s.this.download_file_stream

/-- The port and the block number of a message are remembered. -/
def received (s : Scope) (header : Bytes) (data_block : Short) : Scope :=
  ⟨⟨shortOf (slice header 0 2)⟩, { s.this with data_block }⟩

/-- A DATA message is written down and acknowledged. -/
theorem handleData_data (s : Scope) (header : Bytes) (block : Short) (payload : Bytes) :
    handleData dev (UDPProtocolLayer.info header (dataMessage block payload)) s =
      (write payload >>= fun _ => acknowledge dev payload.length) (received s header block) := by
  have hdata : (UDPProtocolLayer.info header (dataMessage block payload)).getBytes .data =
      .ok (some (dataMessage block payload)) := rfl
  have hport : (UDPProtocolLayer.info header (dataMessage block payload)).unbox .src_port
      Obj.asShort = .ok (shortOf (slice header 0 2)) := rfl
  have hcode : (ByteBuffer.wrap (dataMessage block payload)).getShort = .ok (OPTION_CODE_DATA,
      ByteBuffer.reading (shortBytes OPTION_CODE_DATA) (shortBytes block ++ payload)) := by
    rw [ByteBuffer.wrap_eq_reading, dataMessage, List.append_assoc]
    exact ByteBuffer.reading_getShort [] _ _
  have htake := ByteBuffer.reading_take (shortBytes OPTION_CODE_DATA ++ shortBytes block) []
    (rfl : payload.length = _)
  rw [List.append_nil] at htake
  simp only [handleData, hdata, hport, hcode, Prog.lift_ok_bind, Prog.modify_bind_run,
    ↓reduceIte, handleDataPacket, ByteBuffer.reading_getShort, ByteBuffer.reading_remaining, htake,
    setBlock, received]

theorem write_open {s : Scope} {w : Bytes} (h : stream s = some ⟨true, w⟩) (p : Bytes) :
    write p s = ⟨.ok (), { s with this := { s.this with
      download_file_stream := some ⟨true, w ++ p⟩ } }, []⟩ := by
  unfold write
  rw [Prog.read_bind_run, show s.this.download_file_stream = _ from h]
  rfl

theorem write_none {s : Scope} (h : stream s = none) (p : Bytes) :
    write p s = ⟨.error .nullPointer, s, []⟩ := by
  unfold write
  rw [Prog.read_bind_run, show s.this.download_file_stream = none from h]
  rfl

/-- Sending changes no field. -/
theorem sendACKPacket_keeps : Prog.Obeys (.keeps id) (sendACKPacket dev) := by
  refine .bind .read fun s => .bind (.lift _) fun ack_msg => .bind .read fun s => ?_
  exact .bind (.lift _) fun udp => .bind (.lift _) fun p => .emit fun s => rfl

/-- A full block leaves the stream as it is; -/
theorem acknowledge_full_keeps : Prog.Obeys (.keeps stream) (acknowledge dev 512) := by
  refine .bind (fun s => congrArg stream (sendACKPacket_keeps dev s)) fun _ => ?_
  exact .bind .read fun s => .modify fun _ => rfl

/-- any block leaves what was written. -/
theorem acknowledge_keeps (n : Nat) :
    Prog.Obeys (.keeps fun s => (stream s).map FileOutputStream.written) (acknowledge dev n) := by
  have hack : Prog.Obeys (.keeps fun s => (stream s).map FileOutputStream.written)
      (sendACKPacket dev) := fun s =>
    congrArg (fun s => (stream s).map FileOutputStream.written) (sendACKPacket_keeps dev s)
  unfold acknowledge
  split
  · exact .bind hack fun _ => .bind .read fun s => .modify fun _ => rfl
  split
  · refine .bind hack fun _ => .bind (fun s => ?_) fun _ => .modify fun _ => rfl
    unfold close
    rw [Prog.read_bind_run]
    cases h : s.this.download_file_stream with
    | none => rfl
    | some f =>
      show some f.close.written = (stream s).map _
      rw [stream, h]
      rfl
  · exact .pure ()

/-! ## One delivery -/

/-- Without a stream nothing is ever written. -/
theorem deliver_none {s : Scope} (h : stream s = none) (file : SplitFile) (d : Delivery) :
    stream (handleData dev (d.info file) s).state = none := by
  have hs : stream (received s d.header (BitVec.ofNat 16 d.block)) = none := h
  rw [Delivery.info, handleData_data, Prog.bind_run_error (write_none hs _)]
  exact hs

/-- The scope with another stream. -/
def withStream (s : Scope) (stream : FileOutputStream) : Scope :=
  { s with this := { s.this with download_file_stream := some stream } }

/-- The block is appended to an open file before it is acknowledged. -/
theorem deliver_open {s : Scope} {w : Bytes} (h : stream s = some ⟨true, w⟩) (file : SplitFile)
    (d : Delivery) : (handleData dev (d.info file) s).state =
      (acknowledge dev (file.payload d.block).length
        (withStream (received s d.header (BitVec.ofNat 16 d.block))
          ⟨true, w ++ file.payload d.block⟩)).state := by
  have hwrite := write_open (s := received s d.header (BitVec.ofNat 16 d.block)) h
    (file.payload d.block)
  rw [Delivery.info, handleData_data, Prog.bind_run, hwrite]
  rfl

/-- A full block is appended and the file stays open. -/
theorem deliver_full {s : Scope} {w : Bytes} (h : stream s = some ⟨true, w⟩) {file : SplitFile}
    {d : Delivery} (hlen : (file.payload d.block).length = 512) :
    stream (handleData dev (d.info file) s).state = some ⟨true, w ++ file.payload d.block⟩ := by
  rw [deliver_open dev h, hlen]
  exact acknowledge_full_keeps dev _

/-- Any block is appended to an open file. -/
theorem deliver_written {s : Scope} {w : Bytes} (h : stream s = some ⟨true, w⟩) (file : SplitFile)
    (d : Delivery) : (stream (handleData dev (d.info file) s).state).map FileOutputStream.written =
      some (w ++ file.payload d.block) := by
  rw [deliver_open dev h]
  exact acknowledge_keeps dev _ _

/-! ## A download -/

/-- A new client asks for the file and is handed the blocks. -/
def download (getBytes : JString → Bytes) (created : Bool) (filename : JString)
    (server_ip : Option Bytes) (file : SplitFile) (run : List Delivery) : Scope :=
  (Prog.runs (fun d : Delivery => handleData dev (d.info file)) run
    (getFile dev getBytes created filename (construct server_ip)).state).1

/-- The bytes written to `download_file_stream`. -/
def written (s : Scope) : Option Bytes := (stream s).map FileOutputStream.written

variable (getBytes : JString → Bytes) (filename : JString) (server_ip : Option Bytes)

/-- The request itself changes no field. -/
theorem sendReadPacket_keeps : Prog.Obeys (.keeps stream) (sendReadPacket dev getBytes) := by
  refine .bind .read fun s => .bind (.lift _) fun request => .bind .read fun s => ?_
  exact .bind (.lift _) fun udp => .bind (.lift _) fun p => .emit fun s => rfl

theorem getFile_stream (created : Bool) :
    stream (getFile dev getBytes created filename (construct server_ip)).state =
      if created then some ⟨true, []⟩ else none := by
  unfold getFile
  cases created with
  | true => exact sendReadPacket_keeps dev getBytes _
  | false => exact sendReadPacket_keeps dev getBytes _

theorem download_append (created : Bool) (file : SplitFile) (run : List Delivery) (d : Delivery) :
    download dev getBytes created filename server_ip file (run ++ [d]) =
      (handleData dev (d.info file)
        (download dev getBytes created filename server_ip file run)).state :=
  Prog.runs_concat ..

/-- Blocks before the last are appended in the order in which they arrive. -/
theorem download_full {file : SplitFile} {run : List Delivery}
    (hrun : ∀ d ∈ run, 1 ≤ d.block ∧ d.block ≤ file.full.length) :
    stream (download dev getBytes true filename server_ip file run) =
      some ⟨true, run.flatMap fun d => file.payload d.block⟩ := by
  induction run using List.reverseRecOn with
  | nil => exact getFile_stream dev getBytes filename server_ip true
  | append_singleton run d ih =>
    have hd := hrun d (List.mem_append_right _ (List.mem_singleton_self d))
    have hbefore := ih fun e he => hrun e (List.mem_append_left _ he)
    rw [download_append, List.flatMap_append, List.flatMap_singleton]
    exact deliver_full dev hbefore (file.payload_length hd.1 hd.2)

theorem download_none (file : SplitFile) (run : List Delivery) :
    stream (download dev getBytes false filename server_ip file run) = none :=
  Prog.runs_invariant (P := fun s => stream s = none) (fun d _ _ hs => deliver_none dev hs file d)
    (getFile_stream dev getBytes filename server_ip false)

/-- After the last block has first been handled, the file is the server's if and
only if it could be created and no block arrived twice before the last. -/
theorem download_iff (created : Bool) (file : SplitFile) {run : List Delivery} {d : Delivery}
    (hrun : LockStep Delivery.block (file.n - 1) run) (hd : d.block = file.n) :
    written (download dev getBytes created filename server_ip file (run ++ [d])) =
        some file.content ↔
      created = true ∧ (run.map Delivery.block).Nodup := by
  cases created with
  | false =>
    rw [written, download_none]
    simp
  | true =>
    have hblocks : ∀ e ∈ run, 1 ≤ e.block ∧ e.block ≤ file.full.length := fun e he =>
      (hrun.mem_iff e.block).mp (List.mem_map_of_mem he)
    have hopen := download_full dev getBytes filename server_ip hblocks
    have hlast : written (download dev getBytes true filename server_ip file (run ++ [d])) =
        some (run.flatMap (fun e => file.payload e.block) ++ file.last) := by
      have hpayload : file.payload d.block = file.last := by rw [hd, file.payload_n]
      rw [written, download_append, deliver_written dev hopen, hpayload]
    rw [hlast, Option.some_inj, SplitFile.content, List.append_cancel_right_eq,
      ← file.flatMap_payload]
    have hmain := hrun.flatMap_eq_iff file.payload (by decide : 0 < 512)
      fun j hpos hle => file.payload_length hpos hle
    exact hmain.trans ⟨fun h => ⟨rfl, h⟩, fun h => h.2⟩

end

/-- Two blocks: 512 zeros and nothing. -/
def sampleFile : SplitFile := ⟨[List.replicate 512 0], fun b hb => by
  rw [List.mem_singleton.mp hb, List.length_replicate], [], by decide⟩

/-- A port and two lengths, as a UDP header starts. -/
def sampleDelivery (block : Nat) : Delivery := ⟨[0x9C, 0x40, 0xED, 0x22, 0x02, 0x0C, 0, 0], block⟩

theorem sampleRun_lockStep : LockStep Delivery.block 1 [sampleDelivery 1] :=
  .next .start rfl

theorem download_two_blocks : written (download sampleDevice (fun _ => [102]) true [102]
    (some [192, 168, 1, 1]) sampleFile ([sampleDelivery 1] ++ [sampleDelivery 2])) =
      some sampleFile.content :=
  (download_iff sampleDevice (fun _ => [102]) [102] (some [192, 168, 1, 1]) true sampleFile
    sampleRun_lockStep rfl).mpr ⟨rfl, List.nodup_singleton _⟩

/-- The first of two blocks, sent again after a lost answer, is in the file twice. -/
theorem duplicate_block_written :
    ¬ ∀ (file : SplitFile) (run : List Delivery) (d : Delivery),
      LockStep Delivery.block (file.n - 1) run → d.block = file.n →
      written (download sampleDevice (fun _ => [102]) true [102] (some [192, 168, 1, 1]) file
        (run ++ [d])) = some file.content := by
  intro h
  have hrun : LockStep Delivery.block 1 ([sampleDelivery 1] ++ [sampleDelivery 1]) :=
    .again sampleRun_lockStep (Nat.le_refl 1) (Nat.le_refl 1)
  have hwritten := h sampleFile _ (sampleDelivery 2) hrun rfl
  have hshort : ∀ d ∈ [sampleDelivery 1] ++ [sampleDelivery 1],
      1 ≤ d.block ∧ d.block ≤ sampleFile.full.length := by
    intro d hd
    rcases List.mem_append.mp hd with hd | hd <;> rw [List.mem_singleton.mp hd] <;>
      exact ⟨Nat.le_refl 1, Nat.le_refl 1⟩
  have hfull := download_full sampleDevice (fun _ => [102]) [102] (some [192, 168, 1, 1]) hshort
  rw [written, download_append, deliver_written _ hfull, Option.some_inj] at hwritten
  have hblock : (sampleFile.payload (sampleDelivery 1).block).length = 512 :=
    sampleFile.payload_length (Nat.le_refl 1) (Nat.le_refl 1)
  have hcontent : sampleFile.content.length = 512 := sampleFile.content_length
  have hlength := congrArg List.length hwritten
  rw [List.length_append, List.flatMap_append, List.length_append, List.flatMap_singleton, hblock,
    hcontent] at hlength
  omega

end TcpIpStack.TFTPClient
