import TcpIpStack.Application.Application

/-!
# `Application.TFTPClient`

The port of the server is static. `data_block` takes the number of each block
as it arrives; what arrives is written to the file whatever its number. A short
block closes the file, which stays where it is, so that a later write fails and
is only reported.
-/

namespace TcpIpStack

open TcpIpStack.Java TcpIpStack.Lib

/-- An output stream: what was written to the file, and whether it may still be. -/
structure FileOutputStream where
  isOpen : Bool
  written : Bytes
  deriving DecidableEq, Repr

/-- `write(byte[])`: an `IOException` once the stream is closed. -/
def FileOutputStream.write (f : FileOutputStream) (b : Bytes) : Except Throwable FileOutputStream :=
  if f.isOpen then .ok { f with written := f.written ++ b } else .error .ioException

def FileOutputStream.close (f : FileOutputStream) : FileOutputStream := { f with isOpen := false }

structure TFTPClient where
  port : JInt
  server_ip : Option Bytes
  data_block : Short
  filename : JString
  download_file_stream : Option FileOutputStream
  deriving DecidableEq, Repr

/-- The static field. -/
structure TFTPStatics where
  server_port : JChar
  deriving DecidableEq, Repr

namespace TFTPClient

/-- The class's static field and one object's own. -/
structure Scope where
  statics : TFTPStatics
  this : TFTPClient
  deriving DecidableEq, Repr

def initialStatics : TFTPStatics := ⟨0⟩

def OPTION_CODE_READ : Short := 1
def OPTION_CODE_ACK : Short := 4
def OPTION_CODE_DATA : Short := 3
def OPTION_CODE_ERROR : Short := 5
def OPTION_CODE_LENGTH : Nat := 2
def TFTP_SERVER_PORT : JChar := 69
/-- `"netascii"`. -/
def mode : JString := [110, 101, 116, 97, 115, 99, 105, 105]
/-- `InetAddress.getByName("192.168.1.102")`. -/
def fake_ip : Bytes := [192, 168, 1, 102]

/-- The constructor: `this.port = (short) 60706` widens with its sign. -/
def construct (server_ip : Option Bytes) : Scope :=
  ⟨⟨TFTP_SERVER_PORT⟩, ⟨(60706 : Short).signExtend 32, server_ip, 1, [], none⟩⟩

/-! ## Packets -/

/-- `createUDPHeader`. -/
def createUDPHeader (s : Scope) (data : Bytes) : Except Throwable (Option Bytes) :=
  UDPProtocolLayer.createHeader <| Info.empty
    |>.put .source_port (.char (s.this.port.setWidth 16))
    |>.put .dest_port (.char s.statics.server_port)
    |>.put .data (.bytes data)

/-- `createIPHeader`: from the fake address. -/
def createIPHeader (dev : DataLinkLayer) (s : Scope) (length : JInt) :
    Except Throwable (Option Bytes) := do
  let server_ip ← Application.notNull s.this.server_ip
  let (dest_ip, _) ← (ByteBuffer.wrap server_ip).getInt
  let (source_ip, _) ← (ByteBuffer.wrap fake_ip).getInt
  IPProtocolLayer.createHeader dev <| Info.empty
    |>.put .data_length (.int length)
    |>.put .destination_ip (.int dest_ip)
    |>.put .source_ip (.int source_ip)
    |>.put .protocol (.byte UDPProtocolLayer.PROTOCOL_UDP)

/-- Send a message to the server, as both `sendReadPacket` and `sendACKPacket`
end. -/
def sendMessage (dev : DataLinkLayer) (message : Bytes) : AppM Scope Unit := do
  let s ← Prog.read
  let udp_header ← Prog.lift (createUDPHeader s message)
  let packet ← Prog.lift (Application.packet udp_header (createIPHeader dev s))
  Prog.emit (.sendData (some packet) s.this.server_ip)

/-- `sendReadPacket`. The array is as long as the name and the mode have characters;
`getBytes` is the platform's charset. -/
def sendReadPacket (dev : DataLinkLayer) (getBytes : JString → Bytes) : AppM Scope Unit := do
  let filename := (← Prog.read).this.filename
  let read_request ← Prog.lift <| ByteBuffer.fill
    (OPTION_CODE_LENGTH + filename.length + 1 + mode.length + 1)
    [shortBytes OPTION_CODE_READ, getBytes filename, [0], getBytes mode, [0]]
  sendMessage dev read_request

/-- `getFile`; `created` says whether the file can be created. Whether or not,
the request goes out. -/
def getFile (dev : DataLinkLayer) (getBytes : JString → Bytes) (created : Bool)
    (filename : JString) : AppM Scope Unit := do
  Prog.modify fun s => { s with this := { s.this with filename } }
  if created then
    Prog.modify fun s => { s with this := { s.this with download_file_stream := some ⟨true, []⟩ } }
  sendReadPacket dev getBytes

/-- `sendACKPacket`. -/
def sendACKPacket (dev : DataLinkLayer) : AppM Scope Unit := do
  let ack_msg ← Prog.lift <| ByteBuffer.fill 4
    [shortBytes OPTION_CODE_ACK, shortBytes (← Prog.read).this.data_block]
  sendMessage dev ack_msg

/-! ## Replies -/

/-- `download_file_stream.write`; only an `IOException` is caught. -/
def write (file_content : Bytes) : AppM Scope Unit := do
  let stream ← Prog.lift (Application.notNull (← Prog.read).this.download_file_stream)
  match stream.write file_content with
  | .ok stream => Prog.modify fun s => { s with this := { s.this with download_file_stream := some stream } }
  | .error _ => return ()

/-- `download_file_stream.close()`. -/
def close : AppM Scope Unit := do
  let stream ← Prog.lift (Application.notNull (← Prog.read).this.download_file_stream)
  Prog.modify fun s =>
    { s with this := { s.this with download_file_stream := some stream.close } }

def setBlock (data_block : Short) : AppM Scope Unit :=
  Prog.modify fun s => { s with this := { s.this with data_block } }

/-- The end of `handleDataPacket`: a block is answered unless it is too long, and
a short one is the last. -/
def acknowledge (dev : DataLinkLayer) (left_len : Nat) : AppM Scope Unit := do
  if left_len = 512 then
    sendACKPacket dev
    setBlock ((← Prog.read).this.data_block + 1)
  else if left_len < 512 then
    sendACKPacket dev
    close
    setBlock 1

/-- `handleDataPacket`. -/
def handleDataPacket (dev : DataLinkLayer) (buffer : ByteBuffer) : AppM Scope Unit := do
  let (data_block, buffer) ← Prog.lift buffer.getShort
  setBlock data_block
  let left_len := buffer.remaining
  let (file_content, _) ← Prog.lift (buffer.take left_len)
  write file_content
  acknowledge dev left_len

/-- `handleErrorPacket`: the code, then the message, which is printed. -/
def handleErrorPacket (buffer : ByteBuffer) : AppM Scope Unit := do
  let (_, buffer) ← Prog.lift buffer.getShort
  let _ ← Prog.lift (buffer.take buffer.remaining)
  return ()

/-- `handleData`. -/
def handleData (dev : DataLinkLayer) (headerInfo : Info) : AppM Scope Unit := do
  match ← Prog.lift (headerInfo.getBytes .data) with
  | none => return ()
  | some data => do
    let port ← Prog.lift (headerInfo.unbox .src_port Obj.asShort)
    Prog.modify fun s => { s with statics := ⟨port⟩ }
    let (opCode, buffer) ← Prog.lift (ByteBuffer.wrap data).getShort
    if opCode = OPTION_CODE_DATA then handleDataPacket dev buffer
    else if opCode = OPTION_CODE_ERROR then handleErrorPacket buffer
    else return ()

end TFTPClient

end TcpIpStack
