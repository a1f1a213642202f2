import TcpIpStack.Application.Application

/-!
# `Application.DHCPApplication`

The message is built in two parts; the options part and the state of the
protocol are static, shared by every object. `readOptions` assigns the state
while it walks the options and afterwards acts on the state alone.
-/

namespace TcpIpStack

open TcpIpStack.Java TcpIpStack.Lib

/-- `dhcp_current_state`. -/
inductive DHCPState where
  | DISCOVER | REQUESTING | ACK
  deriving DecidableEq, Repr

/-- The static fields. -/
structure DHCPStatics where
  dhcp_first_part : Option Bytes
  dhcp_options_part : Option Bytes
  dhcp_current_state : DHCPState
  deriving DecidableEq, Repr

structure DHCPApplication where
  port : JInt
  transaction_id : JInt
  server_supply_ip : Option Bytes
  deriving DecidableEq, Repr

namespace DHCPApplication

/-- The class's static fields and one object's own. -/
structure Scope where
  statics : DHCPStatics
  this : DHCPApplication
  deriving DecidableEq, Repr

def initialStatics : DHCPStatics := ⟨none, none, .DISCOVER⟩

def HARDWARE_TYPE : Byte := 1
def HARDWARE_ADDR_LENGTH : Byte := 6
def DHCP_HOPS : Byte := 0
def MESSAGE_TYPE_REQUEST : Byte := 1
def secs_elapsed : Short := 0
def bootp_flags : Short := 0
def client_ip_address : Bytes := List.replicate 4 0
def your_ip_address : Bytes := List.replicate 4 0
def next_server_ip_address : Bytes := List.replicate 4 0
def relay_agent_ip_address : Bytes := List.replicate 4 0
def MAGIC_COOKIE : Bytes := [0x63, 0x82, 0x53, 0x63]
def DHCP_FIRST_PART_LENGTH : Nat := 236
def OPTION_MSG_TYPE_LENGTH : Nat := 3
def OPTION_MSG_TYPE : Byte := 53
def OPTION_MSG_DATA_LENGTH : Byte := 1
def OPTION_MSG_TYPE_DISCOVERY : Byte := 1
def OPTION_PARAMETER_REQUEST_LIST : Byte := 55
def OPTION_PARAMETER_REQUEST_LENGTH : Nat := 16
def OPTION_PARAMETER_REQUEST_DATA_LENGTH : Byte := 14
def OPTION_REQUESTED_IP_TYPE : Byte := 50
def OPTION_REQUESTED_IP_LENGTH : Byte := 4
def OPTION_MAXIMUM_DHCP_MESSAGE_SIZE_TYPE : Byte := 57
def OPTION_MAXIMUN_DHCP_MESSAGE_SIZE_DATA_LENGTH : Byte := 2
def OPTION_MAXIMUN_DHCP_MESSAGE_SIZE_CONTENT : Short := 1500
def OPTION_MAXIMUN_DHCP_MESSAGE_SIZE_LENGTH : Nat := 4
def OPTION_CLIENT_IDENTIFIER : Byte := 61
def OPTION_CLIENT_IDENTIFIER_DATA_LENGTH : Byte := 7
def OPTION_CLIENT_IDENTIFIER_HARDWARE_TYPE : Byte := 0x01
def OPTION_CLIENT_IDENTIFIER_LENGTH : Nat := 9
def OPTION_IP_LEASE_TIME : Byte := 51
def OPTION_IP_LEASE_TIME_DATA_LENGTH : Byte := 4
def OPTION_IP_LEASE_TIME_CONTENT : JInt := 7776000
def OPTION_IP_LEASE_TIME_LENGTH : Nat := 6
def OPTION_HOST_NAME : Byte := 12
/-- `"cherryYang".getBytes()`. -/
def OPTION_HOST_NAME_CONTENT : Bytes := [99, 104, 101, 114, 114, 121, 89, 97, 110, 103]
def OPTION_HOST_NAME_DATA_LENGTH : Byte := BitVec.ofNat 8 OPTION_HOST_NAME_CONTENT.length
def OPTION_HOST_NAME_LENGTH : Nat := 2 + OPTION_HOST_NAME_CONTENT.length
def OPTION_VENDOR_TYPE : Byte := 60
def OPTION_VENDOR_LENGTH : Byte := 8
def OPTION_VENDOR_IDENTIFIER : Bytes := [0x4d, 0x53, 0x46, 0x54, 0x20, 0x35, 0x2e, 0x30]
def OPTION_END : Byte := 0xff
def srcPort : JChar := 68
def dstPort : JChar := 67
def DHCP_MSG_TYPE_OFFSET : Nat := 0
def DHCP_YOUR_IP_ADDRESS_OFFSET : Int := 16
def DHCP_NEXT_IP_ADDRESS_OFFSET : Int := 20
def DHCP_OPTIONS_OFFSET : Int := 240
def DHCP_MSG_TYPE : Byte := 53
def DHCP_SERVER_IDENTIFER : Byte := 54
def DHCP_IP_ADDRESS_LEASE_TIME : Byte := 51
def DHCP_RENEWAL_TIME : Byte := 58
def DHCP_REBINDING_TIME : Byte := 59
def DHCP_SUBNET_MASK : Byte := 1
def DHCP_BROADCAST_ADDRESS : Byte := 28
def DHCP_ROUTER : Byte := 3
def DHCP_DOMAIN_NAME_SERVER : Byte := 6
def DHCP_DOMAIN_NAME : Byte := 15
def DHCP_MSG_OFFER : Byte := 2
def OPTION_MSG_REQUEST_TYPE : Byte := 3
def OPTION_MSG_REQUEST_LENGTH : Byte := 1
def OPTION_REQUESTED_IP_TYPE_LENGTH : Nat := 6
def DHCP_MSG_ACK : Byte := 5

/-- The parameters asked for, in the order of the list. -/
def option_buffer : Bytes := [1, 3, 6, 15, 31, 33, 43, 44, 46, 47, 119, 121, 249, 252]

/-! ## Building messages -/

/-- `constructDHCPFirstPart`. -/
def constructDHCPFirstPart (dev : DataLinkLayer) (transaction_id : JInt) : Except Throwable Bytes :=
  ByteBuffer.fill DHCP_FIRST_PART_LENGTH
    [[MESSAGE_TYPE_REQUEST], [HARDWARE_TYPE], [HARDWARE_ADDR_LENGTH], [DHCP_HOPS],
      intBytes transaction_id, shortBytes secs_elapsed, shortBytes bootp_flags, client_ip_address,
      your_ip_address, next_server_ip_address, relay_agent_ip_address, dev.deviceMacAddress,
      List.replicate 10 0, List.replicate 64 0, List.replicate 128 0]

/-- Option 61, as both messages carry it. -/
def clientIdentifier (dev : DataLinkLayer) : Except Throwable Bytes :=
  ByteBuffer.fill OPTION_CLIENT_IDENTIFIER_LENGTH [[OPTION_CLIENT_IDENTIFIER],
    [OPTION_CLIENT_IDENTIFIER_DATA_LENGTH], [OPTION_CLIENT_IDENTIFIER_HARDWARE_TYPE],
    dev.deviceMacAddress]

/-- Option 12. -/
def hostName : Except Throwable Bytes :=
  ByteBuffer.fill OPTION_HOST_NAME_LENGTH [[OPTION_HOST_NAME], [OPTION_HOST_NAME_DATA_LENGTH],
    OPTION_HOST_NAME_CONTENT]

/-- Option 60. -/
def vendor : Except Throwable Bytes :=
  ByteBuffer.fill (OPTION_VENDOR_LENGTH.toNat + 2) [[OPTION_VENDOR_TYPE], [OPTION_VENDOR_LENGTH],
    OPTION_VENDOR_IDENTIFIER]

/-- Option 55. -/
def parameterRequestList : Except Throwable Bytes :=
  ByteBuffer.fill OPTION_PARAMETER_REQUEST_LENGTH [[OPTION_PARAMETER_REQUEST_LIST],
    [OPTION_PARAMETER_REQUEST_DATA_LENGTH], option_buffer]

/-- `constructDHCPOptionsPart`. Two more options are built and left out. -/
def constructDHCPOptionsPart (dev : DataLinkLayer) : Except Throwable Bytes := do
  let option_msg_type ← ByteBuffer.fill OPTION_MSG_TYPE_LENGTH
    [[OPTION_MSG_TYPE], [OPTION_MSG_DATA_LENGTH], [OPTION_MSG_TYPE_DISCOVERY]]
  let client_identifier ← clientIdentifier dev
  let requestedIP ← ByteBuffer.fill (OPTION_REQUESTED_IP_LENGTH.toNat + 2)
    [[OPTION_REQUESTED_IP_TYPE], [OPTION_REQUESTED_IP_LENGTH], dev.deviceIPAddress]
  let host_name ← hostName
  let vendor ← vendor
  let parameter_request_list ← parameterRequestList
  let padding : Bytes := List.replicate 3 0
  return option_msg_type ++ client_identifier ++ requestedIP ++ host_name ++ vendor ++
    parameter_request_list ++ [OPTION_END] ++ padding

/-- `constructDHCPRequestOptions`. The array of option 50 is four bytes longer
than the option. -/
def constructDHCPRequestOptions (dev : DataLinkLayer) (server_supply_ip : Bytes) :
    Except Throwable Bytes := do
  let option_msg_type ← ByteBuffer.fill OPTION_MSG_TYPE_LENGTH
    [[DHCP_MSG_TYPE], [OPTION_MSG_REQUEST_LENGTH], [OPTION_MSG_REQUEST_TYPE]]
  let client_identifier ← clientIdentifier dev
  let maximun_dhcp_msg_size ← ByteBuffer.fill OPTION_MAXIMUN_DHCP_MESSAGE_SIZE_LENGTH
    [[OPTION_MAXIMUM_DHCP_MESSAGE_SIZE_TYPE], [OPTION_MAXIMUN_DHCP_MESSAGE_SIZE_DATA_LENGTH],
      shortBytes OPTION_MAXIMUN_DHCP_MESSAGE_SIZE_CONTENT]
  let requested_ip_addr ← ByteBuffer.fill (OPTION_REQUESTED_IP_TYPE_LENGTH + server_supply_ip.length)
    [[OPTION_REQUESTED_IP_TYPE], [OPTION_REQUESTED_IP_LENGTH], server_supply_ip]
  let ip_lease_time ← ByteBuffer.fill OPTION_IP_LEASE_TIME_LENGTH [[OPTION_IP_LEASE_TIME],
    [OPTION_IP_LEASE_TIME_DATA_LENGTH], intBytes OPTION_IP_LEASE_TIME_CONTENT]
  let host_name ← hostName
  let vendor ← vendor
  let parameter_request_list ← parameterRequestList
  let padding : Bytes := List.replicate 3 0
  return option_msg_type ++ client_identifier ++ requested_ip_addr ++ host_name ++ vendor ++
    parameter_request_list ++ maximun_dhcp_msg_size ++ ip_lease_time ++ [OPTION_END] ++ padding

/-- `createUDPHeader`. -/
def createUDPHeader (data : Bytes) : Except Throwable (Option Bytes) :=
  UDPProtocolLayer.createHeader <| Info.empty
    |>.put .source_port (.char srcPort)
    |>.put .dest_port (.char dstPort)
    |>.put .data (.bytes data)

/-- `createIP4Header`: from `0.0.0.0` to everyone. -/
def createIP4Header (dev : DataLinkLayer) (dataLength : JInt) : Except Throwable (Option Bytes) := do
  let (srcIP, _) ← (ByteBuffer.wrap [0, 0, 0, 0]).getInt
  let (dstIP, _) ← (ByteBuffer.wrap [255, 255, 255, 255]).getInt
  IPProtocolLayer.createHeader dev <| Info.empty
    |>.put .data_length (.int dataLength)
    |>.put .source_ip (.int srcIP)
    |>.put .destination_ip (.int dstIP)
    |>.put .protocol (.byte UDPProtocolLayer.PROTOCOL_UDP)
    |>.put .identification (.short srcPort)

/-! ## The object -/

/-- The constructor, with the number `random.nextInt()` returns. -/
def construct (dev : DataLinkLayer) (nextInt : JInt) (statics : DHCPStatics) :
    Except Throwable Scope := do
  let dhcp_first_part ← constructDHCPFirstPart dev nextInt
  let dhcp_options_part ← constructDHCPOptionsPart dev
  return ⟨{ statics with
      dhcp_first_part := some dhcp_first_part
      dhcp_options_part := some dhcp_options_part },
    ⟨srcPort.setWidth 32, nextInt, none⟩⟩

/-- `dhcpDiscovery`. -/
def dhcpDiscovery (dev : DataLinkLayer) : AppM Scope Unit := do
  let statics := (← Prog.read).statics
  let first_part ← Prog.lift (Application.notNull statics.dhcp_first_part)
  let options_part ← Prog.lift (Application.notNull statics.dhcp_options_part)
  match ← Prog.lift (createUDPHeader (first_part ++ MAGIC_COOKIE ++ options_part)) with
  | none => return ()
  | some udpHeader => do
    let dhcpPacket ← Prog.lift (Application.packet (some udpHeader) (createIP4Header dev))
    Prog.emit (.broadCast (some dhcpPacket))

/-- `dhcpRequest`. The new options part is stored in the static field. -/
def dhcpRequest (dev : DataLinkLayer) : AppM Scope Unit := do
  match (← Prog.read).this.server_supply_ip with
  | none => return ()
  | some server_supply_ip => do
    let options ← Prog.lift (constructDHCPRequestOptions dev server_supply_ip)
    Prog.modify fun s => { s with statics := { s.statics with dhcp_options_part := some options } }
    let first_part ← Prog.lift (Application.notNull (← Prog.read).statics.dhcp_first_part)
    let udpHeader ← Prog.lift (createUDPHeader (first_part ++ MAGIC_COOKIE ++ options))
    let dhcpPacket ← Prog.lift (Application.packet udpHeader (createIP4Header dev))
    Prog.emit (.broadCast (some dhcpPacket))

/-- `trigger_action_by_state`. -/
def trigger_action_by_state (dev : DataLinkLayer) : AppM Scope Unit := do
  match (← Prog.read).statics.dhcp_current_state with
  | .REQUESTING => dhcpRequest dev
  | _ => return ()

/-- `readFirstPart`: whether the message is a reply; the offered address is
remembered. -/
def readFirstPart (data : Bytes) : AppM Scope Bool := do
  let buffer := ByteBuffer.wrap data
  let reply ← Prog.lift (buffer.getAt DHCP_MSG_TYPE_OFFSET)
  if reply ≠ DHCP_MSG_OFFER then return false
  let buffer ← Prog.lift (buffer.setPosition DHCP_YOUR_IP_ADDRESS_OFFSET)
  let (your_addr, buffer) ← Prog.lift (buffer.take 4)
  Prog.modify fun s => { s with this := { s.this with server_supply_ip := some your_addr } }
  let buffer ← Prog.lift (buffer.setPosition DHCP_NEXT_IP_ADDRESS_OFFSET)
  let _ ← Prog.lift (buffer.take 4)
  return true

/-- The next `n` bytes, one `get` each. -/
def getEach : Nat → ByteBuffer → Except Throwable ByteBuffer
  | 0, buffer => .ok buffer
  | n + 1, buffer => do
    let (_, buffer) ← buffer.get
    getEach n buffer

/-- `printOptionArray`: its three branches read `len` bytes and differ in how
they print them. -/
def printOptionArray (buffer : ByteBuffer) : Except Throwable ByteBuffer := do
  let (len, buffer) ← buffer.get
  getEach len.toInt.toNat buffer

/-- Skip a length field and read an `int`. -/
def readTime (buffer : ByteBuffer) : Except Throwable ByteBuffer := do
  let (_, buffer) ← buffer.get
  let (_, buffer) ← buffer.getInt
  return buffer

/-- One option of the type just read: the cases of the `switch`. -/
def readOption (type : Byte) (buffer : ByteBuffer) : AppM Scope ByteBuffer :=
  if type = DHCP_MSG_TYPE then do
    let (_, buffer) ← Prog.lift buffer.get
    let (msg_type, buffer) ← Prog.lift buffer.get
    if msg_type = DHCP_MSG_OFFER then
      Prog.modify fun s => { s with statics := { s.statics with dhcp_current_state := .REQUESTING } }
    else if msg_type = DHCP_MSG_ACK then
      Prog.modify fun s => { s with statics := { s.statics with dhcp_current_state := .ACK } }
    return buffer
  else if type ∈ [DHCP_SERVER_IDENTIFER, DHCP_SUBNET_MASK, DHCP_BROADCAST_ADDRESS, DHCP_ROUTER,
      DHCP_DOMAIN_NAME_SERVER] then
    Prog.lift (printOptionArray buffer)
  else if type ∈ [DHCP_IP_ADDRESS_LEASE_TIME, DHCP_RENEWAL_TIME, DHCP_REBINDING_TIME] then
    Prog.lift (readTime buffer)
  else if type = DHCP_DOMAIN_NAME then Prog.lift (printOptionArray buffer)
  else return buffer

/-- The `while (true)` loop. Every round reads a byte, so a bound of one more
than the bytes left is never used up. -/
def optionLoop : Nat → ByteBuffer → AppM Scope Unit
  | 0, _ => Prog.throw .bufferUnderflow
  | n + 1, buffer => do
    let (type, buffer) ← Prog.lift buffer.get
    if type = OPTION_END then return ()
    let buffer ← readOption type buffer
    optionLoop n buffer

/-- `readOptions`. -/
def readOptions (dev : DataLinkLayer) (data : Bytes) : AppM Scope Unit := do
  let buffer := ByteBuffer.wrap data
  let buffer ← Prog.lift (buffer.setPosition DHCP_OPTIONS_OFFSET)
  optionLoop (buffer.remaining + 1) buffer
  if (← Prog.read).statics.dhcp_current_state = .REQUESTING then trigger_action_by_state dev

/-- `handleData`. -/
def handleData (dev : DataLinkLayer) (headerInfo : Info) : AppM Scope Unit := do
  let data ← Prog.lift (headerInfo.getBytes .data)
  let data ← Prog.lift (Application.notNull data)
  let readSuccess ← readFirstPart data
  if readSuccess then readOptions dev data

end DHCPApplication

end TcpIpStack
