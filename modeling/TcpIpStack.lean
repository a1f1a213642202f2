import TcpIpStack.Lib.Digits
import TcpIpStack.Lib.OnesComplement
import TcpIpStack.Lib.Prog
import TcpIpStack.Java.Basic
import TcpIpStack.Java.ByteBuffer
import TcpIpStack.Utils.Utility
import TcpIpStack.Protocol.IProtocol
import TcpIpStack.Protocol.UDP
import TcpIpStack.Protocol.IP
import TcpIpStack.Protocol.ICMP
import TcpIpStack.Protocol.Checksum
import TcpIpStack.Protocol.IPFrame
import TcpIpStack.Protocol.IPParser
import TcpIpStack.Protocol.IPLayout
import TcpIpStack.Protocol.RoundTrip
import TcpIpStack.Java.HashMap
import TcpIpStack.Java.Charset
import TcpIpStack.Protocol.ARP
import TcpIpStack.Application.IApplication
import TcpIpStack.Protocol.ProtocolManager
import TcpIpStack.Protocol.Traffic
import TcpIpStack.Protocol.ARPCache
import TcpIpStack.Protocol.ARPCodec
import TcpIpStack.Protocol.ARPTable
import TcpIpStack.Protocol.Waiting
import TcpIpStack.Application.Application
import TcpIpStack.Application.DHCPApplication
import TcpIpStack.Application.DHCPRuns
import TcpIpStack.Lib.StopAndWait
import TcpIpStack.Application.TFTPClient
import TcpIpStack.Application.TFTPDownload
import TcpIpStack.Lib.Chain
import TcpIpStack.Lib.Fuel
import TcpIpStack.Application.DNSApplication
import TcpIpStack.Application.DNSNames
import TcpIpStack.Application.DNSTermination
import TcpIpStack.Application.DNSText
import TcpIpStack.Application.DNSQuery
import TcpIpStack.Application.DNSRecords
import TcpIpStack.Application.PingApp
import TcpIpStack.Application.PingRuns
import TcpIpStack.Application.HPingDelays
import TcpIpStack.Application.TraceRoute
import TcpIpStack.Application.ApplicationManager
import TcpIpStack.Protocol.AppCalls
import TcpIpStack.Protocol.Card
import TcpIpStack.Protocol.UDPPayload
import TcpIpStack.Application.PortDispatch
import TcpIpStack.Protocol.Turns
import TcpIpStack.Application.TraceRouteRuns
import TcpIpStack.Application.ProbeNumbers
import TcpIpStack.Application.Requests
import TcpIpStack.Application.Exchange
import TcpIpStack.Protocol.ICMPChain
import TcpIpStack.Protocol.ICMPRoundTrip
import TcpIpStack.Application.DHCPOptions
import TcpIpStack.Application.DHCPMessages
import TcpIpStack.Application.DHCPMalformed
import TcpIpStack.Application.TFTPMessages
import TcpIpStack.Application.TFTPSession
import TcpIpStack.Application.TFTPRequest
import TcpIpStack.Application.TFTPPorts
import TcpIpStack.Protocol.Catchable
import TcpIpStack.Application.Conduct
import TcpIpStack.Application.Uses
import TcpIpStack.Application.Replies
import TcpIpStack.Application.ReceiveLoop
import TcpIpStack.Lib.Memory
import TcpIpStack.Lib.Outbox
import TcpIpStack.Lib.Keeps
import TcpIpStack.Jpcap.JpcapCaptor
import TcpIpStack.Jpcap.CapturedIP
import TcpIpStack.Jpcap.CapturedARP
import TcpIpStack.Jpcap.JpcapSender
import TcpIpStack.Jpcap.Wire
import TcpIpStack.Jpcap.EndToEnd
import TcpIpStack.Protocol.Transmitted
import TcpIpStack.Protocol.SendBox
import TcpIpStack.Jpcap.Resolution
import TcpIpStack.Application.Datagrams
import TcpIpStack.Application.Transmissions
import TcpIpStack.Jpcap.Arrivals
import TcpIpStack.Lib.Component
import TcpIpStack.Application.Actions
import TcpIpStack.Application.Alone
import TcpIpStack.Application.Sessions
import TcpIpStack.Application.DHCPSession
import TcpIpStack.Application.TFTPTransfers
