import TcpIpStack.Jpcap.Wire
import TcpIpStack.Protocol.SendBox
import TcpIpStack.Protocol.Transmitted

/-!
# Asking for the router over the wire

The question leaves the stack, crosses the wire and arrives as the message it is;
the router's answer comes back the same way, and with it everything that waits
goes out.
-/

namespace TcpIpStack.Jpcap

open TcpIpStack.Java TcpIpStack.Lib
open ProtocolManager

/-- The card everyone listens to. -/
def everyone : MacAddress := ⟨broadcast, List.length_replicate ..⟩

theorem questionFrame_eq (net : Network) :
    questionFrame net = messageFrame everyone net.dataLinkLayer.mac (question net) := rfl

section

variable {σ : Type} (net : Network) (mac : MacAddress)

variable (apps : AppLayer σ) (objects : σ)

end

end TcpIpStack.Jpcap
