import TcpIpStack.Application.DNSTermination
import TcpIpStack.Application.TraceRouteRuns
import TcpIpStack.Application.Uses
import TcpIpStack.Protocol.ARPTable
import TcpIpStack.Protocol.Card

/-!
# What gets out of the receive loop

Everything an IP frame makes the stack or an application throw is caught, except
the stack overflow of a reader of DNS names. The branch of ARP frames catches
nothing: there the decoder throws, and the card where it refuses a packet that waits.
-/

namespace TcpIpStack

open TcpIpStack.Java TcpIpStack.Lib

namespace ApplicationManager

section

variable (dev : DataLinkLayer) (depth : Nat)

end

/-- A datagram whose destination port finds a DNS client, with a reply to its
transaction and a name of too many pointers for the stack. -/
def Overflows (depth : Nat) (m : ApplicationManager) (header data : Bytes) : Prop :=
  6 ≤ header.length ∧ ∃ i this,
    m.getApplicationByPort ((shortOf (slice header 2 2)).signExtend 32) = some i ∧
    object i m = some (.dns this) ∧ slice data 0 2 = shortBytes this.transition_id ∧
    ∃ x, DNSApplication.Reached data x ∧ DNSApplication.Deep data depth x

/-- Where the stack has room for 129 calls, too many means endlessly many. -/
theorem overflows_iff_loops {depth : Nat} (h : 128 < depth) (m : ApplicationManager)
    (header data : Bytes) :
    Overflows depth m header data ↔ 6 ≤ header.length ∧ ∃ i this,
      m.getApplicationByPort ((shortOf (slice header 2 2)).signExtend 32) = some i ∧
      object i m = some (.dns this) ∧ slice data 0 2 = shortBytes this.transition_id ∧
      ∃ x, DNSApplication.Reached data x ∧ Chain.Loops (DNSApplication.target data) x := by
  simp only [Overflows, DNSApplication.deep_iff_loops h]

end ApplicationManager

namespace ProtocolManager

open ApplicationManager

section

variable (net : Network) (depth : Nat) (card : Card) {s : ProtocolManager ApplicationManager}

/-! ## Runs on a card that may refuse -/

/-- The stack after some uses, from the first `getInstance` on: each with what the card
takes then. -/
def usedOn (start : Card) (clock : Clock) (uses : List (Card × Use)) :
    ProtocolManager ApplicationManager :=
  (Prog.runs (fun use : Card × Use => stepOn net (appLayer net.dataLinkLayer depth) use.1
    (use.2.input net.dataLinkLayer)) uses (getInstanceOn net start (initial clock)).state).1

/-- On a card that takes every frame these are the uses of before. -/
theorem usedOn_takesAll (clock : Clock) (uses : List Use) :
    usedOn net depth takesAll clock (uses.map fun use => (takesAll, use)) =
      used net depth clock uses := by
  unfold usedOn used after
  rw [Prog.runs_map, Prog.runs_map, getInstanceOn_takesAll]
  simp only [stepOn_takesAll]

end

end ProtocolManager

end TcpIpStack
