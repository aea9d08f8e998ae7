import PanicMonitr.Foundation.Datetime

/-!
# Trusted peers

The record the trust store keeps for a peer, and its maintenance window.  A clock
reading is an instant; comparing it with a naive datetime is a `TypeError`.
-/

namespace PanicMonitr
namespace Trust

open Foundation

structure TrustedPeer where
  nodeId : String
  alias_ : Option String
  permissions : List String
  tags : List String
  maintenanceStart : Option Datetime
  maintenanceEnd : Option Datetime
  addedAt : Datetime
  revokedAt : Option Datetime
  deriving DecidableEq

namespace TrustedPeer

/--
`in_maintenance(now)` for an aware `now`.  The chained comparison stops at its
first false half, so a naive end is met only after the start has passed.
-/
def inMaintenance (peer : TrustedPeer) (now : Instant) : Option Bool :=
  match peer.maintenanceStart, peer.maintenanceEnd with
  | some s, some e =>
      match s.instant? with
      | none => none
      | some from_ =>
          if from_ <= now then e.instant?.map (fun until_ => decide (now <= until_))
          else some false
  | _, _ => some false

end TrustedPeer

/-- What `get_peer` answered lets probes through: no window is open, none is naive. -/
def OutsideMaintenance (trusted : Option TrustedPeer) (now : Instant) : Prop :=
  forall peer, peer ∈ trusted -> peer.inMaintenance now = some false

instance (trusted : Option TrustedPeer) (now : Instant) :
    Decidable (OutsideMaintenance trusted now) :=
  match trusted with
  | none => isTrue (fun _ h => by cases h)
  | some peer =>
      if h : peer.inMaintenance now = some false then
        isTrue (fun p hp => by cases hp; exact h)
      else
        isFalse (fun hall => h (hall peer rfl))

end Trust
end PanicMonitr
