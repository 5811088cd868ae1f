import CommandLink.Bytes
import CommandLink.Failure
import CommandLink.Settings.Basic

/-!
# A simulated radio

A radio that keeps what it is given. It refuses notifications while no peer is
connected and those that the unit cannot carry. It notes the unit that was
asked for, but grants nothing by itself.
-/

namespace CommandLink

/-- The identifiers of the service and its two characteristics. -/
def serviceId : String := "6e400001b5a3f393e0a9e50e24dcca9e"

def commandId : String := "6e400002b5a3f393e0a9e50e24dcca9e"

def responseId : String := "6e400003b5a3f393e0a9e50e24dcca9e"

structure Radio where
  connected : Bool := false
  mtu : UInt16 := 23
  requested : UInt16 := 0
  /-- How often advertising was started. -/
  adverts : Nat := 0
  /-- Notifications that nobody has fetched, oldest first. -/
  sent : List Bytes := []
  deriving DecidableEq, Repr

namespace Radio

/-- The longest name of a device, in bytes. -/
def nameCapacity : Nat := 24

/-- The name a device gets: one that is too long is left out. -/
def deviceName (name : String) : String := if name.utf8ByteSize ≤ nameCapacity then name else ""

def advertise (radio : Radio) : Radio := { radio with adverts := radio.adverts + 1 }

def connect (mtu : UInt16) (radio : Radio) : Radio := { radio with connected := true, mtu }

def disconnect (radio : Radio) : Radio :=
  { radio with connected := false, mtu := UInt16.ofNat defaultMtu }

def setMtu (mtu : UInt16) (radio : Radio) : Radio := { radio with mtu }

def requestMtu (mtu : UInt16) (radio : Radio) : Radio := { radio with requested := mtu }

def notify (data : Bytes) (radio : Radio) : Except LinkError Radio :=
  if !radio.connected then
    .error .notConnected
  else if notifyLength radio.mtu < data.length then
    .error .payloadTooLarge
  else
    .ok { radio with sent := radio.sent ++ [data] }

def fetch (radio : Radio) : List Bytes × Radio := (radio.sent, { radio with sent := [] })

end Radio

end CommandLink
