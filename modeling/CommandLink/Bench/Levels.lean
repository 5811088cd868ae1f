import CommandLink.Endpoint.Station

/-!
# Levels of ports

In a bench, things happen in the middle of calls: a pause lets a fragment in,
a notification lets a handler send. What happens inside a call of one level is
carried out with the ports of the level below, and at the lowest level nothing
happens inside calls any more. So ports are built from below, level by level,
and what holds at each level follows by induction.
-/

namespace CommandLink.Bench

variable {W H : Type}

/-- The ports with so many levels below them. -/
def nested (above : Ports W H → Ports W H) (lowest : Ports W H) : Nat → Ports W H
  | 0 => lowest
  | level + 1 => above (nested above lowest level)

/-- More levels than any script makes use of. -/
def maxLevels : Nat := 1000

end CommandLink.Bench
