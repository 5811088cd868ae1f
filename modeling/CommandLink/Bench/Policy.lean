/-!
# When a bench refuses a copy

The bench can make the copy of a complete command fail. It names the size of
the copy that is to fail, so that only a command of that length is hit.
-/

namespace CommandLink.Bench

/-- The policy that refuses a copy of exactly this many bytes, if it is not
zero. -/
def refusing (refused size : Nat) : Bool := refused ≠ 0 && size = refused

end CommandLink.Bench
