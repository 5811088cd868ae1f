/-!
# Inbound faults

When a command is lost before it is complete, the peer is owed an error
document. The fault is noted at once and reported later.
-/

namespace CommandLink

inductive Fault where
  | overflow
  | noMemory
  deriving DecidableEq, Repr

namespace Fault

def message : Fault → String
  | .overflow => "Command too large"
  | .noMemory => "Out of memory"

def peerKind : Fault → String
  | .overflow => "parse"
  | .noMemory => "memory"

end Fault

end CommandLink
