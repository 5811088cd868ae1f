import CommandLink.Bytes

/-!
# Commands

A command is what the peer wrote between two markers: its bytes without the
terminator. It is kept with a terminating zero byte, whose place counts against
the limits.
-/

namespace CommandLink

structure Command where
  payload : Bytes
  deriving DecidableEq, Repr

namespace Command

/-- The bytes of a command with their terminator. -/
def terminated (command : Command) : Bytes := command.payload ++ [0]

def length (command : Command) : Nat := command.payload.length

def debugText (command : Command) : String :=
  "QueuedCommand \x7b len: " ++ toString command.length ++ " \x7d"

theorem length_terminated (command : Command) :
    command.terminated.length = command.length + 1 := by
  simp [terminated, length]

end Command

end CommandLink
