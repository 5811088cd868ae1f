import CommandLink.Quoted

/-!
# What can go wrong

One type of cause for each part of the link, and `Failure` for all of them.
Every failure has a message for the log. A failure that reaches the peer
carries a kind, by which the peer's user interface sorts it. `debugText` writes
the structure of a failure, constructors and fields, for a developer.
-/

namespace CommandLink

/-- The link layer refused. -/
inductive LinkError where
  | notConnected
  | payloadTooLarge
  | stack (code : Int)
  deriving DecidableEq, Repr

/-- A document was not sent, or not to its end. -/
inductive SendError where
  | tooLarge (length cap : Nat)
  | outOfMemory (requested : Nat)
  | lowMemory (free : Nat)
  | lockTimeout
  | cancelled
  | serialize
  | link (error : LinkError)
  deriving DecidableEq, Repr

/-- An inbound command outgrew its buffer. -/
inductive FrameError where
  | overflow (attempted capacity : Nat)
  deriving DecidableEq, Repr

inductive QueueError where
  | full
  deriving DecidableEq, Repr

inductive SettingsError where
  | invalid (reason : String)
  | encode
  | decode
  deriving DecidableEq, Repr

inductive Failure where
  | frame (error : FrameError)
  | queue (error : QueueError)
  | send (error : SendError)
  | link (error : LinkError)
  | settings (error : SettingsError)
  deriving DecidableEq, Repr

namespace LinkError

def message : LinkError → String
  | .notConnected => "no peer connected"
  | .payloadTooLarge => "notification exceeds MTU"
  | .stack code => "BLE stack error " ++ toString code

def debugText : LinkError → String
  | .notConnected => "NotConnected"
  | .payloadTooLarge => "PayloadTooLarge"
  | .stack code => "Stack(" ++ toString code ++ ")"

end LinkError

namespace SendError

def peerKind : SendError → String
  | .tooLarge _ _ => "capacity"
  | .outOfMemory _ => "memory"
  | .lowMemory _ => "memory"
  | .lockTimeout => "busy"
  | .cancelled => "cancelled"
  | .serialize => "parse"
  | .link _ => "link"

def message : SendError → String
  | .tooLarge length cap =>
    "response " ++ toString length ++ " bytes exceeds cap " ++ toString cap
  | .outOfMemory requested => "no pool can allocate " ++ toString requested ++ " bytes"
  | .lowMemory free => "free heap " ++ toString free ++ " below emergency threshold"
  | .lockTimeout => "transmission lock timeout"
  | .cancelled => "cancelled by peer"
  | .serialize => "document serialization failed"
  | .link error => "link: " ++ error.message

def debugText : SendError → String
  | .tooLarge length cap =>
    "TooLarge \x7b len: " ++ toString length ++ ", cap: " ++ toString cap ++ " \x7d"
  | .outOfMemory requested => "OutOfMemory \x7b requested: " ++ toString requested ++ " \x7d"
  | .lowMemory free => "LowMemory \x7b free: " ++ toString free ++ " \x7d"
  | .lockTimeout => "LockTimeout"
  | .cancelled => "Cancelled"
  | .serialize => "Serialize"
  | .link error => "Link(" ++ error.debugText ++ ")"

end SendError

namespace FrameError

def message : FrameError → String
  | .overflow attempted capacity =>
    "command of " ++ toString attempted ++ "+ bytes exceeds " ++ toString capacity ++
      " byte buffer"

def debugText : FrameError → String
  | .overflow attempted capacity =>
    "Overflow \x7b attempted: " ++ toString attempted ++ ", capacity: " ++ toString capacity ++
      " \x7d"

end FrameError

namespace QueueError

def message : QueueError → String
  | .full => "command queue full"

def debugText : QueueError → String
  | .full => "Full"

end QueueError

namespace SettingsError

def message : SettingsError → String
  | .invalid reason => "invalid: " ++ reason
  | .encode => "encode failed"
  | .decode => "decode failed"

def debugText : SettingsError → String
  | .invalid reason => "Invalid(" ++ quotedText reason ++ ")"
  | .encode => "Encode"
  | .decode => "Decode"

end SettingsError

namespace Failure

def peerKind : Failure → String
  | .frame _ => "parse"
  | .queue _ => "capacity"
  | .send error => error.peerKind
  | .link _ => "link"
  | .settings _ => "config"

def message : Failure → String
  | .frame error => "frame: " ++ error.message
  | .queue error => "queue: " ++ error.message
  | .send error => "send: " ++ error.message
  | .link error => "link: " ++ error.message
  | .settings error => "config: " ++ error.message

def debugText : Failure → String
  | .frame error => "Frame(" ++ error.debugText ++ ")"
  | .queue error => "Queue(" ++ error.debugText ++ ")"
  | .send error => "Send(" ++ error.debugText ++ ")"
  | .link error => "Link(" ++ error.debugText ++ ")"
  | .settings error => "Config(" ++ error.debugText ++ ")"

end Failure

end CommandLink
