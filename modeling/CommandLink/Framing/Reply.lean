import CommandLink.Framing.Inline
import CommandLink.Json.Basic

/-!
# Replies

Every command is answered by a document with a status, a message, the kind of
the command or of the error, and an empty `config` list, which the peer expects
in every reply.

An error can also be formatted without memory, as an inline document. Its texts
are put in as they are, without escaping.
-/

namespace CommandLink

namespace Reply

private def document (status message kind : String) : Json :=
  .object [("status", .text status), ("message", .text message), ("type", .text kind),
    ("config", .list [])]

def ok (kind : String) : Json := document "ok" "Success" kind

def error (message kind : String) : Json := document "error" message kind

/-- The size of an inline document. -/
def inlineCapacity : Nat := 192

/-- The pieces of an inline error. -/
def inlinePieces (message kind : String) : List String :=
  ["\x7b\"status\":\"error\",\"message\":\"", message, "\",\"type\":\"", kind,
    "\",\"config\":[]\x7d"]

def inlineError (message kind : String) : String :=
  Inline.write inlineCapacity (inlinePieces message kind)

end Reply

end CommandLink
