import CommandLink.Endpoint.Processing
import CommandLink.LinkEvent
import CommandLink.Outbound.Document

/-!
# Scripts for a bench

A bench runs an endpoint in a world of its own, step by step as a script says.
A script can also have steps run in the middle of others: when a hook fires
inside a notification, a pause or a request, or when a handler gets a command.
-/

namespace CommandLink.Bench

/-- The calls of the world that steps can be hooked to. -/
inductive Occasion where
  | notify
  | sleep
  | request
  deriving DecidableEq, Repr

/-- What the handler of a bench does with a command. -/
inductive Reply (S : Type) where
  | silent
  | ok
  | echo
  | perform (steps : List S)
  | crash

inductive Position where
  | direct
  | diagnostics
  | behindDiagnostics
  deriving DecidableEq, Repr

inductive Step where
  | linkUp (mtu : UInt16)
  | onLinkUp
  | onConnect
  | connect (grant : Option UInt16) (mtu : UInt16)
  | linkDown
  | onDisconnect
  | disconnect
  | tick
  | route (event : LinkEvent)
  | pushEvent (event : LinkEvent)
  | drainEvents
  | attach
  | fragment (data : Bytes) (refused : Nat)
  | command (data : Bytes) (size : Nat)
  | process (times wait : Nat)
  | processRaw (data : Bytes)
  | flushFaults
  | register (position : Position) (reply : Reply Step)
  | sendResponse (document : Document)
  | sendTelemetry (document : Document)
  | sendOk (kind : String)
  | sendError (message kind : String)
  | progress (activity : Activity) (done total : Nat)
  | cancel
  | takeCancel
  | enableStreaming
  | disableStreaming
  | telemetry (documents : List Json) (phantom : Bool)
  | pump
  | publish
  | diagnostics
  | counters
  | heap
  | runWorker (maxSleeps : Nat)
  | runStreamer (maxSleeps : Nat)
  | runMonitor (maxSleeps : Nat)
  | startTasks
  | shutdown (timeout : Nat)
  | advance (time : Nat)
  | setMtu (mtu : UInt16)
  | grant (mtu : Option UInt16)
  | reject (code : Option Int)
  | failNotify (accept refuse : Nat) (code : Int)
  | setFree (bytes : Nat)
  | freeSequence (values : List Nat)
  | failAllocation (primary secondary : Bool)
  | hook (occasion : Occasion) (after : Nat) (steps : List Step)

abbrev Handler := Reply Step

/-- What a step comes to. -/
inductive Result where
  | nothing
  | flag (value : Bool)
  | number (value : Nat)
  | text (value : String)
  | texts (values : List String)
  | sent (outcome : Except SendError Unit)
  | resolution (value : Option Negotiation.Resolution)
  | dispositions (values : List (Option Disposition))
  | disposition (value : Disposition)
  | events (values : List LinkEvent)
  | pair (first second : Nat)

end CommandLink.Bench
