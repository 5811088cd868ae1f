import CommandLink.Endpoint.Diagnostics
import CommandLink.Json.Reader

/-!
# Processing commands

The worker takes one command after the other off the queue and gives it to the
responder. While it does, the priority flag is up, so that others leave the
processor to it; the flag comes down however the processing ends, also when a
handler crashes. Before and after each wait the worker reports the faults that
were noted.
-/

namespace CommandLink

/-- How the processing of a command ended. -/
inductive Disposition where
  | handled
  | parseError
  | oversize
  | noHandler
  deriving DecidableEq, Repr

variable {W H : Type} (ports : Ports W H)

open Act

/-- Tell the peer what is wrong with a command, as far as the link takes it. -/
def replyError (message kind : String) : Act W H Unit := discard (sendError ports message kind)

def countParseError : Act W H Unit := count fun c => { c with parseErrors := c.parseErrors + 1 }

def execute (command : Command) : Act W H Disposition := do
  if (← endpoint).settings.reassemblyCapacity.toNat < command.terminated.length then
    countParseError
    replyError ports "Command too large" "parse"
    return .oversize
  else
    match Json.read command.payload with
    | .error problem =>
      countParseError
      replyError ports problem.message "parse"
      return .parseError
    | .ok parsed =>
      match (← endpoint).responder with
      | none =>
        replyError ports "No command handler" "handler"
        return .noHandler
      | some responder =>
        respond ports responder parsed
        return .handled

/-- Process one command with the priority flag up. -/
def processCommand (command : Command) : Act W H Disposition := do
  modifyEndpoint fun endpoint => { endpoint with priority := true }
  ensuring (fun endpoint => { endpoint with priority := false }) do
    let disposition ← execute ports command
    -- A command whose handler crashed was not processed to its end.
    count fun c => { c with commandsProcessed := c.commandsProcessed + 1 }
    return disposition

def takeFault : Act W H (Option Fault) :=
  step fun endpoint =>
    match endpoint.faults.take? with
    | none => (none, endpoint)
    | some (fault, faults) => (some fault, { endpoint with faults })

def flushFaultsWithin : Nat → Nat → Act W H Nat
  | 0, reported => return reported
  | rounds + 1, reported => do
    match ← takeFault with
    | none => return reported
    | some fault =>
      replyError ports fault.message fault.peerKind
      flushFaultsWithin rounds (reported + 1)

/-- Report the faults that were noted; returns how many there were. -/
def flushFaults : Act W H Nat := flushFaultsWithin ports ports.rounds 0

/-- The pause between two looks at the queue. -/
def nap : Nat := 5

def takeCommand : Act W H (Option Command) :=
  step fun endpoint =>
    match endpoint.commands.take? with
    | none => (none, endpoint)
    | some (command, commands) => (some command, { endpoint with commands })

/-- Wait for a command until `deadline`. The queue is looked at before the
clock, so that a command which arrives in the last nap is still found. -/
def awaitUntil (deadline : Nat) : Nat → Act W H (Option Command)
  | 0 => return none
  | rounds + 1 => do
    match ← takeCommand with
    | some command => return some command
    | none =>
      if deadline ≤ ports.now (← world) then
        return none
      else
        ports.sleep nap
        awaitUntil deadline rounds

/-- Wait for a command, `wait` milliseconds at most. As long as the clock runs
no slower than the naps, the rounds suffice for the deadline to be met. -/
def awaitCommand (wait : Nat) : Act W H (Option Command) := do
  let deadline := ports.now (← world) + wait
  awaitUntil ports deadline ((wait + nap - 1) / nap + 1)

/-- Report faults and wait for one command; when none came, report those that
were noted meanwhile. -/
def nextCommand (wait : Nat) : Act W H (Option Command) := do
  discard (flushFaults ports)
  match ← awaitCommand ports wait with
  | none =>
    discard (flushFaults ports)
    return none
  | some command =>
    modifyEndpoint fun endpoint =>
      let depth := endpoint.commands.size
      endpoint.count fun c => { c with queueDepth := depth }
    return some command

/-- Wait for one command and process it; `none` when none came. -/
def processNext (wait : Nat) : Act W H (Option Disposition) := do
  match ← nextCommand ports wait with
  | none => return none
  | some command => return some (← processCommand ports command)

def runWorkerWithin : Nat → Act W H Unit
  | 0 => pure ()
  | rounds + 1 => do
    let endpoint ← endpoint
    if endpoint.stopping then
      pure ()
    else
      discard (processNext ports endpoint.settings.workerWait.toNat)
      runWorkerWithin rounds

/-- Process commands until the endpoint stops. -/
def runWorker : Act W H Unit := runWorkerWithin ports ports.rounds

end CommandLink
