import CommandLink.Bench.Levels
import CommandLink.Endpoint.Negotiating

/-!
# A bench for the negotiation

The negotiation of an endpoint, driven call by call. Expired attempts are kept
under names until they are resolved. Each step can replace the steps that run
inside the next pause, or inside the next request before it is answered.
-/

namespace CommandLink.Bench

inductive Call where
  | restart
  | stop
  | advance (time : Nat)
  | reject (code : Option Int)
  | poll (mtu : UInt16) (slot : String)
  | resolve (slot : String)
  | unit (mtu : UInt16)
  deriving DecidableEq, Repr

/-- A call, with the steps to run inside the next pause and the next request
if they are to be replaced. -/
inductive NegotiationStep where
  | mk (call : Call) (inSleep inRequest : Option (List NegotiationStep))

inductive CallResult where
  | nothing
  | restarted
  | verdict (value : Negotiation.Verdict)
  | noToken
  | resolution (value : Negotiation.Resolution)
  | unit (mtu : UInt16) (chunk : Nat)
  deriving DecidableEq, Repr

structure Table where
  clock : Nat
  reject : Option Int := none
  tokens : List (String × Negotiation.Expired) := []
  inSleep : List NegotiationStep := []
  inRequest : List NegotiationStep := []
  /-- Units that were asked for in this step, latest first. -/
  requests : List UInt16 := []
  /-- What the steps inside came to, latest first. -/
  inner : List CallResult := []

namespace Table

abbrev Run := Act Table Empty

open Act

def call (ports : Ports Table Empty) : Call → Run CallResult
  | .restart => do
    restartNegotiation ports
    return .restarted
  | .stop => do
    modifyEndpoint (·.stop)
    return .nothing
  | .advance time => do
    modifyWorld fun table => { table with clock := table.clock + time }
    return .nothing
  | .reject code => do
    modifyWorld fun table => { table with reject := code }
    return .nothing
  | .poll mtu slot => do
    let now := (← world).clock
    let verdict ← step (·.poll now mtu)
    match verdict with
    | .expired token =>
      modifyWorld fun table =>
        { table with tokens := (slot, token) :: table.tokens.filter (·.1 != slot) }
    | _ => pure ()
    return .verdict verdict
  | .resolve slot => do
    match (← world).tokens.lookup slot with
    | none => return .noToken
    | some token =>
      modifyWorld fun table => { table with tokens := table.tokens.filter (·.1 != slot) }
      return .resolution (← resolve ports token)
  | .unit mtu => do
    let endpoint ← endpoint
    return .unit (endpoint.state.unit mtu) (endpoint.chunkSize mtu)

def perform (ports : Ports Table Empty) : NegotiationStep → Run CallResult
  | .mk call inSleep inRequest => do
    modifyWorld fun table =>
      { table with
        inSleep := inSleep.getD table.inSleep
        inRequest := inRequest.getD table.inRequest }
    Table.call ports call

def performInner (ports : Ports Table Empty) : List NegotiationStep → Run Unit
  | [] => pure ()
  | step :: rest => do
    let result ← perform ports step
    modifyWorld fun table => { table with inner := result :: table.inner }
    performInner ports rest

def sleep (inside : List NegotiationStep → Run Unit) (time : Nat) : Run Unit := do
  modifyWorld fun table => { table with clock := table.clock + time }
  let steps := (← world).inSleep
  modifyWorld fun table => { table with inSleep := [] }
  inside steps

def requestMtu (inside : List NegotiationStep → Run Unit) (mtu : UInt16) :
    Run (Except LinkError Unit) := do
  modifyWorld fun table => { table with requests := mtu :: table.requests }
  let steps := (← world).inRequest
  modifyWorld fun table => { table with inRequest := [] }
  inside steps
  match (← world).reject with
  | some code => return .error (.stack code)
  | none => return .ok ()

def portsWith (inside : List NegotiationStep → Run Unit) : Ports Table Empty where
  notify _ := return .error .notConnected
  requestMtu := requestMtu inside
  restartAdvertising := pure ()
  mtu _ := UInt16.ofNat defaultMtu
  now table := table.clock
  sleep := sleep inside
  randomBelow _ := return 0
  freeBytes := return 0
  minFreeBytes _ := 0
  allocate _ _ := return false
  handle handler _ := nomatch handler
  hasTelemetry _ := false
  nextTelemetry := return none
  rounds := 0

def ports : Nat → Ports Table Empty :=
  nested (fun below => portsWith (performInner below)) (portsWith fun _ => pure ())

structure Report where
  result : Except Crash CallResult
  state : LinkState
  time : Nat
  changes : List (String × Nat)
  requests : List UInt16
  inner : List CallResult

def reports (ports : Ports Table Empty) : List NegotiationStep → Station Table Empty → List Report
  | [], _ => []
  | step :: rest, station =>
    let quiet := { station with world := { station.world with requests := [], inner := [] } }
    let (result, after) := (perform ports step).run.run quiet
    let entry :=
      {
        result
        state := after.endpoint.state
        time := after.world.clock
        changes := station.endpoint.counters.changes after.endpoint.counters
        requests := after.world.requests.reverse
        inner := after.world.inner.reverse
      }
    entry :: reports ports rest after

end Table

/-- Run a script on a fresh negotiation, whatever the settings. -/
def negotiationBench (settings : Settings) (start : Nat) (steps : List NegotiationStep) :
    List Table.Report :=
  Table.reports (Table.ports maxLevels) steps ⟨.fresh settings, { clock := start }⟩

end CommandLink.Bench
