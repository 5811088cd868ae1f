import CommandLink.Simulation.Radio

/-!
# A bench for the radio

The simulated radio on its own, without an endpoint.
-/

namespace CommandLink.Bench

inductive RadioStep where
  | start
  | connect (mtu : UInt16)
  | disconnect
  | setMtu (mtu : UInt16)
  | write (data : Bytes)
  | notify (data : Bytes)
  | requestMtu (mtu : UInt16)
  | advertise
  | fetch
  deriving DecidableEq, Repr

inductive RadioResult where
  | nothing
  | done
  | refused (error : LinkError)
  | fetched (sent : List Bytes)
  deriving DecidableEq, Repr

def RadioStep.run (step : RadioStep) (radio : Radio) : RadioResult × Radio :=
  match step with
  | .start => (.done, radio.advertise)
  | .connect mtu => (.nothing, radio.connect mtu)
  | .disconnect => (.nothing, radio.disconnect)
  | .setMtu mtu => (.nothing, radio.setMtu mtu)
  | .write _ => (.nothing, radio)
  | .notify data =>
    match radio.notify data with
    | .ok after => (.done, after)
    | .error error => (.refused error, radio)
  | .requestMtu mtu => (.done, radio.requestMtu mtu)
  | .advertise => (.nothing, radio.advertise)
  | .fetch =>
    let (sent, after) := radio.fetch
    (.fetched sent, after)

def runRadio : List RadioStep → Radio → List (RadioResult × Radio)
  | [], _ => []
  | step :: rest, radio =>
    let entry := step.run radio
    entry :: runRadio rest entry.2

end CommandLink.Bench
