import CommandLink.LinkEvent

/-!
# A bench for signals

The ring of link events, requests to cancel, and the streaming flag.
-/

namespace CommandLink.Bench

/-! ## Events -/

inductive EventStep where
  | push (event : LinkEvent)
  | pop
  /-- Take all events; with each one taken, note one of these. -/
  | drain (pushed : List LinkEvent)
  deriving DecidableEq, Repr

inductive EventResult where
  | pushed (noted : Bool)
  | popped (event : Option LinkEvent)
  | drained (events : List LinkEvent)
  deriving DecidableEq, Repr

private abbrev Draining := StateM (EventRing × List LinkEvent)

private def takeOne : Draining (Option LinkEvent) := fun (ring, pushed) =>
  let (event, ring) := ring.pop
  (event, (ring, pushed))

private def noteNext : Draining Unit := fun (ring, pushed) =>
  match pushed with
  | [] => ((), (ring, []))
  | event :: rest => ((), ((ring.push event).2, rest))

/-- Every round takes an event that was there before or was noted since, so
that the rounds suffice. -/
def drainRing (pushed : List LinkEvent) (ring : EventRing) : List LinkEvent × EventRing :=
  let (events, ring, _) :=
    (drainEvents takeOne (fun _ => noteNext) (ring.size + pushed.length + 1)) (ring, pushed)
  (events, ring)

def EventStep.run (step : EventStep) (ring : EventRing) : EventResult × EventRing :=
  match step with
  | .push event =>
    let (noted, after) := ring.push event
    (.pushed noted, after)
  | .pop =>
    let (event, after) := ring.pop
    (.popped event, after)
  | .drain pushed =>
    let (events, after) := drainRing pushed ring
    (.drained events, after)

/-- What each step comes to, and how many events wait then. -/
def runEvents : List EventStep → EventRing → List (EventResult × Nat)
  | [], _ => []
  | step :: rest, ring =>
    let (result, after) := step.run ring
    (result, after.size) :: runEvents rest after

/-! ## Flags -/

inductive FlagStep where
  | raise
  | take
  | read
  deriving DecidableEq, Repr

/-- Raise a flag, take it down, or look at it. The first gives no answer, the
others say whether it was up. -/
def FlagStep.run (step : FlagStep) (flag : Bool) : Option Bool × Bool :=
  match step with
  | .raise => (none, true)
  | .take => (some flag, false)
  | .read => (some flag, flag)

structure Flags where
  first : Bool := false
  second : Bool := false
  deriving DecidableEq, Repr

/-- Steps on the first flag (`true`) or on the second one. -/
def runFlags : List (Bool × FlagStep) → Flags → List (Option Bool × Flags)
  | [], _ => []
  | (onFirst, step) :: rest, flags =>
    let (answer, after) :=
      if onFirst then
        let (answer, first) := step.run flags.first
        (answer, { flags with first })
      else
        let (answer, second) := step.run flags.second
        (answer, { flags with second })
    (answer, after) :: runFlags rest after

end CommandLink.Bench
