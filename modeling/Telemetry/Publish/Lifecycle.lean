/-!
# The life of a publisher

A publisher that has been started waits for its next step or for a request of whoever holds its
handle, and publishes when either says so. Requests overwrite one another until the publisher looks;
a handle that is gone counts as a request to stop. The state that can be seen from outside is
written in three ways: entering a state unless stopped, leaving a state only if it is the present
one, and stopping for good.

## Main definitions

* `State`: what can be seen of a publisher; `State.enter` and `State.leave` change it.
* `Request`: what the holder of the handle asks for.
* `Lifecycle`: the state, where the publishing loop stands, and what has been asked for.
* `Move`, `Lifecycle.step?`: everything that can happen next.
-/

namespace Telemetry

/-- What can be seen of a publisher. -/
inductive State
  | idle
  | scheduled
  | publishing
  | stopped
deriving DecidableEq, Repr

namespace State

/-- The name of a state. -/
def name : State → String
  | idle => "Idle"
  | scheduled => "Scheduled"
  | publishing => "Publishing"
  | stopped => "Stopped"

/-- The number of a state, as a gauge shows it. -/
def code : State → Float
  | idle => 0
  | scheduled => 1
  | publishing => 2
  | stopped => 3

/-- Enters a state, unless the publisher has stopped. -/
def enter (s next : State) : State := if s = stopped then stopped else next

/-- Leaves a state for another, if it is the present one. -/
def leave (s present next : State) : State := if s = present then next else s

end State

/-- What the holder of the handle asks for. -/
inductive Request
  | run
  | stop
  | close
deriving DecidableEq, Repr

/-- Where the publishing loop stands. -/
inductive Phase
  /-- The publisher has not been started. -/
  | unstarted
  /-- At the beginning of a round. -/
  | top
  /-- Waiting for a step or a request. -/
  | waiting
  /-- Publishing, perhaps for the last time. -/
  | publishing (last : Bool)
  /-- Behind the last round. -/
  | ending
  /-- Ended for good. -/
  | ended
deriving DecidableEq, Repr

/-- The state of a publisher, where its loop stands, the latest request, whether the loop has yet to
look at it, and whether the handle is still held. -/
structure Lifecycle where
  state : State
  phase : Phase
  request : Request
  unseen : Bool
  held : Bool
deriving DecidableEq, Repr

/-- What can happen to a publisher. -/
inductive Move
  /-- It is started; it ends at once if publishing is disabled. -/
  | start (enabled : Bool)
  /-- The loop begins a round. -/
  | arm
  /-- A step is due, and the loop takes it. -/
  | tick
  /-- The loop looks at a request, or notices that the handle is gone. -/
  | observe
  /-- The publish that was begun is done. -/
  | finish
  /-- The loop ends behind its last round. -/
  | quit
  /-- The holder of the handle asks for something. -/
  | ask (request : Request)
  /-- The handle is dropped. -/
  | release
deriving DecidableEq, Repr

namespace Lifecycle

/-- A publisher that has not been started. -/
def new : Lifecycle := ⟨.idle, .unstarted, .run, false, true⟩

instance : Inhabited Lifecycle := ⟨new⟩

/-- The loop ends. -/
def finished (l : Lifecycle) : Lifecycle :=
  { l with state := l.state.enter .stopped, phase := .ended }

/-- The loop begins to publish. -/
def beginning (l : Lifecycle) (last : Bool) : Lifecycle :=
  { l with state := l.state.enter .publishing, phase := .publishing last }

/-- What the loop finds when it looks: the latest request if it is new, a request to stop if the
handle is gone, or nothing. -/
def noticed? (l : Lifecycle) : Option Request :=
  if l.unseen then some l.request
  else if l.held then none
  else some .stop

/-- The lifecycle after a move, if the move is possible. -/
def step? (l : Lifecycle) : Move → Option Lifecycle
  | .start enabled =>
    match l.phase with
    | .unstarted => some (if enabled then { l with phase := .top } else l.finished)
    | _ => none
  | .arm =>
    match l.phase with
    | .top => some { l with state := l.state.leave .idle .scheduled, phase := .waiting }
    | _ => none
  | .tick =>
    match l.phase with
    | .waiting => some (l.beginning false)
    | _ => none
  | .observe =>
    match l.phase, l.noticed? with
    | .waiting, some .run => some { l with unseen := false, phase := .top }
    | .waiting, some .stop => some { l with unseen := false, phase := .ending }
    | .waiting, some .close => some ({ l with unseen := false }.beginning true)
    | _, _ => none
  | .finish =>
    match l.phase with
    | .publishing last =>
      some { l with
        state := l.state.leave .publishing .idle
        phase := if last then .ending else .top }
    | _ => none
  | .quit =>
    match l.phase with
    | .ending => some l.finished
    | _ => none
  | .ask request =>
    if l.held ∧ l.phase ≠ .unstarted then some { l with request := request, unseen := true }
    else none
  | .release => if l.held then some { l with held := false } else none

/-- The lifecycle after a move; unchanged if the move is not possible. -/
def step (l : Lifecycle) (move : Move) : Lifecycle := (l.step? move).getD l

/-- Whether the loop is publishing. -/
def isPublishing (l : Lifecycle) : Bool :=
  match l.phase with
  | .publishing _ => true
  | _ => false

/-- Whether the publisher has been started. -/
def isStarted (l : Lifecycle) : Bool := l.phase != .unstarted

/-- Whether the loop waits for its next step. -/
def isWaiting (l : Lifecycle) : Bool := l.phase == .waiting

end Lifecycle

end Telemetry
