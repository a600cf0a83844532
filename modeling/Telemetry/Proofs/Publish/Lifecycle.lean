import Telemetry.Publish.Lifecycle

/-!
# Lifecycles are safe

Steps, requests and the loss of the handle may come in any order, and the publishing loop may take up
whichever of them it likes. All the same, the state of a publisher moves along six ways only, one
publish is over before the next one begins, and once the loop is told to end it publishes no more, or
once more if it is told to close.

## Main definitions

- `State.successions` — the ways along which a state moves
- `Phase.Shows` — which states go with a phase
- `Lifecycle.effect` — whether a publish begins or ends with a move
- `Advance` — everything that a move can do

## Main statements

- `Lifecycle.advance_step` — a move does nothing else
- `Lifecycle.shows_run`, `Lifecycle.balance_run`, `Lifecycle.count_begins_of_isLast` — what a whole
  run preserves
- `Lifecycle.run_safe` — all of this together
-/

namespace Telemetry

/-- The pairs of states of which the second may come right after the first. -/
def State.successions : List (State × State) :=
  [(.idle, .scheduled), (.idle, .publishing), (.scheduled, .publishing), (.publishing, .idle),
    (.idle, .stopped), (.scheduled, .stopped)]

namespace Phase

/-- A state in which a publisher may be seen while its loop stands somewhere. -/
def Shows : Phase → State → Prop
  | unstarted, s => s = .idle
  | top, s => s = .idle ∨ s = .scheduled
  | waiting, s => s = .scheduled
  | publishing _, s => s = .publishing
  | ending, s => s = .idle ∨ s = .scheduled
  | ended, s => s = .stopped

/-- How many publishes are under way. -/
def underway : Phase → Nat
  | publishing _ => 1
  | _ => 0

/-- Whether the loop begins no further publish from here. -/
def isLast : Phase → Bool
  | publishing last => last
  | ending | ended => true
  | _ => false

theorem Shows.eq_ended {phase : Phase} (h : phase.Shows .stopped) : phase = .ended := by
  cases phase with
  | ended => rfl
  | top => exact absurd h (by simp [Shows])
  | ending => exact absurd h (by simp [Shows])
  | _ => exact absurd h State.noConfusion

end Phase

/-! ## What a move can do -/

/-- What a move has to do with publishes. -/
inductive Effect
  | nothing
  | begins
  | ends
deriving DecidableEq

/-- A move with its effect, and the phases and states before and after it. -/
inductive Advance : Effect → Phase → State → Phase → State → Prop
  | stay (phase : Phase) (s : State) : Advance .nothing phase s phase s
  | start (s : State) : Advance .nothing .unstarted s .top s
  | disable (s : State) : Advance .nothing .unstarted s .ended (s.enter .stopped)
  | arm (s : State) : Advance .nothing .top s .waiting (s.leave .idle .scheduled)
  | resume (s : State) : Advance .nothing .waiting s .top s
  | begin (s : State) (last : Bool) :
    Advance .begins .waiting s (.publishing last) (s.enter .publishing)
  | leave (s : State) : Advance .nothing .waiting s .ending s
  | finish (s : State) (last : Bool) :
    Advance .ends (.publishing last) s (if last then .ending else .top)
      (s.leave .publishing .idle)
  | quit (s : State) : Advance .nothing .ending s .ended (s.enter .stopped)

namespace Advance

variable {effect : Effect} {phase phase' : Phase} {s s' : State}

theorem shows (h : Advance effect phase s phase' s') (hs : phase.Shows s) : phase'.Shows s' := by
  cases h with
  | stay => exact hs
  | start => exact .inl hs
  | disable =>
    obtain rfl := hs
    rfl
  | arm => rcases hs with rfl | rfl <;> rfl
  | resume => exact .inr hs
  | begin =>
    obtain rfl := hs
    rfl
  | leave => exact .inr hs
  | finish _ last =>
    obtain rfl := hs
    cases last <;> exact .inl rfl
  | quit => rcases hs with rfl | rfl <;> rfl

theorem succession (h : Advance effect phase s phase' s') (hs : phase.Shows s) :
    s' = s ∨ (s, s') ∈ State.successions := by
  cases h with
  | stay => exact .inl rfl
  | start => exact .inl rfl
  | disable =>
    obtain rfl := hs
    exact .inr (by decide)
  | arm =>
    rcases hs with rfl | rfl
    · exact .inr (by decide)
    · exact .inl rfl
  | resume => exact .inl rfl
  | begin =>
    obtain rfl := hs
    exact .inr (by decide)
  | leave => exact .inl rfl
  | finish =>
    obtain rfl := hs
    exact .inr (by decide)
  | quit => rcases hs with rfl | rfl <;> exact .inr (by decide)

/-- A publish begins where none is under way, and ends where one is. -/
theorem balance (h : Advance effect phase s phase' s') :
    (if effect = .begins then 1 else 0) + phase.underway =
      (if effect = .ends then 1 else 0) + phase'.underway := by
  cases h with
  | finish _ last => cases last <;> rfl
  | _ => simp [Phase.underway]

theorem isLast (h : Advance effect phase s phase' s') (hlast : phase.isLast = true) :
    effect ≠ .begins ∧ phase'.isLast = true := by
  cases h with
  | stay => exact ⟨Effect.noConfusion, hlast⟩
  | finish _ last =>
    obtain rfl : last = true := hlast
    exact ⟨Effect.noConfusion, rfl⟩
  | quit => exact ⟨Effect.noConfusion, rfl⟩
  | _ => exact absurd hlast Bool.false_ne_true

theorem eq_waiting (h : Advance .begins phase s phase' s') : phase = .waiting := by
  cases h
  rfl

theorem eq_ended (h : Advance effect .ended s phase' s') : phase' = .ended := by
  cases h
  rfl

end Advance

namespace Lifecycle

/-- A publish begins with a step that is due, or when the loop finds a request to close. -/
def effect (l : Lifecycle) : Move → Effect
  | .tick => if l.isWaiting then .begins else .nothing
  | .observe => if l.isWaiting ∧ l.noticed? = some .close then .begins else .nothing
  | .finish => if l.isPublishing then .ends else .nothing
  | _ => .nothing

/-- Said once, this is what a move does; all that follows rests on it. -/
theorem advance_step (l : Lifecycle) (m : Move) :
    Advance (l.effect m) l.phase l.state (l.step m).phase (l.step m).state := by
  obtain ⟨state, phase, request, unseen, held⟩ := l
  cases m with
  | start enabled =>
    cases phase with
    | unstarted =>
      cases enabled
      · exact .disable state
      · exact .start state
    | _ => exact .stay _ _
  | arm =>
    cases phase with
    | top => exact .arm state
    | _ => exact .stay _ _
  | tick =>
    cases phase with
    | waiting => exact .begin state false
    | _ => exact .stay _ _
  | observe =>
    cases phase with
    | waiting =>
      simp only [step, step?, effect]
      cases noticed? ⟨state, .waiting, request, unseen, held⟩ with
      | none => exact .stay _ _
      | some found =>
        cases found with
        | run => exact .resume state
        | stop => exact .leave state
        | close => exact .begin state true
    | _ => exact .stay _ _
  | finish =>
    cases phase with
    | publishing last => exact .finish state last
    | _ => exact .stay _ _
  | quit =>
    cases phase with
    | ending => exact .quit state
    | _ => exact .stay _ _
  | ask request =>
    simp only [step, step?]
    split <;> exact .stay _ _
  | release =>
    simp only [step, step?]
    split <;> exact .stay _ _

theorem isLast_observe {l : Lifecycle} (hwaiting : l.isWaiting = true) {request : Request}
    (hnoticed : l.noticed? = some request) (h : request ≠ .run) :
    (l.step .observe).phase.isLast = true := by
  have hphase : l.phase = .waiting := eq_of_beq hwaiting
  simp only [step, step?, hphase, hnoticed]
  cases request with
  | run => exact absurd rfl h
  | stop => rfl
  | close => rfl

/-! ## Whole runs -/

/-- The lifecycle after some moves, of which those that are not possible are passed over. -/
def run (l : Lifecycle) (moves : List Move) : Lifecycle := moves.foldl step l

/-- How many moves of a run have an effect. -/
def count (effect : Effect) : Lifecycle → List Move → Nat
  | _, [] => 0
  | l, m :: rest => (if l.effect m = effect then 1 else 0) + count effect (l.step m) rest

variable {l : Lifecycle}

theorem shows_run (h : l.phase.Shows l.state) (moves : List Move) :
    (l.run moves).phase.Shows (l.run moves).state := by
  induction moves generalizing l with
  | nil => exact h
  | cons m rest ih => exact ih ((l.advance_step m).shows h)

theorem balance_run (l : Lifecycle) (moves : List Move) :
    count .begins l moves + l.phase.underway =
      count .ends l moves + (l.run moves).phase.underway := by
  induction moves generalizing l with
  | nil => rfl
  | cons m rest ih =>
    have hstep := (l.advance_step m).balance
    have hrest : count .begins (l.step m) rest + (l.step m).phase.underway =
        count .ends (l.step m) rest + (l.run (m :: rest)).phase.underway := ih (l.step m)
    simp only [count]
    omega

theorem count_begins_of_isLast (h : l.phase.isLast = true) (moves : List Move) :
    count .begins l moves = 0 := by
  induction moves generalizing l with
  | nil => rfl
  | cons m rest ih =>
    obtain ⟨hnone, hlast⟩ := (l.advance_step m).isLast h
    rw [count, if_neg hnone, ih hlast]

theorem phase_run_of_ended (h : l.phase = .ended) (moves : List Move) :
    (l.run moves).phase = .ended := by
  induction moves generalizing l with
  | nil => exact h
  | cons m rest ih =>
    have hstep := l.advance_step m
    rw [h] at hstep
    exact ih hstep.eq_ended

/-- A lifecycle that has ended is seen to be stopped, whatever happens. -/
theorem state_run_of_ended (hshows : l.phase.Shows l.state) (h : l.phase = .ended)
    (moves : List Move) : (l.run moves).state = .stopped := by
  have hrun := shows_run hshows moves
  rw [phase_run_of_ended h moves] at hrun
  exact hrun

/-- Whatever happens to a new publisher, in whatever order: its state moves along six ways only, and
stays once it is stopped. A publish begins when the one before it has ended, if at all. When the loop
finds that it is to stop or that the handle is gone, no publish begins any more, and when it finds
that it is to close, exactly one does. If publishing is disabled, the publisher is stopped at once,
and nothing is published. -/
theorem run_safe (moves : List Move) :
    let l := new.run moves
    (∀ m, (l.step m).state = l.state ∨ (l.state, (l.step m).state) ∈ State.successions) ∧
      (l.state = .stopped → ∀ more, (l.run more).state = .stopped) ∧
      count .begins new moves = count .ends new moves + (if l.isPublishing then 1 else 0) ∧
      (∀ m, l.effect m = .begins → l.isPublishing = false) ∧
      (l.isWaiting = true → l.noticed? = some .stop →
        ∀ more, count .begins l (.observe :: more) = 0) ∧
      (l.isWaiting = true → l.noticed? = some .close →
        ∀ more, count .begins l (.observe :: more) = 1) ∧
      (l.isStarted = false → ∀ more,
        (l.run (.start false :: more)).state = .stopped ∧
          count .begins l (.start false :: more) = 0) := by
  intro l
  have hnew : new.phase.Shows new.state := rfl
  have hshows : l.phase.Shows l.state := shows_run hnew moves
  have hunderway : l.phase.underway = if l.isPublishing then 1 else 0 := by
    unfold isPublishing
    cases l.phase <;> rfl
  refine ⟨fun m => ?_, fun hstopped more => ?_, ?_, fun m heffect => ?_, fun hwaiting hstop more => ?_,
    fun hwaiting hclose more => ?_, fun hstarted more => ?_⟩
  · exact (l.advance_step m).succession hshows
  · have hended : l.phase = .ended := (hstopped ▸ hshows).eq_ended
    exact state_run_of_ended hshows hended more
  · have hbalance := balance_run new moves
    rw [← hunderway]
    exact hbalance
  · have hadvance := l.advance_step m
    rw [heffect] at hadvance
    rw [isPublishing, hadvance.eq_waiting]
  · have hlast := isLast_observe hwaiting hstop Request.noConfusion
    have hnothing : l.effect .observe ≠ .begins := by simp [effect, hstop]
    rw [count, if_neg hnothing, count_begins_of_isLast hlast]
  · have hlast := isLast_observe hwaiting hclose Request.noConfusion
    have hbegins : l.effect .observe = .begins := by simp [effect, hwaiting, hclose]
    rw [count, if_pos hbegins, count_begins_of_isLast hlast]
  · have hphase : l.phase = .unstarted := by simpa [isStarted] using hstarted
    have hended : (l.step (.start false)).phase = .ended := by
      simp [step, step?, hphase, finished]
    have hshows' := (l.advance_step (.start false)).shows hshows
    refine ⟨state_run_of_ended hshows' hended more, ?_⟩
    have hlast : (l.step (.start false)).phase.isLast = true := by rw [hended]; rfl
    rw [count, count_begins_of_isLast hlast]
    rfl

end Lifecycle

end Telemetry
