import Telemetry.Proofs.Publish.Calls

/-!
# Outcomes of payloads

A payload is handed to the sender and in flight until its send ends, or it is dropped at once because
there is nothing to run a send on. A send that ends is accepted or not. So every payload is counted
once, as sent or as failed, or it is still in flight, and nothing else is counted: this file keeps the
balance of that over everything that can happen to a publisher.

## Main definitions

- `Answer.Accepted` — a service has taken what it was sent
- `Service.publishes`, `Service.ended` — the publishes of a run, and the sends that end in it
- `Publisher.Balance` — what a publisher has counted since and has in flight

## Main statements

- `Service.balance_run` — every run is balanced
- `Publisher.dispatch_answered` — a send may end while a publish still hands over payloads
- `one_outcome` — the numbers of sent and failed payloads and of sends in flight
-/

namespace Telemetry

variable {World Record Cache : Type}

def Answer.Accepted : Answer → Prop
  | .ok response => 200 ≤ response.code ∧ response.code ≤ 299
  | .error _ => False

instance : DecidablePred Answer.Accepted
  | .ok response => inferInstanceAs (Decidable (200 ≤ response.code ∧ response.code ≤ 299))
  | .error _ => .isFalse id

/-! ## One publish and one send -/

/-- The payloads that a publish counts are those that it has. -/
theorem payloads_publishBatch (backend : Backend Record Cache) (view : View World)
    (runtime : Bool) {done : Progress World Record Cache}
    (h : done.summary.payloads = done.payloads.length) (batch : List Nat) :
    (publishBatch backend view runtime done batch).summary.payloads =
      (publishBatch backend view runtime done batch).payloads.length := by
  obtain ⟨-, -, -, hadds⟩ := publishBatch_adds backend view runtime done batch
  obtain ⟨-, -, hpayloads, hcount⟩ | ⟨-, -, hpayloads, hcount⟩ := hadds
  · rw [hcount, hpayloads, h]
  · rw [hcount, hpayloads, h, List.length_append]

namespace Publisher

theorem payloads_progress (p : Publisher Record Cache) (r : Registry World)
    (look : Registry World → World) (now : UInt64) (runtime : Bool) :
    (p.progress r look now runtime).summary.payloads =
      (p.progress r look now runtime).payloads.length := by
  unfold progress
  refine List.foldlRecOn (motive := fun done : Progress World Record Cache =>
    done.summary.payloads = done.payloads.length) _ _ rfl ?_
  intro done h batch _
  exact payloads_publishBatch _ _ _ h batch

/-- With something to run sends on, all payloads of a publish are handed over and none is counted. -/
theorem iterate_with_runtime (p : Publisher Record Cache) (r : Registry World)
    (look : Registry World → World) (now : UInt64) :
    let it := p.iterate r look now true
    it.handed.length = it.summary.payloads ∧ it.publisher.stats = p.stats ∧
      it.publisher.inFlight = p.inFlight ++ it.handed :=
  ⟨(p.payloads_progress r look now true).symm, rfl, rfl⟩

/-- Without, none is handed over and all are counted at once. -/
theorem iterate_without_runtime (p : Publisher Record Cache) (r : Registry World)
    (look : Registry World → World) (now : UInt64) :
    let it := p.iterate r look now false
    it.handed = [] ∧ it.publisher.inFlight = p.inFlight ∧ it.publisher.stats =
      { p.stats with failed := p.stats.failed + UInt64.ofNat it.summary.payloads } := by
  refine ⟨rfl, rfl, ?_⟩
  refine (foldl_countFailed p.stats (p.progress r look now false).payloads).trans ?_
  rw [← p.payloads_progress r look now false]
  rfl

/-- An answer is counted once, as accepted or as failed. -/
theorem stats_judge (p : Publisher Record Cache) (payload : Payload) (answer : Answer) :
    (p.judge payload answer).1 =
      if answer.Accepted then p.stats.countSent else p.stats.countFailed := by
  cases answer with
  | error e => rfl
  | ok response =>
    by_cases hcode : 200 ≤ response.code ∧ response.code ≤ 299
    · simp [judge, Response.isSuccess, Answer.Accepted, hcode]
    · simp [judge, Response.isSuccess, Answer.Accepted, hcode]

theorem answered_of_some {p : Publisher Record Cache} {position : Nat} {payload : Payload}
    (h : p.inFlight[position]? = some payload) (answer : Answer) :
    (p.answered position answer).1 =
      { p with
        stats := if answer.Accepted then p.stats.countSent else p.stats.countFailed
        inFlight := p.inFlight.eraseIdx position } := by
  rw [← p.stats_judge payload]
  simp [answered, h]

theorem answered_of_none {p : Publisher Record Cache} {position : Nat}
    (h : p.inFlight[position]? = none) (answer : Answer) :
    (p.answered position answer).1 = p := by
  simp [answered, h]

theorem dispatch_with_runtime (p : Publisher Record Cache) (payloads : List Payload) :
    (p.dispatch payloads true).1 = { p with inFlight := p.inFlight ++ payloads } :=
  rfl

theorem dispatch_without_runtime (p : Publisher Record Cache) (payloads : List Payload) :
    (p.dispatch payloads false).1 =
      { p with
        stats := { p.stats with failed := p.stats.failed + UInt64.ofNat payloads.length } } := by
  rw [← foldl_countFailed]
  rfl

/-- A send that ends while a publish is still handing over payloads leaves the publisher as if it had
ended right behind the publish. -/
theorem dispatch_answered (p : Publisher Record Cache) (front back : List Payload) (runtime : Bool)
    {position : Nat} (answer : Answer)
    (h : position < (p.dispatch front runtime).1.inFlight.length) :
    (((p.dispatch front runtime).1.answered position answer).1.dispatch back runtime).1 =
      ((p.dispatch (front ++ back) runtime).1.answered position answer).1 := by
  cases runtime with
  | true =>
    have hinFlight : position < (p.inFlight ++ front).length := h
    have hearly := List.getElem?_eq_getElem hinFlight
    have hlate : (p.inFlight ++ (front ++ back))[position]? =
        some ((p.inFlight ++ front)[position]) := by
      rw [← List.append_assoc, List.getElem?_append_left hinFlight, hearly]
    have herase : (p.inFlight ++ (front ++ back)).eraseIdx position =
        (p.inFlight ++ front).eraseIdx position ++ back := by
      rw [← List.append_assoc, List.eraseIdx_append_of_lt_length hinFlight]
    simp only [dispatch_with_runtime]
    rw [answered_of_some hearly, answered_of_some hlate, herase]
  | false =>
    have hearly := List.getElem?_eq_getElem h
    -- what is in flight does not depend on how many payloads are dropped
    have hlate : (p.dispatch (front ++ back) false).1.inFlight[position]? = _ := hearly
    rw [answered_of_some hearly, answered_of_some hlate]
    simp only [dispatch_without_runtime, List.length_append, UInt64.ofNat_add, Stats.countSent,
      Stats.countFailed]
    by_cases haccepted : answer.Accepted
    · simp only [if_pos haccepted, UInt64.add_assoc]
    · -- the answer is counted between the failures in one order and behind them in the other
      simp only [if_neg haccepted, UInt64.add_assoc]
      rw [UInt64.add_comm 1]

end Publisher

/-! ## Runs -/

namespace Service

variable (s : Service World Record Cache)

/-- The publish that happens with a step, and whether there is something to run sends on. -/
def publish? : Step World → Option (Bool × Iteration World Record Cache)
  | .publish look now runtime => some (runtime, s.publisher.iterate s.registry look now runtime)
  | _ => none

/-- The send that ends with a step, and its answer. -/
def end? : Step World → Option (Payload × Answer)
  | .answer position answer => s.publisher.inFlight[position]?.map fun payload => (payload, answer)
  | _ => none

def publishes (s : Service World Record Cache) :
    List (Step World) → List (Bool × Iteration World Record Cache)
  | [] => []
  | next :: rest => (s.publish? next).toList ++ (s.step next).publishes rest

def ended (s : Service World Record Cache) : List (Step World) → List (Payload × Answer)
  | [] => []
  | next :: rest => (s.end? next).toList ++ (s.step next).ended rest

end Service

/-- How many payloads some publishes have made. -/
def payloadsMade (publishes : List (Bool × Iteration World Record Cache)) : Nat :=
  (publishes.map fun q => q.2.summary.payloads).sum

/-- How many of them were made without anything to run sends on. -/
def payloadsDropped (publishes : List (Bool × Iteration World Record Cache)) : Nat :=
  payloadsMade (publishes.filter fun q => !q.1)

/-- The payloads that some publishes have handed to the sender. -/
def payloadsHanded (publishes : List (Bool × Iteration World Record Cache)) : List Payload :=
  publishes.flatMap fun q => q.2.handed

namespace Publisher

/-- What a publisher has counted since and has in flight agrees with the publishes and the ends of
sends in between. -/
structure Balance (p : Publisher Record Cache)
    (publishes : List (Bool × Iteration World Record Cache)) (ended : List (Payload × Answer))
    (p' : Publisher Record Cache) : Prop where
  sent : p'.stats.sent = p.stats.sent + UInt64.ofNat (ended.countP fun e => e.2.Accepted)
  failed : p'.stats.failed = p.stats.failed +
    UInt64.ofNat ((ended.countP fun e => ¬ e.2.Accepted) + payloadsDropped publishes)
  sends : (p.inFlight ++ payloadsHanded publishes).Perm (ended.map Prod.fst ++ p'.inFlight)
  made : payloadsMade publishes = (payloadsHanded publishes).length + payloadsDropped publishes

namespace Balance

variable {p p' p'' : Publisher Record Cache}
  {publishes publishes' : List (Bool × Iteration World Record Cache)}
  {ended ended' : List (Payload × Answer)}

theorem refl (p : Publisher Record Cache) :
    p.Balance ([] : List (Bool × Iteration World Record Cache)) [] p :=
  ⟨by simp, by simp [payloadsDropped, payloadsMade], by simp [payloadsHanded], rfl⟩

theorem trans (h : p.Balance publishes ended p') (h' : p'.Balance publishes' ended' p'') :
    p.Balance (publishes ++ publishes') (ended ++ ended') p'' := by
  have hdropped : payloadsDropped (publishes ++ publishes') =
      payloadsDropped publishes + payloadsDropped publishes' := by
    simp [payloadsDropped, payloadsMade]
  have hhanded : payloadsHanded (publishes ++ publishes') =
      payloadsHanded publishes ++ payloadsHanded publishes' :=
    List.flatMap_append
  constructor
  case sent =>
    rw [h'.sent, h.sent, List.countP_append, UInt64.ofNat_add, UInt64.add_assoc]
  case failed =>
    rw [h'.failed, h.failed, List.countP_append, hdropped, UInt64.add_assoc, ← UInt64.ofNat_add]
    congr 2
    omega
  case sends =>
    -- what was in flight in between has ended since or is in flight still
    have hrest : (ended.map Prod.fst ++ p'.inFlight ++ payloadsHanded publishes').Perm
        (ended.map Prod.fst ++ (ended'.map Prod.fst ++ p''.inFlight)) := by
      rw [List.append_assoc]
      exact h'.sends.append_left _
    rw [hhanded, ← List.append_assoc, List.map_append, List.append_assoc (ended.map Prod.fst)]
    exact (h.sends.append_right _).trans hrest
  case made =>
    have hmade : payloadsMade (publishes ++ publishes') =
        payloadsMade publishes + payloadsMade publishes' := by
      simp [payloadsMade]
    rw [hmade, hdropped, hhanded, List.length_append, h.made, h'.made]
    omega

end Balance

end Publisher

theorem Service.balance_step (s : Service World Record Cache) (next : Service.Step World) :
    s.publisher.Balance (s.publish? next).toList (s.end? next).toList (s.step next).publisher := by
  cases next with
  | change c => exact .refl _
  | publish look now runtime =>
    cases runtime with
    | true =>
      obtain ⟨hcount, hstats, hinFlight⟩ :=
        s.publisher.iterate_with_runtime s.registry look now
      constructor
      case sent => simp [Service.step, Service.end?, hstats]
      case failed =>
        simp [Service.step, Service.end?, Service.publish?, payloadsDropped, payloadsMade, hstats]
      case sends => simp [Service.step, Service.end?, Service.publish?, payloadsHanded, hinFlight]
      case made =>
        simp [Service.publish?, payloadsDropped, payloadsMade, payloadsHanded, hcount]
    | false =>
      obtain ⟨hhanded, hinFlight, hstats⟩ :=
        s.publisher.iterate_without_runtime s.registry look now
      constructor
      case sent => simp [Service.step, Service.end?, hstats]
      case failed =>
        simp [Service.step, Service.end?, Service.publish?, payloadsDropped, payloadsMade, hstats]
      case sends =>
        simp [Service.step, Service.end?, Service.publish?, payloadsHanded, hinFlight, hhanded]
      case made =>
        simp [Service.publish?, payloadsDropped, payloadsMade, payloadsHanded, hhanded]
  | answer position answer =>
    cases hsend : s.publisher.inFlight[position]? with
    | none =>
      have hstep : (s.step (.answer position answer)).publisher = s.publisher :=
        Publisher.answered_of_none hsend answer
      have hend : s.end? (.answer position answer) = none := by simp [Service.end?, hsend]
      rw [hstep, hend]
      exact .refl _
    | some payload =>
      have hstep : (s.step (.answer position answer)).publisher = _ :=
        Publisher.answered_of_some hsend answer
      have hend : s.end? (.answer position answer) = some (payload, answer) := by
        simp [Service.end?, hsend]
      rw [hstep, hend]
      constructor
      case sent => by_cases h : answer.Accepted <;> simp [h, Stats.countSent, Stats.countFailed]
      case failed =>
        by_cases h : answer.Accepted <;>
          simp [h, Stats.countSent, Stats.countFailed, Service.publish?, payloadsDropped,
            payloadsMade]
      case sends =>
        obtain ⟨hlt, rfl⟩ := List.getElem?_eq_some_iff.1 hsend
        simpa [Service.publish?, payloadsHanded] using
          (List.getElem_cons_eraseIdx_perm hlt).symm
      case made => rfl

theorem Service.balance_run (s : Service World Record Cache) (steps : List (Service.Step World)) :
    s.publisher.Balance (s.publishes steps) (s.ended steps) (s.run steps).publisher := by
  induction steps generalizing s with
  | nil => exact .refl _
  | cons next rest ih => exact (s.balance_step next).trans (ih (s.step next))

theorem Publisher.start_of_new {backend : Backend Record Cache} {config : StepConfig} {serial : Nat}
    {p : Publisher Record Cache} (h : new backend config serial = .ok p) :
    p.stats = Stats.start ∧ p.inFlight = [] := by
  unfold new at h
  cases hvalidate : config.validate with
  | error e => simp [hvalidate, bind, Except.bind] at h
  | ok _ =>
    simp only [hvalidate, bind, Except.bind, pure, Except.pure, Except.ok.injEq] at h
    subst h
    exact ⟨rfl, rfl⟩

/-- Whatever a publisher has been through, with less than `2 ^ 64` payloads in all: each of them is
counted as sent or as failed or in flight. Counted as sent are the sends that ended with a code from
200 to 299, and as failed the others that ended and what was dropped. A publish with something to
run sends on hands all its payloads over, one without hands over none and counts them as failed at
once, and it makes no difference if a send ends while payloads are being handed over. -/
theorem one_outcome {backend : Backend Record Cache} {config : StepConfig} {serial : Nat}
    {p : Publisher Record Cache} (hp : Publisher.new backend config serial = .ok p)
    (r : Registry World) (steps : List (Service.Step World))
    (hmade : payloadsMade ((Service.mk p r).publishes steps) < 2 ^ 64) :
    let s := (Service.mk p r).run steps
    let publishes := (Service.mk p r).publishes steps
    let ended := (Service.mk p r).ended steps
    s.publisher.stats.sent.toNat + s.publisher.stats.failed.toNat + s.publisher.inFlight.length =
        payloadsMade publishes ∧
      s.publisher.stats.sent.toNat = (ended.countP fun e => e.2.Accepted) ∧
      s.publisher.stats.failed.toNat =
        (ended.countP fun e => ¬ e.2.Accepted) + payloadsDropped publishes ∧
      (payloadsHanded publishes).Perm (ended.map Prod.fst ++ s.publisher.inFlight) ∧
      ∀ (look : Registry World → World) (now : UInt64),
        (let it := s.publisher.iterate s.registry look now true
         it.handed.length = it.summary.payloads ∧ it.publisher.stats = s.publisher.stats ∧
           it.publisher.inFlight = s.publisher.inFlight ++ it.handed) ∧
        (let it := s.publisher.iterate s.registry look now false
         it.handed = [] ∧ it.publisher.inFlight = s.publisher.inFlight ∧
           it.publisher.stats = { s.publisher.stats with
             failed := s.publisher.stats.failed + UInt64.ofNat it.summary.payloads }) ∧
        ∀ (runtime : Bool) (front back : List Payload) (position : Nat) (answer : Answer),
          let done := s.publisher.progress s.registry look now runtime
          let early := ({ s.publisher with cache := done.cache }.dispatch front runtime).1
          done.payloads = front ++ back → position < early.inFlight.length →
          ((early.answered position answer).1.dispatch back runtime).1 =
            (s.run [.publish look now runtime, .answer position answer]).publisher := by
  intro s publishes ended
  obtain ⟨hstats, hinFlight⟩ := Publisher.start_of_new hp
  obtain ⟨hsent, hfailed, hsends, hall⟩ := (Service.mk p r).balance_run steps
  have hperm : (payloadsHanded publishes).Perm (ended.map Prod.fst ++ s.publisher.inFlight) := by
    rw [hinFlight] at hsends
    exact hsends
  have hsum : payloadsMade publishes = (ended.countP fun e => e.2.Accepted) +
      ((ended.countP fun e => ¬ e.2.Accepted) + payloadsDropped publishes) +
      s.publisher.inFlight.length := by
    have hlength := hperm.length_eq
    have hcount : ended.length = _ :=
      List.length_eq_countP_add_countP fun e => decide e.2.Accepted
    simp only [List.length_append, List.length_map, decide_eq_true_eq] at hlength hcount
    have hparts : payloadsMade publishes =
        (payloadsHanded publishes).length + payloadsDropped publishes := hall
    omega
  -- so the counters, which start at zero, have not wrapped around
  have hbound : payloadsMade publishes < UInt64.size := hmade
  have haccepted : (ended.countP fun e => e.2.Accepted) < UInt64.size := by omega
  have hrefused : (ended.countP fun e => ¬ e.2.Accepted) + payloadsDropped publishes <
      UInt64.size := by
    omega
  have hsent' : s.publisher.stats.sent.toNat = ended.countP fun e => e.2.Accepted := by
    rw [show s.publisher.stats.sent = _ from hsent, hstats]
    simp only [Stats.start, UInt64.zero_add]
    exact UInt64.toNat_ofNat_of_lt' haccepted
  have hfailed' : s.publisher.stats.failed.toNat =
      (ended.countP fun e => ¬ e.2.Accepted) + payloadsDropped publishes := by
    rw [show s.publisher.stats.failed = _ from hfailed, hstats]
    simp only [Stats.start, UInt64.zero_add]
    exact UInt64.toNat_ofNat_of_lt' hrefused
  refine ⟨by omega, hsent', hfailed', hperm, ?_⟩
  intro look now
  refine ⟨s.publisher.iterate_with_runtime s.registry look now,
    s.publisher.iterate_without_runtime s.registry look now, ?_⟩
  intro runtime front back position answer done early hdone hposition
  have hlate := Publisher.dispatch_answered { s.publisher with cache := done.cache } front back
    runtime answer hposition
  rw [← hdone] at hlate
  exact hlate

/-- Three counters, published as text in batches of two, make two payloads. They do so twice, the
second time without anything to run sends on, and then the second send is accepted. -/
theorem one_outcome_counters :
    let backend := Plain.backend ⟨.seconds, none, false⟩
    let config : StepConfig := ⟨true, Span.of 60 0, 2⟩
    let p : Publisher String Unit := ⟨backend, config, none, (), Stats.start, []⟩
    let ids := ["a", "b", "c"].map fun name => Id.new name .counter
    let r : Registry Unit :=
      ⟨ids.map fun id => ⟨id, .counter (some .start)⟩, ids.zipIdx, [], none, .asEntered⟩
    let look : Registry Unit → Unit := fun _ => ()
    let steps : List (Service.Step Unit) :=
      [.publish look 0 true, .publish look 1 false, .answer 1 (.ok ⟨202, ""⟩)]
    let s := (Service.mk p r).run steps
    Publisher.new backend config 0 = .ok p ∧
      payloadsMade ((Service.mk p r).publishes steps) < 2 ^ 64 ∧
      s.publisher.stats.sent.toNat + s.publisher.stats.failed.toNat +
        s.publisher.inFlight.length = 4 ∧
      s.publisher.stats.sent.toNat = 1 ∧ s.publisher.stats.failed.toNat = 2 := by
  intro backend config p ids r look steps s
  have hfour : payloadsMade ((Service.mk p r).publishes steps) = 4 := by decide +kernel +revert
  have haccepted : (((Service.mk p r).ended steps).countP fun e => e.2.Accepted) = 1 := by
    decide +kernel +revert
  have hrefused : (((Service.mk p r).ended steps).countP fun e => ¬ e.2.Accepted) +
      payloadsDropped ((Service.mk p r).publishes steps) = 2 := by
    decide +kernel +revert
  have hp : Publisher.new backend config 0 = .ok p := by rfl
  have hmade : payloadsMade ((Service.mk p r).publishes steps) < 2 ^ 64 := by omega
  obtain ⟨hsum, hsent, hfailed, -⟩ := one_outcome hp r steps hmade
  exact ⟨hp, hmade, hsum.trans hfour, hsent.trans haccepted, hfailed.trans hrefused⟩

end Telemetry
