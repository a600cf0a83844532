import Mathlib.Data.List.Induction
import Mathlib.Logic.Function.Basic
import Telemetry.Proofs.Publish.Calls

/-!
# Failures stay where they are

A send may be answered in any way and at any time, and the encoding of a batch may fail. Neither
reaches further than it must: answers change the counters of the publisher and nothing else, and a
batch that cannot be encoded is missing from its own publish only. To say so, two runs of a service
are compared in which the same is done to the registry and publishes are made at the same times.

## Main definitions

- `Faults`, `Publisher.iterateWith` — a publish in which chosen encodings fail
- `Backend.survivors` — the payloads that are left by faults
- `Service.Trial`, `Service.transcript` — a step with its faults, and what is seen of a whole run
- `Service.quiet`, `Service.plan` — a run without the answers, and without the faults as well
- `Service.Published.calm`, `Service.Published.work` — a publish as far as it does not depend on the
  answers, and as far as it does not depend on the faults either

## Main statements

- `Publisher.iterateWith_noFaults` — without faults this is the publish that it was
- `Service.Transcript.Alike.foldl_plan` — a plan comes to the same whatever the answers and faults
- `Service.failures_isolated` — two runs of one plan
-/

namespace Telemetry

variable {World Record Cache : Type}

/-! ## Publishes with faults -/

/-- The encodings of a publish that fail, by their numbers, and the errors. -/
abbrev Faults := Nat → Option Error

def noFaults : Faults := fun _ => none

namespace Backend

/-- A backend during one encoding, which fails if there is an error. -/
def failing (backend : Backend Record Cache) : Option Error → Backend Record Cache
  | none => backend
  | some e => { backend with encode := fun _ => ⟨.error e, []⟩ }

/-- The payloads of several lists of records, of which those with a fault have none. -/
def survivors (backend : Backend Record Cache) (faults : Faults) (encoded : List (List Record)) :
    List Payload :=
  encoded.zipIdx.flatMap fun batch =>
    if (faults batch.2).isSome then [] else backend.payloadsOf batch.1

theorem payloadsOf_failing (backend : Backend Record Cache) (fault : Option Error)
    (records : List Record) :
    (backend.failing fault).payloadsOf records =
      if fault.isSome then [] else backend.payloadsOf records := by
  cases fault <;> rfl

theorem survivors_concat (backend : Backend Record Cache) (faults : Faults)
    (encoded : List (List Record)) (records : List Record) :
    backend.survivors faults (encoded ++ [records]) =
      backend.survivors faults encoded ++
        (backend.failing (faults encoded.length)).payloadsOf records := by
  rw [survivors, List.zipIdx_append, List.flatMap_append, payloadsOf_failing, Nat.zero_add]
  simp [survivors]

theorem survivors_congr (backend : Backend Record Cache) {faults faults' : Faults}
    {encoded : List (List Record)} (h : ∀ n < encoded.length, faults n = faults' n) :
    backend.survivors faults encoded = backend.survivors faults' encoded := by
  induction encoded using List.reverseRecOn with
  | nil => rfl
  | append_singleton front last ih =>
    rw [List.length_append, List.length_singleton] at h
    rw [survivors_concat, survivors_concat, ih fun n hn => h n (by omega),
      h front.length (by omega)]

/-- One more fault takes away the payloads of its batch and no others. -/
theorem survivors_update (backend : Backend Record Cache) {faults : Faults} {n : Nat}
    (hfree : faults n = none) (e : Error) {encoded : List (List Record)} {records : List Record}
    (hn : encoded[n]? = some records) :
    ∃ front back, backend.survivors faults encoded = front ++ backend.payloadsOf records ++ back ∧
      backend.survivors (Function.update faults n (some e)) encoded = front ++ back := by
  induction encoded using List.reverseRecOn with
  | nil => simp at hn
  | append_singleton init last ih =>
    have hlt : n < (init ++ [last]).length := (List.getElem?_eq_some_iff.1 hn).1
    rw [List.length_append, List.length_singleton] at hlt
    rw [survivors_concat, survivors_concat]
    by_cases hlast : n = init.length
    · subst hlast
      rw [List.getElem?_concat_length] at hn
      obtain rfl := Option.some.inj hn
      have hsame : backend.survivors (Function.update faults init.length (some e)) init =
          backend.survivors faults init :=
        backend.survivors_congr fun m hm => Function.update_of_ne (Nat.ne_of_lt hm) _ _
      refine ⟨backend.survivors faults init, [], ?_, ?_⟩
      · rw [hfree, List.append_nil]
        rfl
      · rw [hsame, Function.update_self]
        rfl
    · rw [List.getElem?_append_left (by omega)] at hn
      obtain ⟨front, back, hwith, hwithout⟩ := ih hn
      rw [hwith, hwithout, Function.update_of_ne (Ne.symm hlast)]
      exact ⟨front, back ++ _, List.append_assoc .., List.append_assoc ..⟩

end Backend

/-- A fault does not show before the records of a batch are encoded. -/
theorem collectBatch_failing (backend : Backend Record Cache) (fault : Option Error)
    (view : View World) (r : Registry World) (cache : Cache) (batch : List Nat) :
    collectBatch (backend.failing fault) view r cache batch =
      collectBatch backend view r cache batch := by
  cases fault <;> rfl

/-- One batch of a publish with faults. -/
def publishBatchWith (backend : Backend Record Cache) (faults : Faults) (view : View World)
    (runtime : Bool) (x : Progress World Record Cache) (batch : List Nat) :
    Progress World Record Cache :=
  publishBatch (backend.failing (faults x.encoded.length)) view runtime x batch

namespace Publisher

/-- The snapshots of all meters, written and encoded batch by batch, with faults. -/
def progressWith (p : Publisher Record Cache) (faults : Faults) (r : Registry World)
    (look : Registry World → World) (now : UInt64) (runtime : Bool) :
    Progress World Record Cache :=
  (batches r.handles p.config.batchSize).foldl
    (publishBatchWith p.backend faults (p.viewOf r look now) runtime)
    ⟨r, p.backend.retain p.cache (r.meters.map fun m => m.id.toIdentity), ⟨0, 0, 0, 0⟩,
      [], [], [], []⟩

/-- A publish with faults. -/
def iterateWith (p : Publisher Record Cache) (faults : Faults) (r : Registry World)
    (look : Registry World → World) (now : UInt64) (runtime : Bool) :
    Iteration World Record Cache :=
  p.concluded r (p.progressWith faults r look now runtime) runtime

theorem iterateWith_noFaults (p : Publisher Record Cache) (r : Registry World)
    (look : Registry World → World) (now : UInt64) (runtime : Bool) :
    p.iterateWith noFaults r look now runtime = p.iterate r look now runtime :=
  rfl

/-- A publisher without what it knows of its sends. -/
def calm (p : Publisher Record Cache) : Publisher Record Cache :=
  { p with stats := .start, inFlight := [] }

end Publisher

namespace Iteration

/-- A publish without what its publisher knows of its sends. -/
def calm (it : Iteration World Record Cache) : Iteration World Record Cache :=
  { it with publisher := it.publisher.calm }

/-- A publish without its payloads. -/
def work (it : Iteration World Record Cache) : Iteration World Record Cache :=
  { it.calm with summary := { it.summary with payloads := 0 }, handed := [], events := [] }

end Iteration

/-! ## What a fault does to a publish -/

/-- Two publishes have come to the same, apart from their payloads. -/
structure Progress.Alike (x y : Progress World Record Cache) : Prop where
  registry : x.registry = y.registry
  cache : x.cache = y.cache
  shots : x.shots = y.shots
  encoded : x.encoded = y.encoded
  batches : x.summary.batches = y.summary.batches
  records : x.summary.records = y.summary.records
  skipped : x.summary.skipped = y.summary.skipped

section Batches

variable {backend : Backend Record Cache} {view : View World} {runtime : Bool}

/-- A batch does the same to two publishes, whether its encoding fails in either. -/
theorem Progress.Alike.publishBatch {x y : Progress World Record Cache} (h : x.Alike y)
    (fault fault' : Option Error) (batch : List Nat) :
    (publishBatch (backend.failing fault) view runtime x batch).Alike
      (publishBatch (backend.failing fault') view runtime y batch) := by
  obtain ⟨hbatches, hrecords, hskipped, hencoded⟩ :=
    publishBatch_adds (backend.failing fault) view runtime x batch
  obtain ⟨hbatches', hrecords', hskipped', hencoded'⟩ :=
    publishBatch_adds (backend.failing fault') view runtime y batch
  obtain ⟨hregistry, hshots, hcache⟩ :=
    publishBatch_collectBatch (backend.failing fault) view runtime x batch
  obtain ⟨hregistry', hshots', hcache'⟩ :=
    publishBatch_collectBatch (backend.failing fault') view runtime y batch
  have hcollected : collectBatch (backend.failing fault) view x.registry x.cache batch =
      collectBatch (backend.failing fault') view y.registry y.cache batch := by
    rw [collectBatch_failing, collectBatch_failing, h.registry, h.cache]
  rw [hcollected] at hrecords hskipped hencoded hregistry hshots hcache
  constructor
  case registry => rw [hregistry, hregistry']
  case cache => rw [hcache, hcache']
  case shots => rw [hshots, hshots', h.shots]
  case encoded =>
    obtain ⟨hnone, heq, -⟩ | ⟨hsome, heq, -⟩ := hencoded
    · obtain ⟨-, heq', -⟩ | ⟨hsome', -⟩ := hencoded'
      · rw [heq, heq', h.encoded]
      · exact absurd hnone hsome'
    · obtain ⟨hnone', -⟩ | ⟨-, heq', -⟩ := hencoded'
      · exact absurd hnone' hsome
      · rw [heq, heq', h.encoded]
  case batches => rw [hbatches, hbatches', h.batches]
  case records => rw [hrecords, hrecords', h.records]
  case skipped => rw [hskipped, hskipped', h.skipped]

theorem Progress.Alike.foldl {x y : Progress World Record Cache} (h : x.Alike y)
    (faults faults' : Faults) (batches : List (List Nat)) :
    (batches.foldl (publishBatchWith backend faults view runtime) x).Alike
      (batches.foldl (publishBatchWith backend faults' view runtime) y) := by
  induction batches generalizing x y with
  | nil => exact h
  | cons batch rest ih => exact ih (h.publishBatch _ _ batch)

/-- One more batch adds its payloads if its encoding has no fault. -/
theorem payloads_publishBatchWith {faults : Faults} {x : Progress World Record Cache}
    (h : x.payloads = backend.survivors faults x.encoded) (batch : List Nat) :
    let x' := publishBatchWith backend faults view runtime x batch
    x'.payloads = backend.survivors faults x'.encoded := by
  intro x'
  obtain ⟨-, -, -, hadds⟩ :=
    publishBatch_adds (backend.failing (faults x.encoded.length)) view runtime x batch
  obtain ⟨-, hencoded, hpayloads, -⟩ | ⟨-, hencoded, hpayloads, -⟩ := hadds
  · calc x'.payloads
        = backend.survivors faults x.encoded := hpayloads.trans h
      _ = backend.survivors faults x'.encoded := congrArg _ hencoded.symm
  · refine hpayloads.trans ?_
    rw [h, ← backend.survivors_concat]
    exact congrArg _ hencoded.symm

theorem payloads_foldl {faults : Faults} {x : Progress World Record Cache}
    (h : x.payloads = backend.survivors faults x.encoded) (batches : List (List Nat)) :
    let x' := batches.foldl (publishBatchWith backend faults view runtime) x
    x'.payloads = backend.survivors faults x'.encoded := by
  induction batches generalizing x with
  | nil => exact h
  | cons batch rest ih => exact ih (payloads_publishBatchWith h batch)

end Batches

namespace Publisher

variable (p : Publisher Record Cache) (r : Registry World) (look : Registry World → World)
  (now : UInt64)

/-- Whatever encodings fail, a publish takes, writes and encodes the same. -/
theorem alike_progressWith (faults faults' : Faults) (runtime : Bool) :
    (p.progressWith faults r look now runtime).Alike
      (p.progressWith faults' r look now runtime) := by
  have hstart (x : Progress World Record Cache) : x.Alike x := ⟨rfl, rfl, rfl, rfl, rfl, rfl, rfl⟩
  exact (hstart _).foldl faults faults' _

/-- What is handed over are the payloads of the encodings without a fault, if a send can be run. -/
theorem handed_iterateWith (faults : Faults) (runtime : Bool) :
    let it := p.iterateWith faults r look now runtime
    it.handed = if runtime then p.backend.survivors faults it.encoded else [] := by
  have hnothing (r : Registry World) (cache : Cache) :
      (⟨r, cache, ⟨0, 0, 0, 0⟩, [], [], [], []⟩ : Progress World Record Cache).payloads =
        p.backend.survivors faults [] :=
    rfl
  cases runtime with
  | true => exact payloads_foldl (hnothing r _) _
  | false => rfl

/-- The payloads do not show in the work of a publish. -/
theorem work_iterateWith (faults faults' : Faults) (runtime : Bool) :
    (p.iterateWith faults r look now runtime).work =
      (p.iterateWith faults' r look now runtime).work := by
  have hwork (done : Progress World Record Cache) :
      (p.concluded r done runtime).work =
        ⟨{ p.calm with cache := done.cache }, done.registry, { done.summary with payloads := 0 },
          done.shots, done.encoded, [], []⟩ := by
    cases runtime <;> rfl
  have halike := p.alike_progressWith r look now faults faults' runtime
  have hsummary : { (p.progressWith faults r look now runtime).summary with payloads := 0 } =
      { (p.progressWith faults' r look now runtime).summary with payloads := 0 } := by
    rw [PublishSummary.mk.injEq]
    exact ⟨halike.batches, halike.records, rfl, halike.skipped⟩
  rw [iterateWith, iterateWith, hwork, hwork, hsummary, halike.cache, halike.registry,
    halike.shots, halike.encoded]

/-- What a publisher knows of its sends does not show in a publish. -/
theorem calm_iterateWith {p q : Publisher Record Cache} (h : p.calm = q.calm) (faults : Faults)
    (r : Registry World) (look : Registry World → World) (now : UInt64) (runtime : Bool) :
    (p.iterateWith faults r look now runtime).calm =
      (q.iterateWith faults r look now runtime).calm := by
  have hcalm (p : Publisher Record Cache) : (p.iterateWith faults r look now runtime).calm =
      (p.calm.iterateWith faults r look now runtime).calm := by
    cases runtime <;> rfl
  rw [hcalm p, hcalm q, h]

/-- An answer is logged, and known to the publisher, and that is all. -/
theorem calm_answered (p : Publisher Record Cache) (position : Nat) (answer : Answer) :
    (p.answered position answer).1.calm = p.calm ∧
      ∀ e ∈ (p.answered position answer).2, e.isSendOutcome = true := by
  unfold answered
  split
  · exact ⟨rfl, by simp⟩
  · next payload _ =>
    refine ⟨rfl, ?_⟩
    rw [List.forall_mem_singleton]
    unfold judge
    split
    · split <;> rfl
    · rfl

end Publisher

/-! ## Whole runs -/

namespace Service

def Step.isAnswer : Step World → Bool
  | .answer .. => true
  | _ => false

/-- A step of a service, and the encodings that fail if it is a publish. -/
structure Trial (World : Type) where
  step : Step World
  faults : Faults

/-- A run without the answers. -/
def quiet (trials : List (Trial World)) : List (Trial World) :=
  trials.filter fun e => !e.step.isAnswer

/-- What is done in a run: registrations and removals, recordings and publishes, each with the time
that it is made at. -/
def plan (trials : List (Trial World)) : List (Step World) := (quiet trials).map Trial.step

/-- A publish that was made. -/
structure Published (World Record Cache : Type) where
  faults : Faults
  runtime : Bool
  outcome : Iteration World Record Cache

/-- A publish that was made, without its faults and payloads. -/
def Published.work (p : Published World Record Cache) : Bool × Iteration World Record Cache :=
  (p.runtime, p.outcome.work)

/-- A publish that was made, without what was known of sends. -/
def Published.calm (p : Published World Record Cache) : Published World Record Cache :=
  { p with outcome := p.outcome.calm }

/-- What is seen of a run: the service at its end, all publishes, and what was logged by them and
about the sends. -/
structure Transcript (World Record Cache : Type) where
  service : Service World Record Cache
  publishes : List (Published World Record Cache)
  events : List LogEvent

namespace Transcript

def next (t : Transcript World Record Cache) (e : Trial World) : Transcript World Record Cache :=
  match e.step with
  | .change c => { t with service := t.service.step (.change c) }
  | .publish look now runtime =>
    let it := t.service.publisher.iterateWith e.faults t.service.registry look now runtime
    ⟨⟨it.publisher, it.registry⟩, t.publishes ++ [⟨e.faults, runtime, it⟩], t.events ++ it.events⟩
  | .answer position answer =>
    let (publisher, events) := t.service.publisher.answered position answer
    ⟨⟨publisher, t.service.registry⟩, t.publishes, t.events ++ events⟩

end Transcript

def transcript (s : Service World Record Cache) (trials : List (Trial World)) :
    Transcript World Record Cache :=
  trials.foldl Transcript.next ⟨s, [], []⟩

/-- A run without faults is a run. -/
theorem service_transcript (s : Service World Record Cache) (steps : List (Step World)) :
    (s.transcript (steps.map fun step => ⟨step, noFaults⟩)).service = s.run steps := by
  have hfold (t : Transcript World Record Cache) :
      ((steps.map fun step => (⟨step, noFaults⟩ : Trial World)).foldl Transcript.next t).service =
        t.service.run steps := by
    induction steps generalizing t with
    | nil => rfl
    | cons step rest ih =>
      have hstep : (t.next ⟨step, noFaults⟩).service = t.service.step step := by
        cases step <;> rfl
      rw [List.map_cons, List.foldl_cons, ih, hstep]
      rfl
  exact hfold _

namespace Transcript

variable {x y z : Transcript World Record Cache}

/-- The same was done in two runs, apart from payloads and from what became of them. -/
structure Alike (x y : Transcript World Record Cache) : Prop where
  registry : x.service.registry = y.service.registry
  publisher : x.service.publisher.calm = y.service.publisher.calm
  publishes : x.publishes.map Published.work = y.publishes.map Published.work

/-- The same was done in two runs, apart from what became of the payloads. -/
structure Same (x y : Transcript World Record Cache) : Prop where
  registry : x.service.registry = y.service.registry
  publisher : x.service.publisher.calm = y.service.publisher.calm
  publishes : x.publishes.map Published.calm = y.publishes.map Published.calm
  events : x.events.filter (fun e => !e.isSendOutcome) =
    y.events.filter fun e => !e.isSendOutcome

theorem Alike.refl (x : Transcript World Record Cache) : x.Alike x := ⟨rfl, rfl, rfl⟩

theorem Alike.trans (h : x.Alike y) (h' : y.Alike z) : x.Alike z :=
  ⟨h.registry.trans h'.registry, h.publisher.trans h'.publisher, h.publishes.trans h'.publishes⟩

theorem Alike.symm (h : x.Alike y) : y.Alike x :=
  ⟨h.registry.symm, h.publisher.symm, h.publishes.symm⟩

theorem Same.refl (x : Transcript World Record Cache) : x.Same x := ⟨rfl, rfl, rfl, rfl⟩

theorem Same.trans (h : x.Same y) (h' : y.Same z) : x.Same z :=
  ⟨h.registry.trans h'.registry, h.publisher.trans h'.publisher, h.publishes.trans h'.publishes,
    h.events.trans h'.events⟩

theorem Same.symm (h : x.Same y) : y.Same x :=
  ⟨h.registry.symm, h.publisher.symm, h.publishes.symm, h.events.symm⟩

theorem Same.alike (h : x.Same y) : x.Alike y := by
  refine ⟨h.registry, h.publisher, ?_⟩
  have hwork := congrArg (List.map Published.work) h.publishes
  rw [List.map_map, List.map_map] at hwork
  exact hwork

/-- An answer changes nothing that is done. -/
theorem same_next_of_isAnswer (x : Transcript World Record Cache) {e : Trial World}
    (h : e.step.isAnswer = true) : (x.next e).Same x := by
  obtain ⟨step, faults⟩ := e
  cases step with
  | change c => exact absurd h Bool.false_ne_true
  | publish look now runtime => exact absurd h Bool.false_ne_true
  | answer position answer =>
    obtain ⟨hpublisher, hevents⟩ := x.service.publisher.calm_answered position answer
    have hnone : ((x.service.publisher.answered position answer).2.filter
        fun e => !e.isSendOutcome) = [] :=
      List.filter_eq_nil_iff.2 (by simpa using hevents)
    refine ⟨rfl, hpublisher, rfl, ?_⟩
    simp only [next, List.filter_append]
    rw [hnone, List.append_nil]

/-- The same step does the same, also with the same faults. -/
theorem Same.next (h : x.Same y) (e : Trial World) : (x.next e).Same (y.next e) := by
  obtain ⟨step, faults⟩ := e
  cases step with
  | change c =>
    exact ⟨congrArg (fun r => r.change c) h.registry, h.publisher, h.publishes, h.events⟩
  | publish look now runtime =>
    let it := fun t : Transcript World Record Cache =>
      t.service.publisher.iterateWith faults t.service.registry look now runtime
    have hcalm : (it x).calm = (it y).calm := by
      have hcalm :=
        Publisher.calm_iterateWith h.publisher faults x.service.registry look now runtime
      rw [hcalm, h.registry]
    have hregistry := congrArg Iteration.registry hcalm
    have hpublisher := congrArg Iteration.publisher hcalm
    have hevents := congrArg (fun outcome : Iteration World Record Cache =>
      outcome.events.filter fun e => !e.isSendOutcome) hcalm
    refine ⟨hregistry, hpublisher, ?_, ?_⟩
    · simp only [Transcript.next, List.map_append, List.map_cons, List.map_nil]
      refine congrArg₂ (fun front last => front ++ [last]) h.publishes ?_
      exact congrArg (Published.mk faults runtime) hcalm
    · simp only [Transcript.next, List.filter_append]
      rw [h.events]
      exact congrArg (_ ++ ·) hevents
  | answer position answer =>
    have hx := x.same_next_of_isAnswer (e := ⟨.answer position answer, faults⟩) rfl
    exact (hx.trans h).trans (y.same_next_of_isAnswer rfl).symm

/-- The same step does the same, whatever the faults, apart from payloads. -/
theorem Alike.next (h : x.Alike y) {e e' : Trial World} (hstep : e.step = e'.step) :
    (x.next e).Alike (y.next e') := by
  obtain ⟨step, faults⟩ := e
  obtain ⟨_, faults'⟩ := e'
  obtain rfl : step = _ := hstep
  cases step with
  | change c => exact ⟨congrArg (fun r => r.change c) h.registry, h.publisher, h.publishes⟩
  | publish look now runtime =>
    have hwork : (x.service.publisher.iterateWith faults x.service.registry look now runtime).work =
        (y.service.publisher.iterateWith faults' y.service.registry look now runtime).work := by
      have hcalm := congrArg Iteration.work
        (Publisher.calm_iterateWith h.publisher faults y.service.registry look now runtime)
      rw [h.registry]
      exact hcalm.trans (Publisher.work_iterateWith ..)
    have hregistry := congrArg Iteration.registry hwork
    have hpublisher := congrArg Iteration.publisher hwork
    refine ⟨hregistry, hpublisher, ?_⟩
    simp only [Transcript.next, List.map_append, List.map_cons, List.map_nil]
    refine congrArg₂ (fun front last => front ++ [last]) h.publishes ?_
    exact congrArg (Prod.mk runtime) hwork
  | answer position answer =>
    have hx := x.same_next_of_isAnswer (e := ⟨.answer position answer, faults⟩) rfl
    have hy := y.same_next_of_isAnswer (e := ⟨.answer position answer, faults'⟩) rfl
    exact (hx.alike.trans h).trans hy.alike.symm

theorem Same.foldl_quiet (h : x.Same y) (trials : List (Trial World)) :
    (trials.foldl Transcript.next x).Same ((quiet trials).foldl Transcript.next y) := by
  induction trials generalizing x y with
  | nil => exact h
  | cons e rest ih =>
    by_cases hanswer : e.step.isAnswer = true
    · have hquiet : quiet (e :: rest) = quiet rest := by simp [quiet, hanswer]
      rw [hquiet]
      exact ih ((x.same_next_of_isAnswer hanswer).trans h)
    · have hquiet : quiet (e :: rest) = e :: quiet rest := by simp [quiet, hanswer]
      rw [hquiet]
      exact ih (h.next e)

/-- A plan comes to the same whatever is answered and whichever encodings fail. -/
theorem Alike.foldl_plan (h : x.Alike y) (trials : List (Trial World)) :
    (trials.foldl Transcript.next x).Alike
      (((plan trials).map fun step => ⟨step, noFaults⟩).foldl Transcript.next y) := by
  have hquiet := ((Same.refl x).foldl_quiet trials).alike
  refine hquiet.trans ?_
  unfold plan
  generalize quiet trials = trials
  induction trials generalizing x y with
  | nil => exact h
  | cons e rest ih => exact ih (h.next rfl) ((Same.refl _).foldl_quiet _).alike

/-- What was handed over are the payloads of the encodings without a fault. -/
structure Survives (backend : Backend Record Cache) (t : Transcript World Record Cache) : Prop where
  serves : t.service.publisher.backend = backend
  handed : ∀ p ∈ t.publishes, p.outcome.handed =
    if p.runtime then backend.survivors p.faults p.outcome.encoded else []

theorem Survives.next {backend : Backend Record Cache} (h : x.Survives backend) (e : Trial World) :
    (x.next e).Survives backend := by
  obtain ⟨step, faults⟩ := e
  cases step with
  | change c => exact ⟨h.serves, h.handed⟩
  | publish look now runtime =>
    have hhanded :=
      x.service.publisher.handed_iterateWith x.service.registry look now faults runtime
    rw [h.serves] at hhanded
    refine ⟨?_, List.forall_mem_append.2 ⟨h.handed, List.forall_mem_singleton.2 hhanded⟩⟩
    rw [← h.serves]
    cases runtime <;> rfl
  | answer position answer =>
    refine ⟨?_, h.handed⟩
    exact (x.service.publisher.publisher_answered position answer).1.trans h.serves

theorem Survives.foldl {backend : Backend Record Cache} (h : x.Survives backend)
    (trials : List (Trial World)) : (trials.foldl Transcript.next x).Survives backend := by
  induction trials generalizing x with
  | nil => exact h
  | cons e rest ih => exact ih (h.next e)

end Transcript

/-- The publishes of two runs of one plan at one place differ by their faults: the same ones hand
over the same payloads, and one fault more takes away the payloads of its batch. -/
theorem Transcript.Alike.handed {backend : Backend Record Cache}
    {x y : Transcript World Record Cache} (h : x.Alike y) (hx : x.Survives backend)
    (hy : y.Survives backend) {i : Nat} {p q : Published World Record Cache}
    (hp : x.publishes[i]? = some p) (hq : y.publishes[i]? = some q) :
    (p.faults = q.faults → p.outcome.handed = q.outcome.handed) ∧
      ∀ n e records, p.faults n = none → q.faults = Function.update p.faults n (some e) →
        p.outcome.encoded[n]? = some records →
        ∃ front back,
          p.outcome.handed =
            front ++ (if p.runtime then backend.payloadsOf records else []) ++ back ∧
          q.outcome.handed = front ++ back := by
  have hwork : p.work = q.work := by
    have hsame := congrArg (fun publishes => publishes[i]?) h.publishes
    simp only [List.getElem?_map, hp, hq, Option.map_some] at hsame
    exact Option.some.inj hsame
  have hruntime : p.runtime = q.runtime := congrArg Prod.fst hwork
  have hencoded : p.outcome.encoded = q.outcome.encoded :=
    congrArg (fun work : Bool × Iteration World Record Cache => work.2.encoded) hwork
  have hhanded := hx.handed p (List.mem_of_getElem? hp)
  have hhanded' := hy.handed q (List.mem_of_getElem? hq)
  rw [← hruntime, ← hencoded] at hhanded'
  refine ⟨fun hfaults => by rw [hhanded, hhanded', hfaults], ?_⟩
  intro n e records hfree hfaults hn
  cases hrun : p.runtime with
  | true =>
    rw [hrun, if_pos rfl] at hhanded hhanded'
    rw [hhanded, hhanded', hfaults, if_pos rfl]
    exact backend.survivors_update hfree e hn
  | false =>
    rw [hrun, if_neg Bool.false_ne_true] at hhanded hhanded'
    exact ⟨[], [], by rw [hhanded, if_neg Bool.false_ne_true]; rfl, hhanded'⟩

/-- Two runs in which the same is done: they take the same snapshots, encode the same records and
leave the same meters. A publish with the same faults hands over the same payloads, whatever happened
before it, and one fault more takes away the payloads of its batch. If no fault differs, so that the
runs differ in the answers alone, then the same payloads are handed over in the same order, with the
same summaries, and all that is logged is the same but how sends ended. -/
theorem failures_isolated (s : Service World Record Cache) (a b : List (Trial World))
    (h : plan a = plan b) :
    let x := s.transcript a
    let y := s.transcript b
    x.service.registry = y.service.registry ∧
      x.service.publisher.calm = y.service.publisher.calm ∧
      x.publishes.map Published.work = y.publishes.map Published.work ∧
      (∀ (i : Nat) (p q : Published World Record Cache),
        x.publishes[i]? = some p → y.publishes[i]? = some q →
        (p.faults = q.faults → p.outcome.handed = q.outcome.handed) ∧
        ∀ n e records, p.faults n = none → q.faults = Function.update p.faults n (some e) →
          p.outcome.encoded[n]? = some records →
          ∃ front back,
            p.outcome.handed =
              front ++ (if p.runtime then s.publisher.backend.payloadsOf records else []) ++ back ∧
            q.outcome.handed = front ++ back) ∧
      (quiet a = quiet b →
        x.publishes.map Published.calm = y.publishes.map Published.calm ∧
        x.events.filter (fun e => !e.isSendOutcome) =
          y.events.filter fun e => !e.isSendOutcome) := by
  intro x y
  have halike : x.Alike y := by
    have hx := (Transcript.Alike.refl (⟨s, [], []⟩ : Transcript World Record Cache)).foldl_plan a
    have hy := (Transcript.Alike.refl (⟨s, [], []⟩ : Transcript World Record Cache)).foldl_plan b
    rw [h] at hx
    exact hx.trans hy.symm
  have hstart : (⟨s, [], []⟩ : Transcript World Record Cache).Survives s.publisher.backend :=
    ⟨rfl, by simp⟩
  refine ⟨halike.registry, halike.publisher, halike.publishes, ?_, fun hquiet => ?_⟩
  · intro i p q hp hq
    exact halike.handed (hstart.foldl a) (hstart.foldl b) hp hq
  · have hx := (Transcript.Same.refl (⟨s, [], []⟩ : Transcript World Record Cache)).foldl_quiet a
    have hy := (Transcript.Same.refl (⟨s, [], []⟩ : Transcript World Record Cache)).foldl_quiet b
    rw [hquiet] at hx
    have hsame : x.Same y := hx.trans hy.symm
    exact ⟨hsame.publishes, hsame.events⟩

/-- Two counters in batches of one: the first batch of the first publish is lost, and a send fails
later instead of being accepted at once. -/
theorem failures_isolated_counters :
    let ids := ["a", "b"].map fun name => Id.new name .counter
    let s : Service Unit String Unit :=
      ⟨⟨Plain.backend ⟨.seconds, none, false⟩, ⟨true, Span.of 60 0, 1⟩, none, (), Stats.start, []⟩,
        ⟨ids.map fun id => ⟨id, .counter (some .start)⟩, ids.zipIdx, [], none, .asEntered⟩⟩
    let publish : Step Unit := .publish (fun _ => ()) 0 true
    let lost : Faults := Function.update noFaults 0 (some (.encoding "text" "refused"))
    let a : List (Trial Unit) :=
      [⟨publish, noFaults⟩, ⟨.answer 0 (.ok ⟨200, ""⟩), noFaults⟩, ⟨publish, noFaults⟩]
    let b : List (Trial Unit) :=
      [⟨publish, lost⟩, ⟨publish, noFaults⟩, ⟨.answer 2 (.error ⟨"reset"⟩), noFaults⟩]
    plan a = plan b ∧
      (s.transcript a).publishes.map Published.work =
        (s.transcript b).publishes.map Published.work ∧
      (s.transcript a).publishes.map (fun p => p.outcome.handed.length) = [2, 2] ∧
      (s.transcript b).publishes.map (fun p => p.outcome.handed.length) = [1, 2] := by
  intro ids s publish lost a b
  have hplan : plan a = plan b := rfl
  obtain ⟨-, -, hwork, -⟩ := failures_isolated s a b hplan
  exact ⟨hplan, hwork, by decide +kernel, by decide +kernel⟩

end Service

end Telemetry
