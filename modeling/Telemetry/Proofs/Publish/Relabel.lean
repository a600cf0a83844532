import Telemetry.Proofs.Publish.Isolation

/-!
# Payloads under other labels

What a backend says of itself and of its meters does not depend on the payloads that it makes, and a
publisher looks at no more of a payload than how many records it holds. So if a backend makes other
payloads of the same records, with as many records in each, then a publisher does the same with them:
only the payloads differ that it hands over and that are in flight.

## Main definitions

- `Backend.relabel`, `Publisher.relabel` — a backend with other payloads, and its publisher
- `Iteration.relabel`, `Service.Transcript.relabel` — a publish and a whole run with other payloads

## Main statements

- `Publisher.iterateWith_relabel`, `Publisher.answered_relabel` — a publish, and the end of a send
- `Service.transcript_relabel` — whole runs
-/

namespace Telemetry

variable {World Record Cache : Type} (label : Payload → Payload)

def Encoded.relabel (e : Encoded) : Encoded := ⟨e.result.map (List.map label), e.events⟩

/-- The backend whose payloads are relabelled. -/
def Backend.relabel (backend : Backend Record Cache) : Backend Record Cache :=
  { backend with encode := fun records => (backend.encode records).relabel label }

def Progress.relabel (x : Progress World Record Cache) : Progress World Record Cache :=
  { x with payloads := x.payloads.map label }

/-- The publisher whose payloads are relabelled, also those that are in flight. -/
def Publisher.relabel (p : Publisher Record Cache) : Publisher Record Cache :=
  { p with backend := p.backend.relabel label, inFlight := p.inFlight.map label }

def Iteration.relabel (it : Iteration World Record Cache) : Iteration World Record Cache :=
  { it with publisher := it.publisher.relabel label, handed := it.handed.map label }

theorem Backend.relabel_failing (backend : Backend Record Cache) (fault : Option Error) :
    (backend.relabel label).failing fault = (backend.failing fault).relabel label := by
  cases fault <;> rfl

/-- Labels do not show before the records of a batch are encoded. -/
theorem collectBatch_relabel (backend : Backend Record Cache) (view : View World)
    (r : Registry World) (cache : Cache) (batch : List Nat) :
    collectBatch (backend.relabel label) view r cache batch =
      collectBatch backend view r cache batch :=
  rfl

theorem dropEvents_relabel (backend : Backend Record Cache) (runtime : Bool)
    (payloads : List Payload) :
    dropEvents (backend.relabel label) runtime (payloads.map label) =
      dropEvents backend runtime payloads := by
  rw [dropEvents, List.map_map]
  rfl

theorem publishBatch_relabel (backend : Backend Record Cache) (view : View World) (runtime : Bool)
    (x : Progress World Record Cache) (batch : List Nat) :
    publishBatch (backend.relabel label) view runtime (x.relabel label) batch =
      (publishBatch backend view runtime x batch).relabel label := by
  have hcollected : collectBatch (backend.relabel label) view (x.relabel label).registry
      (x.relabel label).cache batch = collectBatch backend view x.registry x.cache batch :=
    collectBatch_relabel label backend view x.registry x.cache batch
  simp only [publishBatch]
  rw [hcollected]
  generalize collectBatch backend view x.registry x.cache batch = c
  by_cases hempty : c.records.isEmpty = true
  · rw [if_pos hempty, if_pos hempty]
    rfl
  · rw [if_neg hempty, if_neg hempty]
    have hresult : ((backend.relabel label).encode c.records).result =
        (backend.encode c.records).result.map (List.map label) := rfl
    rw [hresult]
    cases (backend.encode c.records).result with
    | error e => rfl
    | ok payloads =>
      simp only [Except.map, dropEvents_relabel]
      simp [Progress.relabel, Backend.relabel, Encoded.relabel]

namespace Publisher

variable (p : Publisher Record Cache) (r : Registry World)

theorem progressWith_relabel (faults : Faults) (look : Registry World → World) (now : UInt64)
    (runtime : Bool) :
    (p.relabel label).progressWith faults r look now runtime =
      (p.progressWith faults r look now runtime).relabel label := by
  have hfold (batches : List (List Nat)) (x : Progress World Record Cache) :
      batches.foldl (publishBatchWith (p.relabel label).backend faults
          ((p.relabel label).viewOf r look now) runtime) (x.relabel label) =
        (batches.foldl (publishBatchWith p.backend faults (p.viewOf r look now) runtime) x).relabel
          label := by
    induction batches generalizing x with
    | nil => rfl
    | cons batch rest ih =>
      have hbatch : publishBatchWith (p.relabel label).backend faults
          ((p.relabel label).viewOf r look now) runtime (x.relabel label) batch =
            (publishBatchWith p.backend faults (p.viewOf r look now) runtime x batch).relabel
              label := by
        have hfailing := p.backend.relabel_failing label (faults x.encoded.length)
        exact (congrArg (publishBatch · _ _ _ _) hfailing).trans
          (publishBatch_relabel label _ _ _ x batch)
      rw [List.foldl_cons, List.foldl_cons, hbatch, ih]
  exact hfold (batches r.handles p.config.batchSize)
    ⟨r, p.backend.retain p.cache (r.meters.map fun m => m.id.toIdentity), ⟨0, 0, 0, 0⟩,
      [], [], [], []⟩

theorem dispatch_relabel (payloads : List Payload) (runtime : Bool) :
    (p.relabel label).dispatch (payloads.map label) runtime =
      ((p.dispatch payloads runtime).1.relabel label,
        (p.dispatch payloads runtime).2.map label) := by
  cases runtime with
  | true =>
    have hsends : p.inFlight.map label ++ payloads.map label =
        (p.inFlight ++ payloads).map label := List.map_append.symm
    exact congrArg (fun sends => ({ p.relabel label with inFlight := sends }, payloads.map label))
      hsends
  | false =>
    have hstats : (payloads.map label).foldl (fun s _ => s.countFailed) p.stats =
        payloads.foldl (fun s _ => s.countFailed) p.stats := List.foldl_map
    exact congrArg (fun stats => ({ p.relabel label with stats := stats }, [])) hstats

theorem concluded_relabel (done : Progress World Record Cache) (runtime : Bool) :
    (p.relabel label).concluded r (done.relabel label) runtime =
      (p.concluded r done runtime).relabel label := by
  have hdispatch :=
    { p with cache := done.cache }.dispatch_relabel label done.payloads runtime
  exact congrArg (fun d : Publisher Record Cache × List Payload =>
    (⟨d.1, done.registry, done.summary, done.shots, done.encoded, d.2, done.events ++
      [.published p.backend.name r.size done.summary.batches done.summary.payloads]⟩ :
        Iteration World Record Cache)) hdispatch

/-- A publish with relabelled payloads is the publish that it was. -/
theorem iterateWith_relabel (faults : Faults) (look : Registry World → World) (now : UInt64)
    (runtime : Bool) :
    (p.relabel label).iterateWith faults r look now runtime =
      (p.iterateWith faults r look now runtime).relabel label := by
  rw [iterateWith, progressWith_relabel, concluded_relabel]
  rfl

theorem iterate_relabel (look : Registry World → World) (now : UInt64) (runtime : Bool) :
    (p.relabel label).iterate r look now runtime = (p.iterate r look now runtime).relabel label :=
  p.iterateWith_relabel label r noFaults look now runtime

theorem new_relabel (backend : Backend Record Cache) (config : StepConfig) (serial : Nat) :
    new (backend.relabel label) config serial =
      (new backend config serial).map (Publisher.relabel label) := by
  unfold new
  cases config.validate <;> rfl

theorem map_relabel_new {backend : Backend Record Cache} (h : backend.relabel label = backend)
    (config : StepConfig) (serial : Nat) :
    (new backend config serial).map (Publisher.relabel label) = new backend config serial := by
  rw [← new_relabel, h]

variable {label} (hrecords : ∀ payload, (label payload).records = payload.records)

include hrecords

/-- An answer is counted and logged by the records of its payload. -/
theorem answered_relabel (position : Nat) (answer : Answer) :
    (p.relabel label).answered position answer =
      ((p.answered position answer).1.relabel label, (p.answered position answer).2) := by
  have hfound : (p.relabel label).inFlight[position]? = p.inFlight[position]?.map label :=
    List.getElem?_map ..
  unfold answered
  rw [hfound]
  cases p.inFlight[position]? with
  | none => rfl
  | some payload =>
    have hjudge : (p.relabel label).judge (label payload) answer = p.judge payload answer := by
      unfold judge
      rw [hrecords]
      rfl
    have hrest : (p.relabel label).inFlight.eraseIdx position =
        (p.inFlight.eraseIdx position).map label := (List.eraseIdx_map ..)
    simp only [Option.map_some, hjudge, hrest]
    rfl

end Publisher

/-! ## Whole runs -/

namespace Service

def relabel (s : Service World Record Cache) : Service World Record Cache :=
  { s with publisher := s.publisher.relabel label }

def Published.relabel (x : Published World Record Cache) : Published World Record Cache :=
  { x with outcome := x.outcome.relabel label }

def Transcript.relabel (t : Transcript World Record Cache) : Transcript World Record Cache :=
  ⟨t.service.relabel label, t.publishes.map (Published.relabel label), t.events⟩

variable {label} (hrecords : ∀ payload, (label payload).records = payload.records)

include hrecords

theorem Transcript.next_relabel (t : Transcript World Record Cache) (e : Trial World) :
    (t.relabel label).next e = (t.next e).relabel label := by
  obtain ⟨step, faults⟩ := e
  cases step with
  | change c => rfl
  | publish look now runtime =>
    have hpublish := t.service.publisher.iterateWith_relabel label t.service.registry faults look
      now runtime
    have hall (last : Published World Record Cache) :
        (t.publishes ++ [last]).map (Published.relabel label) =
          t.publishes.map (Published.relabel label) ++ [last.relabel label] :=
      List.map_append
    simp only [next, relabel, Service.relabel, hpublish, hall]
    rfl
  | answer position answer =>
    have hanswer := t.service.publisher.answered_relabel hrecords position answer
    simp only [next, relabel, Service.relabel, hanswer]

/-- The same run of a service whose payloads are relabelled comes to the same, under other labels. -/
theorem transcript_relabel (s : Service World Record Cache) (trials : List (Trial World)) :
    (s.relabel label).transcript trials = (s.transcript trials).relabel label := by
  have hfold (t : Transcript World Record Cache) :
      trials.foldl Transcript.next (t.relabel label) =
        (trials.foldl Transcript.next t).relabel label := by
    induction trials generalizing t with
    | nil => rfl
    | cons e rest ih => rw [List.foldl_cons, List.foldl_cons, Transcript.next_relabel hrecords, ih]
  exact hfold (s.transcript [])

end Service

end Telemetry
