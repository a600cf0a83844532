import Mathlib.Algebra.GroupWithZero.Nat
import Mathlib.Data.List.Flatten
import Telemetry.Plain.Backend
import Telemetry.Proofs.Publish.Sweep

/-!
# The accounts of a publish

What a publish counts agrees with what it has done. Of every registered meter one snapshot is taken,
and each is either skipped or written; the records of a batch are encoded together unless there are
none; and the payloads go to the sender in the order in which they were made. If the backend writes
by a rule and no meter watches another one, the records as a whole depend neither on the size of
batches nor on the order of the registry.

## Main definitions

- `Publisher.WritesBy` — id, form, snapshot and convention settle what a publisher writes
- `Collected.Correct`, `Progress.Correct` — the accounts of a batch and of several batches
- `Publisher.Accounts` — the accounts of a publish

## Main statements

- `Publisher.iterate_accounts` — the accounts of every publish are right
-/

namespace Telemetry

variable {World Record Cache : Type}

/-! ## Writing by a rule -/

/-- Records that are settled by the id and form of a meter, its snapshot and the convention. -/
abbrev WriteRule (Record : Type) := Id → Kind → Snapshot → Installed → List Record

/-- The caches that a backend may have while it writes and retains with one convention. -/
inductive Backend.Reaches (backend : Backend Record Cache) (installed : Installed)
    (start : Cache) : Cache → Prop
  | refl : Reaches backend installed start start
  | retain {cache : Cache} (live : List Identity) (h : Reaches backend installed start cache) :
    Reaches backend installed start (backend.retain cache live)
  | write {cache : Cache} (id : Id) (form : Kind) (snapshot : Snapshot)
    (h : Reaches backend installed start cache) :
    Reaches backend installed start (backend.write cache id form snapshot installed).cache

/-- Whatever a publisher writes and retains with a convention, its cache never shows: the records
are those of the rule. -/
def Publisher.WritesBy (p : Publisher Record Cache) (installed : Installed)
    (rule : WriteRule Record) : Prop :=
  ∀ cache, p.backend.Reaches installed p.cache cache → ∀ id form snapshot,
    (p.backend.write cache id form snapshot installed).records = rule id form snapshot installed

/-- The payloads that a backend makes of records; none if it cannot encode them. -/
def Backend.payloadsOf (backend : Backend Record Cache) (records : List Record) : List Payload :=
  match (backend.encode records).result with
  | .ok payloads => payloads
  | .error _ => []

namespace Shot

def written (s : Shot Record) : List Record := s.records.getD []

/-- The shot of a snapshot from which a backend writes by a rule. -/
def byRule (rule : WriteRule Record) (r : Registry World) (installed : Installed)
    (taken : Nat × Snapshot) : Shot Record where
  handle := taken.1
  snapshot := taken.2
  records :=
    if taken.2.hasFiniteValue then
      (r.meter? taken.1).map fun m => rule m.id m.form taken.2 installed
    else none

/-- How many of some shots have nothing finite to write. -/
def skips (shots : List (Shot Record)) : Nat := shots.countP fun s => !s.snapshot.hasFiniteValue

theorem skips_append (front back : List (Shot Record)) :
    skips (front ++ back) = skips front + skips back :=
  List.countP_append

end Shot

/-! ## One batch -/

/-- What has been collected agrees with the shots: a shot is written if anything in it is finite,
and skipped if not. -/
structure Collected.Correct (c : Collected World Record Cache) : Prop where
  records : c.records = c.shots.flatMap Shot.written
  skipped : c.skipped = Shot.skips c.shots
  writes : ∀ s ∈ c.shots, s.records.isSome = s.snapshot.hasFiniteValue

section Collecting

variable {backend : Backend Record Cache} {view : View World}

theorem Collected.Correct.collect {c : Collected World Record Cache} (h : c.Correct)
    (handle : Nat) : (collect backend view c handle).Correct := by
  cases htake : c.registry.take handle backend.unit (view.look c.registry) view.now with
  | none =>
    rw [collect_of_none backend view htake]
    exact h
  | some shot =>
    obtain ⟨snapshot, r'⟩ := shot
    obtain ⟨m, hm, -, -⟩ := Registry.take_eq_some htake
    -- with or without records, the new shot is accounted for like those before it
    have hwrites (records : Option (List Record))
        (hrecords : records.isSome = snapshot.hasFiniteValue) :
        ∀ s ∈ c.shots ++ [⟨handle, snapshot, records⟩],
          s.records.isSome = s.snapshot.hasFiniteValue :=
      List.forall_mem_append.2 ⟨h.writes, List.forall_mem_singleton.2 hrecords⟩
    by_cases hfinite : snapshot.hasFiniteValue = true
    · simp only [Telemetry.collect, hm, htake, hfinite, if_true]
      refine ⟨?_, ?_, hwrites _ hfinite.symm⟩
      · simp [h.records, Shot.written]
      · simp [h.skipped, Shot.skips, hfinite]
    · have hfalse : snapshot.hasFiniteValue = false := Bool.not_eq_true _ ▸ hfinite
      simp only [Telemetry.collect, hm, htake, hfalse, Bool.false_eq_true, if_false]
      refine ⟨?_, ?_, hwrites _ hfalse.symm⟩
      · simp [h.records, Shot.written]
      · simp [h.skipped, Shot.skips, hfalse]

theorem Collected.Correct.foldl {c : Collected World Record Cache} (h : c.Correct)
    (handles : List Nat) : (handles.foldl (Telemetry.collect backend view) c).Correct := by
  induction handles generalizing c with
  | nil => exact h
  | cons handle rest ih => exact ih (h.collect handle)

theorem correct_collectBatch (backend : Backend Record Cache) (view : View World)
    (r : Registry World) (cache : Cache) (batch : List Nat) :
    (collectBatch backend view r cache batch).Correct := by
  have hempty : (⟨r, cache, [], 0, [], []⟩ : Collected World Record Cache).Correct :=
    ⟨rfl, rfl, by simp⟩
  exact hempty.foldl batch

end Collecting

/-! ## Several batches -/

/-- What has been published agrees with the shots of the batches: records are encoded batch by
batch, but not where there are none, and payloads are kept in order. -/
structure Progress.Correct (backend : Backend Record Cache) (p : Progress World Record Cache)
    (shotBatches : List (List (Shot Record))) : Prop where
  shots : p.shots = shotBatches.flatten
  writes : ∀ s ∈ p.shots, s.records.isSome = s.snapshot.hasFiniteValue
  batches : p.summary.batches = shotBatches.length
  skipped : p.summary.skipped = Shot.skips p.shots
  encoded : p.encoded =
    (shotBatches.map fun shots => shots.flatMap Shot.written).filter fun l => !l.isEmpty
  records : p.summary.records = p.encoded.flatten.length
  payloads : p.payloads = p.encoded.flatMap backend.payloadsOf
  dispatches : p.summary.payloads = p.payloads.length

section Publishing

variable {backend : Backend Record Cache} {view : View World} {runtime : Bool}

/-- What a batch adds to a publish. -/
theorem publishBatch_adds (backend : Backend Record Cache) (view : View World) (runtime : Bool)
    (x : Progress World Record Cache) (batch : List Nat) :
    let c := collectBatch backend view x.registry x.cache batch
    let x' := publishBatch backend view runtime x batch
    x'.summary.batches = x.summary.batches + 1 ∧
      x'.summary.records = x.summary.records + c.records.length ∧
      x'.summary.skipped = x.summary.skipped + c.skipped ∧
      ((c.records = [] ∧ x'.encoded = x.encoded ∧ x'.payloads = x.payloads ∧
          x'.summary.payloads = x.summary.payloads) ∨
        (c.records ≠ [] ∧ x'.encoded = x.encoded ++ [c.records] ∧
          x'.payloads = x.payloads ++ backend.payloadsOf c.records ∧
          x'.summary.payloads =
            x.summary.payloads + (backend.payloadsOf c.records).length)) := by
  intro c x'
  by_cases hempty : c.records = []
  · have hx' : x' = { x with
        registry := c.registry
        cache := c.cache
        summary := { x.summary with
          batches := x.summary.batches + 1
          skipped := x.summary.skipped + c.skipped }
        shots := x.shots ++ c.shots
        events := x.events ++ c.events } := by
      simp only [x', publishBatch]
      rw [if_pos (List.isEmpty_iff.2 hempty)]
    rw [hx', hempty]
    exact ⟨rfl, rfl, rfl, .inl ⟨rfl, rfl, rfl, rfl⟩⟩
  · have hsome : ¬c.records.isEmpty = true := mt List.isEmpty_iff.1 hempty
    cases hresult : (backend.encode c.records).result with
    | ok payloads =>
      have hpayloads : backend.payloadsOf c.records = payloads := by
        rw [Backend.payloadsOf, hresult]
      simp only [x', publishBatch]
      rw [if_neg hsome, hresult, hpayloads]
      exact ⟨rfl, rfl, rfl, .inr ⟨hempty, rfl, rfl, rfl⟩⟩
    | error e =>
      have hpayloads : backend.payloadsOf c.records = [] := by
        rw [Backend.payloadsOf, hresult]
      simp only [x', publishBatch]
      rw [if_neg hsome, hresult, hpayloads, List.append_nil]
      exact ⟨rfl, rfl, rfl, .inr ⟨hempty, rfl, rfl, rfl⟩⟩

/-- One more batch keeps the accounts of a publish right, whether it has records and whether they
can be encoded. -/
theorem Progress.Correct.publishBatch {p : Progress World Record Cache}
    {shotBatches : List (List (Shot Record))} (h : p.Correct backend shotBatches)
    (batch : List Nat) :
    (publishBatch backend view runtime p batch).Correct backend
      (shotBatches ++ [(collectBatch backend view p.registry p.cache batch).shots]) := by
  have hc := correct_collectBatch backend view p.registry p.cache batch
  obtain ⟨-, hshots, -⟩ := publishBatch_collectBatch backend view runtime p batch
  obtain ⟨hbatches, hrecords, hskipped, hadds⟩ := publishBatch_adds backend view runtime p batch
  generalize collectBatch backend view p.registry p.cache batch = c
    at hc hshots hrecords hskipped hadds ⊢
  have hflatten : p.shots ++ c.shots = (shotBatches ++ [c.shots]).flatten := by simp [h.shots]
  have hlength : p.summary.batches + 1 = (shotBatches ++ [c.shots]).length := by simp [h.batches]
  have hwrites : ∀ s ∈ p.shots ++ c.shots, s.records.isSome = s.snapshot.hasFiniteValue :=
    List.forall_mem_append.2 ⟨h.writes, hc.writes⟩
  -- only a batch with records is encoded
  have hencoded : (Telemetry.publishBatch backend view runtime p batch).encoded =
      ((shotBatches ++ [c.shots]).map fun shots => shots.flatMap Shot.written).filter
        fun l => !l.isEmpty := by
    obtain ⟨hempty, heq, -⟩ | ⟨hne, heq, -⟩ := hadds
    · simp [heq, h.encoded, ← hc.records, hempty]
    · simp [heq, h.encoded, ← hc.records, hne]
  constructor
  case shots => rw [hshots, hflatten]
  case writes =>
    rw [hshots]
    exact hwrites
  case batches => rw [hbatches, hlength]
  case skipped => rw [hskipped, hshots, Shot.skips_append, h.skipped, hc.skipped]
  case encoded => exact hencoded
  case records =>
    obtain ⟨hempty, heq, -⟩ | ⟨-, heq, -⟩ := hadds
    · rw [hrecords, heq, hempty, h.records, List.length_nil, Nat.add_zero]
    · simp [hrecords, heq, h.records]
  case payloads =>
    obtain ⟨-, heq, hpayloads, -⟩ | ⟨-, heq, hpayloads, -⟩ := hadds
    · rw [hpayloads, heq, h.payloads]
    · simp [hpayloads, heq, h.payloads]
  case dispatches =>
    obtain ⟨-, -, hpayloads, hcount⟩ | ⟨-, -, hpayloads, hcount⟩ := hadds
    · rw [hcount, hpayloads, h.dispatches]
    · rw [hcount, hpayloads, h.dispatches, List.length_append]

theorem handles_collectBatch {r : Registry World} {cache : Cache} {batch : List Nat}
    (h : ∀ handle ∈ batch, handle < r.store.length) :
    (collectBatch backend view r cache batch).shots.map Shot.handle = batch := by
  obtain ⟨-, hshots⟩ := foldl_collect_sweep backend view ⟨r, cache, [], 0, [], []⟩ batch
  calc (collectBatch backend view r cache batch).shots.map Shot.handle
      = ((collectBatch backend view r cache batch).shots.map Shot.taken).map Prod.fst := by
        rw [List.map_map]
        rfl
    _ = (r.sweep backend.unit view batch).1.map Prod.fst := by
        rw [collectBatch, hshots]
        rfl
    _ = batch := Registry.handles_sweep h

/-- The accounts stay right batch after batch, and every batch has the shots of its meters. -/
theorem Progress.Correct.foldl (view : View World) (runtime : Bool)
    {p : Progress World Record Cache} {shotBatches : List (List (Shot Record))}
    (h : p.Correct backend shotBatches) {batches : List (List Nat)}
    (hstored : ∀ batch ∈ batches, ∀ handle ∈ batch, handle < p.registry.store.length) :
    ∃ more : List (List (Shot Record)),
      more.map (fun shots => shots.map Shot.handle) = batches ∧
      (batches.foldl (Telemetry.publishBatch backend view runtime) p).Correct backend
        (shotBatches ++ more) := by
  induction batches generalizing p shotBatches with
  | nil => exact ⟨[], rfl, by simpa using h⟩
  | cons batch rest ih =>
    obtain ⟨hregistry, -, -⟩ := publishBatch_collectBatch backend view runtime p batch
    obtain ⟨hsweep, -⟩ :=
      foldl_collect_sweep backend view ⟨p.registry, p.cache, [], 0, [], []⟩ batch
    have hlength : (Telemetry.publishBatch backend view runtime p batch).registry.store.length =
        p.registry.store.length := by
      rw [hregistry, collectBatch, hsweep, (Registry.sameMeters_sweep _ batch).length_store]
    obtain ⟨more, hmore, hcorrect⟩ := ih (h.publishBatch batch) fun b hb handle hh =>
      hlength ▸ hstored b (List.mem_cons_of_mem _ hb) handle hh
    refine ⟨(collectBatch backend view p.registry p.cache batch).shots :: more, ?_, ?_⟩
    · rw [List.map_cons, hmore, handles_collectBatch (hstored batch List.mem_cons_self)]
    · rw [List.append_assoc] at hcorrect
      exact hcorrect

end Publishing

/-! ## Batches -/

section Batches

variable {α β : Type}

theorem batches_map (f : α → β) (items : List α) (max : Nat) :
    batches (items.map f) max = (batches items max).map (List.map f) := by
  fun_induction batches items max with
  | case1 => rw [List.map_nil, batches, List.map_nil]
  | case2 item rest ih =>
    rw [List.map_cons, batches, ← List.map_drop, ih, ← List.map_take]
    rfl

/-- The number of batches is the quotient, rounded up. -/
theorem length_batches (items : List α) {max : Nat} (h : 1 ≤ max) :
    (batches items max).length = (items.length + max - 1) / max := by
  fun_induction batches items max with
  | case1 =>
    rw [List.length_nil, List.length_nil, Nat.div_eq_of_lt]
    omega
  | case2 item rest ih =>
    rw [List.length_cons, ih, List.length_drop, List.length_cons]
    by_cases hle : max ≤ rest.length + 1
    · have hsum : rest.length + 1 + max - 1 = rest.length - (max - 1) + max - 1 + max := by
        omega
      rw [hsum, Nat.add_div_right _ h]
    · have hzero : rest.length - (max - 1) + max - 1 = max - 1 := by omega
      have hone : rest.length + 1 + max - 1 = rest.length + max := by omega
      rw [hzero, hone, Nat.add_div_right _ h, Nat.div_eq_of_lt (by omega),
        Nat.div_eq_of_lt (by omega)]

/-- Only one way to cut a list has batches of given lengths. -/
theorem eq_batches {items : List α} {max : Nat} {cuts : List (List α)} (f : α → β)
    (hflatten : cuts.flatten = items)
    (hcuts : cuts.map (List.map f) = batches (items.map f) max) : cuts = batches items max := by
  refine List.eq_iff_flatten_eq.2 ⟨by rw [hflatten, flatten_batches], ?_⟩
  have hlengths := congrArg (List.map List.length) (hcuts.trans (batches_map f items max))
  simpa [List.map_map, Function.comp_def] using hlengths

end Batches

/-! ## Records by rule -/

theorem Shot.byRule_congr {r r' : Registry World} (h : r.SameMeters r') (rule : WriteRule Record)
    (installed : Installed) (taken : Nat × Snapshot) :
    byRule rule r' installed taken = byRule rule r installed taken := by
  have hbadge := h.badge taken.1
  have hrule : ∀ s : Registry World,
      ((s.meter? taken.1).map fun m => rule m.id m.form taken.2 installed) =
        ((s.meter? taken.1).map Meter.badge).map fun badge =>
          rule badge.1 badge.2.1 taken.2 installed := by
    intro s
    rw [Option.map_map]
    rfl
  unfold byRule
  rw [hrule r', hrule r, hbadge]

section Writing

variable {p : Publisher Record Cache} {view : View World} {rule : WriteRule Record}

/-- While a publisher writes by a rule, its cache is one that it may have and its shots are those
of the rule in the registry from the beginning. -/
structure Publisher.ByRule (p : Publisher Record Cache) (installed : Installed)
    (rule : WriteRule Record) (start now : Registry World) (cache : Cache)
    (shots : List (Shot Record)) : Prop where
  meters : start.SameMeters now
  cache : p.backend.Reaches installed p.cache cache
  shots : ∀ s ∈ shots, s = Shot.byRule rule start installed s.taken

theorem Publisher.ByRule.collect (hp : p.WritesBy view.installed rule) {start : Registry World}
    {c : Collected World Record Cache}
    (h : ByRule p view.installed rule start c.registry c.cache c.shots) (handle : Nat) :
    let c' := Telemetry.collect p.backend view c handle
    ByRule p view.installed rule start c'.registry c'.cache c'.shots := by
  intro c'
  obtain heq | ⟨m, snapshot, records, hm, hmeters, hshots, hwritten⟩ :=
    collect_cases p.backend view c handle
  · have hc' : c' = c := heq
    rw [hc']
    exact h
  · -- the shot is written for the meter as it is now, which has the badge from the beginning
    have hshot (hnew : (⟨handle, snapshot, records⟩ : Shot Record) =
        Shot.byRule rule c.registry view.installed (handle, snapshot)) :
        ∀ s ∈ c'.shots, s = Shot.byRule rule start view.installed s.taken := by
      have hstart := hnew.trans (Shot.byRule_congr h.meters ..)
      rw [hshots]
      exact List.forall_mem_append.2 ⟨h.shots, List.forall_mem_singleton.2 hstart⟩
    obtain ⟨hfinite, rfl, hcache⟩ | ⟨hfinite, rfl, hcache⟩ := hwritten
    · have hwrite := hp c.cache h.cache m.id m.form snapshot
      refine ⟨h.meters.trans hmeters, hcache ▸ h.cache.write .., hshot ?_⟩
      simp [Shot.byRule, hfinite, hm, hwrite]
    · refine ⟨h.meters.trans hmeters, hcache ▸ h.cache, hshot ?_⟩
      simp [Shot.byRule, hfinite]

/-- A publisher that writes by a rule does so for all batches. -/
theorem Publisher.ByRule.foldl_publishBatch (view : View World) (runtime : Bool)
    (hp : p.WritesBy view.installed rule) {start : Registry World}
    (done : Progress World Record Cache)
    (h : ByRule p view.installed rule start done.registry done.cache done.shots)
    (batches : List (List Nat)) :
    let done' := batches.foldl (publishBatch p.backend view runtime) done
    ByRule p view.installed rule start done'.registry done'.cache done'.shots := by
  obtain ⟨⟨hmeters, hcache⟩, hshots⟩ := foldl_publishBatch_induction p.backend view runtime
    (fun now cache =>
      start.SameMeters now ∧ p.backend.Reaches view.installed p.cache cache)
    (fun s => s = Shot.byRule rule start view.installed s.taken)
    (fun c handle _ hkept hshots =>
      have hc := Publisher.ByRule.collect hp ⟨hkept.1, hkept.2, hshots⟩ handle
      ⟨⟨hc.meters, hc.cache⟩, hc.shots⟩)
    done ⟨h.meters, h.cache⟩ h.shots (List.Subset.refl batches.flatten)
  exact ⟨hmeters, hcache, hshots⟩

end Writing

/-! ## A whole publish -/

namespace Publisher

/-- The accounts of a publish by a publisher that writes by a rule. -/
structure Accounts (p : Publisher Record Cache) (r : Registry World)
    (look : Registry World → World) (now : UInt64) (runtime : Bool) (rule : WriteRule Record)
    (it : Iteration World Record Cache) : Prop where
  /-- One snapshot is taken of every registered meter. -/
  handles : it.shots.map Shot.handle = r.handles
  /-- Each is taken in the registry that the snapshots before it have left. -/
  sweep : (it.shots.map Shot.taken, it.registry) =
    r.sweep p.backend.unit (p.viewOf r look now) r.handles
  batches : it.summary.batches = (r.size + p.config.batchSize - 1) / p.config.batchSize
  skipped : it.summary.skipped = it.shots.countP fun s => !s.snapshot.hasFiniteValue
  /-- What has a finite value is written, and nothing else. -/
  writes : ∀ s ∈ it.shots, s.records.isSome = s.snapshot.hasFiniteValue
  rule : ∀ s ∈ it.shots, s = Shot.byRule rule r (p.conventionFor r) s.taken
  records : it.summary.records = (it.shots.map fun s => s.written.length).sum
  /-- Each batch is encoded once, but not if it has no records. -/
  encoded : it.encoded =
    ((Telemetry.batches it.shots p.config.batchSize).map fun shots =>
      shots.flatMap Shot.written).filter fun l => !l.isEmpty
  nonempty : [] ∉ it.encoded
  payloads : it.summary.payloads = (it.encoded.flatMap p.backend.payloadsOf).length
  /-- With something to run sends on, each payload is handed over and in flight once, in order. -/
  handed : runtime = true →
    it.handed = it.encoded.flatMap p.backend.payloadsOf ∧
      it.publisher.inFlight = p.inFlight ++ it.handed ∧ it.publisher.stats = p.stats
  /-- Without, each counts as failed once. -/
  dropped : runtime = false →
    it.handed = [] ∧ it.publisher.inFlight = p.inFlight ∧
      it.publisher.stats =
        { p.stats with failed := p.stats.failed + UInt64.ofNat it.summary.payloads }

variable {p : Publisher Record Cache} {r : Registry World} {rule : WriteRule Record}

theorem foldl_countFailed (stats : Stats) (payloads : List Payload) :
    payloads.foldl (fun s _ => s.countFailed) stats =
      { stats with failed := stats.failed + UInt64.ofNat payloads.length } := by
  induction payloads generalizing stats with
  | nil => simp
  | cons payload rest ih =>
    rw [List.foldl_cons, ih]
    simp only [Stats.countFailed, List.length_cons, UInt64.ofNat_add, UInt64.add_assoc]
    rw [UInt64.add_comm 1]
    rfl

theorem flatten_encoded {encoded : List (List Record)} {shots : List (Shot Record)} {max : Nat}
    (h : encoded = ((Telemetry.batches shots max).map fun shots =>
      shots.flatMap Shot.written).filter fun l => !l.isEmpty) :
    encoded.flatten = shots.flatMap Shot.written := by
  calc encoded.flatten
      = (Telemetry.batches shots max).flatMap fun shots => shots.flatMap Shot.written := by
        rw [h, List.flatten_filter_not_isEmpty, List.flatMap_def]
    _ = (Telemetry.batches shots max).flatten.flatMap Shot.written := by
        rw [List.flatten_eq_flatMap, List.flatMap_assoc]
        rfl
    _ = shots.flatMap Shot.written := by rw [flatten_batches]

/-- Every batch of registered meters has been cut out of the shots. -/
theorem correct_progress (p : Publisher Record Cache) (hr : r.Stored)
    (look : Registry World → World) (now : UInt64) (runtime : Bool) :
    (p.progress r look now runtime).shots.map Shot.handle = r.handles ∧
      (p.progress r look now runtime).Correct p.backend
        (Telemetry.batches (p.progress r look now runtime).shots p.config.batchSize) := by
  have hhandles : (p.progress r look now runtime).shots.map Shot.handle = r.handles := by
    obtain ⟨-, htaken⟩ := p.iterate_sweep r look now runtime
    have hfst := congrArg (List.map Prod.fst) htaken
    rw [Registry.handles_sweep hr, List.map_map] at hfst
    exact hfst
  have hstart : (⟨r, p.backend.retain p.cache (r.meters.map fun m => m.id.toIdentity),
      ⟨0, 0, 0, 0⟩, [], [], [], []⟩ : Progress World Record Cache).Correct p.backend [] :=
    ⟨rfl, by simp, rfl, rfl, rfl, rfl, rfl, rfl⟩
  have hstored : ∀ batch ∈ Telemetry.batches r.handles p.config.batchSize,
      ∀ handle ∈ batch, handle < r.store.length := by
    intro batch hbatch handle hhandle
    refine hr handle ?_
    rw [← flatten_batches r.handles p.config.batchSize]
    exact List.mem_flatten_of_mem hbatch hhandle
  obtain ⟨cuts, hcuts, hcorrect⟩ :=
    hstart.foldl ⟨look, now, p.conventionFor r⟩ runtime hstored
  rw [List.nil_append] at hcorrect
  have hdone : (p.progress r look now runtime).Correct p.backend cuts := hcorrect
  have heq := eq_batches Shot.handle hdone.shots.symm (hcuts.trans (by rw [hhandles]))
  exact ⟨hhandles, heq ▸ hdone⟩

theorem byRule_progress (hrule : p.WritesBy (p.conventionFor r) rule)
    (look : Registry World → World) (now : UInt64) (runtime : Bool) :
    ∀ s ∈ (p.progress r look now runtime).shots,
      s = Shot.byRule rule r (p.conventionFor r) s.taken := by
  have hstart : ByRule p (p.conventionFor r) rule r r
      (p.backend.retain p.cache (r.meters.map fun m => m.id.toIdentity)) [] :=
    ⟨.refl r, .retain _ .refl, by simp⟩
  have hdone := hstart.foldl_publishBatch ⟨look, now, p.conventionFor r⟩ runtime hrule
    ⟨r, _, ⟨0, 0, 0, 0⟩, [], [], [], []⟩ (Telemetry.batches r.handles p.config.batchSize)
  exact hdone.shots

theorem accounts_iterate (hr : r.Stored) (hbatch : 1 ≤ p.config.batchSize)
    (hrule : p.WritesBy (p.conventionFor r) rule) (look : Registry World → World) (now : UInt64)
    (runtime : Bool) : p.Accounts r look now runtime rule (p.iterate r look now runtime) := by
  obtain ⟨hregistry, htaken⟩ := p.iterate_sweep r look now runtime
  obtain ⟨hhandles, hdone⟩ := p.correct_progress hr look now runtime
  have hlength : (p.progress r look now runtime).shots.length = r.size := by
    rw [← List.length_map Shot.handle, hhandles, Registry.length_handles]
  have hflatten := flatten_encoded hdone.encoded
  constructor
  case handles => exact hhandles
  case sweep => rw [hregistry, htaken]
  case batches =>
    refine hdone.batches.trans ?_
    rw [length_batches _ hbatch, hlength]
  case skipped => exact hdone.skipped
  case writes => exact hdone.writes
  case rule => exact byRule_progress hrule look now runtime
  case records =>
    refine hdone.records.trans ?_
    rw [hflatten, List.length_flatMap]
    rfl
  case encoded => exact hdone.encoded
  case nonempty =>
    change [] ∉ (p.progress r look now runtime).encoded
    rw [hdone.encoded]
    simp
  case payloads => exact hdone.dispatches.trans (congrArg List.length hdone.payloads)
  case handed =>
    rintro rfl
    exact ⟨hdone.payloads, rfl, rfl⟩
  case dropped =>
    rintro rfl
    refine ⟨rfl, rfl, ?_⟩
    refine (foldl_countFailed p.stats (p.progress r look now false).payloads).trans ?_
    rw [← hdone.dispatches]
    rfl

theorem flatten_encoded_iterate (hr : r.Stored) (hrule : p.WritesBy (p.conventionFor r) rule)
    (look : Registry World → World) (now : UInt64) (runtime : Bool) :
    (p.iterate r look now runtime).encoded.flatten =
      (r.sweep p.backend.unit (p.viewOf r look now) r.handles).1.flatMap fun taken =>
        (Shot.byRule rule r (p.conventionFor r) taken).written := by
  obtain ⟨-, htaken⟩ := p.iterate_sweep r look now runtime
  obtain ⟨-, hdone⟩ := p.correct_progress hr look now runtime
  rw [← htaken, List.flatMap_map]
  refine (flatten_encoded hdone.encoded).trans (List.flatMap_congr ?_)
  intro s hs
  exact congrArg Shot.written (byRule_progress hrule look now runtime s hs)

/-- The accounts of a publish are right for every content of a registry, every size of batches and
every backend that writes by a rule, whichever encodings fail. Where no meter reads another one, any
other enumeration of the same meters and any other size of batches give the same records. -/
theorem iterate_accounts (hr : r.Stored) (hbatch : 1 ≤ p.config.batchSize)
    (hrule : p.WritesBy (p.conventionFor r) rule) (look : Registry World → World) (now : UInt64)
    (runtime : Bool) :
    p.Accounts r look now runtime rule (p.iterate r look now runtime) ∧
      (r.Unwatched look r.handles →
        ∀ (p' : Publisher Record Cache) (r' : Registry World) (runtime' : Bool),
          p'.backend = p.backend → p'.preferred = p.preferred →
          p'.WritesBy (p.conventionFor r) rule →
          r'.store = r.store → r'.explicit = r.explicit → r'.entries.Perm r.entries →
          (p'.iterate r' look now runtime').encoded.flatten.Perm
            (p.iterate r look now runtime).encoded.flatten) := by
  refine ⟨accounts_iterate hr hbatch hrule look now runtime, ?_⟩
  intro hunwatched p' r' runtime' hbackend hpreferred hrule' hstore hexplicit hentries
  have hconvention : p'.conventionFor r' = p.conventionFor r := by
    unfold conventionFor Registry.convention
    rw [hpreferred, hexplicit]
  have hview : p'.viewOf r' look now = p.viewOf r look now := by
    rw [viewOf, viewOf, hconvention]
  have hhandles : r'.handles.Perm r.handles :=
    (r'.perm_enumerated.trans (hentries.trans r.perm_enumerated.symm)).map _
  have hr' : r'.Stored := by
    intro handle hmem
    rw [hstore]
    exact hr handle (hhandles.mem_iff.1 hmem)
  have hbyRule : ∀ taken, Shot.byRule rule r' (p.conventionFor r) taken =
      Shot.byRule rule r (p.conventionFor r) taken := by
    intro taken
    unfold Shot.byRule Registry.meter?
    rw [hstore]
  have hunwatched' : r.Unwatched (p.viewOf r look now).look r'.handles :=
    hunwatched.of_subset rfl hhandles.subset
  -- first the other store is read as this one, then its order is changed
  have htaken : (r'.sweep p.backend.unit (p.viewOf r look now) r'.handles).1.Perm
      (r.sweep p.backend.unit (p.viewOf r look now) r.handles).1 := by
    rw [Registry.sweep_congr_store hunwatched' hstore]
    exact (Registry.sweep_perm hunwatched' hhandles).1
  rw [flatten_encoded_iterate hr hrule, flatten_encoded_iterate hr' (hconvention ▸ hrule'),
    hbackend, hview, hconvention]
  simp only [hbyRule]
  exact htaken.flatMap_right _

/-- Three counters, published as text in batches of two, make two batches; one by one and the other
way round they give the same lines. -/
theorem iterate_accounts_counters :
    let p : Publisher String Unit :=
      ⟨Plain.backend ⟨.seconds, none, false⟩, ⟨true, Span.of 60 0, 2⟩, none, (), Stats.start, []⟩
    let ids := ["a", "b", "c"].map fun name => Id.new name .counter
    let r : Registry Unit :=
      ⟨ids.map fun id => ⟨id, .counter (some .start)⟩, ids.zipIdx, [], none, .asEntered⟩
    let rule : WriteRule String := fun id _ snapshot installed =>
      [Plain.line id snapshot installed.convention]
    let look : Registry Unit → Unit := fun _ => ()
    let it := p.iterate r look 0 true
    r.Stored ∧ 1 ≤ p.config.batchSize ∧ p.WritesBy (p.conventionFor r) rule ∧
      it.shots.map Shot.handle = [0, 1, 2] ∧ it.summary.batches = 2 ∧
      ({ p with config := ⟨true, Span.of 60 0, 1⟩ }.iterate
        { r with enumeration := ⟨List.reverse, List.reverse_perm⟩ }
          look 0 false).encoded.flatten.Perm it.encoded.flatten := by
  intro p ids r rule look it
  have hr : r.Stored := by
    change ∀ handle ∈ [0, 1, 2], handle < 3
    decide
  have hbatch : 1 ≤ p.config.batchSize := by decide
  have hrule : p.WritesBy (p.conventionFor r) rule := fun _ _ _ _ _ => rfl
  have hunwatched : r.Unwatched look r.handles := by
    intro handle hhandle m hm
    have hcounter : m.instrument = .counter (some .start) := by
      obtain ⟨id, -, rfl⟩ := List.mem_map.1 (List.mem_of_getElem? hm)
      rfl
    rw [hcounter]
    trivial
  obtain ⟨haccounts, hany⟩ := iterate_accounts hr hbatch hrule look 0 true
  have hbatches : it.summary.batches = 2 := by
    have hsize : r.size = 3 := rfl
    have htwo : p.config.batchSize = 2 := rfl
    rw [haccounts.batches, hsize, htwo]
  exact ⟨hr, hbatch, hrule, haccounts.handles, hbatches,
    hany hunwatched _ _ false rfl rfl (fun _ _ _ _ _ => rfl) rfl rfl .rfl⟩

end Publisher

end Telemetry
