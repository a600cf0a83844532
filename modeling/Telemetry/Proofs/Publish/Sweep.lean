import Telemetry.Proofs.Registry.Store
import Telemetry.Publish.Publisher

/-!
# A publish sweeps the registry

Whatever the backend and the size of batches, a publish takes the snapshots of the registered meters
one after another. The sweep of a list of handles says this without batches and backends, and it
does not depend on the order of the handles if no meter watches another one.

## Main definitions

- `Registry.sweep` — the snapshots of a list of meters, and the registry after them
- `Instrument.ReadsNoOther` — what an instrument reads does not change with the other meters
- `Registry.Unwatched` — none of the meters behind some handles reads another one

## Main statements

- `Publisher.iterate_sweep` — a publish is a sweep of all registered meters
- `foldl_publishBatch_induction` — what is kept from meter to meter is kept by a publish
- `Registry.sweep_perm` — the order of a sweep does not matter
-/

namespace Telemetry

variable {World Record Cache : Type}

/-- The meter and the snapshot of a shot, whatever was written for it. -/
def Shot.taken (s : Shot Record) : Nat × Snapshot := (s.handle, s.snapshot)

/-! ## Instruments that read no other meter -/

/-- What is read does not change as long as the meter behind a handle does not. -/
def Registry.ReadBy {α : Type} (look : Registry World → World) (handle : Nat)
    (read : World → α) : Prop :=
  ∀ r s : Registry World, r.meter? handle = s.meter? handle → read (look r) = read (look s)

namespace Instrument

/-- The instrument of the meter behind a handle reads no other meter. -/
def ReadsNoOther (look : Registry World → World) (handle : Nat) : Instrument World → Prop
  | gauge (some read) => Registry.ReadBy look handle read
  | functionCounter (some c) => Registry.ReadBy look handle c.read
  | functionTimer (some t) => Registry.ReadBy look handle t.read
  | custom (some read) => Registry.ReadBy look handle read
  | _ => True

/-- The snapshot of such an instrument is the same whatever the other meters have recorded. -/
theorem ReadsNoOther.take_eq {look : Registry World → World} {handle : Nat}
    {i : Instrument World} (h : i.ReadsNoOther look handle) {r s : Registry World}
    (hrs : r.meter? handle = s.meter? handle) (unit : TimeUnit) (now : UInt64) :
    i.take unit (look r) now = i.take unit (look s) now := by
  cases i with
  | gauge value =>
    cases value with
    | none => rfl
    | some read => simp only [take, measure, gauged, h r s hrs]
  | functionCounter state =>
    cases state with
    | none => rfl
    | some c => simp only [take, FunctionCounter.take, h r s hrs]
  | functionTimer state =>
    cases state with
    | none => rfl
    | some t => simp only [take, FunctionTimer.take, h r s hrs]
  | custom measurements =>
    cases measurements with
    | none => rfl
    | some read => simp only [take, measure, h r s hrs]
  | counter state => cases state <;> rfl
  | timer state => cases state <;> rfl
  | summary state => cases state <;> rfl
  | longTasks state => cases state <;> rfl

theorem ReadsNoOther.take {look : Registry World → World} {handle : Nat} {i : Instrument World}
    (h : i.ReadsNoOther look handle) (unit : TimeUnit) (world : World) (now : UInt64) :
    (i.take unit world now).2.ReadsNoOther look handle := by
  cases i with
  | functionCounter state =>
    cases state with
    | none => exact h
    | some c =>
      have hread : (c.take world).2.read = c.read := by
        unfold FunctionCounter.take
        split <;> rfl
      change Registry.ReadBy look handle (c.take world).2.read
      rw [hread]
      exact h
  | functionTimer state =>
    cases state with
    | none => exact h
    | some t =>
      have hread : (t.take world unit).2.read = t.read := by
        unfold FunctionTimer.take
        split <;> rfl
      change Registry.ReadBy look handle (t.take world unit).2.read
      rw [hread]
      exact h
  | counter state => cases state <;> exact h
  | gauge value => cases value <;> exact h
  | timer state => cases state <;> trivial
  | summary state => cases state <;> trivial
  | longTasks state => cases state <;> exact h
  | custom measurements => cases measurements <;> exact h

end Instrument

namespace Registry

/-! ## Sweeps -/

/-- The snapshots of the meters behind a list of handles, taken one after another. -/
def sweep (unit : TimeUnit) (view : View World) (r : Registry World) :
    List Nat → List (Nat × Snapshot) × Registry World
  | [] => ([], r)
  | handle :: rest =>
    match r.take handle unit (view.look r) view.now with
    | none => sweep unit view r rest
    | some (snapshot, r') =>
      let (taken, last) := sweep unit view r' rest
      ((handle, snapshot) :: taken, last)

variable {unit : TimeUnit} {view : View World}

theorem sweep_cons_of_none {r : Registry World} {handle : Nat}
    (h : r.take handle unit (view.look r) view.now = none) (rest : List Nat) :
    r.sweep unit view (handle :: rest) = r.sweep unit view rest := by
  simp [sweep, h]

theorem sweep_cons_of_some {r r' : Registry World} {handle : Nat} {snapshot : Snapshot}
    (h : r.take handle unit (view.look r) view.now = some (snapshot, r')) (rest : List Nat) :
    r.sweep unit view (handle :: rest) =
      ((handle, snapshot) :: (r'.sweep unit view rest).1, (r'.sweep unit view rest).2) := by
  simp [sweep, h]

theorem sweep_append (r : Registry World) (front back : List Nat) :
    r.sweep unit view (front ++ back) =
      ((r.sweep unit view front).1 ++ ((r.sweep unit view front).2.sweep unit view back).1,
        ((r.sweep unit view front).2.sweep unit view back).2) := by
  induction front generalizing r with
  | nil => rfl
  | cons handle rest ih =>
    rw [List.cons_append]
    cases htake : r.take handle unit (view.look r) view.now with
    | none => rw [sweep_cons_of_none htake, sweep_cons_of_none htake, ih]
    | some shot => rw [sweep_cons_of_some htake, sweep_cons_of_some htake, ih, List.cons_append]

/-- A sweep changes nothing but what the meters have recorded. -/
theorem sameMeters_sweep (r : Registry World) (handles : List Nat) :
    r.SameMeters (r.sweep unit view handles).2 := by
  induction handles generalizing r with
  | nil => exact SameMeters.refl r
  | cons handle rest ih =>
    cases htake : r.take handle unit (view.look r) view.now with
    | none =>
      rw [sweep_cons_of_none htake]
      exact ih r
    | some shot =>
      rw [sweep_cons_of_some htake]
      exact (sameMeters_take htake).trans (ih shot.2)

/-- A sweep takes one snapshot for every handle with a meter behind it. -/
theorem handles_sweep {r : Registry World} {handles : List Nat}
    (h : ∀ handle ∈ handles, handle < r.store.length) :
    (r.sweep unit view handles).1.map Prod.fst = handles := by
  induction handles generalizing r with
  | nil => rfl
  | cons handle rest ih =>
    cases htake : r.take handle unit (view.look r) view.now with
    | none =>
      have hlt := h handle List.mem_cons_self
      exact absurd hlt (Nat.not_lt.2 (take_eq_none_iff.1 htake))
    | some shot =>
      have hlength := (sameMeters_take htake).length_store
      rw [sweep_cons_of_some htake, List.map_cons,
        ih fun other hother => hlength ▸ h other (List.mem_cons_of_mem _ hother)]

/-! ## The order of a sweep -/

/-- None of the meters behind the handles reads another meter. -/
def Unwatched (look : Registry World → World) (r : Registry World) (handles : List Nat) : Prop :=
  ∀ handle ∈ handles, ∀ m, r.meter? handle = some m → m.instrument.ReadsNoOther look handle

namespace Unwatched

variable {look : Registry World → World} {r : Registry World} {handles : List Nat}

theorem of_subset (h : r.Unwatched look handles) {r' : Registry World} {handles' : List Nat}
    (hstore : r'.store = r.store) (hsubset : handles' ⊆ handles) : r'.Unwatched look handles' := by
  intro handle hmem m hm
  rw [meter?, hstore] at hm
  exact h handle (hsubset hmem) m hm

theorem tail {handle : Nat} {rest : List Nat} (h : r.Unwatched look (handle :: rest)) :
    r.Unwatched look rest :=
  h.of_subset rfl (List.subset_cons_self ..)

theorem of_take (h : r.Unwatched look handles) {r' : Registry World} {handle : Nat}
    {world : World} {now : UInt64} {snapshot : Snapshot}
    (htake : r.take handle unit world now = some (snapshot, r')) : r'.Unwatched look handles := by
  obtain ⟨m, hm, -, rfl⟩ := take_eq_some htake
  intro other hother m' hm'
  by_cases heq : handle = other
  · subst heq
    rw [meter?_modify_self, hm] at hm'
    obtain rfl := Option.some.inj hm'
    exact (h handle hother m hm).take unit world now
  · rw [meter?_modify_of_ne _ heq] at hm'
    exact h other hother m' hm'

/-- The snapshot of a meter is the same in every registry in which the meter is. -/
theorem take_eq (h : r.Unwatched look handles) {handle : Nat} (hmem : handle ∈ handles)
    {s : Registry World} (hs : s.meter? handle = r.meter? handle) (now : UInt64) :
    s.take handle unit (look s) now = s.take handle unit (look r) now := by
  cases hm : r.meter? handle with
  | none => simp [Registry.take, hs, hm]
  | some m =>
    have hms : s.meter? handle = some m := hs.trans hm
    rw [take_of_meter hms, take_of_meter hms, (h handle hmem m hm).take_eq hs unit now]

end Unwatched

/-- Where no meter reads another one, what a sweep takes is decided by the store. -/
theorem sweep_congr_store {r r' : Registry World} {handles : List Nat}
    (h : r.Unwatched view.look handles) (hstore : r'.store = r.store) :
    (r'.sweep unit view handles).1 = (r.sweep unit view handles).1 := by
  induction handles generalizing r r' with
  | nil => rfl
  | cons handle rest ih =>
    have hmeter : r'.meter? handle = r.meter? handle := by rw [meter?, meter?, hstore]
    have heq : r'.take handle unit (view.look r') view.now =
        r'.take handle unit (view.look r) view.now :=
      h.take_eq List.mem_cons_self hmeter view.now
    cases hm : r.meter? handle with
    | none =>
      have hlength := List.getElem?_eq_none_iff.1 hm
      rw [sweep_cons_of_none (take_eq_none_iff.2 hlength),
        sweep_cons_of_none (take_eq_none_iff.2 (hstore ▸ hlength)), ih h.tail hstore]
    | some m =>
      have htake := take_of_meter hm unit (view.look r) view.now
      have htake' := heq.trans (take_of_meter (hmeter.trans hm) unit (view.look r) view.now)
      rw [sweep_cons_of_some htake, sweep_cons_of_some htake']
      refine congrArg (_ :: ·) (ih (h.tail.of_take htake) ?_)
      rw [modify, modify, hstore]

/-- Two different meters that read no other one can be swept in either order. -/
theorem sweep_swap {r : Registry World} {handle other : Nat} (hne : handle ≠ other)
    (h : r.Unwatched view.look [handle, other]) (rest : List Nat) :
    (r.sweep unit view (other :: handle :: rest)).1.Perm
        (r.sweep unit view (handle :: other :: rest)).1 ∧
      (r.sweep unit view (other :: handle :: rest)).2 =
        (r.sweep unit view (handle :: other :: rest)).2 := by
  have hnone : ∀ {k l : Nat} {shot : Snapshot × Registry World},
      r.take k unit (view.look r) view.now = none →
      r.take l unit (view.look r) view.now = some shot →
      shot.2.take k unit (view.look shot.2) view.now = none := by
    intro k l shot hk hl
    rw [take_eq_none_iff, (sameMeters_take hl).length_store]
    exact take_eq_none_iff.1 hk
  -- a meter that was not taken is read as before
  have hlook : ∀ {k l : Nat} {shot : Snapshot × Registry World}, k ≠ l → l ∈ [handle, other] →
      r.take k unit (view.look r) view.now = some shot →
      shot.2.take l unit (view.look shot.2) view.now =
        shot.2.take l unit (view.look r) view.now := by
    intro k l shot hkl hl hk
    obtain ⟨m, -, -, hr⟩ := take_eq_some hk
    refine h.take_eq hl ?_ view.now
    rw [hr, meter?_modify_of_ne _ hkl]
  cases h₁ : r.take handle unit (view.look r) view.now with
  | none =>
    rw [sweep_cons_of_none h₁ (other :: rest)]
    cases h₂ : r.take other unit (view.look r) view.now with
    | none =>
      rw [sweep_cons_of_none h₂ (handle :: rest), sweep_cons_of_none h₂ rest,
        sweep_cons_of_none h₁]
      exact ⟨.refl _, rfl⟩
    | some shot₂ =>
      rw [sweep_cons_of_some h₂ (handle :: rest), sweep_cons_of_some h₂ rest,
        sweep_cons_of_none (hnone h₁ h₂)]
      exact ⟨.refl _, rfl⟩
  | some shot₁ =>
    cases h₂ : r.take other unit (view.look r) view.now with
    | none =>
      rw [sweep_cons_of_none h₂, sweep_cons_of_some h₁, sweep_cons_of_some h₁,
        sweep_cons_of_none (hnone h₂ h₁)]
      exact ⟨.refl _, rfl⟩
    | some shot₂ =>
      -- both orders end in the same registry
      obtain ⟨r₃, h₁₂, h₂₁⟩ := take_comm hne h₁ h₂
      rw [← hlook hne (by simp) h₁] at h₁₂
      rw [← hlook hne.symm (by simp) h₂] at h₂₁
      rw [sweep_cons_of_some h₂, sweep_cons_of_some h₂₁, sweep_cons_of_some h₁,
        sweep_cons_of_some h₁₂]
      exact ⟨.swap _ _ _, rfl⟩

/-- The order of a sweep matters neither to what is taken nor to what is left where no meter reads
another one. -/
theorem sweep_perm {r : Registry World} {handles handles' : List Nat}
    (h : r.Unwatched view.look handles) (hperm : handles.Perm handles') :
    (r.sweep unit view handles).1.Perm (r.sweep unit view handles').1 ∧
      (r.sweep unit view handles).2 = (r.sweep unit view handles').2 := by
  induction hperm generalizing r with
  | nil => exact ⟨.refl _, rfl⟩
  | cons handle _ ih =>
    cases htake : r.take handle unit (view.look r) view.now with
    | none =>
      rw [sweep_cons_of_none htake, sweep_cons_of_none htake]
      exact ih h.tail
    | some shot =>
      rw [sweep_cons_of_some htake, sweep_cons_of_some htake]
      exact ⟨(ih (h.tail.of_take htake)).1.cons _, (ih (h.tail.of_take htake)).2⟩
  | swap handle other rest =>
    by_cases heq : handle = other
    · subst heq
      exact ⟨.refl _, rfl⟩
    · refine sweep_swap heq (h.of_subset rfl ?_) rest
      intro k hk
      rcases List.mem_cons.1 hk with rfl | hk
      · exact List.mem_cons_of_mem _ List.mem_cons_self
      · obtain rfl := List.mem_singleton.1 hk
        exact List.mem_cons_self
  | trans hfirst _ ih ih' =>
    have h' := h.of_subset rfl hfirst.symm.subset
    exact ⟨(ih h).1.trans (ih' h').1, (ih h).2.trans (ih' h').2⟩

end Registry

/-! ## Publishes are sweeps -/

section Collecting

variable (backend : Backend Record Cache) (view : View World) (runtime : Bool)

theorem collect_of_none {c : Collected World Record Cache} {handle : Nat}
    (h : c.registry.take handle backend.unit (view.look c.registry) view.now = none) :
    collect backend view c handle = c := by
  unfold collect
  rw [h]
  split
  · simp_all
  · rfl

theorem collect_of_some {c : Collected World Record Cache} {handle : Nat} {snapshot : Snapshot}
    {r' : Registry World}
    (h : c.registry.take handle backend.unit (view.look c.registry) view.now =
      some (snapshot, r')) :
    (collect backend view c handle).registry = r' ∧
      (collect backend view c handle).shots.map Shot.taken =
        c.shots.map Shot.taken ++ [(handle, snapshot)] := by
  obtain ⟨m, hm, -, -⟩ := Registry.take_eq_some h
  unfold collect
  rw [h, hm]
  by_cases hfinite : snapshot.hasFiniteValue = true
  · simp [hfinite, Shot.taken]
  · simp [hfinite, Shot.taken]

/-- A meter either cannot be taken, or it is written, or it is skipped. -/
theorem collect_cases (backend : Backend Record Cache) (view : View World)
    (c : Collected World Record Cache) (handle : Nat) :
    let c' := collect backend view c handle
    c' = c ∨ ∃ m snapshot records,
      c.registry.meter? handle = some m ∧ c.registry.SameMeters c'.registry ∧
      c'.shots = c.shots ++ [⟨handle, snapshot, records⟩] ∧
      ((snapshot.hasFiniteValue = true ∧
          records = some (backend.write c.cache m.id m.form snapshot view.installed).records ∧
          c'.cache = (backend.write c.cache m.id m.form snapshot view.installed).cache) ∨
        (snapshot.hasFiniteValue = false ∧ records = none ∧ c'.cache = c.cache)) := by
  intro c'
  cases htake : c.registry.take handle backend.unit (view.look c.registry) view.now with
  | none => exact .inl (collect_of_none backend view htake)
  | some taken =>
    obtain ⟨snapshot, r'⟩ := taken
    obtain ⟨m, hm, -, -⟩ := Registry.take_eq_some htake
    have hmeters := Registry.sameMeters_take htake
    cases hfinite : snapshot.hasFiniteValue with
    | true =>
      refine .inr ⟨m, snapshot, _, hm, ?_, ?_, .inl ⟨hfinite, rfl, ?_⟩⟩ <;>
        simp only [c', collect, hm, htake, hfinite, if_true]
      exact hmeters
    | false =>
      refine .inr ⟨m, snapshot, _, hm, ?_, ?_, .inr ⟨hfinite, rfl, ?_⟩⟩ <;>
        simp only [c', collect, hm, htake, hfinite, Bool.false_eq_true, if_false]
      exact hmeters

/-- Collecting a list of meters sweeps it. -/
theorem foldl_collect_sweep (c : Collected World Record Cache) (handles : List Nat) :
    (handles.foldl (collect backend view) c).registry =
        (c.registry.sweep backend.unit view handles).2 ∧
      (handles.foldl (collect backend view) c).shots.map Shot.taken =
        c.shots.map Shot.taken ++ (c.registry.sweep backend.unit view handles).1 := by
  induction handles generalizing c with
  | nil => simp [Registry.sweep]
  | cons handle rest ih =>
    rw [List.foldl_cons]
    obtain ⟨hregistry, hshots⟩ := ih (collect backend view c handle)
    cases htake : c.registry.take handle backend.unit (view.look c.registry) view.now with
    | none =>
      rw [collect_of_none backend view htake] at hregistry hshots ⊢
      rw [Registry.sweep_cons_of_none htake]
      exact ⟨hregistry, hshots⟩
    | some shot =>
      obtain ⟨hr, hs⟩ := collect_of_some backend view htake
      rw [hr] at hregistry hshots
      rw [hs, List.append_assoc, List.singleton_append] at hshots
      rw [Registry.sweep_cons_of_some htake]
      exact ⟨hregistry, hshots⟩

/-- Encoding a batch does nothing to the meters and the cache. -/
theorem publishBatch_collectBatch (p : Progress World Record Cache) (batch : List Nat) :
    (publishBatch backend view runtime p batch).registry =
        (collectBatch backend view p.registry p.cache batch).registry ∧
      (publishBatch backend view runtime p batch).shots =
        p.shots ++ (collectBatch backend view p.registry p.cache batch).shots ∧
      (publishBatch backend view runtime p batch).cache =
        (collectBatch backend view p.registry p.cache batch).cache := by
  simp only [publishBatch]
  split
  · exact ⟨rfl, rfl, rfl⟩
  · split <;> exact ⟨rfl, rfl, rfl⟩

theorem foldl_publishBatch_sweep (p : Progress World Record Cache) (batches : List (List Nat)) :
    (batches.foldl (publishBatch backend view runtime) p).registry =
        (p.registry.sweep backend.unit view batches.flatten).2 ∧
      (batches.foldl (publishBatch backend view runtime) p).shots.map Shot.taken =
        p.shots.map Shot.taken ++ (p.registry.sweep backend.unit view batches.flatten).1 := by
  induction batches generalizing p with
  | nil => simp [Registry.sweep]
  | cons batch rest ih =>
    obtain ⟨hregistry, hshots⟩ := ih (publishBatch backend view runtime p batch)
    obtain ⟨hr, hs, -⟩ := publishBatch_collectBatch backend view runtime p batch
    obtain ⟨hr', hs'⟩ := foldl_collect_sweep backend view ⟨p.registry, p.cache, [], 0, [], []⟩ batch
    rw [hr, collectBatch, hr'] at hregistry hshots
    rw [hs, List.map_append, collectBatch, hs', List.map_nil, List.nil_append,
      List.append_assoc] at hshots
    rw [List.foldl_cons, List.flatten_cons, Registry.sweep_append]
    exact ⟨hregistry, hshots⟩

/-- What one meter more keeps true of the registry, the cache and all shots so far is true after any
number of batches. -/
theorem foldl_publishBatch_invariant (Inv : Registry World → Cache → List (Shot Record) → Prop)
    {handles : List Nat}
    (hstep : ∀ c earlier, ∀ handle ∈ handles, Inv c.registry c.cache (earlier ++ c.shots) →
      let c' := collect backend view c handle
      Inv c'.registry c'.cache (earlier ++ c'.shots))
    (p : Progress World Record Cache) (h : Inv p.registry p.cache p.shots)
    {batches : List (List Nat)} (hbatches : batches.flatten ⊆ handles) :
    let p' := batches.foldl (publishBatch backend view runtime) p
    Inv p'.registry p'.cache p'.shots := by
  have hbatch (earlier : List (Shot Record)) (c : Collected World Record Cache) (batch : List Nat)
      (hsubset : batch ⊆ handles) (h : Inv c.registry c.cache (earlier ++ c.shots)) :
      let c' := batch.foldl (collect backend view) c
      Inv c'.registry c'.cache (earlier ++ c'.shots) := by
    induction batch generalizing c with
    | nil => exact h
    | cons handle rest ih =>
      obtain ⟨hhandle, hrest⟩ := List.cons_subset.1 hsubset
      exact ih _ hrest (hstep c earlier handle hhandle h)
  induction batches generalizing p with
  | nil => exact h
  | cons batch rest ih =>
    obtain ⟨hfirst, hrest⟩ := List.append_subset.1 hbatches
    obtain ⟨hregistry, hshots, hcache⟩ := publishBatch_collectBatch backend view runtime p batch
    refine ih _ ?_ hrest
    -- a batch starts without shots, and its shots are put behind those before it
    have hstart : Inv p.registry p.cache (p.shots ++ []) := by
      rw [List.append_nil]
      exact h
    rw [hregistry, hcache, hshots]
    exact hbatch p.shots ⟨p.registry, p.cache, [], 0, [], []⟩ batch hfirst hstart

/-- What is kept from meter to meter and true of every shot is so after any number of batches. -/
theorem foldl_publishBatch_induction (Kept : Registry World → Cache → Prop)
    (Right : Shot Record → Prop) {handles : List Nat}
    (hstep : ∀ c, ∀ handle ∈ handles, Kept c.registry c.cache → (∀ s ∈ c.shots, Right s) →
      let c' := collect backend view c handle
      Kept c'.registry c'.cache ∧ ∀ s ∈ c'.shots, Right s)
    (p : Progress World Record Cache) (hkept : Kept p.registry p.cache)
    (hright : ∀ s ∈ p.shots, Right s) {batches : List (List Nat)}
    (hbatches : batches.flatten ⊆ handles) :
    let p' := batches.foldl (publishBatch backend view runtime) p
    Kept p'.registry p'.cache ∧ ∀ s ∈ p'.shots, Right s := by
  refine foldl_publishBatch_invariant backend view runtime
    (fun r cache shots => Kept r cache ∧ ∀ s ∈ shots, Right s) ?_ p ⟨hkept, hright⟩ hbatches
  intro c earlier handle hhandle ⟨hkept, hshots⟩
  obtain ⟨hearlier, hright⟩ := List.forall_mem_append.1 hshots
  obtain ⟨hkept', hright'⟩ := hstep c handle hhandle hkept hright
  exact ⟨hkept', List.forall_mem_append.2 ⟨hearlier, hright'⟩⟩

end Collecting

theorem flatten_batches {α : Type} (items : List α) (max : Nat) :
    (batches items max).flatten = items := by
  fun_induction batches items max with
  | case1 => rfl
  | case2 item rest ih =>
    rw [List.flatten_cons, ih, List.cons_append, List.take_append_drop]

namespace Publisher

def viewOf (p : Publisher Record Cache) (r : Registry World) (look : Registry World → World)
    (now : UInt64) : View World :=
  ⟨look, now, p.conventionFor r⟩

/-- A publish sweeps the registered meters, each once for every entry. -/
theorem iterate_sweep (p : Publisher Record Cache) (r : Registry World)
    (look : Registry World → World) (now : UInt64) (runtime : Bool) :
    (p.iterate r look now runtime).registry =
        (r.sweep p.backend.unit (p.viewOf r look now) r.handles).2 ∧
      (p.iterate r look now runtime).shots.map Shot.taken =
        (r.sweep p.backend.unit (p.viewOf r look now) r.handles).1 := by
  have h := foldl_publishBatch_sweep p.backend (p.viewOf r look now) runtime
    ⟨r, p.backend.retain p.cache (r.meters.map fun m => m.id.toIdentity), ⟨0, 0, 0, 0⟩,
      [], [], [], []⟩ (batches r.handles p.config.batchSize)
  rw [flatten_batches] at h
  exact h

end Publisher

end Telemetry
