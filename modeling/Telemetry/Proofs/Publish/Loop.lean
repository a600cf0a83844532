import Telemetry.Proofs.Publish.Lifecycle
import Telemetry.Proofs.Registry.Chronicle

/-!
# The publishing loop among other things

A publish goes from meter to meter, and everything else goes on meanwhile: applications register and
record, other publishers publish, and the holder of the handle may ask for something. Here the loop
of a publisher takes its snapshots one at a time, and anything may happen in between.

## Main definitions

- `Loop`, `Loop.Event` — a publisher and the registry that it shares, and what happens to them
- `Loop.chronicle` — what happens to the meter behind a handle
- `Registry.Told` — how what has been told of a handle fits what is behind it

## Main statements

- `Loop.run_publish` — a publish during which nothing else happens is that of a publisher
- `Loop.step_move_cases` — all that a move can do
- `Loop.chronicle_of_mem` — the chronicle of a meter that is registered

## Design notes

A publish takes its snapshots of the meters that are registered when it begins, also of those that
are removed while it is under way. What is written, encoded and sent has no part in what happens to
meters, so it is left out of a loop.
-/

namespace Telemetry

variable {World : Type}

/-! ## The loop of a publisher -/

/-- The lifecycle of a publisher, the unit of its backend, the registry that it shares with
everybody else, and the meters that the publish under way has yet to come to. -/
structure Loop (World : Type) where
  unit : TimeUnit
  life : Lifecycle
  registry : Registry World
  pending : List Nat

namespace Loop

inductive Event (World : Type) : Type 1
  /-- The publisher makes a move, or its holder does. -/
  | move (m : Move)
  /-- Somebody else does something to the registry. -/
  | act (a : Action World)
  /-- The publish under way takes its next snapshot. -/
  | shoot (view : View World)

def new (unit : TimeUnit) (enumeration : Enumeration) : Loop World :=
  ⟨unit, .new, .empty enumeration, []⟩

/-- The next snapshot of the publish under way, and the registry after it. -/
def shot (s : Loop World) (view : View World) : List (Nat × Snapshot) × Registry World :=
  s.registry.sweep s.unit view (s.pending.take 1)

/-- A publish that begins has before it the meters that are registered at this moment, and does not
end before it has come to all of them. -/
def step (s : Loop World) : Event World → Loop World
  | .move m =>
    match s.life.effect m with
    | .nothing => { s with life := s.life.step m }
    | .begins => { s with life := s.life.step m, pending := s.registry.handles }
    | .ends => if s.pending = [] then { s with life := s.life.step m } else s
  | .act a => { s with registry := s.registry.step a }
  | .shoot view => { s with registry := (s.shot view).2, pending := s.pending.drop 1 }

def run (s : Loop World) (events : List (Event World)) : Loop World := events.foldl step s

def occurrences (s : Loop World) (handle : Nat) : Event World → List (Occurrence World)
  | .move _ => []
  | .act a => s.registry.occurrences handle a
  | .shoot view => Registry.snapshotsOf s.unit handle (s.shot view).1

/-- What happens to the meter behind a handle while events happen. -/
def chronicle (s : Loop World) (handle : Nat) : List (Event World) → List (Occurrence World)
  | [] => []
  | e :: rest => s.occurrences handle e ++ (s.step e).chronicle handle rest

def begins (s : Loop World) : Event World → Bool
  | .move m => s.life.effect m = .begins
  | _ => false

/-- How many publishes begin while events happen. -/
def begun (s : Loop World) : List (Event World) → Nat
  | [] => 0
  | e :: rest => (if s.begins e then 1 else 0) + (s.step e).begun rest

theorem run_append (s : Loop World) (front back : List (Event World)) :
    s.run (front ++ back) = (s.run front).run back :=
  List.foldl_append

theorem chronicle_append (s : Loop World) (handle : Nat) (front back : List (Event World)) :
    s.chronicle handle (front ++ back) =
      s.chronicle handle front ++ (s.run front).chronicle handle back := by
  induction front generalizing s with
  | nil => rfl
  | cons e rest ih =>
    rw [List.cons_append, chronicle, ih, chronicle, List.append_assoc]
    rfl

@[simp] theorem registry_step_move (s : Loop World) (m : Move) :
    (s.step (.move m)).registry = s.registry := by
  simp only [step]
  cases s.life.effect m with
  | ends =>
    by_cases hpending : s.pending = []
    · rw [if_pos hpending]
    · rw [if_neg hpending]
  | _ => rfl

/-! ## Moves -/

theorem step_begins {s : Loop World} {m : Move} (h : s.life.effect m = .begins) :
    s.step (.move m) = { s with life := s.life.step m, pending := s.registry.handles } := by
  simp only [step, h]

/-- If an event is a move, it is one of some. -/
def Event.Within (Allowed : Move → Prop) : Event World → Prop
  | .move m => Allowed m
  | _ => True

/-- All that a move can do: the end of a publish may have to wait; otherwise the lifecycle moves,
and the meters that are pending change only if a publish begins. -/
theorem step_move_cases (s : Loop World) (m : Move) :
    (s.life.effect m = .begins ∧
        s.step (.move m) = { s with life := s.life.step m, pending := s.registry.handles }) ∨
      (s.life.effect m ≠ .begins ∧ (s.life.effect m = .ends → s.pending = []) ∧
        s.step (.move m) = { s with life := s.life.step m }) ∨
      (s.life.effect m ≠ .begins ∧ s.step (.move m) = s) := by
  cases heffect : s.life.effect m with
  | begins => exact .inl ⟨rfl, step_begins heffect⟩
  | nothing =>
    refine .inr (.inl ⟨Effect.noConfusion, Effect.noConfusion, ?_⟩)
    simp only [step, heffect]
  | ends =>
    by_cases hpending : s.pending = []
    · refine .inr (.inl ⟨Effect.noConfusion, fun _ => hpending, ?_⟩)
      simp only [step, heffect, if_pos hpending]
    · refine .inr (.inr ⟨Effect.noConfusion, ?_⟩)
      simp only [step, heffect, if_neg hpending]

/-- Whatever a lifecycle keeps in some moves, a loop keeps that makes no others. -/
theorem life_step {Kept : Lifecycle → Prop} {Allowed : Move → Prop}
    (hkeeps : ∀ l m, Kept l → Allowed m → Kept (l.step m)) {s : Loop World} (h : Kept s.life)
    {e : Event World} (he : e.Within Allowed) : Kept (s.step e).life := by
  cases e with
  | move m =>
    rcases s.step_move_cases m with ⟨-, hstep⟩ | ⟨-, -, hstep⟩ | ⟨-, hstep⟩
    · rw [hstep]
      exact hkeeps _ m h he
    · rw [hstep]
      exact hkeeps _ m h he
    · rw [hstep]
      exact h
  | act a => exact h
  | shoot view => exact h

theorem life_run {Kept : Lifecycle → Prop} {Allowed : Move → Prop}
    (hkeeps : ∀ l m, Kept l → Allowed m → Kept (l.step m)) {s : Loop World} (h : Kept s.life)
    {events : List (Event World)} (hevents : ∀ e ∈ events, e.Within Allowed) :
    Kept (s.run events).life := by
  induction events generalizing s with
  | nil => exact h
  | cons e rest ih =>
    obtain ⟨he, hrest⟩ := List.forall_mem_cons.1 hevents
    exact ih (life_step hkeeps h he) hrest

theorem shows_run (s : Loop World) (h : s.life.phase.Shows s.life.state)
    (events : List (Event World)) :
    (s.run events).life.phase.Shows (s.run events).life.state := by
  have hkeeps (l : Lifecycle) (m : Move) (hshows : l.phase.Shows l.state) (_ : True) :
      (l.step m).phase.Shows (l.step m).state :=
    (l.advance_step m).shows hshows
  refine life_run hkeeps h fun e _ => ?_
  cases e <;> trivial

/-! ## Publishes that nothing interrupts -/

/-- Snapshots that are taken one right after another are a sweep. -/
theorem run_shoots (s : Loop World) (view : View World) (handle : Nat) :
    let events := List.replicate s.pending.length (Event.shoot view)
    s.run events =
        { s with registry := (s.registry.sweep s.unit view s.pending).2, pending := [] } ∧
      s.chronicle handle events =
        Registry.snapshotsOf s.unit handle (s.registry.sweep s.unit view s.pending).1 := by
  -- each snapshot is a sweep of one meter, and sweeps one after another are one sweep
  obtain ⟨unit, life, registry, pending⟩ := s
  induction pending generalizing registry with
  | nil => exact ⟨rfl, rfl⟩
  | cons first rest ih =>
    obtain ⟨hrun, htold⟩ := ih (registry.sweep unit view [first]).2
    have hsweep : registry.sweep unit view (first :: rest) = _ :=
      registry.sweep_append [first] rest
    refine ⟨?_, ?_⟩
    · rw [hsweep]
      exact hrun
    · simp only [hsweep, Registry.snapshotsOf, List.filter_append, List.map_append]
      exact congrArg (_ ++ ·) htold

theorem step_finish {s : Loop World} (h : s.pending = []) :
    s.step (.move .finish) = { s with life := s.life.step .finish } := by
  simp only [step, Lifecycle.effect]
  by_cases hpublishing : s.life.isPublishing = true
  · rw [if_pos hpublishing]
    exact if_pos h
  · rw [if_neg hpublishing]

/-- A publish during which nothing else happens does to the registry, and to every meter, what the
publish of a publisher does. -/
theorem run_publish {Record Cache : Type} {s : Loop World} {m : Move}
    (hm : s.life.effect m = .begins) {p : Publisher Record Cache} (hp : p.backend.unit = s.unit)
    (look : Registry World → World) (now : UInt64) (runtime : Bool) (handle : Nat) :
    let shoots := List.replicate s.registry.handles.length
      (Event.shoot (p.viewOf s.registry look now))
    let events := .move m :: (shoots ++ [.move .finish])
    s.run events =
        { s with
          life := (s.life.step m).step .finish
          registry := s.registry.step (.publish p look now runtime)
          pending := [] } ∧
      s.chronicle handle events =
        s.registry.occurrences handle (.publish p look now runtime) := by
  intro shoots events
  obtain ⟨hregistry, hshots⟩ := p.iterate_sweep s.registry look now runtime
  rw [hp] at hregistry hshots
  -- with all registered meters pending, the snapshots are the sweep of that publish
  obtain ⟨hrun, htold⟩ := (s.step (.move m)).run_shoots (p.viewOf s.registry look now) handle
  rw [step_begins hm] at hrun htold
  constructor
  · change (s.step (.move m)).run (shoots ++ [.move .finish]) = _
    rw [run_append, step_begins hm, hrun]
    refine (step_finish rfl).trans ?_
    rw [← hregistry]
    rfl
  · change [] ++ (s.step (.move m)).chronicle handle (shoots ++ [.move .finish]) = _
    rw [List.nil_append, chronicle_append, step_begins hm, htold, ← hshots, ← hp]
    exact List.append_nil _

end Loop

/-! ## What has been told -/

namespace Registry

/-- What has been told of a handle, and what is behind it now: no meter has been made yet, or the
meter is not registered, or it holds what the telling leaves. -/
inductive Told (r : Registry World) (handle : Nat) : List (Occurrence World) → Prop
  | fresh (h : r.store.length ≤ handle) : Told r handle []
  | gone (h : r.Gone handle) (told : List (Occurrence World)) : Told r handle told
  | made (recipe : Recipe World) (rest : List (Occurrence World))
    (h : recipe.Accumulates → ∃ held, recipe.Leads [] rest held ∧ r.Holds handle recipe held) :
    Told r handle (.made recipe :: rest)

theorem Gone.of_sameMeters {r r' : Registry World} {handle : Nat} (h : r.Gone handle)
    (hsame : r.SameMeters r') : r'.Gone handle :=
  ⟨hsame.length_store ▸ h.lt_length, hsame.handles ▸ h.not_mem⟩

theorem lt_of_mem_sweep {r : Registry World} {unit : TimeUnit} {view : View World}
    {handles : List Nat} {taken : Nat × Snapshot} (h : taken ∈ (r.sweep unit view handles).1) :
    taken.1 < r.store.length := by
  -- a snapshot keeps the number of meters, so the rest of the sweep may begin from any registry
  induction handles generalizing r with
  | nil => cases h
  | cons handle rest ih =>
    cases htake : r.take handle unit (view.look r) view.now with
    | none =>
      rw [sweep_cons_of_none htake] at h
      exact ih h
    | some shot =>
      rw [sweep_cons_of_some htake] at h
      rcases List.mem_cons.1 h with rfl | h
      · obtain ⟨m, hm, -⟩ := take_eq_some htake
        exact meter?_lt hm
      · have hlength := (sameMeters_take htake).length_store
        exact hlength ▸ ih h

theorem snapshotsOf_of_length_le {r : Registry World} {handle : Nat}
    (h : r.store.length ≤ handle) (unit : TimeUnit) (view : View World) (handles : List Nat) :
    (snapshotsOf unit handle (r.sweep unit view handles).1 : List (Occurrence World)) = [] := by
  rw [snapshotsOf, List.map_eq_nil_iff, List.filter_eq_nil_iff]
  intro taken htaken heq
  have hlt := lt_of_mem_sweep htaken
  rw [beq_iff_eq.1 heq] at hlt
  exact Nat.not_lt.2 h hlt

namespace Told

variable {r : Registry World} {handle : Nat} {told : List (Occurrence World)}

theorem step (h : r.Told handle told) (hsound : r.Sound) (a : Action World) :
    (r.step a).Told handle (told ++ r.occurrences handle a) := by
  cases h with
  | fresh hle =>
    rw [List.nil_append]
    rcases hsound.step_of_length_le hle a with
      ⟨hnone, hle'⟩ | ⟨-, m, hm, hidle⟩ | ⟨recipe, hmade, hholds⟩
    · rw [hnone]
      exact .fresh hle'
    · -- a meter that was denied is never registered
      exact .gone (gone_of_isIdle (hsound.step a) hm hidle) _
    · rw [hmade]
      exact .made recipe [] fun _ => ⟨[], .refl, hholds⟩
  | gone hgone => exact .gone (hgone.step hsound a) _
  | made recipe rest hrest =>
    refine .made recipe (rest ++ _) fun hrecipe => ?_
    obtain ⟨held, hleads, hholds⟩ := hrest hrecipe
    obtain ⟨held', hleads', hholds'⟩ := hholds.step hrecipe hsound a
    exact ⟨held', hleads.trans hleads', hholds'⟩

theorem sweep (h : r.Told handle told) (unit : TimeUnit) (view : View World)
    (handles : List Nat) :
    (r.sweep unit view handles).2.Told handle
      (told ++ snapshotsOf unit handle (r.sweep unit view handles).1) := by
  have hsame : r.SameMeters (r.sweep unit view handles).2 := r.sameMeters_sweep handles
  cases h with
  | fresh hle =>
    rw [snapshotsOf_of_length_le hle]
    exact .fresh (hsame.length_store ▸ hle)
  | gone hgone => exact .gone (hgone.of_sameMeters hsame) _
  | made recipe rest hrest =>
    refine .made recipe (rest ++ _) fun hrecipe => ?_
    obtain ⟨held, hleads, hholds⟩ := hrest hrecipe
    obtain ⟨held', hleads', hholds'⟩ := hholds.sweep hrecipe unit view handles
    exact ⟨held', hleads.trans hleads', hholds'⟩

theorem lt_length {recipe : Recipe World} {rest : List (Occurrence World)}
    (h : r.Told handle (.made recipe :: rest)) (hrecipe : recipe.Accumulates) :
    handle < r.store.length := by
  cases h with
  | gone hgone => exact hgone.lt_length
  | made _ _ hrest =>
    obtain ⟨held, -, m, hm, -⟩ := hrest hrecipe
    exact meter?_lt hm

end Told

end Registry

namespace Loop

/-- An event does one action to the registry, or keeps its meters. -/
theorem registry_step_cases (s : Loop World) (e : Event World) :
    s.registry.SameMeters (s.step e).registry ∨
      ∃ a, (s.step e).registry = s.registry.step a := by
  cases e with
  | move m =>
    rw [registry_step_move]
    exact .inl (.refl _)
  | act a => exact .inr ⟨a, rfl⟩
  | shoot view => exact .inl (Registry.sameMeters_sweep ..)

theorem sound_step {s : Loop World} (h : s.registry.Sound) (e : Event World) :
    (s.step e).registry.Sound := by
  rcases s.registry_step_cases e with hsame | ⟨a, ha⟩
  · exact h.of_sameMeters hsame
  · rw [ha]
    exact h.step a

theorem sound_run {s : Loop World} (h : s.registry.Sound) (events : List (Event World)) :
    (s.run events).registry.Sound := by
  induction events generalizing s with
  | nil => exact h
  | cons e rest ih => exact ih (sound_step h e)

theorem told_step {s : Loop World} (hsound : s.registry.Sound) {handle : Nat}
    {told : List (Occurrence World)} (h : s.registry.Told handle told) (e : Event World) :
    (s.step e).registry.Told handle (told ++ s.occurrences handle e) := by
  cases e with
  | move m =>
    rw [registry_step_move]
    exact (List.append_nil told).symm ▸ h
  | act a => exact h.step hsound a
  | shoot view => exact h.sweep ..

theorem told_run {s : Loop World} (hsound : s.registry.Sound) {handle : Nat}
    {told : List (Occurrence World)} (h : s.registry.Told handle told)
    (events : List (Event World)) :
    (s.run events).registry.Told handle (told ++ s.chronicle handle events) := by
  -- every event adds its occurrences to what has been told
  induction events generalizing s told with
  | nil => exact (List.append_nil told).symm ▸ h
  | cons e rest ih =>
    have hrest := ih (sound_step hsound e) (told_step hsound h e)
    rw [List.append_assoc] at hrest
    exact hrest

theorem gone_step {s : Loop World} (hsound : s.registry.Sound) {handle : Nat}
    (h : s.registry.Gone handle) (e : Event World) : (s.step e).registry.Gone handle := by
  rcases s.registry_step_cases e with hsame | ⟨a, ha⟩
  · exact h.of_sameMeters hsame
  · rw [ha]
    exact h.step hsound a

theorem stored_step {s : Loop World} {handle : Nat} (h : handle < s.registry.store.length)
    (e : Event World) :
    handle < (s.step e).registry.store.length := by
  rcases s.registry_step_cases e with hsame | ⟨a, ha⟩
  · exact hsame.length_store.symm ▸ h
  · have hm : s.registry.meter? handle = some s.registry.store[handle] :=
      List.getElem?_eq_getElem h
    obtain ⟨m', hm', -⟩ := Registry.exists_meter_change hm (.act a)
    rw [ha]
    exact Registry.meter?_lt hm'

theorem told_new (unit : TimeUnit) (enumeration : Enumeration) (handle : Nat)
    (events : List (Event World)) :
    ((new unit enumeration).run events).registry.Told handle
      ((new unit enumeration).chronicle handle events) :=
  told_run (Registry.sound_empty enumeration) (.fresh (Nat.zero_le handle)) events

/-- All that has happened to a meter that is registered begins when it is made. -/
theorem chronicle_of_mem {unit : TimeUnit} {enumeration : Enumeration}
    {events : List (Event World)} {handle : Nat}
    (h : handle ∈ ((new unit enumeration).run events).registry.handles) :
    ∃ recipe rest, (new unit enumeration).chronicle handle events = .made recipe :: rest ∧
      (recipe.Accumulates → ∃ segments held, rest = recipe.telling segments held) := by
  have hsound : ((new unit enumeration).run events).registry.Sound :=
    sound_run (Registry.sound_empty enumeration) events
  have htold := told_new unit enumeration handle events
  generalize (new unit enumeration).chronicle handle events = told at htold
  cases htold with
  -- of the three cases only the last is one of a registered meter
  | fresh hle => exact absurd (hsound.stored handle h) (Nat.not_lt.2 hle)
  | gone hgone => exact absurd h hgone.not_mem
  | made recipe rest hrest =>
    refine ⟨recipe, rest, rfl, fun hrecipe => ?_⟩
    obtain ⟨held, ⟨segments, hsegments⟩, -⟩ := hrest hrecipe
    exact ⟨segments, held, hsegments⟩

end Loop

end Telemetry
