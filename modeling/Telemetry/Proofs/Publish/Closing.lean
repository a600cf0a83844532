import Telemetry.Proofs.Publish.Loop

/-!
# Closing flushes

A publisher that is asked to close publishes once more before it stops. The request may come at any
moment: before the first step, while a publish is under way, or together with a step that is due and
that the loop takes first. In every such order, all that was accepted before the request is in a
snapshot when the publisher has stopped.

## Main definitions

- `Lifecycle.Pressed` — the loop has yet to look at a request to close
- `amountsOf`, `Reported` — what is accepted, and that a snapshot is taken
- `Loop.Flushing` — what is owed to a meter between the request and the end

## Main statements

- `Lifecycle.Pressed.step` — the last round begins with a publish
- `Loop.Flushing.step` — nothing that may happen after the request takes from what is owed
- `Loop.canEnd_of_closing` — the loop can always go on to its end
- `close_flushes` — what holds when a publisher that was asked to close has stopped
-/

namespace Telemetry

variable {World : Type}

/-! ## The request to close -/

namespace Move

/-- A move of a publisher that is enabled and that nobody stops, closes or lets go of. -/
def Calm : Move → Prop
  | start enabled => enabled = true
  | ask _ => False
  | release => False
  | _ => True

/-- A move that asks for nothing. -/
def Mute : Move → Prop
  | ask _ => False
  | _ => True

/-- A move that the publishing loop makes without being due. -/
def Own : Move → Prop
  | arm | observe | finish | quit => True
  | _ => False

end Move

namespace Lifecycle

/-- Nothing has been asked for, and the loop goes on. -/
structure Calm (l : Lifecycle) : Prop where
  unseen : l.unseen = false
  held : l.held = true
  goesOn : l.phase.isLast = false

theorem Calm.step {l : Lifecycle} (h : l.Calm) {m : Move} (hm : m.Calm) : (l.step m).Calm := by
  obtain ⟨state, phase, request, unseen, held⟩ := l
  obtain ⟨hunseen, hheld, hphase⟩ := h
  dsimp only at hunseen hheld hphase
  subst hunseen hheld
  cases m with
  | start enabled =>
    obtain rfl : enabled = true := hm
    cases phase <;> exact ⟨rfl, rfl, hphase⟩
  | ask request => exact hm.elim
  | release => exact hm.elim
  | finish =>
    cases phase with
    | publishing last =>
      obtain rfl : last = false := hphase
      exact ⟨rfl, rfl, rfl⟩
    | _ => exact ⟨rfl, rfl, hphase⟩
  | quit =>
    cases phase with
    | ending => exact absurd hphase (by decide)
    | _ => exact ⟨rfl, rfl, hphase⟩
  | _ => cases phase <;> exact ⟨rfl, rfl, hphase⟩

/-- The loop runs, is not in its last round, and has yet to look at a request to close. -/
structure Pressed (l : Lifecycle) : Prop where
  started : l.phase ≠ .unstarted
  goesOn : l.phase.isLast = false
  unseen : l.unseen = true
  request : l.request = .close

theorem Calm.pressed {l : Lifecycle} (h : l.Calm) (hstarted : l.isStarted = true) :
    (l.step (.ask .close)).Pressed := by
  have hphase : l.phase ≠ .unstarted := by simpa [isStarted] using hstarted
  have hstep : l.step (.ask .close) = { l with request := .close, unseen := true } := by
    simp [Lifecycle.step, step?, h.held, hphase]
  rw [hstep]
  exact ⟨hphase, h.goesOn, rfl, rfl⟩

/-- Whatever the loop takes up first, its last round begins with a publish. -/
theorem Pressed.step {l : Lifecycle} (h : l.Pressed) {m : Move} (hm : m.Mute) :
    (l.step m).Pressed ∨ (l.effect m = .begins ∧ (l.step m).phase = .publishing true) := by
  obtain ⟨state, phase, request, unseen, held⟩ := l
  obtain ⟨hstarted, hgoesOn, hunseen, hrequest⟩ := h
  dsimp only at hstarted hgoesOn hunseen hrequest
  subst hunseen hrequest
  -- only a look at the request leads to the last round, and with it a publish begins
  cases m with
  | start =>
    cases phase with
    | unstarted => exact absurd rfl hstarted
    | _ => exact .inl ⟨hstarted, hgoesOn, rfl, rfl⟩
  | arm =>
    cases phase with
    | top => exact .inl ⟨Phase.noConfusion, rfl, rfl, rfl⟩
    | _ => exact .inl ⟨hstarted, hgoesOn, rfl, rfl⟩
  | tick =>
    cases phase with
    | waiting => exact .inl ⟨Phase.noConfusion, rfl, rfl, rfl⟩
    | _ => exact .inl ⟨hstarted, hgoesOn, rfl, rfl⟩
  | observe =>
    cases phase with
    | waiting => exact .inr ⟨rfl, rfl⟩
    | _ => exact .inl ⟨hstarted, hgoesOn, rfl, rfl⟩
  | finish =>
    cases phase with
    | publishing last =>
      obtain rfl : last = false := hgoesOn
      exact .inl ⟨Phase.noConfusion, rfl, rfl, rfl⟩
    | _ => exact .inl ⟨hstarted, hgoesOn, rfl, rfl⟩
  | quit =>
    cases phase with
    | ending => exact absurd hgoesOn (by decide)
    | _ => exact .inl ⟨hstarted, hgoesOn, rfl, rfl⟩
  | ask => exact hm.elim
  | release => cases held <;> exact .inl ⟨hstarted, hgoesOn, rfl, rfl⟩

theorem Pressed.observe {l : Lifecycle} (h : l.Pressed) (hwaiting : l.phase = .waiting) :
    l.effect .observe = .begins ∧ (l.step .observe).phase = .publishing true := by
  have hnoticed : l.noticed? = some .close := by simp [noticed?, h.unseen, h.request]
  constructor
  · simp [effect, isWaiting, hwaiting, hnoticed]
  · simp [Lifecycle.step, step?, hwaiting, hnoticed, beginning]

theorem Pressed.arm {l : Lifecycle} (h : l.Pressed) (htop : l.phase = .top) :
    (l.step .arm).Pressed ∧ (l.step .arm).phase = .waiting := by
  have hstep : l.step .arm =
      { l with state := l.state.leave .idle .scheduled, phase := .waiting } := by
    simp [Lifecycle.step, step?, htop]
  rw [hstep]
  exact ⟨⟨Phase.noConfusion, rfl, h.unseen, h.request⟩, rfl⟩

theorem Pressed.finish {l : Lifecycle} (h : l.Pressed) (hpublishing : l.phase = .publishing false) :
    (l.step .finish).Pressed ∧ (l.step .finish).phase = .top := by
  have hstep : l.step .finish =
      { l with state := l.state.leave .publishing .idle, phase := .top } := by
    simp [Lifecycle.step, step?, hpublishing]
  rw [hstep]
  exact ⟨⟨Phase.noConfusion, rfl, h.unseen, h.request⟩, rfl⟩

/-- After the request, the loop has yet to look at it or is in its last round. -/
def Closing (l : Lifecycle) : Prop := l.Pressed ∨ l.phase.isLast = true

theorem Closing.step {l : Lifecycle} (h : l.Closing) {m : Move} (hm : m.Mute) :
    (l.step m).Closing := by
  rcases h with hpressed | hlast
  · rcases hpressed.step hm with hpressed | ⟨-, hphase⟩
    · exact .inl hpressed
    · exact .inr (by rw [hphase]; rfl)
  · exact .inr ((l.advance_step m).isLast hlast).2

/-- Only the end of a publish leads away from it. -/
theorem phase_step_of_publishing {l : Lifecycle} {last : Bool} (h : l.phase = .publishing last)
    {m : Move} (hm : l.effect m ≠ .ends) : (l.step m).phase = .publishing last := by
  have hadvance := l.advance_step m
  rw [h] at hadvance
  generalize l.effect m = effect, (l.step m).phase = phase, (l.step m).state = state at *
  cases hadvance with
  | stay => rfl
  | finish => exact absurd rfl hm

end Lifecycle

/-! ## Amounts and snapshots -/

def Occurrence.amount? : Occurrence World → Option Amount
  | .accepted amount => some amount
  | _ => none

/-- All amounts that are accepted, in order. -/
def amountsOf (told : List (Occurrence World)) : List Amount := told.filterMap Occurrence.amount?

def Reported (told : List (Occurrence World)) : Prop :=
  ∃ unit snapshot, .snapshot unit snapshot ∈ told

theorem reported_append {front back : List (Occurrence World)} :
    Reported (front ++ back) ↔ Reported front ∨ Reported back := by
  simp [Reported, exists_or]

@[simp] theorem amountsOf_append (front back : List (Occurrence World)) :
    amountsOf (front ++ back) = amountsOf front ++ amountsOf back :=
  List.filterMap_append

theorem amountsOf_accepted (amounts : List Amount) :
    amountsOf (amounts.map .accepted : List (Occurrence World)) = amounts := by
  rw [amountsOf, List.filterMap_map]
  exact List.filterMap_some

/-- Every amount that a telling tells of is in a segment, or held. -/
theorem Recipe.amountsOf_telling (recipe : Recipe World)
    (segments : List (TimeUnit × List Amount)) (held : List Amount) :
    amountsOf (recipe.telling segments held) = segments.flatMap Prod.snd ++ held := by
  rw [telling, amountsOf_append, amountsOf_accepted]
  congr 1
  induction segments with
  | nil => rfl
  | cons s rest ih =>
    rw [List.flatMap_cons, List.flatMap_cons, amountsOf_append, amountsOf_append, ih,
      amountsOf_accepted]
    exact congrArg (· ++ _) (List.append_nil s.2)

/-- Up to a snapshot, all amounts that a telling tells of are in segments, so each is reported. -/
theorem Recipe.amountsOf_prefix {recipe : Recipe World}
    {segments : List (TimeUnit × List Amount)} {held : List Amount}
    {front back : List (Occurrence World)} (h : front ++ back = recipe.telling segments held)
    (hback : Reported back) : amountsOf front <+: segments.flatMap Prod.snd := by
  rcases List.append_eq_append_iff.1 h with ⟨between, hclosed, -⟩ | ⟨between, -, hheld⟩
  · have hamounts := recipe.amountsOf_telling segments []
    rw [telling, hclosed, List.map_nil, List.append_nil, List.append_nil, amountsOf_append]
      at hamounts
    exact ⟨amountsOf between, hamounts⟩
  · -- the snapshot is not among what is held
    obtain ⟨unit, snapshot, hmem⟩ := hback
    have hin := List.mem_append_right between hmem
    rw [← hheld] at hin
    obtain ⟨amount, -, heq⟩ := List.mem_map.1 hin
    cases heq

namespace Loop

/-! ## What is owed after the request -/

/-- Between the request to close and the end: the loop has yet to look at the request, or it is in
its last round, and then a meter that is registered has been reported since, or the publish under way
is still to come to it. -/
structure Flushing (s : Loop World) (handle : Nat) (told : List (Occurrence World)) : Prop where
  sound : s.registry.Sound
  stored : handle < s.registry.store.length
  owed : s.life.Pressed ∨ (s.life.phase.isLast = true ∧
    (s.registry.Gone handle ∨ Reported told ∨
      (s.life.phase = .publishing true ∧ handle ∈ s.pending)))

theorem reported_shot {s : Loop World} {handle : Nat} (hstored : handle < s.registry.store.length)
    {rest : List Nat} (hpending : s.pending = handle :: rest) (view : View World) :
    Reported (s.occurrences handle (.shoot view)) := by
  have hshot : (s.shot view).1.map Prod.fst = [handle] := by
    rw [shot, hpending]
    refine Registry.handles_sweep fun other hother => ?_
    obtain rfl : other = handle := by simpa using hother
    exact hstored
  obtain ⟨taken, htaken, rfl⟩ := List.map_eq_singleton_iff.1 hshot
  refine ⟨s.unit, taken.2, ?_⟩
  simp [occurrences, htaken, Registry.snapshotsOf]

namespace Flushing

variable {s : Loop World} {handle : Nat} {told : List (Occurrence World)}

theorem move (h : s.Flushing handle told) {m : Move} (hm : m.Mute) :
    (s.step (.move m)).Flushing handle told := by
  refine ⟨sound_step h.sound _, stored_step h.stored _, ?_⟩
  rw [registry_step_move]
  rcases h.owed with hpressed | ⟨hlast, howed⟩
  · -- the last publish has before it all meters that are registered when it begins
    rcases s.step_move_cases m with ⟨-, hstep⟩ | ⟨hbegins, -, hstep⟩ | ⟨-, hstep⟩
    · rw [hstep]
      rcases hpressed.step hm with hpressed | ⟨-, hphase⟩
      · exact .inl hpressed
      · refine .inr ⟨by rw [hphase]; rfl, ?_⟩
        by_cases hmem : handle ∈ s.registry.handles
        · exact .inr (.inr ⟨hphase, hmem⟩)
        · exact .inl ⟨h.stored, hmem⟩
    · rw [hstep]
      rcases hpressed.step hm with hpressed | ⟨hbegins', -⟩
      · exact .inl hpressed
      · exact absurd hbegins' hbegins
    · rw [hstep]
      exact .inl hpressed
  · -- the last publish does not end before it has come to the meter
    obtain ⟨hnone, hlast'⟩ := (s.life.advance_step m).isLast hlast
    rcases s.step_move_cases m with ⟨hbegins, -⟩ | ⟨-, hends, hstep⟩ | ⟨-, hstep⟩
    · exact absurd hbegins hnone
    · rw [hstep]
      refine .inr ⟨hlast', ?_⟩
      rcases howed with hgone | hreported | ⟨hphase, hmem⟩
      · exact .inl hgone
      · exact .inr (.inl hreported)
      · refine .inr (.inr ⟨Lifecycle.phase_step_of_publishing hphase fun hend => ?_, hmem⟩)
        rw [hends hend] at hmem
        cases hmem
    · rw [hstep]
      exact .inr ⟨hlast, howed⟩

/-- An event that is no move takes nothing from what is owed if it reports the meter, or leaves it
pending. -/
theorem of_life_eq (h : s.Flushing handle told) {e : Event World}
    (hlife : (s.step e).life = s.life)
    (hpending : handle ∈ s.pending →
      Reported (s.occurrences handle e) ∨ handle ∈ (s.step e).pending) :
    (s.step e).Flushing handle (told ++ s.occurrences handle e) := by
  refine ⟨sound_step h.sound e, stored_step h.stored e, ?_⟩
  rw [hlife, reported_append]
  rcases h.owed with hpressed | ⟨hlast, howed⟩
  · exact .inl hpressed
  · refine .inr ⟨hlast, ?_⟩
    rcases howed with hgone | hreported | ⟨hphase, hmem⟩
    · exact .inl (gone_step h.sound hgone e)
    · exact .inr (.inl (.inl hreported))
    · rcases hpending hmem with hreported | hmem'
      · exact .inr (.inl (.inr hreported))
      · exact .inr (.inr ⟨hphase, hmem'⟩)

/-- Nothing that may happen after the request takes from what is owed. -/
theorem step (h : s.Flushing handle told) {e : Event World} (he : e.Within Move.Mute) :
    (s.step e).Flushing handle (told ++ s.occurrences handle e) := by
  cases e with
  | move m =>
    rw [show s.occurrences handle (.move m) = [] from rfl, List.append_nil]
    exact h.move he
  | act a => exact h.of_life_eq rfl .inr
  | shoot view =>
    refine h.of_life_eq rfl fun hmem => ?_
    obtain ⟨first, rest, hpending⟩ := List.exists_cons_of_ne_nil (List.ne_nil_of_mem hmem)
    rw [hpending] at hmem
    -- the meter is the next one, or it is still to come after the next one
    rcases List.mem_cons.1 hmem with rfl | hmem
    · exact .inl (reported_shot h.stored hpending view)
    · refine .inr ?_
      simpa [Loop.step, hpending] using hmem

theorem run (h : s.Flushing handle told) {events : List (Event World)}
    (hevents : ∀ e ∈ events, e.Within Move.Mute) :
    (s.run events).Flushing handle (told ++ s.chronicle handle events) := by
  induction events generalizing s told with
  | nil => exact (List.append_nil told).symm ▸ h
  | cons e rest ih =>
    obtain ⟨he, hrest⟩ := List.forall_mem_cons.1 hevents
    have hrun := ih (h.step he) hrest
    rw [List.append_assoc] at hrun
    exact hrun

/-- When the loop has ended, a meter that is still registered has been reported. -/
theorem reported (h : s.Flushing handle told) (hended : s.life.phase = .ended)
    (hmem : handle ∈ s.registry.handles) : Reported told := by
  rcases h.owed with hpressed | ⟨-, hgone | hreported | ⟨hphase, -⟩⟩
  · have hgoesOn := hpressed.goesOn
    rw [hended] at hgoesOn
    cases hgoesOn
  · exact absurd hmem hgone.not_mem
  · exact hreported
  · rw [hended] at hphase
    cases hphase

end Flushing

/-- The loop does not come to its last round without a publish that begins after the request. -/
theorem begun_pos {s : Loop World} (h : s.life.Pressed) {events : List (Event World)}
    (hevents : ∀ e ∈ events, e.Within Move.Mute) (hlast : (s.run events).life.phase.isLast = true) :
    1 ≤ s.begun events := by
  induction events generalizing s with
  | nil => exact absurd (h.goesOn.symm.trans hlast) Bool.false_ne_true
  | cons e rest ih =>
    obtain ⟨he, hrest⟩ := List.forall_mem_cons.1 hevents
    rw [begun]
    by_cases hbegins : s.begins e = true
    · rw [if_pos hbegins]
      exact Nat.le_add_right ..
    · -- without a publish that begins, the loop has still to look at the request
      have hstep : (s.step e).life.Pressed := by
        cases e with
        | move m =>
          rcases s.step_move_cases m with ⟨hbegun, -⟩ | ⟨-, -, hstep⟩ | ⟨-, hstep⟩
          · exact absurd (decide_eq_true hbegun) hbegins
          · rw [hstep]
            rcases h.step he with hpressed | ⟨hbegun, -⟩
            · exact hpressed
            · exact absurd (decide_eq_true hbegun) hbegins
          · rw [hstep]
            exact h
        | act a => exact h
        | shoot view => exact h
      exact Nat.le_add_left_of_le (ih hstep hrest hlast)

/-! ## The way to the end -/

def Event.Own : Event World → Prop
  | .move m => m.Own
  | .act _ => False
  | .shoot _ => True

/-- The loop can come to its end by itself, whatever everybody else leaves undone. -/
def CanEnd (s : Loop World) : Prop :=
  ∃ more : List (Event World), (∀ e ∈ more, e.Own) ∧ (s.run more).life.phase = .ended

theorem CanEnd.of_run {s : Loop World} (events : List (Event World))
    (hevents : ∀ e ∈ events, e.Own) (h : (s.run events).CanEnd) : s.CanEnd := by
  obtain ⟨more, hmore, hended⟩ := h
  refine ⟨events ++ more, List.forall_mem_append.2 ⟨hevents, hmore⟩, ?_⟩
  rw [run_append]
  exact hended

theorem CanEnd.of_move {s : Loop World} (m : Move) (hm : m.Own)
    (h : (s.step (.move m)).CanEnd) : s.CanEnd :=
  .of_run [.move m] (List.forall_mem_singleton.2 hm) h

theorem CanEnd.of_finish {s : Loop World} (view : View World)
    (h : ∀ s' : Loop World, s'.life = s.life.step .finish → s'.CanEnd) : s.CanEnd := by
  -- one snapshot for every pending meter, and the publish may end
  obtain ⟨hrun, -⟩ := s.run_shoots view 0
  refine .of_run (List.replicate s.pending.length (.shoot view)) ?_ ?_
  · intro e he
    rw [List.eq_of_mem_replicate he]
    trivial
  · rw [hrun]
    refine .of_move .finish trivial ?_
    rw [step_finish rfl]
    exact h _ rfl

theorem canEnd_of_ending {s : Loop World} (h : s.life.phase = .ending) : s.CanEnd := by
  refine ⟨[.move .quit], List.forall_mem_singleton.2 trivial, ?_⟩
  change (s.life.step .quit).phase = .ended
  simp [Lifecycle.step, Lifecycle.step?, h, Lifecycle.finished]

theorem canEnd_of_last {s : Loop World} (view : View World)
    (h : s.life.phase = .publishing true) : s.CanEnd := by
  refine .of_finish view fun s' hs' => canEnd_of_ending ?_
  rw [hs']
  simp [Lifecycle.step, Lifecycle.step?, h]

theorem canEnd_of_waiting {s : Loop World} (view : View World) (hpressed : s.life.Pressed)
    (h : s.life.phase = .waiting) : s.CanEnd := by
  obtain ⟨hbegins, hphase⟩ := hpressed.observe h
  refine .of_move .observe trivial (canEnd_of_last view ?_)
  rw [step_begins hbegins]
  exact hphase

theorem canEnd_of_top {s : Loop World} (view : View World) (hpressed : s.life.Pressed)
    (h : s.life.phase = .top) : s.CanEnd := by
  obtain ⟨hpressed', hphase⟩ := hpressed.arm h
  exact .of_move .arm trivial (canEnd_of_waiting view hpressed' hphase)

theorem canEnd_of_pressed {s : Loop World} (view : View World) (h : s.life.Pressed) :
    s.CanEnd := by
  have hstarted := h.started
  have hgoesOn := h.goesOn
  cases hphase : s.life.phase with
  | unstarted => exact absurd hphase hstarted
  | top => exact canEnd_of_top view h hphase
  | waiting => exact canEnd_of_waiting view h hphase
  | publishing last =>
    obtain rfl : last = false := by rw [hphase] at hgoesOn; exact hgoesOn
    obtain ⟨hpressed, htop⟩ := h.finish hphase
    refine .of_finish view fun s' hs' => canEnd_of_top view ?_ ?_
    · rw [hs']
      exact hpressed
    · rw [hs']
      exact htop
  | ending => simp [hphase, Phase.isLast] at hgoesOn
  | ended => simp [hphase, Phase.isLast] at hgoesOn

theorem canEnd_of_isLast {s : Loop World} (view : View World)
    (h : s.life.phase.isLast = true) : s.CanEnd := by
  cases hphase : s.life.phase with
  | publishing last =>
    obtain rfl : last = true := by rw [hphase] at h; exact h
    exact canEnd_of_last view hphase
  | ending => exact canEnd_of_ending hphase
  | ended => exact ⟨[], fun _ => nofun, hphase⟩
  | _ => simp [hphase, Phase.isLast] at h

/-- Wherever the loop stands after it was asked to close, it can go on to its end. -/
theorem canEnd_of_closing {s : Loop World} (view : View World) (h : s.life.Closing) : s.CanEnd := by
  rcases h with hpressed | hlast
  · exact canEnd_of_pressed view hpressed
  · exact canEnd_of_isLast view hlast

end Loop

/-! ## The end -/

/-- A publisher is enabled and started, and some time later asked to close, before anybody stops it
or drops its handle. Whatever happens before and after the request, in whatever order, and whatever
the loop takes up first: the loop can always go on to its end. When it has come to it, at least one
publish has begun after the request, the state is `Stopped`, and for every counter, timer or summary
that is still registered, all amounts that were accepted before the request are in segments that a
snapshot has reported. -/
theorem close_flushes (unit : TimeUnit) (enumeration : Enumeration)
    {before after : List (Loop.Event World)}
    (hbefore : ∀ e ∈ before, e.Within Move.Calm)
    (hstarted : ((Loop.new unit enumeration).run before).life.isStarted = true)
    (hafter : ∀ e ∈ after, e.Within Move.Mute) :
    let start := Loop.new unit enumeration
    let closing := (start.run before).step (.move (.ask .close))
    let s := closing.run after
    (View World → s.CanEnd) ∧
      (s.life.phase = .ended →
        1 ≤ closing.begun after ∧ s.life.state = .stopped ∧
          ∀ handle ∈ s.registry.handles, ∃ recipe rest,
            start.chronicle handle (before ++ .move (.ask .close) :: after) =
                .made recipe :: rest ∧
              (recipe.Accumulates → ∃ segments held, rest = recipe.telling segments held ∧
                amountsOf (start.chronicle handle before) <+: segments.flatMap Prod.snd)) := by
  intro start closing s
  have hcalm : (start.run before).life.Calm :=
    Loop.life_run (fun _ _ h hm => h.step hm) ⟨rfl, rfl, rfl⟩ hbefore
  have hpressed : closing.life.Pressed := hcalm.pressed hstarted
  have hsound : (start.run before).registry.Sound :=
    Loop.sound_run (Registry.sound_empty enumeration) before
  have hsound' : closing.registry.Sound := Loop.sound_step hsound _
  have hrun : start.run (before ++ .move (.ask .close) :: after) = s := Loop.run_append ..
  refine ⟨fun view => ?_, fun hended => ⟨?_, ?_, fun handle hmem => ?_⟩⟩
  · exact Loop.canEnd_of_closing view
      (Loop.life_run (fun _ _ h hm => h.step hm) (.inl hpressed) hafter)
  · refine Loop.begun_pos hpressed hafter ?_
    rw [hended]
    rfl
  · have hshows := start.shows_run rfl (before ++ .move (.ask .close) :: after)
    rw [hrun, hended] at hshows
    exact hshows
  · have hmem' := hmem
    rw [← hrun] at hmem'
    obtain ⟨recipe, rest, hmade, hrest⟩ := Loop.chronicle_of_mem hmem'
    refine ⟨recipe, rest, hmade, fun hrecipe => ?_⟩
    obtain ⟨segments, held, htelling⟩ := hrest hrecipe
    refine ⟨segments, held, htelling, ?_⟩
    -- the chronicle up to the request is empty, or begins when the meter is made
    have htold := Loop.told_new unit enumeration handle before
    rw [Loop.chronicle_append] at hmade
    cases hfront : start.chronicle handle before with
    | nil => exact List.nil_prefix
    | cons first front =>
      -- then the rest of it lies before a snapshot that is taken after the request
      rw [hfront] at hmade htold
      obtain ⟨rfl, hfollows⟩ := List.cons.inj hmade
      have hflushing : closing.Flushing handle [] :=
        ⟨hsound', htold.lt_length hrecipe, .inl hpressed⟩
      have hreported := (hflushing.run hafter).reported hended hmem
      have hprefix : amountsOf front <+: segments.flatMap Prod.snd :=
        Recipe.amountsOf_prefix (hfollows.trans htelling) hreported
      exact hprefix

/-- A step is due when the request comes, and the loop takes the step first. While it publishes, the
counter accepts another amount. -/
theorem close_flushes_counter :
    let request : MeterRequest Unit := .new "a" .counter
    let view : View Unit := ⟨fun _ => (), 0, ⟨0, Convention.verbatim⟩⟩
    let before : List (Loop.Event Unit) :=
      [.act (.register request rfl), .act (.record 0 (.increment 1)), .move (.start true),
        .move .arm]
    let after : List (Loop.Event Unit) :=
      [.move .tick, .shoot view, .act (.record 0 (.increment 2)), .move .finish, .move .arm,
        .move .observe, .shoot view, .move .finish, .move .quit]
    let start := Loop.new .seconds .asEntered
    let closing := (start.run before).step (.move (.ask .close))
    let s := closing.run after
    (∀ e ∈ before, e.Within Move.Calm) ∧ (start.run before).life.isStarted = true ∧
      (∀ e ∈ after, e.Within Move.Mute) ∧ s.life.phase = .ended ∧ 0 ∈ s.registry.handles ∧
      1 ≤ closing.begun after ∧ s.life.state = .stopped ∧
      ∃ rest segments held,
        start.chronicle 0 (before ++ .move (.ask .close) :: after) = .made .counter :: rest ∧
          rest = Recipe.counter.telling segments held ∧
          amountsOf (start.chronicle 0 before) <+: segments.flatMap Prod.snd := by
  intro request view before after start closing s
  have hended : s.life.phase = .ended := by decide +kernel +revert
  have hmem : 0 ∈ s.registry.handles := by decide +kernel +revert
  have hstarted : (start.run before).life.isStarted = true := by decide +kernel +revert
  have hbefore : ∀ e ∈ before, e.Within Move.Calm := by
    simp [before, Loop.Event.Within, Move.Calm]
  have hafter : ∀ e ∈ after, e.Within Move.Mute := by
    simp [after, Loop.Event.Within, Move.Mute]
  obtain ⟨-, hend⟩ := close_flushes .seconds .asEntered hbefore hstarted hafter
  obtain ⟨hbegun, hstate, hall⟩ := hend hended
  obtain ⟨recipe, rest, hmade, hrest⟩ := hall 0 hmem
  have hfirst : (start.chronicle 0 (before ++ .move (.ask .close) :: after)).head? =
      some (.made .counter) := by rfl
  rw [hmade] at hfirst
  obtain rfl : recipe = .counter := by cases hfirst; rfl
  obtain ⟨segments, held, htelling, hprefix⟩ := hrest .counter
  exact ⟨hbefore, hstarted, hafter, hended, hmem, hbegun, hstate, rest, segments, held, hmade,
    htelling, hprefix⟩

end Telemetry
