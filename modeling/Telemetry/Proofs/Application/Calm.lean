import Telemetry.Proofs.Application.Relabel
import Telemetry.Proofs.Publish.Alignment
import Telemetry.Proofs.Publish.Transparency

/-!
# What goes on around a publisher

An application does many things while a publisher waits for its alarm. None of them sets the alarm
of the publisher, and none of them keeps it from waiting but those that have it drop the alarm: it
looks at what was asked of it, and ends. So all that is done but to start the publisher and to let
time pass is the same to its steps.

## Main definitions

- `Application.Lives` — the life of one publisher goes on, and nothing else that matters happens
- `Application.Calm` — what all that is done around a publisher has in common

## Main statements

- `Application.lives_tick`, `Application.lives_attending` — what publishers do of their own accord
- `Hosting.step_pos` — a publisher that can be made has a step
- `Application.calm_perform` — what is done around a publisher is calm
-/

namespace Telemetry

/-! ## Lifecycles -/

namespace Lifecycle

/-- The life of a publisher behind a publish, if it had begun one. -/
def published (l : Lifecycle) : Lifecycle := if l.isPublishing then l.step .finish else l

/-- The life of a publisher that has looked at what was asked of it. -/
def attended (l : Lifecycle) : Lifecycle := ((l.step .observe).published.step .quit).step .arm

/-- The life of a publisher behind a step. -/
def ticked (l : Lifecycle) : Lifecycle := (l.step .tick).published.step .arm

theorem phase_attended {l : Lifecycle} (h : l.phase = .waiting) :
    l.attended.phase = .waiting ∨ l.attended.phase = .ended := by
  obtain ⟨state, phase, request, unseen, held⟩ := l
  obtain rfl : phase = .waiting := h
  cases unseen with
  | true =>
    cases request with
    | run => exact .inl rfl
    | stop => exact .inr rfl
    | close => exact .inr rfl
  | false =>
    cases held with
    | true => exact .inl rfl
    | false => exact .inr rfl

/-- A publisher of which nothing is asked goes on waiting. -/
theorem attended_of_held {l : Lifecycle} (h : l.phase = .waiting) (hheld : l.held = true)
    (hunseen : l.unseen = false) : l.attended = l := by
  obtain ⟨state, phase, request, unseen, held⟩ := l
  obtain rfl : phase = .waiting := h
  obtain rfl : held = true := hheld
  obtain rfl : unseen = false := hunseen
  rfl

theorem phase_ticked {l : Lifecycle} (h : l.phase = .waiting) : l.ticked.phase = .waiting := by
  obtain ⟨state, phase, request, unseen, held⟩ := l
  obtain rfl : phase = .waiting := h
  rfl

theorem isPublishing_tick {l : Lifecycle} (h : l.phase = .waiting) :
    (l.step .tick).isPublishing = true := by
  obtain ⟨state, phase, request, unseen, held⟩ := l
  obtain rfl : phase = .waiting := h
  rfl

theorem ticked_of_unstarted {l : Lifecycle} (h : l.phase = .unstarted) : l.ticked = l := by
  obtain ⟨state, phase, request, unseen, held⟩ := l
  obtain rfl : phase = .unstarted := h
  rfl

/-- A change that leaves a publisher waiting, or unstarted. -/
structure Harmless (change : Lifecycle → Lifecycle) : Prop where
  waiting : ∀ l, l.phase = .waiting → (change l).phase = .waiting
  unstarted : ∀ l, l.phase = .unstarted ∧ l.unseen = false →
    (change l).phase = .unstarted ∧ (change l).unseen = false

theorem harmless_id : Harmless id := ⟨fun _ h => h, fun _ h => h⟩

theorem harmless_ticked : Harmless ticked := by
  refine ⟨fun l h => phase_ticked h, fun l h => ?_⟩
  rwa [ticked_of_unstarted h.1]

theorem harmless_release : Harmless (·.step .release) := by
  constructor
  · rintro ⟨state, phase, request, unseen, held⟩ h
    cases held <;> exact h
  · rintro ⟨state, phase, request, unseen, held⟩ h
    cases held <;> exact h

theorem harmless_ask (request : Request) : Harmless (·.step (.ask request)) := by
  constructor
  · rintro ⟨state, phase, request, unseen, held⟩ h
    obtain rfl : phase = .waiting := h
    cases held <;> rfl
  · rintro ⟨state, phase, request, unseen, held⟩ h
    obtain rfl : phase = .unstarted := h.1
    cases held <;> exact h

theorem harmless_changeState (change : State → State) :
    Harmless fun l => { l with state := change l.state } :=
  ⟨fun _ h => h, fun _ h => h⟩

end Lifecycle

/-- What is neither done with publishers nor to let time pass. -/
def Deed.isAside : Deed → Bool
  | .host .. | .publish .. | .start .. | .stop _ | .close _ | .release _ | .sleep _ => false
  | _ => true

/-! ## Settings -/

theorem StepConfig.step_pos {config : StepConfig} (h : config.validate = .ok ()) :
    0 < config.step.nanos := by
  by_contra hzero
  simp [validate, requirePositive, Nat.eq_zero_of_not_pos hzero, bind, Except.bind] at h

/-- A publisher that can be made has a step. -/
theorem Publisher.step_pos {Record Cache : Type} {backend : Backend Record Cache}
    {config : StepConfig} {serial : Nat} {p : Publisher Record Cache}
    (h : Publisher.new backend config serial = .ok p) : 0 < p.config.step.nanos := by
  cases hvalid : config.validate with
  | error e => simp [new, hvalid, bind, Except.bind] at h
  | ok _ =>
    simp only [new, hvalid, bind, Except.bind, pure, Except.pure, Except.ok.injEq] at h
    exact h ▸ StepConfig.step_pos hvalid

theorem Hosting.step_pos {config : NewRelic.Config} {hosting : Hosting} {serial : Nat}
    {e : Exporter} (h : hosting.make config serial = .ok e) : 0 < e.config.step.nanos := by
  cases hosting with
  | newRelic =>
    cases hp : NewRelic.publisher? config serial with
    | error e => simp [make, hp, Except.map] at h
    | ok p =>
      obtain rfl : Exporter.newRelic p = e := by simpa [make, hp, Except.map] using h
      exact Publisher.step_pos (NewRelic.of_publisher? hp)
  | statsd c =>
    cases hp : Statsd.publisher? c serial with
    | error e => simp [make, hp, Except.map] at h
    | ok p =>
      obtain rfl : Exporter.statsd p = e := by simpa [make, hp, Except.map] using h
      exact Publisher.step_pos (Statsd.of_publisher? hp)
  | plain c step =>
    cases hp : Publisher.new (Plain.backend c) step serial with
    | error e => simp [make, hp, Except.map] at h
    | ok p =>
      obtain rfl : Exporter.plain p = e := by simpa [make, hp, Except.map] using h
      exact Publisher.step_pos hp

namespace Application

variable {app later : Application} {p q : Nat}

/-! ## Publishers -/

/-- Where a publisher is in its life. -/
def life? (app : Application) (p : Nat) : Option Lifecycle := (app.hosted? p).map Hosted.life

theorem hosted?_modifyPublisher (app : Application) (q p : Nat) (f : Hosted → Hosted) :
    (app.modifyPublisher q f).hosted? p =
      if q = p then (app.hosted? p).map f else app.hosted? p := by
  change (app.publishers.modify q f)[p]? = _
  by_cases h : q = p
  · rw [if_pos h, ← h]
    exact List.getElem?_modify_eq f q _
  · rw [if_neg h]
    exact List.getElem?_modify_ne f _ h

/-- Nothing has happened to time, to the alarms and to the settings of the publishers. -/
structure Quiet (app later : Application) : Prop where
  milli : later.milli = app.milli
  schedule : later.schedule = app.schedule
  config : ∀ q, (later.hosted? q).map (·.exporter.config) = (app.hosted? q).map (·.exporter.config)

theorem Quiet.refl (app : Application) : Quiet app app := ⟨rfl, rfl, fun _ => rfl⟩

theorem Quiet.trans {middle : Application} (h : Quiet app middle) (hlater : Quiet middle later) :
    Quiet app later :=
  ⟨hlater.milli.trans h.milli, hlater.schedule.trans h.schedule,
    fun q => (hlater.config q).trans (h.config q)⟩

theorem quiet_modifyPublisher {f : Hosted → Hosted}
    (hf : ∀ h, (f h).exporter.config = h.exporter.config) (app : Application) (q : Nat) :
    Quiet app (app.modifyPublisher q f) := by
  refine ⟨rfl, rfl, fun p => ?_⟩
  rw [hosted?_modifyPublisher]
  split
  · rw [Option.map_map]
    exact Option.map_congr fun h _ => hf h
  · rfl

theorem config_iterate {World : Type} (e : Exporter) (r : Registry World)
    (look : Registry World → World) (now : UInt64) (runtime : Bool) :
    (e.iterate r look now runtime).exporter.config = e.config := by
  cases e <;> cases runtime <;> rfl

theorem config_publisherAnswered {Record Cache : Type} (p : Publisher Record Cache) (position : Nat)
    (answer : Answer) : (p.answered position answer).1.config = p.config := by
  unfold Publisher.answered
  split <;> rfl

theorem config_answered (e : Exporter) (position : Nat) (answer : Answer) :
    (e.answered position answer).1.config = e.config := by
  cases e with
  | statsd p => exact config_publisherAnswered p position answer
  | newRelic p => exact config_publisherAnswered p position answer
  | plain p => exact config_publisherAnswered p position answer

theorem config_answerAll (sender : Sender) (n : Nat) (e : Exporter) :
    (answerAll sender n e).1.config = e.config := by
  induction n generalizing sender e with
  | zero => rfl
  | succ n ih => exact (ih _ _).trans (config_answered e 0 _)

/-- All that happens is that the life of one publisher goes on. -/
structure Lives (app later : Application) (q : Nat) (change : Lifecycle → Lifecycle) : Prop
    extends Quiet app later where
  life : ∀ p, later.life? p = if q = p then (app.life? p).map change else app.life? p

theorem Lives.trans {middle : Application} {f g : Lifecycle → Lifecycle} (h : Lives app middle q f)
    (hlater : Lives middle later q g) : Lives app later q (g ∘ f) := by
  refine ⟨h.toQuiet.trans hlater.toQuiet, fun p => ?_⟩
  rw [hlater.life, h.life]
  split
  · exact Option.map_map ..
  · rfl

theorem lives_modifyLife (change : Lifecycle → Lifecycle) (app : Application) (q : Nat) :
    Lives app (app.modifyPublisher q fun h => { h with life := change h.life }) q change := by
  refine ⟨quiet_modifyPublisher (f := fun h => { h with life := change h.life }) (fun _ => rfl)
    app q, fun p => ?_⟩
  rw [life?, hosted?_modifyPublisher]
  split
  · rw [Option.map_map, life?, Option.map_map]
    rfl
  · rfl

theorem lives_move (app : Application) (q : Nat) (m : Move) :
    Lives app (app.move q m) q (·.step m) :=
  lives_modifyLife (·.step m) app q

/-- A publish changes neither the settings of the publisher nor its life. -/
theorem lives_publishOnce {h : Hosted}
    (hq : ∀ g, app.hosted? q = some g → g.exporter.config = h.exporter.config) (runtime : Bool) :
    Lives app (app.publishOnce q h runtime).2 q id := by
  let x := h.exporter.iterate app.registry (fun _ => app.world) app.now runtime
  let sender : Sender :=
    { h.sender with deliveries := h.sender.deliveries ++ x.handed.map (⟨·, app.registry.size⟩) }
  let answered := answerAll sender x.exporter.inFlight x.exporter
  have hhosted (p : Nat) : (app.publishOnce q h runtime).2.hosted? p =
      if q = p then (app.hosted? p).map fun h =>
        { h with exporter := answered.1, sender := answered.2.1 } else app.hosted? p :=
    hosted?_modifyPublisher { app with registry := x.registry } q p _
  have hconfig : answered.1.config = h.exporter.config :=
    (config_answerAll _ _ _).trans (config_iterate ..)
  refine ⟨⟨rfl, rfl, fun p => ?_⟩, fun p => ?_⟩
  · rw [hhosted]
    split
    · next hp =>
      subst hp
      rw [Option.map_map]
      exact Option.map_congr fun g hg => hconfig.trans (hq g hg).symm
    · rfl
  · rw [life?, hhosted]
    split
    · rw [Option.map_map, life?, Option.map_map]
      rfl
    · rfl

theorem lives_publishIfBegun (app : Application) (q : Nat) :
    Lives app (app.publishIfBegun q).2 q Lifecycle.published := by
  unfold publishIfBegun
  cases hq : app.hosted? q with
  | none =>
    dsimp only
    refine ⟨.refl app, fun p => ?_⟩
    split
    · next hp =>
      rw [← hp, life?, hq]
      rfl
    · rfl
  | some h =>
    have hlife (p : Nat) (hp : q = p) : app.life? p = some h.life := by
      rw [← hp, life?, hq]
      rfl
    by_cases hbegun : h.life.isPublishing = true
    · simp only [if_pos hbegun]
      have hsame (g : Hosted) (hg : app.hosted? q = some g) :
          g.exporter.config = h.exporter.config := by
        rw [Option.some.inj (hq.symm.trans hg)]
      have hdone := (lives_publishOnce hsame true).trans (lives_move _ q .finish)
      refine ⟨hdone.toQuiet, fun p => (hdone.life p).trans ?_⟩
      split
      · next hp =>
        rw [hlife p hp, Option.map_some, Option.map_some, Lifecycle.published, if_pos hbegun]
        rfl
      · rfl
    · simp only [if_neg hbegun]
      refine ⟨.refl app, fun p => ?_⟩
      split
      · next hp => rw [hlife p hp, Option.map_some, Lifecycle.published, if_neg hbegun]
      · rfl

theorem lives_tick (app : Application) (q : Nat) : Lives app (app.tick q).2 q Lifecycle.ticked :=
  ((lives_move app q .tick).trans (lives_publishIfBegun _ q)).trans (lives_move _ q .arm)

/-- A publisher has looked at what was asked of it, and has not retired yet. -/
def attending (app : Application) (q : Nat) : Application :=
  (((app.move q .observe).publishIfBegun q).2.move q .quit).move q .arm

theorem lives_attending (app : Application) (q : Nat) :
    Lives app (app.attending q) q Lifecycle.attended :=
  (((lives_move app q .observe).trans (lives_publishIfBegun _ q)).trans
    (lives_move _ q .quit)).trans (lives_move _ q .arm)

theorem attend_eq (app : Application) (q : Nat) :
    app.attend q =
      if (app.life? q).any Lifecycle.isWaiting then (app.attending q).retire q else app := by
  rw [attend, life?]
  cases app.hosted? q <;> rfl

theorem retire_cases (app : Application) (q : Nat) :
    (app.retire q).milli = app.milli ∧ (app.retire q).publishers = app.publishers ∧
      (app.retire q).schedule =
        if (app.life? q).map Lifecycle.phase = some .ended then app.schedule.drop q
        else app.schedule := by
  rw [retire, life?]
  cases app.hosted? q with
  | none => exact ⟨rfl, rfl, rfl⟩
  | some h =>
    by_cases hended : h.life.phase = .ended
    · simp [hended, logged]
    · simp [hended]

/-! ## One publisher among others -/

/-- All publishers have a step. -/
def Stepped (app : Application) : Prop :=
  ∀ q h, app.hosted? q = some h → 0 < h.exporter.config.step.nanos

/-- The loop of a publisher waits. -/
def Waits (app : Application) (p : Nat) : Prop := ∃ l, app.life? p = some l ∧ l.phase = .waiting

/-- A publisher has not been started, nor has anything been asked of it. -/
def Unstarted (app : Application) (p : Nat) : Prop :=
  ∀ l, app.life? p = some l → l.phase = .unstarted ∧ l.unseen = false

/-- A publisher has no alarm. -/
def Silent (app : Application) (p : Nat) : Prop := ∀ a ∈ app.schedule.alarms, a.owner ≠ p

/-- An application in which no time has passed and no alarm of a publisher has been set. The publisher
goes on waiting unless its alarm has been dropped, and has not been started. -/
structure Calm (p : Nat) (app later : Application) : Prop where
  milli : later.milli = app.milli
  stepped : app.Stepped → later.Stepped
  alarms : ∀ a ∈ later.schedule.alarms,
    a ∈ app.schedule.alarms ∨ a.owner ≠ p ∧ 0 < a.period ∧ app.milli < a.rings
  waits : app.Waits p → later.Waits p ∨ later.Silent p
  unstarted : app.Unstarted p → later.Unstarted p

namespace Calm

theorem refl (p : Nat) (app : Application) : Calm p app app :=
  ⟨rfl, id, fun _ ha => .inl ha, .inl, id⟩

theorem trans {middle : Application} (h : Calm p app middle) (hlater : Calm p middle later) :
    Calm p app later where
  milli := hlater.milli.trans h.milli
  stepped := hlater.stepped ∘ h.stepped
  alarms a ha := by
    rcases hlater.alarms a ha with hmem | ⟨howner, hperiod, hrings⟩
    · exact h.alarms a hmem
    · exact .inr ⟨howner, hperiod, h.milli ▸ hrings⟩
  waits hwaits := by
    rcases h.waits hwaits with hmiddle | hsilent
    · exact hlater.waits hmiddle
    · refine .inr fun a ha => ?_
      rcases hlater.alarms a ha with hmem | ⟨howner, -, -⟩
      · exact hsilent a hmem
      · exact howner
  unstarted := hlater.unstarted ∘ h.unstarted

theorem foldl {α : Type} {f : Application → α → Application} (h : ∀ app a, Calm p app (f app a))
    (list : List α) (app : Application) : Calm p app (list.foldl f app) := by
  induction list generalizing app with
  | nil => exact .refl p app
  | cons a rest ih => exact (h app a).trans (ih _)

end Calm

theorem Quiet.stepped (h : Quiet app later) (hstepped : app.Stepped) : later.Stepped := by
  intro q g hg
  have hconfig := h.config q
  rw [hg, Option.map_some] at hconfig
  obtain ⟨other, hother, hsame⟩ := Option.map_eq_some_iff.1 hconfig.symm
  exact hsame ▸ hstepped q other hother

theorem Lives.waits {change : Lifecycle → Lifecycle} (h : Lives app later q change)
    (hchange : q = p → Lifecycle.Harmless change) (hwaits : app.Waits p) : later.Waits p := by
  obtain ⟨l, hl, hphase⟩ := hwaits
  rw [Waits, h.life, hl]
  split
  · next hp => exact ⟨change l, rfl, (hchange hp).1 l hphase⟩
  · exact ⟨l, rfl, hphase⟩

theorem Lives.calm {change : Lifecycle → Lifecycle} (h : Lives app later q change)
    (hchange : q = p → Lifecycle.Harmless change) : Calm p app later where
  milli := h.milli
  stepped := h.toQuiet.stepped
  alarms a ha := .inl (h.schedule ▸ ha)
  waits hwaits := .inl (h.waits hchange hwaits)
  unstarted hunstarted l hl := by
    rw [h.life] at hl
    split at hl
    · next hp =>
      obtain ⟨g, hg, rfl⟩ := Option.map_eq_some_iff.1 hl
      exact (hchange hp).2 g (hunstarted g hg)
    · exact hunstarted l hl

/-- Nothing has happened to time, to the alarms and to the publishers. -/
structure Same (app later : Application) : Prop where
  milli : later.milli = app.milli
  schedule : later.schedule = app.schedule
  publishers : later.publishers = app.publishers

theorem Same.calm (h : Same app later) (p : Nat) : Calm p app later := by
  have hhosted (q : Nat) : later.hosted? q = app.hosted? q := congrArg (·[q]?) h.publishers
  have hlives : Lives app later p id := by
    refine ⟨⟨h.milli, h.schedule, fun q => by rw [hhosted]⟩, fun q => ?_⟩
    rw [life?, life?, hhosted, Option.map_id, id, ite_self]
  exact hlives.calm fun _ => Lifecycle.harmless_id

theorem calm_retire (app : Application) (p q : Nat) : Calm p app (app.retire q) := by
  obtain ⟨hmilli, hpublishers, hschedule⟩ := app.retire_cases q
  have hhosted (q' : Nat) : (app.retire q).hosted? q' = app.hosted? q' :=
    congrArg (·[q']?) hpublishers
  have hlife (q' : Nat) : (app.retire q).life? q' = app.life? q' := by rw [life?, life?, hhosted]
  refine ⟨hmilli, fun h q' g hg => h q' g (hhosted q' ▸ hg), fun a ha => .inl ?_, fun h => .inl ?_,
    fun h l hl => h l (hlife p ▸ hl)⟩
  · rw [hschedule] at ha
    split at ha
    · exact List.mem_of_mem_filter ha
    · exact ha
  · rwa [Waits, hlife]

/-- A waiting publisher that has looked at what was asked of it goes on waiting, or has dropped its
alarm. -/
theorem calm_attend_self {l : Lifecycle} (hl : app.life? p = some l) (hphase : l.phase = .waiting) :
    Calm p app ((app.attending p).retire p) := by
  have hlives := app.lives_attending p
  have hretire := (app.attending p).calm_retire p p
  have hattended : (app.attending p).life? p = some l.attended := by
    rw [hlives.life, if_pos rfl, hl]
    rfl
  refine ⟨hretire.milli.trans hlives.milli, hretire.stepped ∘ hlives.toQuiet.stepped,
    fun a ha => ?_, fun _ => ?_, fun hunstarted => ?_⟩
  · have hkept := hretire.alarms a ha
    rwa [hlives.schedule, hlives.milli] at hkept
  · rcases l.phase_attended hphase with hwaiting | hended
    · exact hretire.waits ⟨l.attended, hattended, hwaiting⟩
    · obtain ⟨-, -, hschedule⟩ := (app.attending p).retire_cases p
      rw [hattended, Option.map_some, if_pos (congrArg some hended)] at hschedule
      refine .inr fun a ha => ?_
      rw [hschedule] at ha
      simpa using (List.mem_filter.1 ha).2
  · have hnone := (hunstarted l hl).1
    rw [hphase] at hnone
    cases hnone

/-- A publisher looks at what was asked of it. -/
theorem calm_attend (p : Nat) (app : Application) (q : Nat) : Calm p app (app.attend q) := by
  rw [attend_eq]
  by_cases hwaiting : (app.life? q).any Lifecycle.isWaiting
  · rw [if_pos hwaiting]
    by_cases hp : q = p
    · subst hp
      obtain ⟨l, hl, hphase⟩ := (Option.any_eq_true _ _).1 hwaiting
      exact calm_attend_self hl (beq_iff_eq.1 hphase)
    · have hlives := app.lives_attending q
      exact (hlives.calm fun h => absurd h hp).trans ((app.attending q).calm_retire p q)
  · rw [if_neg hwaiting]
    exact .refl p app

theorem calm_settle (p : Nat) (app : Application) : Calm p app app.settle :=
  .foldl (calm_attend p) _ app

theorem calm_tick (p : Nat) (app : Application) (q : Nat) : Calm p app (app.tick q).2 :=
  (app.lives_tick q).calm fun _ => Lifecycle.harmless_ticked

/-! ## Deeds -/

theorem lives_changeState (change : State → State) (app : Application) (q : Nat) :
    Lives app (app.changeState q change) q fun l => { l with state := change l.state } :=
  lives_modifyLife (fun l => { l with state := change l.state }) app q

theorem calm_changeState (p : Nat) (change : State → State) (app : Application) (q : Nat) :
    Calm p app (app.changeState q change) :=
  (lives_changeState change app q).calm fun _ => Lifecycle.harmless_changeState change

theorem calm_publish {h : Hosted} (hq : app.hosted? q = some h) (runtime : Bool) (p : Nat) :
    Calm p app (app.publish q h runtime).2 := by
  rw [publish_eq]
  have hsame (g : Hosted) (hg : (app.changeState q (·.enter .publishing)).hosted? q = some g) :
      g.exporter.config = h.exporter.config := by
    have hconfig := (lives_changeState (·.enter .publishing) app q).config q
    rw [hg, hq] at hconfig
    exact Option.some.inj hconfig
  have hpublished := (lives_publishOnce hsame runtime).calm (p := p) fun _ => Lifecycle.harmless_id
  have hdone := ((app.calm_changeState p _ q).trans hpublished).trans
    (calm_changeState p (·.leave .publishing .idle) _ q)
  cases runtime with
  | true => exact hdone.trans (calm_settle p _)
  | false => exact hdone

theorem calm_ask (p : Nat) (app : Application) (q : Nat) (request : Request) :
    Calm p app (app.move q (.ask request)) :=
  (lives_move app q (.ask request)).calm fun _ => Lifecycle.harmless_ask request

theorem calm_release (p : Nat) (app : Application) (q : Nat) : Calm p app (app.move q .release) :=
  (lives_move app q .release).calm fun _ => Lifecycle.harmless_release

theorem hosted?_enlisted (app : Application) (name : String) (g : Hosted) (p : Nat) :
    (app.enlisted name g).hosted? p =
      if p = app.publishers.length then some g else app.hosted? p := by
  change (app.publishers ++ [g])[p]? = _
  split
  · next hp => rw [hp, List.getElem?_concat_length]
  · next hp =>
    rw [List.getElem?_append]
    split
    · rfl
    · next hlt =>
      have hbeyond : [g].length ≤ p - app.publishers.length := by
        rw [List.length_singleton]
        omega
      rw [hosted?, List.getElem?_eq_none hbeyond, List.getElem?_eq_none (Nat.le_of_not_lt hlt)]

/-- A publisher that is taken up has not been started. -/
theorem calm_enlisted (p : Nat) (app : Application) (name : String) {g : Hosted}
    (hstep : 0 < g.exporter.config.step.nanos) (hnew : g.life = Lifecycle.new) :
    Calm p app (app.enlisted name g) := by
  have hlife : (app.enlisted name g).life? p =
      if p = app.publishers.length then some Lifecycle.new else app.life? p := by
    rw [life?, hosted?_enlisted]
    split
    · rw [Option.map_some, hnew]
    · rfl
  refine ⟨rfl, fun hstepped q h hh => ?_, fun a ha => .inl ha, fun hwaits => .inl ?_,
    fun hunstarted l hl => ?_⟩
  · rw [hosted?_enlisted] at hh
    split at hh
    · exact Option.some.inj hh ▸ hstep
    · exact hstepped q h hh
  · obtain ⟨l, hl, hphase⟩ := hwaits
    have hold : p ≠ app.publishers.length := by
      rintro rfl
      have hnone : app.hosted? app.publishers.length = none := List.getElem?_eq_none le_rfl
      rw [life?, hnone] at hl
      cases hl
    exact ⟨l, by rw [hlife, if_neg hold, hl], hphase⟩
  · rw [hlife] at hl
    split at hl
    · exact Option.some.inj hl ▸ ⟨rfl, rfl⟩
    · exact hunstarted l hl

theorem calm_host (config : NewRelic.Config) (app : Application) (name : String) (hosting : Hosting)
    (clock : Option Clock) (script : List Answer) (p : Nat) :
    Calm p app (app.host name (hosting.make config) clock script) := by
  rw [host]
  cases hmake : hosting.make config app.nextSerial.1 with
  | error e => exact .refl p app
  | ok e =>
    dsimp only
    rw [addPublisher_eq]
    have hserial : Same app app.nextSerial.2 := ⟨rfl, rfl, rfl⟩
    have hreleased : Calm p app.nextSerial.2 (app.nextSerial.2.released name) := by
      unfold released
      split
      · exact .refl p _
      · exact calm_release p _ _
    exact ((hserial.calm p).trans hreleased).trans
      (calm_enlisted p _ name (Hosting.step_pos hmake) rfl)

/-- Another publisher that starts sets an alarm of its own. -/
theorem calm_alarmed {h : Hosted} (hstep : 0 < h.exporter.config.step.nanos) (hother : q ≠ p)
    (ticker : Ticker) : Calm p app (app.alarmed q h ticker) where
  milli := rfl
  stepped hstepped := hstepped
  alarms a ha := by
    rcases List.mem_append.1 ha with ha | ha
    · exact .inl ha
    · obtain rfl := List.mem_singleton.1 ha
      exact .inr ⟨hother, ticker.period_pos hstep, Alarm.lt_rings_of_due hstep _ rfl⟩
  waits hwaits := .inl hwaits
  unstarted hunstarted := hunstarted

theorem calm_startPublisher {h : Hosted} (hstepped : app.Stepped) (hq : app.hosted? q = some h)
    (hother : q ≠ p) (ticker : Ticker) : Calm p app (app.startPublisher q h ticker) := by
  rw [startPublisher_eq]
  have hmoved (app : Application) (m : Move) : Calm p app (app.move q m) :=
    (lives_move app q m).calm fun hp => absurd hp hother
  split
  · have halarmed : Calm p app (app.alarmed q h ticker) :=
      calm_alarmed (hstepped q h hq) hother ticker
    exact ((halarmed.trans (hmoved _ _)).trans (hmoved _ _)).trans (calm_settle p _)
  · have hlogged : Same app (app.logged [.disabled h.exporter.name]) := ⟨rfl, rfl, rfl⟩
    exact ((hlogged.calm p).trans (hmoved _ _)).trans (calm_settle p _)

theorem same_perform (config : NewRelic.Config) (app : Application) {deed : Deed}
    (h : deed.isAside = true) : Same app (app.perform config deed).2 := by
  cases deed with
  | register name request holds => cases name <;> exact ⟨rfl, rfl, rfl⟩
  | getOrCreate name id existing => cases name <;> exact ⟨rfl, rfl, rfl⟩
  | dropObject name =>
    simp only [perform, dropObject]
    split <;> exact ⟨rfl, rfl, rfl⟩
  | stopSample handle name =>
    simp only [perform]
    split <;> exact ⟨rfl, rfl, rfl⟩
  | startTask handle name =>
    simp only [perform]
    split <;> exact ⟨rfl, rfl, rfl⟩
  | stopTask handle task =>
    simp only [perform]
    split <;> exact ⟨rfl, rfl, rfl⟩
  | host | publish | start | stop | close | release | sleep => cases h
  | _ => exact ⟨rfl, rfl, rfl⟩

theorem calm_perform (config : NewRelic.Config) (hstepped : app.Stepped) {deed : Deed}
    (hstart : ∀ ticker, deed ≠ .start p ticker) (hsleep : ∀ millis, deed ≠ .sleep millis) :
    Calm p app (app.perform config deed).2 := by
  cases deed with
  | host name hosting clock script => exact calm_host config app name hosting clock script p
  | publish q runtime =>
    simp only [perform]
    cases hq : app.hosted? q with
    | none => exact .refl p app
    | some h => exact calm_publish hq runtime p
  | start q ticker =>
    simp only [perform]
    cases hq : app.hosted? q with
    | none => exact .refl p app
    | some h => exact calm_startPublisher hstepped hq (fun hp => hstart ticker (hp ▸ rfl)) ticker
  | stop q => exact (calm_ask p app q .stop).trans (calm_settle p _)
  | close q =>
    exact ((calm_ask p app q .close).trans (calm_release p _ q)).trans (calm_settle p _)
  | release q => exact (calm_release p app q).trans (calm_settle p _)
  | sleep millis => exact absurd rfl (hsleep millis)
  | _ => exact (same_perform config app rfl).calm p

end Application

end Telemetry
