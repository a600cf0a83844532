import Telemetry.Proofs.Application.Calm

/-!
# The steps of a started publisher

A publisher that is started sets one alarm, and from then on publishes with each of its alarms until
it ends. Whatever else an application does, and however it lets time pass, the first publish is due
when the delay to the next step has ended, and each other one a period later than the one before it.

## Main definitions

- `Application.Publish` — a publish that a publisher makes of its own accord
- `Application.publishes` — all of them during some deeds
- `Application.Fresh`, `Application.Steady` — a publisher before and after its start

## Main statements

- `Application.sleep_eq_rung` — what letting time pass comes to
- `Application.alarmsOf_begun` — a publisher that waits publishes with each of its alarms
- `Application.Fresh.steady_startPublisher` — the start of a publisher
- `Application.Steady.perform`, `Application.Steady.after` — its steps during one deed, and many
- `Application.publishes_aligned` — when a publisher publishes
-/

namespace Telemetry

namespace Lifecycle

/-- The life of a publisher that has been started. -/
def started (l : Lifecycle) : Lifecycle := (l.step (.start true)).step .arm

theorem started_of_unstarted {l : Lifecycle} (h : l.phase = .unstarted) :
    l.started.phase = .waiting ∧ l.started.held = l.held ∧ l.started.unseen = l.unseen := by
  obtain ⟨state, phase, request, unseen, held⟩ := l
  obtain rfl : phase = .unstarted := h
  exact ⟨rfl, rfl, rfl⟩

end Lifecycle

namespace Application

variable {app later : Application} {p q : Nat}

/-! ## Alarms and publishes -/

/-- A publish that a publisher makes of its own accord: the alarm with which it comes, and what it
does. -/
structure Publish where
  alarm : Alarm
  summary : PublishSummary

namespace Publish

/-- The publishes of one publisher. -/
def of (p : Nat) (publishes : List Publish) : List Publish := publishes.filter (·.alarm.owner == p)

/-- The alarms with which the publishes of one publisher come. -/
def alarmsOf (p : Nat) (publishes : List Publish) : List Alarm :=
  Schedule.of p (publishes.map alarm)

theorem map_alarm_of (p : Nat) (publishes : List Publish) :
    (of p publishes).map alarm = alarmsOf p publishes := by
  rw [alarmsOf, Schedule.of, List.filter_map]
  rfl

theorem length_of (p : Nat) (publishes : List Publish) :
    (of p publishes).length = (alarmsOf p publishes).length := by
  rw [← map_alarm_of, List.length_map]

theorem alarmsOf_append (p : Nat) (publishes more : List Publish) :
    alarmsOf p (publishes ++ more) = alarmsOf p publishes ++ alarmsOf p more := by
  rw [alarmsOf, List.map_append, Schedule.of_append]
  rfl

end Publish

/-- What publishers publish when some alarms ring one after another. -/
def begun (app : Application) : List Alarm → List Publish
  | [] => []
  | a :: rest =>
    let (summary, later) := app.tick a.owner
    (summary.map (Publish.mk a)).toList ++ later.begun rest

/-- Time passes, and then come the steps of the alarms that rang meanwhile, one after another. -/
theorem sleep_eq_rung (app : Application) (millis : Nat) :
    app.sleep millis = (app.settle.schedule.rung (app.settle.milli + millis)).foldl
      (fun app a => (app.tick a.owner).2) (app.settle.elapsed millis) := by
  rw [sleep_eq, Schedule.ringUntil_eq, List.foldl_map]

/-- What publishers publish of their own accord during a deed. They do so only while time passes. -/
def publishesIn (app : Application) : Deed → List Publish
  | .sleep millis =>
    (app.settle.elapsed millis).begun (app.settle.schedule.rung (app.settle.milli + millis))
  | _ => []

/-- An application after more deeds. -/
def after (config : NewRelic.Config) (app : Application) (deeds : List Deed) : Application :=
  deeds.foldl (fun app deed => (app.perform config deed).2) app

/-- What publishers publish of their own accord during some deeds. -/
def publishes (config : NewRelic.Config) (app : Application) : List Deed → List Publish
  | [] => []
  | deed :: rest => app.publishesIn deed ++ publishes config (app.perform config deed).2 rest

/-- When its step is due, a publisher that waits publishes. -/
theorem exists_summary_tick (h : app.Waits p) : ∃ summary, (app.tick p).1 = some summary := by
  obtain ⟨l, hl, hphase⟩ := h
  have hmoved : (app.move p .tick).life? p = some (l.step .tick) := by
    rw [(app.lives_move p .tick).life, if_pos rfl, hl]
    rfl
  obtain ⟨g, hg, hlife⟩ := Option.map_eq_some_iff.1 hmoved
  have hbegins : g.life.isPublishing = true := hlife ▸ Lifecycle.isPublishing_tick hphase
  refine ⟨((app.move p .tick).publishOnce p g true).1, ?_⟩
  simp only [tick, publishIfBegun, hg, if_pos hbegins]

/-- A publisher that waits publishes with each of its alarms. -/
theorem alarmsOf_begun (app : Application) (alarms : List Alarm)
    (h : (∃ a ∈ alarms, a.owner = p) → app.Waits p) :
    Publish.alarmsOf p (app.begun alarms) = Schedule.of p alarms := by
  induction alarms generalizing app with
  | nil => rfl
  | cons a rest ih =>
    have hrest : Publish.alarmsOf p ((app.tick a.owner).2.begun rest) = Schedule.of p rest := by
      refine ih _ fun ⟨b, hb, howner⟩ => ?_
      exact (app.lives_tick a.owner).waits (fun _ => Lifecycle.harmless_ticked)
        (h ⟨b, List.mem_cons_of_mem a hb, howner⟩)
    rw [begun, Publish.alarmsOf_append, hrest]
    by_cases howner : a.owner = p
    · obtain ⟨summary, hsummary⟩ := exists_summary_tick (h ⟨a, List.mem_cons_self, howner⟩)
      rw [howner, hsummary, Schedule.of_cons_self howner]
      exact congrArg (· ++ Schedule.of p rest) (Schedule.of_cons_self howner [])
    · rw [Schedule.of_cons_other howner]
      cases (app.tick a.owner).1 with
      | none => rfl
      | some summary => exact congrArg (· ++ Schedule.of p rest) (Schedule.of_cons_other howner [])

/-! ## A publisher that is started once -/

/-- All publishers have a step, and alarms ring in the future, again and again. -/
structure Timely (app : Application) : Prop where
  stepped : app.Stepped
  alarms : ∀ a ∈ app.schedule.alarms, 0 < a.period ∧ app.milli < a.rings

theorem Timely.calm (h : Timely app) (hcalm : Calm p app later) : Timely later := by
  refine ⟨hcalm.stepped h.stepped, fun a ha => ?_⟩
  rw [hcalm.milli]
  rcases hcalm.alarms a ha with hmem | ⟨-, hperiod, hrings⟩
  · exact h.alarms a hmem
  · exact ⟨hperiod, hrings⟩

/-- As far as time passes, alarms ring. -/
theorem Timely.elapsed (h : Timely app) (millis : Nat) : Timely (app.elapsed millis) :=
  ⟨h.stepped, Schedule.lt_rings_ringUntil fun a ha => (h.alarms a ha).1⟩

/-- A publisher that has not been started has no alarm. -/
structure Fresh (p : Nat) (app : Application) : Prop extends Timely app where
  unstarted : app.Unstarted p
  silent : app.Silent p

theorem Fresh.calm (h : Fresh p app) (hcalm : Calm p app later) : Fresh p later := by
  refine ⟨h.toTimely.calm hcalm, hcalm.unstarted h.unstarted, fun a ha => ?_⟩
  rcases hcalm.alarms a ha with hmem | ⟨howner, -, -⟩
  · exact h.silent a hmem
  · exact howner

theorem Silent.elapsed (h : app.Silent p) (millis : Nat) : (app.elapsed millis).Silent p := by
  obtain ⟨-, hlast⟩ := app.schedule.owner_rungFor (app.milli + millis)
    (app.schedule.alarms.foldl (fun n a => n + Schedule.ringsWithin (app.milli + millis) a) 0)
  intro a ha
  change a ∈ (app.schedule.ringUntil (app.milli + millis)).2.alarms at ha
  rw [Schedule.ringUntil_eq] at ha
  obtain ⟨b, hb, howner⟩ := hlast a ha
  exact howner ▸ h b hb

theorem calm_ticks (p : Nat) (app : Application) (millis : Nat) :
    Calm p (app.settle.elapsed millis) (app.sleep millis) := by
  rw [sleep_eq_rung]
  exact .foldl (fun app (a : Alarm) => calm_tick p app a.owner) _ _

theorem Fresh.perform (h : Fresh p app) (config : NewRelic.Config) {deed : Deed}
    (hstart : ∀ ticker, deed ≠ .start p ticker) : Fresh p (app.perform config deed).2 := by
  by_cases hsleep : ∃ millis, deed = .sleep millis
  · obtain ⟨millis, rfl⟩ := hsleep
    have hsettled := h.calm (calm_settle p app)
    have helapsed : Fresh p (app.settle.elapsed millis) :=
      ⟨hsettled.toTimely.elapsed millis, hsettled.unstarted, hsettled.silent.elapsed millis⟩
    exact helapsed.calm (calm_ticks p app millis)
  · exact h.calm (calm_perform config h.stepped hstart (not_exists.1 hsleep))

theorem fresh_after (config : NewRelic.Config) (enumeration : Enumeration) {deeds : List Deed}
    (h : ∀ ticker, .start p ticker ∉ deeds) :
    Fresh p (after config (.start enumeration) deeds) := by
  induction deeds using List.reverseRecOn with
  | nil =>
    refine ⟨⟨fun q g hg => ?_, fun a ha => ?_⟩, fun l hl => ?_, fun a ha => ?_⟩
    · cases hg
    · cases ha
    · cases hl
    · cases ha
  | append_singleton deeds deed ih =>
    rw [after, List.foldl_append]
    refine (ih fun ticker hmem => h ticker (List.mem_append_left _ hmem)).perform config ?_
    rintro ticker rfl
    exact h ticker (List.mem_append_right _ (List.mem_singleton_self _))

/-- A publisher whose alarm has been set again `n` times since it was first set, unless it has been
dropped. -/
structure Steady (p first period n : Nat) (app : Application) : Prop extends Timely app where
  punctual : app.schedule.Punctual p first period n
  waits : app.Waits p ∨ app.Silent p

section Steady

variable {first period n : Nat}

theorem Steady.calm (h : Steady p first period n app) (hcalm : Calm p app later) :
    Steady p first period n later := by
  refine ⟨h.toTimely.calm hcalm, fun a ha howner => ?_, ?_⟩
  · rcases hcalm.alarms a ha with hmem | ⟨hother, -, -⟩
    · exact h.punctual a hmem howner
    · exact absurd howner hother
  · rcases h.waits with hwaits | hsilent
    · exact hcalm.waits hwaits
    · refine .inr fun a ha => ?_
      rcases hcalm.alarms a ha with hmem | ⟨hother, -, -⟩
      · exact hsilent a hmem
      · exact hother

/-- While time passes, the publisher publishes one period after another. -/
theorem Steady.sleep (h : Steady p first period n app) (millis : Nat) :
    Schedule.OnTime first period n (Publish.alarmsOf p (app.publishesIn (.sleep millis))) ∧
      Steady p first period (n + (Publish.alarmsOf p (app.publishesIn (.sleep millis))).length)
        (app.sleep millis) := by
  have hsettled := h.calm (calm_settle p app)
  let milli := app.settle.milli + millis
  let fuel := app.settle.schedule.alarms.foldl (fun n a => n + Schedule.ringsWithin milli a) 0
  obtain ⟨honTime, hpunctual⟩ := Schedule.punctual_rungFor milli fuel hsettled.punctual
  obtain ⟨howner, -⟩ := app.settle.schedule.owner_rungFor milli fuel
  have hpublishes : Publish.alarmsOf p (app.publishesIn (.sleep millis)) =
      Schedule.of p (app.settle.schedule.rung milli) := by
    refine alarmsOf_begun _ _ fun ⟨a, ha, hp⟩ => ?_
    obtain ⟨b, hb, hab⟩ := howner a ha
    exact hsettled.waits.resolve_right fun hsilent => hsilent b hb (hab.trans hp)
  rw [hpublishes]
  refine ⟨honTime, Steady.calm ⟨hsettled.toTimely.elapsed millis, ?_, ?_⟩ (calm_ticks p app millis)⟩
  · change ((app.settle.schedule.ringUntil milli).2).Punctual _ _ _ _
    rw [Schedule.ringUntil_eq]
    exact hpunctual
  · exact hsettled.waits.imp id fun hsilent => hsilent.elapsed millis

theorem Steady.perform (h : Steady p first period n app) (config : NewRelic.Config) {deed : Deed}
    (hstart : ∀ ticker, deed ≠ .start p ticker) :
    Schedule.OnTime first period n (Publish.alarmsOf p (app.publishesIn deed)) ∧
      Steady p first period (n + (Publish.alarmsOf p (app.publishesIn deed)).length)
        (app.perform config deed).2 := by
  by_cases hsleep : ∃ millis, deed = .sleep millis
  · obtain ⟨millis, rfl⟩ := hsleep
    exact h.sleep millis
  · have hnone : app.publishesIn deed = [] := by
      cases deed with
      | sleep millis => exact absurd ⟨millis, rfl⟩ hsleep
      | _ => rfl
    rw [hnone]
    have hcalm := calm_perform config h.stepped hstart (not_exists.1 hsleep)
    exact ⟨fun k a ha => (by cases ha), h.calm hcalm⟩

/-- Whatever else is done, the publisher publishes one period after another. -/
theorem Steady.after (h : Steady p first period n app) (config : NewRelic.Config)
    {deeds : List Deed} (hstart : ∀ ticker, .start p ticker ∉ deeds) :
    Schedule.OnTime first period n (Publish.alarmsOf p (app.publishes config deeds)) ∧
      Steady p first period (n + (Publish.alarmsOf p (app.publishes config deeds)).length)
        (app.after config deeds) := by
  induction deeds generalizing app n with
  | nil => exact ⟨fun k a ha => (by cases ha), h⟩
  | cons deed rest ih =>
    have hfirst (ticker : Ticker) : deed ≠ .start p ticker := fun heq =>
      hstart ticker (heq ▸ List.mem_cons_self)
    have hrest (ticker : Ticker) : .start p ticker ∉ rest := fun hmem =>
      hstart ticker (List.mem_cons_of_mem deed hmem)
    obtain ⟨honTime, hnext⟩ := h.perform config hfirst
    obtain ⟨hmore, hlast⟩ := ih hnext hrest
    rw [publishes, Publish.alarmsOf_append]
    refine ⟨honTime.append hmore, ?_⟩
    rw [List.length_append, ← Nat.add_assoc]
    exact hlast

end Steady

/-! ## The start of a publisher -/

/-- A publisher waits for its first alarm. -/
def waiting (app : Application) (p : Nat) (g : Hosted) (ticker : Ticker) : Application :=
  ((app.alarmed p g ticker).move p (.start true)).move p .arm

theorem lives_waiting (app : Application) (p : Nat) (g : Hosted) (ticker : Ticker) :
    Lives (app.alarmed p g ticker) (app.waiting p g ticker) p Lifecycle.started :=
  (lives_move _ p (.start true)).trans (lives_move _ p .arm)

section Start

variable {g : Hosted} {ticker : Ticker}

theorem startPublisher_of_enabled (henabled : g.exporter.config.enabled = true) :
    app.startPublisher p g ticker = (app.waiting p g ticker).settle := by
  rw [startPublisher_eq, if_pos henabled]
  rfl

theorem life?_waiting (hp : app.hosted? p = some g) :
    (app.waiting p g ticker).life? p = some g.life.started := by
  have hlife : (app.alarmed p g ticker).life? p = some g.life := by
    change (app.hosted? p).map _ = _
    rw [hp]
    rfl
  rw [(app.lives_waiting p g ticker).life, if_pos rfl, hlife]
  rfl

/-- A publisher that starts waits for its first alarm, which no other one has been set before. -/
theorem Fresh.steady_startPublisher (h : Fresh p app) (hp : app.hosted? p = some g)
    (henabled : g.exporter.config.enabled = true) :
    Steady p (app.milli * nanosPerMilli +
        delayToNextStep g.exporter.config.step (g.clock.getD app.clock).wallTime)
      (ticker.period g.exporter.config.step) 0 (app.startPublisher p g ticker) := by
  have hstep := h.stepped p g hp
  have hlives := app.lives_waiting p g ticker
  obtain ⟨hphase, -⟩ := h.unstarted g.life (by rw [life?, hp]; rfl)
  rw [startPublisher_of_enabled henabled]
  refine Steady.calm ⟨⟨hlives.toQuiet.stepped h.stepped, ?_⟩, ?_, .inl ?_⟩ (calm_settle p _)
  · rw [hlives.schedule, hlives.milli]
    refine List.forall_mem_append.2 ⟨h.alarms, List.forall_mem_singleton.2 ?_⟩
    exact ⟨ticker.period_pos hstep, Alarm.lt_rings_of_due hstep _ rfl⟩
  · rw [hlives.schedule]
    refine List.forall_mem_append.2 ⟨fun a ha howner => absurd howner (h.silent a ha), ?_⟩
    refine List.forall_mem_singleton.2 fun _ => ⟨?_, rfl⟩
    rw [Nat.zero_mul, Nat.add_zero]
  · exact ⟨_, life?_waiting hp, (Lifecycle.started_of_unstarted hphase).1⟩

/-- A publisher of which nothing is asked keeps its alarm. -/
structure Rests (app : Application) (p : Nat) (a : Alarm) : Prop where
  life : ∃ l, app.life? p = some l ∧ l.phase = .waiting ∧ l.held = true ∧ l.unseen = false
  owner : a.owner = p
  mem : a ∈ app.schedule.alarms

theorem Rests.attend {a : Alarm} (h : app.Rests p a) (q : Nat) : (app.attend q).Rests p a := by
  obtain ⟨⟨l, hl, hphase, hheld, hunseen⟩, howner, hmem⟩ := h
  rw [attend_eq]
  split
  · obtain ⟨-, hpublishers, hschedule⟩ := (app.attending q).retire_cases q
    have hlives := app.lives_attending q
    have hkept : (app.attending q).life? p = some l := by
      rw [hlives.life]
      split
      · rw [hl, Option.map_some, Lifecycle.attended_of_held hphase hheld hunseen]
      · exact hl
    refine ⟨⟨l, ?_, hphase, hheld, hunseen⟩, howner, ?_⟩
    · rw [life?, hosted?, hpublishers]
      exact hkept
    · rw [hschedule, hlives.schedule]
      split
      · next hended =>
        refine List.mem_filter.2 ⟨hmem, bne_iff_ne.2 fun hq => ?_⟩
        obtain rfl : p = q := howner.symm.trans hq
        rw [hkept, Option.map_some, hphase] at hended
        cases hended
      · exact hmem
  · exact ⟨⟨l, hl, hphase, hheld, hunseen⟩, howner, hmem⟩

theorem Rests.settle {a : Alarm} (h : app.Rests p a) : app.settle.Rests p a := by
  rw [Application.settle]
  generalize List.range app.publishers.length = publishers
  induction publishers generalizing app with
  | nil => exact h
  | cons q rest ih => exact ih (h.attend q)

/-- As long as its handle is held, a publisher that starts has an alarm. -/
theorem Fresh.rests_startPublisher (h : Fresh p app) (hp : app.hosted? p = some g)
    (henabled : g.exporter.config.enabled = true) (hheld : g.life.held = true) (ticker : Ticker) :
    (app.startPublisher p g ticker).Rests p ⟨p, app.milli * nanosPerMilli +
        delayToNextStep g.exporter.config.step (g.clock.getD app.clock).wallTime,
      ticker.period g.exporter.config.step, app.schedule.set⟩ := by
  obtain ⟨hphase, hunseen⟩ := h.unstarted g.life (by rw [life?, hp]; rfl)
  obtain ⟨hwaiting, hheld', hunseen'⟩ := Lifecycle.started_of_unstarted hphase
  rw [startPublisher_of_enabled henabled]
  refine Rests.settle
    ⟨⟨_, life?_waiting hp, hwaiting, hheld'.trans hheld, hunseen'.trans hunseen⟩, rfl, ?_⟩
  rw [(app.lives_waiting p g ticker).schedule]
  exact List.mem_append_right _ (List.mem_singleton_self _)

end Start

theorem snd_run (config : NewRelic.Config) (deeds : List Deed) (enumeration : Enumeration) :
    (run config deeds enumeration).2 = after config (.start enumeration) deeds := by
  induction deeds using List.reverseRecOn with
  | nil => rfl
  | append_singleton deeds deed ih =>
    rw [run, List.foldl_append, after, List.foldl_append]
    exact congrArg (fun app => (perform config app deed).2) ih

/-- A publisher is started once, behind other deeds and before more. The delay to its first publish
ends one millisecond behind the next boundary of its step, if that is less than a word of nanoseconds
away, and is never too long for a span. While its handle is held it waits for that moment, and for
as long as it has an alarm each other publish is due one period of the ticker behind the one before
it. So with a ticker that ticks a step later each time, all publishes are due one millisecond behind
a boundary, and none is left out. -/
theorem publishes_aligned (config : NewRelic.Config) (deeds more : List Deed)
    (enumeration : Enumeration) (ticker : Ticker) (p : Nat) {g : Hosted}
    (hbefore : ∀ other, .start p other ∉ deeds) (hafter : ∀ other, .start p other ∉ more)
    (hp : (run config deeds enumeration).2.hosted? p = some g)
    (henabled : g.exporter.config.enabled = true) :
    let app := (run config deeds enumeration).2
    let step := g.exporter.config.step
    let wall := (g.clock.getD app.clock).wallTime
    let gap := toBoundary step.nanos wall.nanos
    let begun := app.milli * nanosPerMilli
    let first := begun + delayToNextStep step wall
    let started := (app.perform config (.start p ticker)).2
    let later := started.after config more
    let published := Publish.of p (started.publishes config more)
    (∀ step wall : Span, 0 < step.nanos →
      let gap := toBoundary step.nanos wall.nanos
      IsLeast {boundary | step.nanos ∣ boundary ∧ wall.nanos < boundary} (wall.nanos + gap) ∧
        0 < gap ∧ gap ≤ step.nanos ∧
        delayToNextStep step wall = min gap (2 ^ 64 - 1) + 1000000 ∧
        delayToNextStep step wall ≤ longestNanos) ∧
      0 < step.nanos ∧
      (g.life.held = true → ∃ a ∈ started.schedule.alarms, a.owner = p ∧ a.due = first) ∧
      (∀ k x, published[k]? = some x → x.alarm.due = first + k * ticker.period step ∧
        begun + 1000000 + 1 ≤ x.alarm.due ∧ x.alarm.due ≤ x.alarm.rings * nanosPerMilli ∧
        x.alarm.rings * nanosPerMilli < x.alarm.due + nanosPerMilli) ∧
      (∀ a ∈ later.schedule.alarms, a.owner = p →
        a.due = first + published.length * ticker.period step ∧ later.milli < a.rings) ∧
      (gap < 2 ^ 64 →
        (∀ x, published[0]? = some x →
          wall.nanos + (x.alarm.due - begun) = wall.nanos + gap + 1000000) ∧
        (ticker.IsExact → ∀ k x, published[k]? = some x →
          wall.nanos + (x.alarm.due - begun) = wall.nanos + gap + k * step.nanos + 1000000)) := by
  intro app step wall gap begun first started later published
  have hfresh : Fresh p app := by
    change Fresh p (run config deeds enumeration).2
    rw [snd_run]
    exact fresh_after config enumeration hbefore
  have hstep : 0 < step.nanos := hfresh.stepped p g hp
  have hstarted : started = app.startPublisher p g ticker := by
    simp only [started, perform]
    rw [hp]
  have hsteady : Steady p first (ticker.period step) 0 started :=
    hstarted ▸ hfresh.steady_startPublisher hp henabled
  obtain ⟨honTime, hlater⟩ := hsteady.after config hafter
  have hdue (k : Nat) (x : Publish) (hx : published[k]? = some x) :
      x.alarm.due = first + k * ticker.period step := by
    have hk : (Publish.alarmsOf p (started.publishes config more))[k]? = some x.alarm := by
      rw [← Publish.map_alarm_of, List.getElem?_map, hx, Option.map_some]
    have honce := honTime k x.alarm hk
    rwa [Nat.zero_add] at honce
  have hdelay : 1000000 < delayToNextStep step wall := boundaryOffset_lt_delayToNextStep hstep wall
  refine ⟨fun step wall h => delayToNextStep_aligned h wall, hstep, fun hheld => ?_,
    fun k x hx => ⟨hdue k x hx, ?_, x.alarm.due_le_rings⟩, fun a ha howner => ?_, fun hgap => ?_⟩
  · have hrests := hfresh.rests_startPublisher hp henabled hheld ticker
    exact ⟨_, hstarted ▸ hrests.mem, rfl, rfl⟩
  · rw [hdue k x hx]
    omega
  · have hlength := (hlater.punctual a ha howner).1
    rw [Nat.zero_add, ← Publish.length_of] at hlength
    exact ⟨hlength, (hlater.alarms a ha).2⟩
  · have hbehind : delayToNextStep step wall = gap + 1000000 := delayToNextStep_of_lt hgap
    refine ⟨fun x hx => ?_, fun hexact k x hx => ?_⟩
    · rw [hdue 0 x hx]
      omega
    · rw [hdue k x hx, hexact step]
      omega

/-- A publisher with a step of a minute starts ten seconds behind the second minute. It publishes one
millisecond behind the third and the fourth. -/
theorem publishes_aligned_minutes :
    let config : NewRelic.Config := ⟨.default, "1", "key", "localhost", "Sample", false⟩
    let hosting : Hosting := .plain ⟨.seconds, none, false⟩ ⟨true, .of 60 0, 10⟩
    let deeds : List Deed := [.host "text" hosting (some (.atWall (.of 130 0))) []]
    let more : List Deed := [.sleep 50001, .clear, .sleep 60000]
    let started := ((run config deeds).2.perform config (.start 0 .exact)).2
    let published := Publish.of 0 (started.publishes config more)
    published.map (·.alarm.due) = [50001000000, 110001000000] ∧
      (∃ a ∈ started.schedule.alarms, a.owner = 0 ∧ a.due = 50001000000) ∧
      ∀ k x, published[k]? = some x →
        130000000000 + x.alarm.due = 180000000000 + k * 60000000000 + 1000000 := by
  intro config hosting deeds more started published
  obtain ⟨g, hp, henabled, hheld, hconfig, hclock⟩ : ∃ g, (run config deeds).2.hosted? 0 = some g ∧
      g.exporter.config.enabled = true ∧ g.life.held = true ∧
      g.exporter.config = ⟨true, .of 60 0, 10⟩ ∧ g.clock = some (.atWall (.of 130 0)) :=
    ⟨_, rfl, rfl, rfl, rfl, rfl⟩
  have haligned := publishes_aligned config deeds more .asEntered .exact 0 (by simp [deeds])
    (by simp [more]) hp henabled
  have hwall : (Clock.atWall (.of 130 0)).wallTime.nanos = 130000000000 := by decide +kernel
  have hgap : toBoundary 60000000000 130000000000 = 50000000000 := by decide +kernel
  have hdelay : delayToNextStep (.of 60 0) (Clock.atWall (.of 130 0)).wallTime = 50001000000 := by
    decide +kernel
  have hstep : (Span.of 60 0).nanos = 60000000000 := by decide +kernel
  have hmilli : (run config deeds).2.milli = 0 := rfl
  simp only [hconfig, hclock, Option.getD_some, hwall, hstep, hmilli, hgap, hdelay,
    Nat.zero_mul, Nat.zero_add, Nat.sub_zero] at haligned
  obtain ⟨-, -, hset, -, -, hbehind⟩ := haligned
  obtain ⟨-, hlater⟩ := hbehind (by decide)
  refine ⟨by decide +kernel, hset hheld, fun k x hx =>
    (hlater Ticker.isExact_exact k x hx).trans ?_⟩
  omega

end Application

end Telemetry
