import Mathlib.Data.List.Forall2
import Telemetry.Proofs.Application.Relabel
import Telemetry.Proofs.NewRelic.Requests

/-!
# The insert key stays out of sight

Every request to New Relic carries the insert key in one header. Nothing else that comes of a
configuration depends on the key: with another key the same run has the same outlines, the same
summaries and the same log, and its payloads differ in the value of that header alone.

## Main definitions

- `NewRelic.rekeyed` — a payload with another insert key
- `Payload.SameButKey` — payloads that differ in the value of that header at most

## Main statements

- `NewRelic.publisher?_rekeyed` — another key is another label
- `NewRelic.key_never_shows` — two runs with different keys
-/

namespace Telemetry

theorem forall₂_map_of_forall {α : Type} {R : α → α → Prop} {f : α → α} (h : ∀ x, R x (f x))
    (l : List α) : List.Forall₂ R l (l.map f) := by
  rw [List.forall₂_map_right_iff, List.forall₂_same]
  exact fun x _ => h x

/-- Two payloads are the same up to the value of the header for the insert key. -/
structure Payload.SameButKey (p q : Payload) : Prop where
  uri : p.uri = q.uri
  contentType : p.contentType = q.contentType
  records : p.records = q.records
  body : p.body = q.body
  headers : List.Forall₂ (fun g h => g.1 = h.1 ∧ (g.1 ≠ "X-Insert-Key" → g.2 = h.2))
    p.headers q.headers

namespace NewRelic

/-- The payload with another insert key, if it has one. -/
def rekeyed (key : String) (p : Payload) : Payload :=
  { p with headers := p.headers.map fun h => if h.1 = "X-Insert-Key" then (h.1, key) else h }

theorem sameButKey_rekeyed (key : String) (p : Payload) : p.SameButKey (rekeyed key p) := by
  refine ⟨rfl, rfl, rfl, rfl, forall₂_map_of_forall (fun h => ?_) p.headers⟩
  by_cases hkey : h.1 = "X-Insert-Key"
  · rw [if_pos hkey]
    exact ⟨rfl, fun hne => absurd hkey hne⟩
  · rw [if_neg hkey]
    exact ⟨rfl, fun _ => rfl⟩

theorem rekeyed_of_headers {p : Payload} (h : p.headers = []) (key : String) : rekeyed key p = p := by
  obtain ⟨uri, headers, contentType, records, body⟩ := p
  cases h
  rfl

/-- The settings with another insert key. -/
def Config.rekeyed (config : Config) (key : String) : Config := { config with apiKey := key }

/-- The key shows in the payloads of a backend and nowhere else. -/
theorem backend_rekeyed (config : Config) (key : String) :
    backend (config.rekeyed key) = (backend config).relabel (rekeyed key) :=
  rfl

theorem publisher?_rekeyed {config : Config} {key : String} (hvalid : config.validate = .ok ())
    (hother : (config.rekeyed key).validate = .ok ()) (serial : Nat) :
    publisher? (config.rekeyed key) serial =
      (publisher? config serial).map (Publisher.relabel (rekeyed key)) := by
  have hpublisher {config : Config} (h : config.validate = .ok ()) :
      publisher? config serial = Publisher.new (backend config) config.cappedStep serial := by
    simp [publisher?, backend?, h, bind, Except.bind, pure, Except.pure]
  rw [hpublisher hvalid, hpublisher hother, backend_rekeyed, Publisher.new_relabel]
  rfl

end NewRelic

/-! ## Exporters that have no key -/

/-- A backend whose payloads have no headers has no use for a key. -/
theorem Backend.relabel_rekeyed {Record Cache : Type} {backend : Backend Record Cache}
    (h : ∀ records payloads, (backend.encode records).result = .ok payloads →
      ∀ payload ∈ payloads, payload.headers = []) (key : String) :
    backend.relabel (NewRelic.rekeyed key) = backend := by
  have hencode (records : List Record) :
      (backend.encode records).relabel (NewRelic.rekeyed key) = backend.encode records := by
    have hnone := h records
    generalize backend.encode records = encoded at hnone
    obtain ⟨result, events⟩ := encoded
    cases result with
    | error e => rfl
    | ok payloads =>
      have hsame : payloads.map (NewRelic.rekeyed key) = payloads.map id :=
        List.map_congr_left fun payload hmem =>
          NewRelic.rekeyed_of_headers (hnone payloads rfl payload hmem) key
      rw [List.map_id] at hsame
      exact congrArg (fun payloads => (⟨.ok payloads, events⟩ : Encoded)) hsame
  exact congrArg (fun encode => { backend with encode := encode }) (funext hencode)

theorem Statsd.publisher?_relabel (config : Statsd.Config) (key : String) (serial : Nat) :
    (Statsd.publisher? config serial).map (Publisher.relabel (NewRelic.rekeyed key)) =
      Statsd.publisher? config serial := by
  have hheaders : ∀ records payloads, ((Statsd.backend config).encode records).result = .ok payloads →
      ∀ payload ∈ payloads, payload.headers = [] := by
    rintro records _ ⟨⟩ payload hmem
    obtain ⟨packet, -, rfl⟩ := List.mem_map.1 hmem
    rfl
  unfold publisher? backend?
  cases config.validate with
  | error e => rfl
  | ok _ => exact Publisher.map_relabel_new _ (Backend.relabel_rekeyed hheaders key) config.step serial

theorem Plain.relabel_rekeyed (config : Plain.Config) (key : String) :
    (Plain.backend config).relabel (NewRelic.rekeyed key) = Plain.backend config := by
  refine Backend.relabel_rekeyed (fun records payloads h => ?_) key
  simp only [Plain.backend] at h
  split at h
  · cases h
  · cases h
    simp [Plain.payload, Payload.new]

theorem Hosting.make_rekeyed {config : NewRelic.Config} {key : String}
    (hvalid : config.validate = .ok ()) (hother : (config.rekeyed key).validate = .ok ())
    (hosting : Hosting) (serial : Nat) :
    hosting.make (config.rekeyed key) serial =
      (hosting.make config serial).map (Exporter.relabel (NewRelic.rekeyed key)) := by
  have hmap {Record Cache : Type} (x : Except Error (Publisher Record Cache))
      (wrap : Publisher Record Cache → Exporter)
      (hwrap : ∀ p, (wrap p).relabel (NewRelic.rekeyed key) = wrap (p.relabel (NewRelic.rekeyed key))) :
      (x.map wrap).map (Exporter.relabel (NewRelic.rekeyed key)) =
        (x.map (Publisher.relabel (NewRelic.rekeyed key))).map wrap := by
    cases x with
    | error e => rfl
    | ok p => exact congrArg Except.ok (hwrap p)
  cases hosting with
  | newRelic => rw [make, make, hmap _ _ fun _ => rfl, NewRelic.publisher?_rekeyed hvalid hother]
  | statsd c => rw [make, make, hmap _ _ fun _ => rfl, Statsd.publisher?_relabel]
  | plain c step =>
    rw [make, make, hmap _ _ fun _ => rfl, Publisher.map_relabel_new _ (Plain.relabel_rekeyed c key)]

namespace NewRelic

/-- Two valid configurations that differ in the insert key have the same outlines. In the same run of
a service, with the same faults and with answers in any order, and in the same run of an application,
which may have other publishers as well, the registry, the summaries, all that is logged and the
outline of every publisher are the same. The payloads that are handed over are the same up to the
value of the header for the key. -/
theorem key_never_shows {config : Config} {key : String} (hvalid : config.validate = .ok ())
    (hother : (config.rekeyed key).validate = .ok ()) :
    (config.rekeyed key).outline = config.outline ∧
      backendOutline (config.rekeyed key) = backendOutline config ∧
      (∀ serial, ∃ p q, publisher? config serial = .ok p ∧
        publisher? (config.rekeyed key) serial = .ok q ∧
        ∀ {World : Type} (r : Registry World) (trials : List (Service.Trial World)),
          let x := (Service.mk p r).transcript trials
          let y := (Service.mk q r).transcript trials
          y.service.registry = x.service.registry ∧
            y.service.publisher.outline = x.service.publisher.outline ∧
            y.publishes.map (·.outcome.summary) = x.publishes.map (·.outcome.summary) ∧
            y.events = x.events ∧
            List.Forall₂ (List.Forall₂ Payload.SameButKey) (x.publishes.map (·.outcome.handed))
              (y.publishes.map (·.outcome.handed))) ∧
      ∀ deeds enumeration,
        let x := Application.run config deeds enumeration
        let y := Application.run (config.rekeyed key) deeds enumeration
        y.1 = x.1 ∧ y.2.registry = x.2.registry ∧ y.2.world = x.2.world ∧ y.2.log = x.2.log ∧
          y.2.publishers.map (·.exporter.outline) = x.2.publishers.map (·.exporter.outline) ∧
          List.Forall₂ (List.Forall₂ fun d e =>
              d.payload.SameButKey e.payload ∧ d.registered = e.registered)
            (x.2.publishers.map (·.sender.deliveries))
            (y.2.publishers.map (·.sender.deliveries)) := by
  have hrecords (payload : Payload) : (rekeyed key payload).records = payload.records := rfl
  refine ⟨rfl, rfl, fun serial => ?_, fun deeds enumeration => ?_⟩
  · obtain ⟨p, hp, -, -⟩ := exists_publisher? hvalid serial
    have hq := publisher?_rekeyed hvalid hother serial
    rw [hp] at hq
    refine ⟨p, p.relabel (rekeyed key), hp, hq, fun r trials => ?_⟩
    have hrun : (Service.mk (p.relabel (rekeyed key)) r).transcript trials =
        ((Service.mk p r).transcript trials).relabel (rekeyed key) :=
      Service.transcript_relabel hrecords ⟨p, r⟩ trials
    rw [hrun]
    generalize (Service.mk p r).transcript trials = x
    refine ⟨rfl, rfl, List.map_map, rfl, ?_⟩
    rw [Service.Transcript.relabel, List.map_map, List.forall₂_map_left_iff,
      List.forall₂_map_right_iff, List.forall₂_same]
    exact fun published _ => forall₂_map_of_forall (sameButKey_rekeyed key) _
  · rw [Application.run_relabel hrecords (Hosting.make_rekeyed hvalid hother) deeds enumeration]
    generalize Application.run config deeds enumeration = outcome
    obtain ⟨summaries, x⟩ := outcome
    refine ⟨rfl, rfl, x.world_relabel, rfl, ?_, ?_⟩
    · rw [Application.relabel, List.map_map]
      exact List.map_congr_left fun h _ => h.exporter.outline_relabel _
    · rw [Application.relabel, List.map_map, List.forall₂_map_left_iff,
        List.forall₂_map_right_iff, List.forall₂_same]
      exact fun h _ => forall₂_map_of_forall (fun d => ⟨sameButKey_rekeyed key d.payload, rfl⟩) _

/-- A counter is published by hand, rejected, and published again when its publisher is closed, beside
a StatsD publisher: the log does not tell one key from another. -/
theorem key_never_shows_counter :
    let config : Config :=
      ⟨⟨true, Span.of 60 0, 100⟩, "1", "secret", "https://localhost", "Sample", false⟩
    let deeds : List Deed :=
      [.host "nr" .newRelic none [.ok ⟨403, "forbidden"⟩, .error ⟨"timeout"⟩],
       .host "statsd" (.statsd Statsd.Config.default) none [],
       .register none (.new "requests" .counter) none, .modify 0 (·.increment 1),
       .publish 0 true, .start 0, .publish 1 false, .close 0]
    config.validate = .ok () ∧ (config.rekeyed "other").validate = .ok () ∧
      (config.rekeyed "other").outline = config.outline ∧
      (Application.run (config.rekeyed "other") deeds).2.log.map LogEvent.line =
        (Application.run config deeds).2.log.map LogEvent.line := by
  have hvalid : (⟨⟨true, Span.of 60 0, 100⟩, "1", "secret", "https://localhost", "Sample", false⟩ :
      Config).validate = .ok () := rfl
  have hother : (⟨⟨true, Span.of 60 0, 100⟩, "1", "other", "https://localhost", "Sample", false⟩ :
      Config).validate = .ok () := rfl
  intro config deeds
  obtain ⟨houtline, -, -, hruns⟩ := key_never_shows hvalid hother
  obtain ⟨-, -, -, hlog, -⟩ := hruns deeds .asEntered
  exact ⟨hvalid, hother, houtline, congrArg (List.map LogEvent.line) hlog⟩

end NewRelic

end Telemetry
