import Telemetry.Config.Setting
import Telemetry.Text.Outline

/-!
# Settings of publishing

Whether and how often the meters are published, and how many of them make up a batch.
-/

namespace Telemetry

/-- Whether, how often, and in batches of how many meters a publisher publishes. -/
structure StepConfig where
  enabled : Bool
  step : Span
  batchSize : Nat
deriving DecidableEq

namespace StepConfig

/-- Publishing is on, once a minute, in batches of ten thousand meters. -/
def default : StepConfig := ⟨true, Span.of 60 0, 10000⟩

instance : Inhabited StepConfig := ⟨default⟩

/-- A step is needed, and so is a batch. -/
def validate (config : StepConfig) : Except Error Unit := do
  requirePositive "step" config.step.nanos
  requirePositive "batch_size" config.batchSize

/-- The written form of a step. -/
def stepForm? (format : SpanFormat) (setting : Setting) : Option Span :=
  setting.text?.bind format.read?

/-- Reads the settings of publishing. -/
def ofSettings? (format : SettingsFormat := .standard) (settings : Settings) :
    Option StepConfig := do
  let enabled ← settings.read format "enabled" default.enabled Setting.flag?
  let step ← settings.read format "step" default.step (stepForm? format.spans)
  let batchSize ← settings.read format "batch_size" default.batchSize Setting.size?
  some ⟨enabled, step, batchSize⟩

/-- The names of the settings, in the order in which they may be given without names. -/
def names : List String := ["enabled", "step", "batch_size"]

/-- Reads the settings of publishing when they are given without names. The last ones may be
absent. -/
def ofValues? (values : List Setting) (format : SettingsFormat := .standard) : Option StepConfig :=
  if values.length ≤ names.length then ofSettings? format (names.zip values) else none

/-- Writes the settings of publishing. -/
def toSettings (config : StepConfig) (format : SettingsFormat := .standard) : Settings :=
  [("enabled", .flag config.enabled), ("step", .text (format.spans.write config.step)),
   ("batch_size", .number config.batchSize)]

/-- The outline of the settings. -/
def outline (config : StepConfig) : String :=
  Outline.record "StepConfig"
    [("enabled", Outline.flag config.enabled), ("step", config.step.outline),
     ("batch_size", toString config.batchSize)]

end StepConfig

end Telemetry
