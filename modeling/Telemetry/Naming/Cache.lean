import Telemetry.Meter.Measurement
import Telemetry.Naming.Convention

/-!
# The written parts of a meter, kept between publishes

What an exporter writes for a meter depends on little: the identity, the convention and, in the
last step, the statistic. A cache keeps what it wrote last. It holds the fragments written with one
installed convention, and for them one text per statistic; another installed convention, even an
equal one, makes it start afresh.

## Main definitions

* `RenderRules`: how an exporter writes a meter, in two stages.
* `NamingCache`: what is kept; `NamingCache.render` and `NamingCache.text` ask it.
* `Work`: how often the rules were applied.
-/

namespace Telemetry

/-- How an exporter writes a meter: fragments of identity and convention, and the text that a
statistic adds to them. -/
structure RenderRules (Fragments : Type) where
  render : Id → Convention → Fragments
  renderStatistic : Fragments → Option Statistic → String

/-- What was written with one installed convention. -/
structure Rendered (Fragments : Type) where
  installed : Installed
  fragments : Fragments
  byStatistic : List (Option Statistic × String)

/-- What was written last for one meter. -/
structure NamingCache (Fragments : Type) where
  id : Id
  current : Option (Rendered Fragments)

/-- How often each of the two rules was applied. -/
structure Work where
  renders : Nat
  statistics : Nat
deriving DecidableEq, Repr

instance : Add Work := ⟨fun a b => ⟨a.renders + b.renders, a.statistics + b.statistics⟩⟩

/-- No work. -/
def Work.none : Work := ⟨0, 0⟩

namespace NamingCache

variable {Fragments : Type}

/-- The cache of a meter for which nothing has been written. -/
def new (id : Id) : NamingCache Fragments := ⟨id, none⟩

/-- What is kept for an installed convention, if it is that one. -/
def kept? (cache : NamingCache Fragments) (installed : Installed) :
    Option (Rendered Fragments) :=
  cache.current.filter fun r => r.installed.serial == installed.serial

/-- The fragments for an installed convention, the cache that keeps them, and the work done. -/
def render (rules : RenderRules Fragments) (cache : NamingCache Fragments)
    (installed : Installed) : Rendered Fragments × NamingCache Fragments × Work :=
  match cache.kept? installed with
  | some rendered => (rendered, cache, Work.none)
  | none =>
    let rendered := ⟨installed, rules.render cache.id installed.convention, []⟩
    (rendered, { cache with current := some rendered }, ⟨1, 0⟩)

/-- The text for a statistic, the cache that keeps it, and the work done. -/
def text (rules : RenderRules Fragments) (cache : NamingCache Fragments) (installed : Installed)
    (statistic : Option Statistic) : String × NamingCache Fragments × Work :=
  let (rendered, cache, work) := cache.render rules installed
  match rendered.byStatistic.lookup statistic with
  | some text => (text, cache, work)
  | none =>
    let text := rules.renderStatistic rendered.fragments statistic
    let rendered := { rendered with byStatistic := (statistic, text) :: rendered.byStatistic }
    (text, { cache with current := some rendered }, work + ⟨0, 1⟩)

/-- The outline of a cache shows whose texts it keeps. -/
def outline (cache : NamingCache Fragments) : String :=
  Outline.openRecord "NamingCache" [("id", cache.id.outline)]

end NamingCache

/-- The outline of written parts shows the convention they were written with. -/
def Rendered.outline {Fragments : Type} (rendered : Rendered Fragments) : String :=
  Outline.openRecord "Rendered" [("convention", rendered.installed.convention.outline)]

end Telemetry
