import SeriesQuery.Expr.Check
import SeriesQuery.QueryResult
import SeriesQuery.Trace

/-!
# What an evaluation is given

Besides the expression an evaluation needs the frames, the series, how far back an instant
selector looks, a hash for groups and match keys, and whether its time has run out.
-/

namespace SeriesQuery

/-- The time some duration before another. An evaluation does not go on without it. -/
def Millis.earlier (t duration : Int) : Except QueryError Int :=
  (minus t duration).mapError .overflow

theorem Millis.earlier_of_inRange {t duration : Int} (h : InRange (t - duration)) :
    earlier t duration = .ok (t - duration) := by
  unfold earlier
  rw [minus_of_inRange h]
  rfl

theorem Millis.earlier_eq_ok_iff {t duration u : Int} :
    earlier t duration = .ok u ↔ InRange (t - duration) ∧ t - duration = u := by
  rw [← minus_eq_ok_iff]
  unfold earlier
  cases minus t duration with
  | ok d =>
    have hinj {ε ε' : Type} (h : (.ok d : Except ε Int) = .ok u) : (.ok d : Except ε' Int) = .ok u :=
      congrArg Except.ok (Except.ok.inj h)
    exact ⟨hinj, hinj⟩
  | error e => exact iff_of_false nofun nofun

structure Context (α : Type) where
  gateway : Gateway α
  frames : TimeFrames
  lookback : Int
  hash : LabelHash
  /-- Whether the deadline has passed before the evaluation begins. -/
  expired : Bool := false

namespace Context

variable {α : Type}

/-- The series with samples from `window` before some time up to that time. -/
def fetch (c : Context α) (s : Selector) (window first last : Int) :
    Except QueryError (List (SeriesSamples α)) := do
  let start ← Millis.earlier first window
  (c.gateway.query s.matchers ⟨start, last⟩).mapError .gateway

/-- Refuses expressions that are ill typed, windows at more than one timestamp, and evaluations
whose time has run out. -/
def validate [SampleValue α] (c : Context α) (e : Expr α) : Except QueryError Unit := do
  let t ← e.check.mapError .typeMismatch
  if t = .matrix ∧ !c.frames.isInstant then .error (.typeMismatch .rangeResult)
  else if c.expired then .error .deadlineExceeded
  else .ok ()

end Context

end SeriesQuery
