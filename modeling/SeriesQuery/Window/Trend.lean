import SeriesQuery.Window

/-!
# Trends

A line is fitted to the samples of a window by least squares, and a series is smoothed together
with its trend.
-/

namespace SeriesQuery.Window

open Numeric

variable {α : Type} [Numeric α]

structure Line (α : Type) where
  slope : α
  intercept : α

structure Sums (α : Type) where
  n : α
  x : α
  y : α
  xy : α
  xx : α

def Sums.push (s : Sums α) (x y : α) : Sums α where
  n := s.n + one
  x := s.x + x
  y := s.y + y
  xy := s.xy + x * y
  xx := s.xx + x * x

def Sums.line (s : Sums α) : Line α :=
  let covariance := s.xy - s.x * s.y / s.n
  let variance := s.xx - s.x * s.x / s.n
  let slope := covariance / variance
  { slope, intercept := s.y / s.n - slope * s.x / s.n }

/-- The sums over the samples, at seconds since some time. -/
def sums (samples : List (Sample α)) (origin : Int) : Except Overflow (Sums α) :=
  samples.foldlM (fun s sample => do
    return s.push (← secondsBetween origin sample.timestamp) sample.value)
    ⟨zero, zero, zero, zero, zero⟩

theorem sums_of_inRange {samples : List (Sample α)} {origin : Int}
    (h : ∀ s ∈ samples, Millis.InRange (s.timestamp - origin)) :
    sums samples origin = .ok (samples.foldl (fun s sample =>
      s.push (ofMillis (sample.timestamp - origin)) sample.value) ⟨zero, zero, zero, zero, zero⟩) := by
  unfold sums
  generalize (⟨zero, zero, zero, zero, zero⟩ : Sums α) = s
  induction samples generalizing s with
  | nil => rfl
  | cons sample rest ih =>
    rw [List.foldlM_cons, secondsBetween_of_inRange (h sample (.head _))]
    exact ih (fun x hx => h x (.tail _ hx)) _

/-- The line through the samples, over seconds since some time. -/
def fit (samples : List (Sample α)) (origin : Int) : Except Overflow (Line α) :=
  Sums.line <$> sums samples origin

/-- The slope of the line through at least two samples. -/
def slope : List (Sample α) → Except Overflow (Option α)
  | first :: second :: rest => do
    return some (← fit (first :: second :: rest) first.timestamp).slope
  | _ => .ok none

/-- The value of the line through at least two samples, some seconds after the evaluation. -/
def predict (w : Window) (seconds : α) : List (Sample α) → Except Overflow (Option α)
  | first :: second :: rest => do
    let line ← fit (first :: second :: rest) w.timestamp
    return some (line.slope * seconds + line.intercept)
  | _ => .ok none

/-- The last two smoothed values and the trend between them. -/
structure Smoothed (α : Type) where
  previous : α
  current : α
  trend : α

def Smoothed.advance (level : α) (s : Smoothed α) (trend v : α) : Smoothed α where
  previous := s.current
  current := level * v + (one - level) * (s.current + trend)
  trend

/-- Renews the trend from the last two smoothed values, then smooths the next value. -/
def Smoothed.push (level slope : α) (s : Smoothed α) (v : α) : Smoothed α :=
  s.advance level (slope * (s.current - s.previous) + (one - slope) * s.trend) v

def smooth (level slope : α) : List α → Option α
  | first :: second :: rest =>
    let s := (⟨zero, first, second - first⟩ : Smoothed α).advance level (second - first) second
    some (rest.foldl (Smoothed.push level slope) s).current
  | _ => none

end SeriesQuery.Window
