import SeriesQuery.Evaluation.Columnar
import SeriesQuery.Evaluation.Stepwise
import SeriesQuery.Query.Expression
import SeriesQuery.Service.Config

/-!
# Answering queries

The service evaluates expressions on the series of a gateway with the evaluator and the settings
of its configuration.
-/

namespace SeriesQuery

variable {α : Type} [SampleValue α]

def Strategy.evaluate : Strategy → Context α → Expr α → Traced (QueryResult α)
  | interpreter => Stepwise.evaluate
  | batch => Columnar.evaluate

/-- What an evaluation is given under some settings. The time of an evaluation has run out from
the start if it may take none. -/
def EngineConfig.context (config : EngineConfig) (gateway : Gateway α) (frames : TimeFrames) :
    Context α where
  gateway
  frames
  lookback := config.lookback.toMillis
  hash := config.fingerprint.hash
  expired := config.queryTimeout = some ⟨0⟩

structure QueryService (α : Type) where
  gateway : Gateway α
  config : EngineConfig

namespace QueryService

def evaluate (s : QueryService α) (e : Expr α) (frames : TimeFrames) :
    Except QueryError (QueryResult α) :=
  (s.config.strategy.evaluate (s.config.context s.gateway frames) e).outcome

def instantQuery (s : QueryService α) (e : Expr α) (t : Int) : Except QueryError (QueryResult α) :=
  s.evaluate e (.instant t)

def rangeQuery (s : QueryService α) (e : Expr α) (start finish step : Int) :
    Except QueryError (QueryResult α) := do
  s.evaluate e (← (TimeFrames.range start finish step).mapError .invalidRange)

def queryText (s : QueryService α) (text : String) (frames : TimeFrames) :
    Except QueryError (QueryResult α) := do
  s.evaluate (← Expr.ofText text) frames

end QueryService

end SeriesQuery
