import SeriesQuery.Duration
import SeriesQuery.Fingerprint.Algorithm

/-!
# Settings

The settings of the query engine and of the log, with the values that hold where nothing is said.
-/

namespace SeriesQuery

inductive Strategy
  | interpreter
  | batch
deriving DecidableEq, Repr

namespace Strategy

def all : List Strategy := [interpreter, batch]

def name : Strategy → String
  | interpreter => "interpreter"
  | batch => "batch"

def ofName? (s : String) : Option Strategy := all.find? (·.name = s)

end Strategy

structure EngineConfig where
  /-- How far back an instant selector looks for the latest sample. -/
  lookback : Duration := .ofSeconds 300
  /-- How long an evaluation may take. -/
  queryTimeout : Option Duration := some (.ofSeconds 120)
  /-- From which duration on a query is reported as slow. -/
  slowQueryThreshold : Option Duration := none
  strategy : Strategy := .batch
  fingerprint : HashAlgorithm := .fnv
deriving DecidableEq, Repr

structure Configuration where
  engine : EngineConfig := {}
  logLevel : String := "info"
deriving DecidableEq, Repr

end SeriesQuery
