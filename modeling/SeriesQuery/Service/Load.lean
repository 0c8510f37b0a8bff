import SeriesQuery.Service.Config
import SeriesQuery.Settings.Environment
import SeriesQuery.Settings.Toml

/-!
# Loading a configuration

A configuration is given by settings in two tables, and in durations written as text. What the
environment says counts more than what a file says, and what neither says has its default.
Settings of other names are passed over.
-/

namespace SeriesQuery

open Setting (text table list missing)

def Duration.toSetting (d : Duration) : Setting := text d.display

def EngineConfig.settingNames : List String :=
  ["lookback_delta", "query_timeout", "slow_query_threshold", "strategy", "fingerprint"]

def EngineConfig.toSetting (c : EngineConfig) : Setting :=
  let duration (d : Option Duration) := (d.map Duration.toSetting).getD missing
  table (settingNames.zip [c.lookback.toSetting, duration c.queryTimeout,
    duration c.slowQueryThreshold, text c.strategy.name, text c.fingerprint.name])

namespace Configuration

def logSettingNames : List String := ["level"]

def settingNames : List String := ["engine", "logging"]

def toSetting (c : Configuration) : Setting :=
  table (settingNames.zip [c.engine.toSetting, table (logSettingNames.zip [text c.logLevel])])

end Configuration

namespace Setting

/-- What is given for each name, in a table or in the order of the names. -/
def entries? (names : List String) : Setting → Option (List (String × Setting))
  | table entries => some entries
  | list items => some (names.zip items)
  | _ => none

/-- Reads the value of a name. Where none is given, the default holds. -/
def read? {α : Type} (entries : List (String × Setting)) (name : String)
    (ofSetting? : Setting → Option α) (fallback : α) : Option α :=
  match find? entries name with
  | some s => ofSetting? s
  | none => some fallback

def duration? (s : Setting) : Option Duration := s.text? >>= Duration.ofText?

def openDuration? : Setting → Option (Option Duration)
  | missing => some none
  | s => s.duration?.map some

end Setting

open Setting (entries? read? duration? openDuration? text?)

def EngineConfig.ofSetting? (s : Setting) : Option EngineConfig := do
  let entries ← entries? settingNames s
  let usual : EngineConfig := {}
  return {
    lookback := ← read? entries "lookback_delta" duration? usual.lookback
    queryTimeout := ← read? entries "query_timeout" openDuration? usual.queryTimeout
    slowQueryThreshold :=
      ← read? entries "slow_query_threshold" openDuration? usual.slowQueryThreshold
    strategy := ← read? entries "strategy" (text? · >>= Strategy.ofName?) usual.strategy
    fingerprint := ← read? entries "fingerprint" (text? · >>= HashAlgorithm.ofName?)
      usual.fingerprint }

namespace Configuration

def logLevelOfSetting? (s : Setting) : Option String := do
  read? (← entries? logSettingNames s) "level" text? ({} : Configuration).logLevel

def ofSetting? (s : Setting) : Option Configuration := do
  let entries ← entries? settingNames s
  let usual : Configuration := {}
  return {
    engine := ← read? entries "engine" EngineConfig.ofSetting? usual.engine
    logLevel := ← read? entries "logging" logLevelOfSetting? usual.logLevel }

def variablePrefix : String := "METRIQ__"

/-- The configuration that a file and the variables of an environment give, unless one of them
gives a setting that cannot be read. -/
def load? (file : String) (environment : List (String × String)) : Option Configuration := do
  let ofFile ← Toml.read file
  ofSetting? ((({} : Configuration).toSetting.merge ofFile).merge
    (.ofEnvironment variablePrefix environment))

end Configuration

end SeriesQuery
