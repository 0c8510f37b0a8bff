import SeriesQuery.Matcher
import SeriesQuery.Sample
import SeriesQuery.Time

/-!
# Where series come from

A gateway answers a list of matchers and a range of time with the series that satisfy the
matchers and have samples in the range.
-/

namespace SeriesQuery

inductive QueryFault
  | noMatcher
  | emptyRange (range : TimeRange)
  | other (text : String)
deriving DecidableEq, Repr

def QueryFault.message : QueryFault → String
  | noMatcher => "at least one matcher is required"
  | emptyRange range => "empty range " ++ range.display
  | other text => text

inductive GatewayError
  | unavailable (text : String)
  | invalidQuery (fault : QueryFault)
  | internal (text : String)
deriving DecidableEq, Repr

def GatewayError.message : GatewayError → String
  | unavailable text => "Gateway unavailable: " ++ text
  | invalidQuery fault => "Invalid gateway query: " ++ fault.message
  | internal text => "Gateway internal error: " ++ text

structure Gateway (α : Type) where
  query : List LabelMatcher → TimeRange → Except GatewayError (List (SeriesSamples α))

def Gateway.failing {α : Type} (e : GatewayError) : Gateway α := ⟨fun _ _ => .error e⟩

end SeriesQuery
