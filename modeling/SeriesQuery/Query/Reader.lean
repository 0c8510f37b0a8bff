import SeriesQuery.Query
import SeriesQuery.Query.Interval
import SeriesQuery.Query.Token

/-!
# Reading query texts

Operators bind by level, all but the power to the left. A sign binds like a product. Ranges,
offsets and fixed times follow an operand and bind more tightly than any operator. The number of
tokens bounds the depth of the reading.
-/

namespace SeriesQuery.Query

abbrev Reader := StateT (List Token) Option

namespace Reader

variable {α : Type}

def peek : Reader (Option Token) := return (← get).head?

def skip : Reader Unit := modify List.tail

def accept (symbol : String) : Reader Bool := do
  if (← peek) = some (.symbol symbol) then
    skip
    return true
  return false

def expect (symbol : String) : Reader Unit := do
  unless ← accept symbol do failure

/-- Consumes a keyword, in upper or lower case, if it comes next. -/
def acceptKeyword (keyword : String) : Reader Bool := do
  match ← peek with
  | some (.word text) =>
    if text.toLower = keyword then
      skip
      return true
    else return false
  | _ => return false

def require {β : Type} (x : Option β) : Reader β := liftM x

/-- Items with commas between them, and perhaps behind the last, up to a closing symbol. -/
def listUntil {β : Type} (close : String) (item : Reader β) : Nat → Reader (List β)
  | 0 => failure
  | fuel + 1 => do
    if ← accept close then return []
    let x ← item
    if ← accept "," then return x :: (← listUntil close item fuel)
    expect close
    return [x]

def fuel : Reader Nat := return (← get).length + 1

def label : Reader String := do
  match ← peek with
  | some (.word text) =>
    skip
    return text
  | _ => failure

/-- A label name in parentheses. Of the keywords, one cannot stand there. -/
def listedLabel : Reader String := do
  let name ← label
  if name.toLower = "without" then failure
  return name

def labels : Reader (List String) := do
  expect "("
  listUntil ")" listedLabel (← fuel)

def digitValue (c : Char) : Nat :=
  if c.isDigit then c.toNat - '0'.toNat else c.toLower.toNat - 'a'.toNat + 10

/-- The value of digits in a base, if it fits into sixty-three bits. -/
def inBase? (base : Nat) (digits : List Char) : Option Nat :=
  if digits.isEmpty || !digits.all (fun c => c.isAlphanum && digitValue c < base) then none
  else
    let n := digits.foldl (fun n c => base * n + digitValue c) 0
    if n ≤ Millis.greatest then some n else none

/-- The value of a number. It is hexadecimal after a zero and an x, and octal after a zero where no
point follows. -/
def numberValue? [SampleValue α] (text : String) : Option α :=
  match text.toList with
  | '0' :: 'x' :: digits => (inBase? 16 digits).map Numeric.ofNat
  | '0' :: 'X' :: digits => (inBase? 16 digits).map Numeric.ofNat
  | '0' :: c :: rest =>
    if (c :: rest).contains '.' then SampleValue.ofText? text
    else (inBase? 8 (c :: rest)).map Numeric.ofNat
  | _ => SampleValue.ofText? text

def interval (α : Type) [SampleValue α] : Reader Int := do
  match ← peek with
  | some (.duration text) =>
    skip
    require (Interval.ofText? text)
  | some (.number text) =>
    skip
    require ((numberValue? text : Option α).bind Interval.ofSeconds?)
  | _ => failure

def matchOp : Reader MatchOp := do
  match ← peek with
  | some (.symbol text) =>
    skip
    require (MatchOp.ofSymbol? text)
  | _ => failure

def constraint : Reader Constraint := do
  let name ← label
  let op ← matchOp
  match ← peek with
  | some (.quoted value) =>
    skip
    require (Constraint.of? name op value)
  | _ => failure

/-- Constraints up to a closing brace, and whether alternatives are among them. -/
def constraints : Nat → Reader (List Constraint × Bool)
  | 0 => failure
  | fuel + 1 => do
    let c ← constraint
    if ← accept "or" then
      let (more, _) ← constraints fuel
      return (c :: more, true)
    else if ← accept "," then
      if ← accept "\x7d" then return ([c], false)
      let (more, hasAlternatives) ← constraints fuel
      return (c :: more, hasAlternatives)
    else
      expect "\x7d"
      return ([c], false)

/-- Constraints in braces, which may be missing after a name. -/
def selection (name : Option String) : Reader (Query α) := do
  if ← accept "\x7b" then
    if ← accept "\x7d" then require (ofSelection? { name, constraints := [] })
    else
      let (constraints, hasAlternatives) ← constraints (← fuel)
      require (ofSelection? { name, constraints, hasAlternatives })
  else if name.isSome then require (ofSelection? { name, constraints := [] })
  else failure

/-- Keywords that cannot name a metric. -/
def reserved : List String :=
  ["bool", "on", "ignoring", "group_left", "group_right", "atan2"]

/-- Keywords that can name a metric but no function. -/
def keywords : List String :=
  ["by", "without", "and", "or", "unless", "offset", "start", "end"]

def optionalLabels : Reader (List String) := do
  if (← peek) = some (.symbol "(") then labels else return []

def matchLabels? : Reader (Option MatchLabels) := do
  if ← acceptKeyword "on" then return some (.on (← labels))
  else if ← acceptKeyword "ignoring" then return some (.ignoring (← labels))
  else return none

def group? : Reader (Option (Cardinality × List String)) := do
  if ← acceptKeyword "group_left" then return some (.manyToOne, ← optionalLabels)
  else if ← acceptKeyword "group_right" then return some (.oneToMany, ← optionalLabels)
  else return none

def modifiers : Reader Modifiers := do
  let toBool ← acceptKeyword "bool"
  match ← matchLabels? with
  | none => return { toBool }
  | some labels => return { toBool, labels := some labels, group := ← group? }

def grouping? : Reader (Option Grouping) := do
  if ← acceptKeyword "by" then some <$> Grouping.keeping <$> labels
  else if ← acceptKeyword "without" then some <$> Grouping.dropping <$> labels
  else return none

def acceptRangeEnd : Reader Bool := do
  if ← acceptKeyword "start" then return true
  acceptKeyword "end"

/-- A number, or the seconds of a duration with units, if one comes next. -/
def literal? [SampleValue α] : Reader (Option α) := do
  match ← peek with
  | some (.number text) =>
    skip
    return some (← require (numberValue? text))
  | some (.duration text) =>
    skip
    return some (← require (Interval.seconds? text))
  | _ => return none

/-- Times at which an evaluation can be fixed are smaller in magnitude. -/
def pinLimit [Numeric α] : α := Numeric.ofNat ((Nat.pow 2 53 - 1) * Nat.pow 2 971)

/-- The time at which an evaluation is fixed: a number, perhaps with a sign, or an end of the
queried range. -/
def pin (α : Type) [SampleValue α] : Reader Unit := do
  if ← acceptRangeEnd then
    expect "("
    expect ")"
  else
    unless ← accept "-" do
      let _ ← accept "+"
    let t : α ← require (← literal?)
    unless Numeric.lt (Numeric.abs t) pinLimit do failure

def suffixes [SampleValue α] : Nat → Query α → Reader (Query α)
  | 0, _ => failure
  | fuel + 1, q => do
    if ← accept "[" then
      let duration ← interval α
      if ← accept ":" then
        unless ← accept "]" do
          let _ ← interval α
          expect "]"
        suffixes fuel (← require q.withSubquery?)
      else
        expect "]"
        suffixes fuel (← require (q.withRange? duration))
    else if ← acceptKeyword "offset" then
      let negative ← accept "-"
      unless negative do
        let _ ← accept "+"
      let millis ← interval α
      suffixes fuel (← require (q.withOffset? { negative, millis }))
    else if ← accept "@" then
      pin α
      suffixes fuel (← require q.withPin?)
    else return q

def operator? : Option Token → Option (Operator × Nat)
  | some (.symbol text) =>
    (BinaryOp.ofSymbol? text).map fun op =>
      (.known op, if op.isComparison then 3
        else if op = .add ∨ op = .sub then 4
        else if op = .pow then 6
        else 5)
  | some (.word text) =>
    match text.toLower with
    | "or" => some (.known .union, 1)
    | "and" => some (.known .intersection, 2)
    | "unless" => some (.known .difference, 2)
    | "atan2" => some (.atan2, 5)
    | _ => none
  | _ => none

def signLevel : Nat := 5

variable [SampleValue α]

mutual

/-- An expression whose operators have at least the given level. -/
def expression : Nat → Nat → Reader (Query α)
  | 0, _ => failure
  | fuel + 1, level => do operators fuel level (← operand fuel)

def operators : Nat → Nat → Query α → Reader (Query α)
  | 0, _, _ => failure
  | fuel + 1, level, left => do
    match operator? (← peek) with
    | none => return left
    | some (op, own) =>
      if own < level then return left
      skip
      let m ← modifiers
      let right ← expression fuel (if op = .known .pow then own else own + 1)
      operators fuel level (← require (ofBinary? op left right m))

def operand : Nat → Reader (Query α)
  | 0 => failure
  | fuel + 1 => do
    if ← accept "-" then
      let q ← expression fuel (signLevel + 1)
      require q.withMinus?
    else if ← accept "+" then
      expression fuel (signLevel + 1)
    else suffixes (fuel + 1) (← primary fuel)

def primary : Nat → Reader (Query α)
  | 0 => failure
  | fuel + 1 => do
    if let some v ← literal? then return .number v
    match ← peek with
    | some (.quoted text) =>
      skip
      return .string text
    | some (.metric name) =>
      skip
      selection (some name)
    | some (.symbol "(") =>
      skip
      let q ← expression fuel 1
      expect ")"
      return .paren q
    | some (.symbol "\x7b") => selection none
    | some (.word text) =>
      skip
      named fuel text
    | _ => failure

/-- What a word begins: an aggregation, a call or a selection. -/
def named : Nat → String → Reader (Query α)
  | 0, _ => failure
  | fuel + 1, text => do
    let next ← peek
    match AggregateOp.ofName? text.toLower with
    | some op =>
      let before ← grouping?
      if before.isNone && next ≠ some (.symbol "(") then selection (some text)
      else
        let args ← arguments fuel
        let grouping ← if before.isSome then pure before else grouping?
        require (ofAggregate? op (grouping.getD (.keeping [])) args)
    | none =>
      if reserved.contains text.toLower then failure
      else if next = some (.symbol "(") && !keywords.contains text.toLower then
        let f ← require (KnownFunction.ofName? text)
        require (ofCall? f (← arguments fuel))
      else selection (some text)

def arguments : Nat → Reader (List (Query α))
  | 0 => failure
  | fuel + 1 => do
    expect "("
    if ← accept ")" then return []
    furtherArguments fuel

def furtherArguments : Nat → Reader (List (Query α))
  | 0 => failure
  | fuel + 1 => do
    let q ← expression fuel 1
    if ← accept "," then return q :: (← furtherArguments fuel)
    expect ")"
    return [q]

end

end Reader

/-- The query that a text says. Six readings lead from one token to the next at most. -/
def ofText? {α : Type} [SampleValue α] (text : String) : Option (Query α) := do
  let tokens ← Token.ofText? text
  let (q, rest) ← (Reader.expression (8 * (tokens.length + 1)) 1).run tokens
  if rest.isEmpty then some q else none

end SeriesQuery.Query
