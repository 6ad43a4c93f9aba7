import RowQuery.Standard.Arguments

/-! Functions on date-times. -/

namespace RowQuery.Standard

def comparisons : List BinaryOp :=
  [.equal, .notEqual, .greaterThan, .greaterThanOrEqual, .lessThan, .lessThanOrEqual]

def outsideCalendar (method : String) : Error :=
  .invalidArgument (method ++ ": result is outside the date-time range")

def withinCalendar (method : String) : Option DateTime → Result Value
  | some t => .ok (.dateTime t)
  | none => .error (outsideCalendar method)

def addMilliseconds? (start : DateTime) (milliseconds : Float) : Option DateTime := do
  start.addMilliseconds? (← Binary.truncate? (Binary.round .halfAway milliseconds))

def addition (method : String) (unit : Float) : Definition :=
  .ofFunction method [.dateTime, .f64] .dateTime fun _ args => do
    let start ← dateArg method args 0
    let amount ← floatArg method args 1
    withinCalendar method (addMilliseconds? start (amount * unit))

def monthAddition (method : String) (unit : Int) : Definition :=
  .ofFunction method [.dateTime, .i32] .dateTime fun _ args => do
    let start ← dateArg method args 0
    let amount ← indexArg method args 1
    let months := amount * unit
    withinCalendar method (if IntegerKind.i32.Holds months then start.addMonths? months else none)

def difference (method : String) (unit : Int) : Definition :=
  .ofFunction method [.dateTime, .dateTime] .i32 fun _ args => do
    let left ← dateArg method args 0
    let right ← dateArg method args 1
    Value.ofInt ((left.nanosecondsSince right).tdiv unit) .i32

def monthDifference (method : String) (unit : Int) : Definition :=
  .ofFunction method [.dateTime, .dateTime] .i32 fun _ args => do
    let left ← dateArg method args 0
    let right ← dateArg method args 1
    Value.ofInt ((left.monthsSince right).tdiv unit) .i32

def calendar : List Definition :=
  [.ofFunction "now" [] .dateTime fun host _ => .ok (.dateTime host.now)] ++
    comparisons.map (.ofOperator · .dateTime) ++
    [addition "add_milliseconds" 1, addition "add_seconds" 1000, addition "add_minutes" 60000,
      addition "add_hours" 3600000, addition "add_days" 86400000,
      monthAddition "add_months" 1, monthAddition "add_years" 12,
      difference "diff_milliseconds" 1000000, difference "diff_seconds" 1000000000,
      difference "diff_minutes" 60000000000, difference "diff_hours" 3600000000000,
      difference "diff_days" 86400000000000,
      monthDifference "diff_months" 1, monthDifference "diff_years" 12]

end RowQuery.Standard
