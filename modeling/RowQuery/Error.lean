import RowQuery.Number.Kind

/-! What can go wrong, in words, and whose fault it is. -/

namespace RowQuery

/-- Whether an error is due to the query that was asked or to the program that hosts the queries. -/
inductive ErrorCategory where
  | badQuery
  | internal
  deriving DecidableEq

inductive Error where
  | memberNotFound (ty member path : String)
  | ambiguousMember (ty member : String) (count : Nat)
  | noApplicableOverload (method : String) (argumentTypes : List String)
  | incompatibleType (expression expected found : String)
  | invalidProjection (detail : String)
  | invalidArgument (detail : String)
  | malformedExpression (detail : String)
  | unreadableExpression
  | config (detail : String)
  | unreadableConfig
  | typeError (detail : String)
  | nullReference (place : String)
  | overflow (value : String) (target : NumericKind)
  | divideByZero
  /-- A value has no slot of that number, so it is not of the type that it is taken for. -/
  | missingSlot (owner : String) (slot : Nat)
  deriving DecidableEq

namespace Error

def message : Error → String
  | memberNotFound ty member path =>
    "type '" ++ ty ++ "' has no member named '" ++ member ++ "' (in path '" ++ path ++ "')"
  | ambiguousMember ty member count =>
    "member '" ++ member ++ "' on type '" ++ ty ++ "' is ambiguous: " ++ toString count ++
      " members match ignoring case"
  | noApplicableOverload method argumentTypes =>
    "no applicable overload of '" ++ method ++ "' for arguments (" ++
      ", ".intercalate argumentTypes ++ ")"
  | incompatibleType expression expected found =>
    "expression '" ++ expression ++ "' of type '" ++ found ++ "' cannot be converted to '" ++
      expected ++ "'"
  | invalidProjection detail => "invalid projection: " ++ detail
  | invalidArgument detail => "invalid argument: " ++ detail
  | malformedExpression detail => "malformed expression: " ++ detail
  | unreadableExpression => "malformed expression: unexpected text"
  | config detail => "invalid configuration: " ++ detail
  | unreadableConfig => "invalid configuration: unexpected text"
  | typeError detail => "type error: " ++ detail
  | nullReference place => "null reference while evaluating '" ++ place ++ "'"
  | overflow value target => "value " ++ value ++ " is out of range for " ++ target.name
  | divideByZero => "division by zero"
  | missingSlot owner slot => "type error: " ++ owner ++ " has no slot " ++ toString slot

def category : Error → ErrorCategory
  | memberNotFound .. | ambiguousMember .. | noApplicableOverload .. | incompatibleType ..
  | malformedExpression _ | unreadableExpression | invalidProjection _ | nullReference _
  | overflow .. | divideByZero => .badQuery
  | invalidArgument _ | config _ | unreadableConfig | typeError _ | missingSlot .. => .internal

end Error

abbrev Result := Except Error

end RowQuery
