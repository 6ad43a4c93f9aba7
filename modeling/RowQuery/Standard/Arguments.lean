import RowQuery.Overload.Basic

/-! The arguments of the functions of the standard library, each read as what the function asks for. -/

namespace RowQuery.Standard

def missing (method : String) (index : Nat) : Error :=
  .nullReference ("argument " ++ toString index ++ " of " ++ method)

def wrongCount (method : String) (args : List Value) : Error :=
  .missingSlot method args.length

def numberArg (method : String) (args : List Value) (index : Nat) : Result Number :=
  match args[index]? with
  | none | some .null => .error (missing method index)
  | some value =>
    match value.number? with
    | some number => .ok number
    | none => .error (.typeError (method ++ " expects a number, got " ++ value.typeOf.text))

def floatArg (method : String) (args : List Value) (index : Nat) : Result Float := do
  return (← numberArg method args index).toFloat

def textArg (method : String) (args : List Value) (index : Nat) : Result String :=
  match args[index]?.bind (·.string?) with
  | some text => .ok text
  | none => .error (missing method index)

def textOrEmpty (args : List Value) (index : Nat) : String :=
  (args[index]?.bind (·.string?)).getD ""

def indexArg (method : String) (args : List Value) (index : Nat) : Result Int :=
  match args[index]? with
  | some (.integer ⟨.i32, n, _⟩) => .ok n
  | _ => .error (.typeError ("argument " ++ toString index ++ " of " ++ method ++ " must be i32"))

def dateArg (method : String) (args : List Value) (index : Nat) : Result DateTime :=
  match args[index]?.bind (·.dateTime?) with
  | some t => .ok t
  | none => .error (missing method index)

def sequenceArg (method : String) (args : List Value) : Result (List Value) :=
  match args[0]?.bind (·.items?) with
  | some items => .ok items
  | none => .error (.nullReference ("sequence argument of " ++ method))

end RowQuery.Standard
