import RowQuery.Standard.Arguments
import RowQuery.Value.Order

/-! Functions on sequences. Each call makes a function of its own. -/

namespace RowQuery.Standard

def containsItem (args : List Value) : Result Value := do
  let items ← sequenceArg "contains" args
  match args[1]? with
  | some wanted => return .bool (items.any (·.equal wanted))
  | none => .error (wrongCount "contains" args)

def countItems (args : List Value) : Result Value := do
  Value.ofInt (← sequenceArg "count" args).length .i32

def membership (site : CallSite) : Result (Option Expr) :=
  match site.natural[0]? with
  | none => .ok none
  | some sequence =>
    match sequence.ty.element? with
    | none => .ok none
    | some element => do
      match ← site.argumentAs? 1 element with
      | none => return none
      | some item =>
        return some (.call ⟨"contains", .call, fun _ => containsItem⟩ [sequence, item] .bool)

def counting (site : CallSite) : Result (Option Expr) :=
  match site.natural[0]? with
  | none => .ok none
  | some sequence =>
    if sequence.ty.element?.isNone then .ok none
    else .ok (some (.call ⟨"count", .call, fun _ => countItems⟩ [sequence] .i32))

def sequences : List Definition :=
  [.ofSite "contains" [.enumerable, .any] membership, .ofSite "count" [.enumerable] counting]

end RowQuery.Standard
