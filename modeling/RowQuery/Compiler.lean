import RowQuery.Overload.Catalog
import RowQuery.Text.Position

/-!
Binding formulas to a type. A field path is followed member by member. A call takes the first
overload that accepts it: the one that the arguments fit exactly, then the others in the order of
their definition, where arguments are bound again with the parameter types as expected types.
-/

namespace RowQuery

structure Override where
  /-- Whether only the last member of a path is concerned. -/
  onlyOnDirect : Bool
  replace : (owner : Expr) → Result Expr

structure Compiler where
  catalog : Catalog
  overrides : List (MemberKey × Override)

namespace Compiler

def ofCatalog (catalog : Catalog) : Compiler :=
  ⟨catalog, []⟩

def memberKey (decl : RecordType) (name : String) : Result MemberKey := do
  let member ← (Ty.record decl).memberNamed name name
  match member.key? with
  | some key => .ok key
  | none => .error (.invalidArgument (decl.name ++ "." ++ name ++ " cannot be overridden"))

def defineOverride (compiler : Compiler) (decl : RecordType) (name : String) (override : Override) :
    Result Compiler := do
  let key ← memberKey decl name
  return { compiler with overrides := (key, override) :: compiler.overrides.filter (·.1 != key) }

def removeOverride (compiler : Compiler) (decl : RecordType) (name : String) : Compiler × Bool :=
  match memberKey decl name with
  | .error _ => (compiler, false)
  | .ok key =>
    ({ compiler with overrides := compiler.overrides.filter (·.1 != key) },
      compiler.overrides.any (·.1 == key))

def override? (compiler : Compiler) (member : MemberRef) (isLast : Bool) : Option Override := do
  let key ← member.key?
  let (_, override) ← compiler.overrides.find? (·.1 == key)
  if !override.onlyOnDirect || isLast then some override else none

def follow (compiler : Compiler) (path : String) : Expr → List String → Result Expr
  | owner, [] => .ok owner
  | owner, name :: rest => do
    let member ← owner.ty.memberNamed name path
    let next ← match compiler.override? member rest.isEmpty with
      | some override => override.replace owner
      | none => .ok (.member owner member)
    follow compiler path next rest

def resolvePath (compiler : Compiler) (target : Expr) (path : String) : Result Expr :=
  let names := (Text.segments path.toList).map String.ofList
  if names.any (·.isEmpty) then
    .error (.malformedExpression ("field path '" ++ path ++ "' has an empty segment"))
  else compiler.follow path target names

def view (compiler : Compiler) : CompilerView where
  methods := compiler.catalog.methods.map fun entry => (entry.1, entry.2.map (·.header))
  resolvePath := compiler.resolvePath

def incompatible (formula : Formula) (expected found : Ty) : Error :=
  .incompatibleType formula.text expected.text found.text

def bindConstant (value : Value) : Option Ty → Built
  | none => .expr (.literal value)
  | some ty =>
    match value.fit? ty with
    | none => .declined (incompatible (.constant value) ty value.typeOf)
    | some fitted =>
      match Expr.literalAs fitted ty with
      | .ok expr => .expr expr
      | .error reason => .declined reason

def bindField (compiler : Compiler) (target : Expr) (path : String) (expected : Option Ty) :
    Result Built := do
  let resolved ← compiler.resolvePath target path
  match expected with
  | none => return .expr resolved
  | some ty =>
    match resolved.convertTo? ty true with
    | some converted => return .expr converted
    | none => return .declined (incompatible (.field path) ty resolved.ty)

/-- A formula on a target, which can still be bound with one expected type or another. -/
structure Binder where
  bind : Option Ty → Result Built

def bindNatural : List Binder → Result (List Expr)
  | [] => .ok []
  | binder :: rest => do
    let expr ← (← binder.bind none).get
    let exprs ← bindNatural rest
    return expr :: exprs

/-- The arguments as expressions of the parameter types, and whether all of them were that before.
None if one of them cannot be. -/
def coerce : List (Binder × Expr) → List Ty → Result (Option (List Expr × Bool))
  | (binder, natural) :: args, parameter :: parameters =>
    if natural.ty == parameter then do
      match ← coerce args parameters with
      | some (exprs, exact) => return some (natural :: exprs, exact)
      | none => return none
    else do
      match ← binder.bind (some parameter) with
      | .declined _ => return none
      | .expr converted =>
        match ← coerce args parameters with
        | some (exprs, _) => return some (converted :: exprs, false)
        | none => return none
  | _, _ => .ok (some ([], true))

structure Candidate where
  overload : Overload
  args : List Expr
  /-- Whether the arguments had the parameter types before. -/
  exact : Bool

def candidates (args : List (Binder × Expr)) : List Overload → Result (List Candidate)
  | [] => .ok []
  | overload :: rest =>
    if overload.parameters.length != args.length then candidates args rest
    else do
      let coerced ← coerce args overload.parameters
      let others ← candidates args rest
      match coerced with
      | some (exprs, exact) => return ⟨overload, exprs, exact⟩ :: others
      | none => return others

def ranked (found : List Candidate) : List Candidate :=
  found.filter (·.exact) ++ found.filter (!·.exact)

def meet? (expr : Expr) : Option Ty → Option Expr
  | none => some expr
  | some ty => expr.convertTo? ty true

def firstAccepted (site : List Expr → CallSite) (expected : Option Ty) :
    List Candidate → Result (Option Expr)
  | [] => .ok none
  | candidate :: rest => do
    match ← candidate.overload.build (site candidate.args) with
    | none => firstAccepted site expected rest
    | some expr =>
      match meet? expr expected with
      | some converted => return some converted
      | none => firstAccepted site expected rest

/-- The arguments of a call without expected types, and the overloads that they can be made to fit in
the order in which they are tried. Neither depends on the type that is expected of the call. -/
def resolve (binders : List Binder) (overloads : List Overload) :
    Result (List Expr × List Candidate) := do
  let natural ← bindNatural binders
  let found ← candidates (binders.zip natural) overloads
  return (natural, ranked found)

def callBinder (compiler : Compiler) (target : Expr) (method : String) (args : List Formula)
    (binders : List Binder) : Binder :=
  let resolved := resolve binders (compiler.catalog.lookup method)
  { bind := fun expected => do
      let (natural, found) ← resolved
      let site (coerced : List Expr) : CallSite :=
        ⟨compiler.view, target, method, args, natural, coerced,
          binders.map fun binder ty => binder.bind (some ty)⟩
      match ← firstAccepted site expected found with
      | some expr => return .expr expr
      | none => return .declined (.noApplicableOverload method (natural.map (·.ty.text))) }

mutual

def binder (compiler : Compiler) (target : Expr) : Formula → Binder
  | .constant value => { bind := fun expected => .ok (bindConstant value expected) }
  | .field path => { bind := compiler.bindField target path }
  | .call method args => compiler.callBinder target method args (binders compiler target args)

def binders (compiler : Compiler) (target : Expr) : List Formula → List Binder
  | [] => []
  | formula :: rest => binder compiler target formula :: binders compiler target rest

end

def bind (compiler : Compiler) (target : Expr) (formula : Formula) (expected : Option Ty) :
    Result Built :=
  (compiler.binder target formula).bind expected

def build (compiler : Compiler) (target : Expr) (formula : Formula) : Result Expr := do
  (← compiler.bind target formula none).get

def buildAs (compiler : Compiler) (target : Expr) (formula : Formula) (ty : Ty) : Result Expr := do
  (← compiler.bind target formula (some ty)).get

def buildAs? (compiler : Compiler) (target : Expr) (formula : Formula) (ty : Ty) :
    Result (Option Expr) := do
  return (← compiler.bind target formula (some ty)).expr?

end Compiler

end RowQuery
