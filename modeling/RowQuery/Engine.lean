import RowQuery.Query.Compiled
import RowQuery.Standard.Library

/-! A compiler, its functions and a forge for shapes, set up together. -/

namespace RowQuery

structure Engine where
  settings : Settings
  compiler : Compiler
  forge : Forge

namespace Engine

structure MemberOverride where
  owner : RecordType
  member : String
  override : Override

def addOverrides (compiler : Compiler) : List MemberOverride → Result Compiler
  | [] => .ok compiler
  | entry :: rest => do
    let changed ← compiler.defineOverride entry.owner entry.member entry.override
    addOverrides changed rest

/-- Sets an engine up: `extend` changes the configured catalog, and `forge` stands in for the forge
that the settings ask for. -/
def build (settings : Settings) (extend : Catalog → Catalog) (overrides : List MemberOverride)
    (forge : Option Forge) : Result Engine := do
  settings.validate
  let catalog := extend (Catalog.ofSettings settings.functions)
  let compiler ← addOverrides (Compiler.ofCatalog catalog) overrides
  let forge ← match forge with
    | some forge => .ok forge
    | none => Forge.ofSettings settings.shapes
  return ⟨settings, compiler, forge⟩

def new (settings : Settings) : Result Engine :=
  build settings id [] none

def compile (engine : Engine) (source : Ty) (formula : Formula) : Result Expr :=
  engine.compiler.build (.target source) formula

def compileAs (engine : Engine) (source : Ty) (formula : Formula) (ty : Ty) : Result Expr :=
  engine.compiler.buildAs (.target source) formula ty

/-- Binds a selection to the type of the rows; `held` are the types that are held by someone. -/
def select (engine : Engine) (held : List Ty) (source : Ty) (selection : Selection) :
    Result Projection × Engine :=
  let (result, forge) :=
    Projection.compile engine.compiler held (.target source) selection engine.forge
  (result, { engine with forge })

def compileQuery (engine : Engine) (held : List Ty) (source : Ty) (query : Query) :
    Result CompiledQuery × Engine :=
  let (result, forge) := CompiledQuery.compile engine.compiler held source query engine.forge
  (result, { engine with forge })

def boolText (b : Bool) : String :=
  if b then "true" else "false"

def describe (engine : Engine) : String :=
  let shapes := engine.settings.shapes
  let functions := engine.settings.functions
  "Engine \x7b config: LateBindingConfig \x7b projection: ProjectionConfig \x7b reset_threshold: " ++
    toString shapes.resetThreshold ++ ", type_name_prefix: " ++ Text.quoted shapes.typePrefix ++
    ", namespace_prefix: " ++ Text.quoted shapes.namespacePrefix ++ ", caching: " ++
    boolText shapes.caching ++ " \x7d, functions: FunctionsConfig \x7b standard_library: " ++
    boolText functions.standardLibrary ++ ", include_boolean: " ++
    boolText functions.includeBoolean ++ " \x7d \x7d, functions: " ++
    toString engine.compiler.catalog.size ++ " \x7d"

end Engine

end RowQuery
