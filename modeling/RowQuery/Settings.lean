import RowQuery.Error
import RowQuery.Json.Reader
import RowQuery.Json.Writer
import RowQuery.Text.Blank
import RowQuery.Text.Quoted

/-! Settings of an engine, and their JSON form. -/

namespace RowQuery

structure ShapeSettings where
  /-- How many shapes go into a namespace before a new one is begun. -/
  resetThreshold : Nat
  typePrefix : String
  namespacePrefix : String
  /-- Whether a shape is used again for the same properties while somebody holds it. -/
  caching : Bool

structure FunctionSettings where
  standardLibrary : Bool
  includeBoolean : Bool

structure Settings where
  shapes : ShapeSettings
  functions : FunctionSettings

namespace Settings

def standard : Settings where
  shapes := ⟨100, "<projection>", "<projection-namespace>", true⟩
  functions := ⟨true, true⟩

def validate (settings : Settings) : Result Unit :=
  if settings.shapes.resetThreshold = 0 then
    .error (.config "projection.reset_threshold must be greater than zero")
  else if Text.allBlank settings.shapes.typePrefix then
    .error (.config "projection.type_name_prefix must not be blank")
  else if Text.allBlank settings.shapes.namespacePrefix then
    .error (.config "projection.namespace_prefix must not be blank")
  else .ok ()

open Json (Document)

def optional? (standard : α) (read : Document → Option α) : Option Document → Option α
  | none => some standard
  | some document => read document

def shapes? (document : Document) : Option ShapeSettings := do
  let defaults := standard.shapes
  match ← document.fields? ["reset_threshold", "type_name_prefix", "namespace_prefix", "caching"] with
  | [threshold, typePrefix, namespacePrefix, caching] =>
    return ⟨← optional? defaults.resetThreshold Document.size? threshold,
      ← optional? defaults.typePrefix Document.string? typePrefix,
      ← optional? defaults.namespacePrefix Document.string? namespacePrefix,
      ← optional? defaults.caching Document.bool? caching⟩
  | _ => none

def functions? (document : Document) : Option FunctionSettings := do
  let defaults := standard.functions
  match ← document.fields? ["standard_library", "include_boolean"] with
  | [library, boolean] =>
    return ⟨← optional? defaults.standardLibrary Document.bool? library,
      ← optional? defaults.includeBoolean Document.bool? boolean⟩
  | _ => none

def ofDocument? (document : Document) : Option Settings := do
  match ← document.fields? ["projection", "functions"] with
  | [shapes, functions] =>
    return ⟨← optional? standard.shapes shapes? shapes,
      ← optional? standard.functions functions? functions⟩
  | _ => none

def ofDocument (document : Document) : Result Settings :=
  match ofDocument? document with
  | none => .error .unreadableConfig
  | some settings => do
    settings.validate
    return settings

def read (text : String) : Result Settings :=
  match Document.read? text with
  | none => .error .unreadableConfig
  | some document => ofDocument document

def toJson (settings : Settings) : Json :=
  .object [
    ("projection", .object [
      ("reset_threshold", .ofInt settings.shapes.resetThreshold),
      ("type_name_prefix", .string settings.shapes.typePrefix),
      ("namespace_prefix", .string settings.shapes.namespacePrefix),
      ("caching", .bool settings.shapes.caching)]),
    ("functions", .object [
      ("standard_library", .bool settings.functions.standardLibrary),
      ("include_boolean", .bool settings.functions.includeBoolean)])]

def pretty (settings : Settings) : String :=
  settings.toJson.pretty

end Settings

end RowQuery
