import RowQuery.Formula.Basic
import RowQuery.Json.Reader
import RowQuery.Schema.Basic
import RowQuery.Value.Record

/-! Types, declarations, tagged values and tagged formulas from JSON. -/

namespace RowQuery.Schema

open Json (Document)

def part? (name : String) : Document → Option Document
  | .object members => (members.find? (·.1 == name)).map (·.2)
  | _ => none

def part (name : String) (document : Document) : Reading Document :=
  .ofOption name (part? name document)

def text : Document → Reading String
  | .string s => .ok s
  | _ => .malformed "text"

def whole : Document → Reading Int
  | .number n => .ok (if n.negative then -(n.digits : Int) else n.digits)
  | _ => .malformed "integer"

def items (name : String) (document : Document) : Reading (List Document) :=
  match part? name document with
  | none => .ok []
  | some (.array items) => .ok items
  | some _ => .malformed name

def kindNamed? (name : String) : Option NumericKind :=
  NumericKind.all.find? (·.name == name)

def plainType? : String → Option Ty
  | "null" => some .null
  | "bool" => some .bool
  | "char" => some .char
  | "string" => some .string
  | "datetime" => some .dateTime
  | "any" => some .any
  | "enumerable" => some .enumerable
  | name => (kindNamed? name).map .numeric

def readTy (schema : Schema) : Document → Reading Ty
  | .string name => .ofOption ("type " ++ name) (plainType? name)
  | .object [("nullable", inner)] => return (← readTy schema inner).orNull
  | .object [("raw_nullable", inner)] => return .nullable (← readTy schema inner)
  | .object [("seq", inner)] => return .sequence (← readTy schema inner)
  | .object [("ref", .string name)] => schema.typeNamed name
  | _ => .malformed "type"

def hexNumber (text : String) : Nat :=
  text.toList.foldl (fun n c => 16 * n + (Json.hexValue? c).getD 0) 0

def readScalar (kind text : String) : Reading Value :=
  match kind with
  | "f64" => return .float64 (if text == "nan" then Binary.nan else .ofBits (hexNumber text).toUInt64)
  | "f32" =>
    return .float32 (if text == "nan" then Binary.narrow Binary.nan
      else .ofBits (hexNumber text).toUInt32)
  | "dec" => return .decimal (← .ofOption "decimal" (Decimal.read? text.toList))
  | "char" => return .char (← .ofOption "char" (Value.onlyChar? text))
  | "str" => return .string text
  | "dt" => return .dateTime (← .ofOption "date-time" (DateTime.read? text))
  | kind =>
    match kindNamed? kind, Text.readInt? text.toList with
    | some (.integer kind), some n => .ofResult (Value.ofInt n kind)
    | _, _ => .malformed ("value " ++ kind)

mutual

/-- Reads a tagged value. A record starts with its defaults, and its members are stored in order. -/
def readValue (schema : Schema) : Document → Reading Value
  | .null => return .null
  | .bool b => return .bool b
  | .object [(kind, .string text)] => readScalar kind text
  | .object [("enum", .array [.string name, .string n])] => do
    return .enum (← schema.enumNamed name) (← .ofOption "discriminant" (Text.readInt? n.toList))
  | .object [("seq", .array [element, .array parts])] => do
    return .sequence (← readTy schema element) (← readValues schema parts)
  | .object [("rec", .array [.string name, .array parts])] => do
    return (← readFields schema parts (RecordValue.new (← schema.recordNamed name))).toValue
  | _ => .malformed "value"

def readValues (schema : Schema) : List Document → Reading (List Value)
  | [] => return []
  | document :: rest => do
    let value ← readValue schema document
    return value :: (← readValues schema rest)

def readFields (schema : Schema) : List Document → RecordValue → Reading RecordValue
  | [], record => return record
  | .array [.string member, document] :: rest, record => do
    let value ← readValue schema document
    readFields schema rest (← .ofResult (record.set member value))
  | _, _ => .malformed "field"

end

def readMemberKind : List Document → Reading (MemberKind × Visibility)
  | [] | [.string "field"] => return (.field, .shown)
  | [.string "property"] => return (.property, .shown)
  | [.string "private"] => return (.field, .hidden)
  | [.string "private_property"] => return (.property, .hidden)
  | _ => .malformed "kind of member"

def readMember (schema : Schema) (draft : RecordDraft) : Document → Reading RecordDraft
  | .array (.string name :: ty :: kind) => do
    let (kind, visibility) ← readMemberKind kind
    return draft.addMember name (← readTy schema ty) kind visibility
  | _ => .malformed "member"

def readConversion (schema : Schema) (draft : RecordDraft) :
    Document → Reading (Schema × RecordDraft)
  | .array [.string direction, ty, .bool implicit, code] => do
    let ty ← readTy schema ty
    let direction ← match direction with
      | "from" => .ok (Direction.incoming ty)
      | "into" => .ok (Direction.outgoing ty)
      | _ => .malformed "direction"
    return ({ schema with code := schema.code ++ [code] },
      draft.addConversion ⟨schema.code.length, direction, implicit⟩)
  | _ => .malformed "conversion"

def readVariant : Document → Reading (String × Int)
  | .array [.string name, n] => return (name, ← whole n)
  | _ => .malformed "variant"

def readRecord (schema : Schema) (name : String) (document : Document) :
    Reading (Schema × RecordType) := do
  let draft ← match part? "extends" document with
    | some base => do
      let decl ← schema.recordNamed (← text base)
      pure ((RecordDraft.named name).extending decl)
    | none => pure (RecordDraft.named name)
  let draft ← (← items "members" document).foldlM (readMember schema) draft
  let (changed, draft) ← (← items "conversions" document).foldlM
    (fun (schema, draft) conversion => readConversion schema draft conversion) (schema, draft)
  return (changed, ← .ofResult draft.build)

def readEnum (name : String) (document : Document) : Reading EnumType := do
  let kind ← .ofOption "kind" (kindNamed? (← text (← part "underlying" document)))
  let variants ← (← items "variants" document).mapM readVariant
  .ofResult (EnumType.declare name kind variants)

def readDeclaration (schema : Schema) (document : Document) : Reading Schema := do
  let alias? ← (part? "as" document).mapM text
  match part? "record" document with
  | some name =>
    let name ← text name
    let (changed, decl) ← readRecord schema name document
    return changed.bind (alias?.getD name) (.record decl)
  | none =>
    let name ← text (← part "enum" document)
    return schema.bind (alias?.getD name) (.enum (← readEnum name document))

def readAll (documents : List Document) : Reading Schema :=
  documents.foldlM readDeclaration empty

end RowQuery.Schema
