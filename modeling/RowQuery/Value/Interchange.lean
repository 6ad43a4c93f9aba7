import RowQuery.Value.Record
import RowQuery.Json.Writer

/-! Values as JSON, and JSON as values of a given type. -/

namespace RowQuery.Value

mutual

/-- The JSON of a value. Date-times have milliseconds, enum values go by the name of their variant,
and what has no finite number becomes null. -/
def toJson : Value → Json
  | null => .null
  | bool b => .bool b
  | char c => .string (String.singleton c)
  | integer n => .ofInt n.value
  | float32 x => .ofFloat (Binary.widen x)
  | float64 x => .ofFloat x
  | decimal d => .ofFloat d.toFloat
  | string s => .string s
  | dateTime t => .string (t.write 'T' 3)
  | enum decl discriminant =>
    match decl.nameOf? discriminant with
    | some name => .string name
    | none => .ofInt discriminant
  | sequence _ items => .array (itemsToJson items)
  | record decl fields => .object ((decl.members.map (·.name)).zip (itemsToJson fields))
  | shape decl slots => .object ((decl.properties.map (·.name)).zip (itemsToJson slots))

def itemsToJson : List Value → List Json
  | [] => []
  | value :: rest => toJson value :: itemsToJson rest

end

def bareType : Ty → Ty
  | .nullable inner => bareType inner
  | ty => ty

def mismatch (json : Json) (ty : Ty) : Error :=
  .typeError ("JSON value " ++ json.text ++ " cannot be read as " ++ ty.text)

/-- The constant that a JSON number stands for when a value of `kind` is wanted: an integer stays
one, and for a decimal the digits count as they are written. -/
def numberLiteral? (number : Json.Number) (kind : NumericKind) : Option Value :=
  match number.toSigned?, number.toUnsigned?, kind with
  | some n, _, _ => (Integer.ofInt? .i64 n).map integer
  | none, some n, _ => (Integer.ofInt? .u64 n).map integer
  | none, none, .decimal => (Decimal.read? number.text.toList).map decimal
  | none, none, _ => some (float64 number.toFloat)

def ofJsonNumber (number : Json.Number) (kind : NumericKind) : Result Value :=
  match numberLiteral? number kind with
  | none => .error (mismatch (.number number) (.numeric kind))
  | some literal =>
    match literal.fit? (.numeric kind) with
    | some value => .ok value
    | none => .error (.overflow number.text kind)

def ofJsonText (text : String) (ty : Ty) : Result Value :=
  match (string text).fit? ty with
  | some value => .ok value
  | none => .error (mismatch (.string text) ty)

def ofFreeNumber (number : Json.Number) : Value :=
  match number.toSigned?.bind (Integer.ofInt? .i64) with
  | some n => integer n
  | none =>
    match Decimal.ofFloat? number.toFloat with
    | some d => decimal d
    | none => float64 number.toFloat

mutual

def ofFreeJson : Json → Result Value
  | .null => .ok null
  | .bool b => .ok (bool b)
  | .number number => .ok (ofFreeNumber number)
  | .string s => .ok (string s)
  | .array items => (ofFreeItems items).map (sequence .any)
  | .object _ => .error (.typeError "objects can only be read into a record type")

def ofFreeItems : List Json → Result (List Value)
  | [] => .ok []
  | item :: rest => do
    let value ← ofFreeJson item
    let values ← ofFreeItems rest
    .ok (value :: values)

end

/-- Equality of names where only the letters a to z have two cases. -/
def sameKey (a b : String) : Bool :=
  a.toList.map Char.toLower == b.toList.map Char.toLower

mutual

def ofJson (json : Json) (ty : Ty) : Result Value :=
  match json with
  | .null => if ty.admitsNull then .ok null else .error (mismatch .null ty)
  | .bool b =>
    match bareType ty with
    | .bool => .ok (bool b)
    | .any | .enumerable => .ok (bool b)
    | bare => .error (mismatch (.bool b) bare)
  | .number number =>
    match bareType ty with
    | .numeric kind => ofJsonNumber number kind
    | .any | .enumerable => .ok (ofFreeNumber number)
    | bare => .error (mismatch (.number number) bare)
  | .string s =>
    match bareType ty with
    | .string => .ok (string s)
    | .char => ofJsonText s .char
    | .dateTime => ofJsonText s .dateTime
    | .enum decl => ofJsonText s (.enum decl)
    | .any | .enumerable => .ok (string s)
    | bare => .error (mismatch (.string s) bare)
  | .array items =>
    match bareType ty with
    | .sequence element => (ofJsonItems items element).map (sequence element)
    | .any | .enumerable => ofFreeJson (.array items)
    | bare => .error (mismatch (.array items) bare)
  | .object members =>
    match bareType ty with
    | .record decl => (ofJsonMembers members (RecordValue.new decl)).map (·.toValue)
    | .any | .enumerable => ofFreeJson (.object members)
    | bare => .error (mismatch (.object members) bare)

def ofJsonItems (items : List Json) (element : Ty) : Result (List Value) :=
  match items with
  | [] => .ok []
  | item :: rest => do
    let value ← ofJson item element
    let values ← ofJsonItems rest element
    .ok (value :: values)

/-- Stores the members of a JSON object in a record. Names may differ from the declared ones in
case. -/
def ofJsonMembers (members : List (String × Json)) (record : RecordValue) : Result RecordValue :=
  match members with
  | [] => .ok record
  | (key, field) :: rest =>
    match record.decl.members.find? fun member => sameKey member.name key with
    | none => .error (.invalidArgument (record.decl.name ++ " has no member '" ++ key ++ "'"))
    | some member => do
      let value ← ofJson field member.ty
      let changed ← record.set member.name value
      ofJsonMembers rest changed

end

end RowQuery.Value
