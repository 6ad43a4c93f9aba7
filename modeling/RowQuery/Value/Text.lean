import RowQuery.Value.Number
import RowQuery.Calendar.Text
import RowQuery.Text.Quoted

/-! The display text of values. -/

namespace RowQuery.Value

mutual

def text : Value → String
  | null => "null"
  | bool b => if b then "true" else "false"
  | char c => "'" ++ String.singleton c ++ "'"
  | integer n => toString n.value
  | float32 x => Binary.displayLayout.textSingle x
  | float64 x => floatText x
  | decimal d => d.text
  | string s => Text.quoted s
  | dateTime t => t.text
  | enum decl discriminant =>
    match decl.nameOf? discriminant with
    | some name => decl.name ++ "." ++ name
    | none => decl.name ++ "(" ++ toString discriminant ++ ")"
  | sequence _ items => "[" ++ ", ".intercalate (texts items) ++ "]"
  | record decl _ => decl.name ++ "\x7b..\x7d"
  | shape decl slots =>
    "\x7b" ++ ", ".intercalate
      (((decl.properties.map (·.name)).zip (texts slots)).map fun (name, slot) =>
        name ++ ": " ++ slot) ++ "\x7d"

def texts : List Value → List String
  | [] => []
  | value :: rest => text value :: texts rest

end

end RowQuery.Value
