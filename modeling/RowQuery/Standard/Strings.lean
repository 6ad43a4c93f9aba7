import RowQuery.Standard.Arguments
import RowQuery.Text.Blank
import RowQuery.Text.Case
import RowQuery.Text.Position

/-! Functions on texts. Positions count characters. -/

namespace RowQuery.Standard

def outOfRange (method : String) (index : Int) : Error :=
  .invalidArgument (method ++ ": index " ++ toString index ++ " is out of range")

def countValue (method : String) (count : Nat) : Result Value :=
  match Integer.ofInt? .i32 count with
  | some n => .ok (.integer n)
  | none => .error (.invalidArgument (method ++ ": string too long"))

def length (args : List Value) : Result Value := do
  countValue "length" (← textArg "length" args 0).length

def charAt (args : List Value) : Result Value := do
  let text ← textArg "charat" args 0
  let index ← indexArg "charat" args 1
  match Text.charAt? text index with
  | some c => .ok (.char c)
  | none => .error (outOfRange "charat" index)

/-- The part of a text between two bytes. A part that would begin or end inside of a character is an
error. -/
def cut (text : String) (start stop : Nat) : Result String :=
  match Text.between? text start stop with
  | some part => .ok part
  | none =>
    .error (.invalidArgument
      ("bytes " ++ toString start ++ ".." ++ toString stop ++ " cut a character"))

def offset (method text : String) (index : Int) : Result Nat :=
  match Text.byteOffset? text index with
  | some byte => .ok byte
  | none => .error (outOfRange method index)

def containsText (args : List Value) : Result Value := do
  let outer ← textArg "contains" args 0
  let inner ← textArg "contains" args 1
  return .bool (Text.contains outer inner)

def indexOf (args : List Value) : Result Value := do
  let outer ← textArg "indexof" args 0
  let inner ← textArg "indexof" args 1
  match Text.find? outer inner with
  | some byte => countValue "indexof" (← cut outer 0 byte).length
  | none => Value.ofInt (-1) .i32

def startsWith (args : List Value) : Result Value := do
  let outer ← textArg "startswith" args 0
  let start ← textArg "startswith" args 1
  return .bool (Text.startsWith outer start)

/-- The byte where a part ends. The position of the end is an index, too. -/
def endOffset? (text : String) (start length : Int) : Option Nat :=
  if IntegerKind.i32.Holds (start + length) ∧ 0 ≤ length then
    Text.byteOffset? text (start + length)
  else none

/-- A part of a text. If both the start and the length are wrong, the start is reported. -/
def substring (args : List Value) : Result Value := do
  let text ← textArg "substring" args 0
  let start ← indexArg "substring" args 1
  let length ← indexArg "substring" args 2
  let first ← offset "substring" text start
  match endOffset? text start length with
  | some stop => return .string (← cut text first stop)
  | none => .error (outOfRange "substring" length)

def substringFrom (args : List Value) : Result Value := do
  let text ← textArg "substring" args 0
  let start ← indexArg "substring" args 1
  let first ← offset "substring" text start
  return .string (← cut text first text.utf8ByteSize)

def concat (args : List Value) : Result Value :=
  .ok (.string (textOrEmpty args 0 ++ textOrEmpty args 1))

def replace (args : List Value) : Result Value := do
  let text ← textArg "replace" args 0
  let old ← textArg "replace" args 1
  if old.isEmpty then .error (.invalidArgument "replace: the value to replace must not be empty")
  else return .string (Text.replace text old (textOrEmpty args 2))

def insert (args : List Value) : Result Value := do
  let outer ← textArg "insert" args 0
  let index ← indexArg "insert" args 1
  let inner ← textArg "insert" args 2
  let place ← offset "insert" outer index
  let before ← cut outer 0 place
  let after ← cut outer place outer.utf8ByteSize
  return .string (before ++ inner ++ after)

def textFunction (method : String) (parameters : List Ty) (result : Ty)
    (compute : List Value → Result Value) : Definition :=
  .ofFunction method parameters result fun _ => compute

def transform (method : String) (change : String → String) : Definition :=
  textFunction method [.string] .string fun args => do
    return .string (change (← textArg method args 0))

def strings : List Definition :=
  [.ofOperator .equal .string,
    .ofOperator .notEqual .string,
    textFunction "length" [.string] .i32 length,
    textFunction "charat" [.string, .i32] .char charAt,
    textFunction "contains" [.string, .string] .bool containsText,
    textFunction "indexof" [.string, .string] .i32 indexOf,
    textFunction "startswith" [.string, .string] .bool startsWith,
    textFunction "substring" [.string, .i32, .i32] .string substring,
    textFunction "substring" [.string, .i32] .string substringFrom,
    textFunction "concat" [.string, .string] .string concat,
    textFunction "replace" [.string, .string, .string] .string replace,
    textFunction "insert" [.string, .i32, .string] .string insert,
    transform "trim" Text.trim,
    transform "ltrim" Text.trimStart,
    transform "rtrim" Text.trimEnd,
    transform "upper" Text.upper,
    transform "lower" Text.lower]

end RowQuery.Standard
