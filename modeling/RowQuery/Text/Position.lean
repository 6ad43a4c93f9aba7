/-! Texts by the positions of their characters, and by their bytes. -/

namespace RowQuery.Text

def charAt? (text : String) (index : Int) : Option Char :=
  if 0 ≤ index then text.toList[index.toNat]? else none

/-! ### Bytes -/

def bytes (text : String) : List UInt8 :=
  text.toByteArray.data.toList

def charOffsets (start : Nat) : List Char → List Nat
  | [] => []
  | c :: rest => start :: charOffsets (start + c.utf8Size) rest

/-- The byte at which a character begins. The number after that of the last one is the end. -/
def byteOffset? (text : String) (index : Int) : Option Nat :=
  if 0 ≤ index then (charOffsets 0 text.toList ++ [text.utf8ByteSize])[index.toNat]? else none

/-- The text from a byte to another one, if neither of them is inside of a character. -/
def between? (text : String) (start stop : Nat) : Option String :=
  if start ≤ stop && String.Pos.Raw.isValid text ⟨start⟩ && String.Pos.Raw.isValid text ⟨stop⟩ then
    String.fromUTF8? (text.toByteArray.extract start stop)
  else none

def findIn? (inner : List UInt8) : List UInt8 → Option Nat
  | [] => if inner.isEmpty then some 0 else none
  | byte :: rest =>
    if inner.isPrefixOf (byte :: rest) then some 0 else (findIn? inner rest).map (· + 1)

def find? (text inner : String) : Option Nat :=
  findIn? (bytes inner) (bytes text)

def occursIn (inner : List UInt8) : List UInt8 → Bool
  | [] => inner.isEmpty
  | byte :: rest => inner.isPrefixOf (byte :: rest) || occursIn inner rest

def contains (text inner : String) : Bool :=
  occursIn (bytes inner) (bytes text)

def startsWith (text start : String) : Bool :=
  (bytes start).isPrefixOf (bytes text)

/-! ### Characters -/

/-- Puts `new` for `old`, from left to right; the next `skip` characters belong to an occurrence that
is replaced already. -/
def replaceFrom (old new : List Char) : (skip : Nat) → List Char → List Char
  | _, [] => []
  | skip + 1, _ :: rest => replaceFrom old new skip rest
  | 0, c :: rest =>
    if old.isPrefixOf (c :: rest) then new ++ replaceFrom old new (old.length - 1) rest
    else c :: replaceFrom old new 0 rest

def replace (text old new : String) : String :=
  String.ofList (replaceFrom old.toList new.toList 0 text.toList)

def segments : List Char → List (List Char)
  | [] => [[]]
  | c :: rest =>
    match c == '.', segments rest with
    | true, parts => [] :: parts
    | false, [] => [[c]]
    | false, part :: parts => (c :: part) :: parts

end RowQuery.Text
