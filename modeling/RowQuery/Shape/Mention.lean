import RowQuery.Expr.Basic

/-! Which shapes a type, a value or an expression mentions. What is held keeps them alive. -/

namespace RowQuery

mutual

def Ty.shapes : Ty → List Nat
  | .nullable inner => inner.shapes
  | .sequence element => element.shapes
  | .record decl => decl.shapes
  | .shape decl => decl.shapes
  | _ => []

def RecordType.shapes : RecordType → List Nat
  | ⟨_, none, members, conversions⟩ => memberShapes members ++ conversionShapes conversions
  | ⟨_, some base, members, conversions⟩ =>
    base.shapes ++ memberShapes members ++ conversionShapes conversions

def Shape.shapes : Shape → List Nat
  | ⟨id, _, _, properties⟩ => id :: propertyShapes properties

def memberShapes : List Member → List Nat
  | [] => []
  | ⟨_, ty, _, _, _⟩ :: rest => ty.shapes ++ memberShapes rest

def conversionShapes : List DeclaredConversion → List Nat
  | [] => []
  | ⟨_, .incoming source, _⟩ :: rest => source.shapes ++ conversionShapes rest
  | ⟨_, .outgoing target, _⟩ :: rest => target.shapes ++ conversionShapes rest

def propertyShapes : List Property → List Nat
  | [] => []
  | ⟨_, ty⟩ :: rest => ty.shapes ++ propertyShapes rest

end

mutual

def Value.types : Value → List Ty
  | .sequence element items => .sequence element :: typesOfValues items
  | .record decl fields => .record decl :: typesOfValues fields
  | .shape decl slots => .shape decl :: typesOfValues slots
  | value => [value.typeOf]

def typesOfValues : List Value → List Ty
  | [] => []
  | value :: rest => value.types ++ typesOfValues rest

end

def MemberRef.types : MemberRef → List Ty
  | .record owner _ _ => [.record owner]
  | .shape owner _ _ => [.shape owner]
  | .intrinsic _ ty => [ty]

def Conversion.types : Conversion → List Ty
  | .enum decl => [.enum decl]
  | .lifted inner => inner.types
  | .unwrap inner => inner.types
  | .declared ⟨_, .incoming source, _⟩ => [source]
  | .declared ⟨_, .outgoing target, _⟩ => [target]
  | .reference | .numeric _ | .char => []

mutual

def Expr.types : Expr → List Ty
  | .target ty => [ty]
  | .constant value ty => ty :: value.types
  | .member owner access => owner.types ++ access.types
  | .convert operand ty conversion => ty :: operand.types ++ conversion.types
  | .unary _ operand => operand.types
  | .binary _ left right => left.types ++ right.types
  | .conditional test ifTrue ifFalse => test.types ++ ifTrue.types ++ ifFalse.types
  | .call _ args ty => ty :: typesOfExprs args
  | .construct shape bindings => .shape shape :: typesOfBindings bindings

def typesOfExprs : List Expr → List Ty
  | [] => []
  | expr :: rest => expr.types ++ typesOfExprs rest

def typesOfBindings : List (Nat × Expr) → List Ty
  | [] => []
  | (_, expr) :: rest => expr.types ++ typesOfBindings rest

end

end RowQuery
