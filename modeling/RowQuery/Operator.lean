/-! The operators that expressions are made with. -/

namespace RowQuery

inductive UnaryOp where
  | not
  | negate
  deriving DecidableEq

def UnaryOp.symbol : UnaryOp → String
  | not => "!"
  | negate => "-"

inductive BinaryOp where
  | add
  | subtract
  | multiply
  | divide
  | modulo
  | equal
  | notEqual
  | lessThan
  | lessThanOrEqual
  | greaterThan
  | greaterThanOrEqual
  | and
  | or
  | xor
  deriving DecidableEq

namespace BinaryOp

def symbol : BinaryOp → String
  | add => "+"
  | subtract => "-"
  | multiply => "*"
  | divide => "/"
  | modulo => "%"
  | equal => "=="
  | notEqual => "!="
  | lessThan => "<"
  | lessThanOrEqual => "<="
  | greaterThan => ">"
  | greaterThanOrEqual => ">="
  | and => "and"
  | or => "or"
  | xor => "xor"

def isArithmetic : BinaryOp → Bool
  | add | subtract | multiply | divide | modulo => true
  | _ => false

def isOrdering : BinaryOp → Bool
  | lessThan | lessThanOrEqual | greaterThan | greaterThanOrEqual => true
  | _ => false

def isLogical : BinaryOp → Bool
  | and | or | xor => true
  | _ => false

end BinaryOp

end RowQuery
