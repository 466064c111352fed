import AnnotatedMarkdown.Python.Syntax

/-!
# Precedence of expressions

The levels of binding strength that decide where an expression is put into
parentheses, from the weakest to the strongest.
-/

namespace AnnotatedMarkdown.Python

/-- A level of binding strength. -/
abbrev Precedence := Nat

namespace Precedence

def named : Precedence := 1
def tuple : Precedence := 2
def yield : Precedence := 3
def test : Precedence := 4
def or : Precedence := 5
def and : Precedence := 6
def not : Precedence := 7
def compare : Precedence := 8
def bitOr : Precedence := 9
def bitXor : Precedence := 10
def bitAnd : Precedence := 11
def shift : Precedence := 12
def sum : Precedence := 13
def term : Precedence := 14
def factor : Precedence := 15
def power : Precedence := 16
def await : Precedence := 17
def atom : Precedence := 18

/-- The next stronger level; the strongest one is its own. -/
def next (p : Precedence) : Precedence :=
  if p < atom then p + 1 else p

end Precedence

/-- The level of an operator. -/
def BinaryOp.precedence : BinaryOp → Precedence
  | .add | .sub => .sum
  | .mult | .matMult | .div | .mod | .floorDiv => .term
  | .lShift | .rShift => .shift
  | .bitOr => .bitOr
  | .bitXor => .bitXor
  | .bitAnd => .bitAnd
  | .pow => .power

/-- The level of an operator. -/
def UnaryOp.precedence : UnaryOp → Precedence
  | .not => .not
  | _ => .factor

/-- The level of an operator. -/
def BooleanOp.precedence : BooleanOp → Precedence
  | .and => .and
  | .or => .or

/-- The spelling of an operator. -/
def BinaryOp.text : BinaryOp → Text
  | .add => "+"
  | .sub => "-"
  | .mult => "*"
  | .matMult => "@"
  | .div => "/"
  | .mod => "%"
  | .pow => "**"
  | .lShift => "<<"
  | .rShift => ">>"
  | .bitOr => "|"
  | .bitXor => "^"
  | .bitAnd => "&"
  | .floorDiv => "//"

/-- The spelling of an operator in front of its operand. -/
def UnaryOp.text : UnaryOp → Text
  | .invert => "~"
  | .not => "not "
  | .plus => "+"
  | .minus => "-"

/-- The spelling of an operator. -/
def BooleanOp.text : BooleanOp → Text
  | .and => "and"
  | .or => "or"

/-- The spelling of an operator. -/
def CompareOp.text : CompareOp → Text
  | .eq => "=="
  | .notEq => "!="
  | .lt => "<"
  | .ltE => "<="
  | .gt => ">"
  | .gtE => ">="
  | .is => "is"
  | .isNot => "is not"
  | .in => "in"
  | .notIn => "not in"

end AnnotatedMarkdown.Python
