import SqlMapper.Statement.Fault
import SqlMapper.Text.Keyword

/-!
# Comparison operators

Operators are a closed list, so a caller's text can become part of a statement only by being one of
these words. Reading takes either case and blanks around the word; the statement has words in
capitals.
-/

namespace SqlMapper

/-- The operators of a comparison or a join. -/
inductive Operator where
  /-- Equality. -/
  | eq
  /-- Less than. -/
  | lt
  /-- Greater than. -/
  | gt
  /-- At most. -/
  | le
  /-- At least. -/
  | ge
  /-- Inequality, written with angle brackets. -/
  | ne
  /-- Inequality, written with an exclamation mark. -/
  | notEq
  /-- Equality that takes null for a value. -/
  | nullSafeEq
  /-- Pattern match. -/
  | like
  /-- Pattern match on bytes. -/
  | likeBinary
  /-- Negated pattern match. -/
  | notLike
  /-- Pattern match in either case. -/
  | ilike
  /-- Bitwise and. -/
  | bitAnd
  /-- Bitwise or. -/
  | bitOr
  /-- Bitwise exclusive or. -/
  | bitXor
  /-- Left shift. -/
  | shiftLeft
  /-- Right shift. -/
  | shiftRight
  /-- Match of a regular expression, short name. -/
  | rlike
  /-- Match of a regular expression. -/
  | regexp
  /-- Negated match of a regular expression. -/
  | notRegexp
  /-- Match sign. -/
  | tilde
  /-- Match sign in either case. -/
  | tildeStar
  /-- Negated match sign in either case. -/
  | notTildeStar
  /-- Match of a standard pattern. -/
  | similarTo
  /-- Negated match of a standard pattern. -/
  | notSimilarTo
  /-- Negated pattern match in either case. -/
  | notIlike
  /-- Pattern match sign in either case. -/
  | doubleTildeStar
  /-- Negated pattern match sign in either case. -/
  | notDoubleTildeStar
deriving DecidableEq, Inhabited

namespace Operator

/-- All operators, in the order in which they are looked up. -/
def all : List Operator :=
  [.eq, .lt, .gt, .le, .ge, .ne, .notEq, .nullSafeEq, .like, .likeBinary, .notLike, .ilike, .bitAnd,
    .bitOr, .bitXor, .shiftLeft, .shiftRight, .rlike, .regexp, .notRegexp, .tilde, .tildeStar,
    .notTildeStar, .similarTo, .notSimilarTo, .notIlike, .doubleTildeStar, .notDoubleTildeStar]

/-- The spelling of an operator, in small letters. -/
def spelling : Operator → String
  | .eq => "="
  | .lt => "<"
  | .gt => ">"
  | .le => "<="
  | .ge => ">="
  | .ne => "<>"
  | .notEq => "!="
  | .nullSafeEq => "<=>"
  | .like => "like"
  | .likeBinary => "like binary"
  | .notLike => "not like"
  | .ilike => "ilike"
  | .bitAnd => "&"
  | .bitOr => "|"
  | .bitXor => "^"
  | .shiftLeft => "<<"
  | .shiftRight => ">>"
  | .rlike => "rlike"
  | .regexp => "regexp"
  | .notRegexp => "not regexp"
  | .tilde => "~"
  | .tildeStar => "~*"
  | .notTildeStar => "!~*"
  | .similarTo => "similar to"
  | .notSimilarTo => "not similar to"
  | .notIlike => "not ilike"
  | .doubleTildeStar => "~~*"
  | .notDoubleTildeStar => "!~~*"

/-- The operator a caller's text names. -/
def ofText (text : String) : Except QueryFault Operator :=
  match all.find? (fun op => Text.sameWord op.spelling (Text.trim text)) with
  | some op => .ok op
  | none => .error (.invalidOperator text)

/-- Whether the operator asks for inequality, so that comparing with null asks for a value. -/
def isInequality : Operator → Bool
  | .ne | .notEq => true
  | _ => false

/-- The text of an operator in a statement. -/
def sql (op : Operator) : String :=
  String.ofList (op.spelling.toList.map Char.toUpper)

/-- Every operator is listed. -/
theorem mem_all (op : Operator) : op ∈ all := by cases op <;> decide

/-- Different operators have different texts. -/
theorem sql_injective {a b : Operator} (h : a.sql = b.sql) : a = b := by
  revert h
  cases a <;> cases b <;> decide

/-- The text of an operator in a statement reads as that operator. -/
theorem ofText_sql (op : Operator) : ofText op.sql = .ok op := by
  have found : all.find? (fun other => Text.sameWord other.spelling (Text.trim op.sql)) = some op := by
    cases op <;> decide
  simp [ofText, found]

end Operator

end SqlMapper
