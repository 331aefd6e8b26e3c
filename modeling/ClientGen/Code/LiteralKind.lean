/-!
# Kinds of literals

The kinds of literals that the types of properties accept.
-/

namespace ClientGen

/-- The kind of literal that a type accepts. -/
inductive LiteralKind
  /-- An integer. -/
  | integer : LiteralKind
  /-- A number with a fraction. -/
  | number : LiteralKind
  /-- A truth value. -/
  | boolean : LiteralKind
  /-- A text. -/
  | string : LiteralKind
  deriving DecidableEq, Repr

/-- The word for a kind of literal. -/
def LiteralKind.word : LiteralKind → String
  | .integer => "integer"
  | .number => "number"
  | .boolean => "boolean"
  | .string => "string"

end ClientGen
