import ClientGen.Json.Access

/-!
# Literals

The C# literals of values. A text is written between double quotes, with escapes for the
quote, the backslash, the control characters and the line terminators, so that a literal
never spans lines.
-/

namespace ClientGen.CSharp

/-- The numeric escape of a character: four hexadecimal digits. -/
def unicodeEscape (c : Char) : List Char :=
  '\\' :: 'u' :: Text.hexDigits 4 c.toNat

/-- A character inside a text literal. -/
def escapeChar (c : Char) : List Char :=
  if c = '\\' then ['\\', '\\']
  else if c = '"' then ['\\', '"']
  else if c = '\x00' then ['\\', '0']
  else if c = '\n' then ['\\', 'n']
  else if c = '\r' then ['\\', 'r']
  else if c = '\t' then ['\\', 't']
  else if c.toNat < 0x20 || c.toNat = 0x7F || c.toNat = 0x85 || c.toNat = 0x2028
      || c.toNat = 0x2029 then unicodeEscape c
  else [c]

/-- The inside of a text literal. -/
def escape (s : String) : String :=
  String.ofList (s.toList.flatMap escapeChar)

/-- The least integer that a literal can be: that of 64 bits with a sign. -/
def minInteger : Int := -9223372036854775808

/-- The greatest integer that a literal can be: that of 64 bits without a sign. -/
def maxInteger : Int := 18446744073709551615

/-- **The literal of a value.** -/
def literal (value location : Json) : Outcome String :=
  match value with
  | .null => .ok "null"
  | .bool b => .ok (if b then "true" else "false")
  | .int n =>
    if minInteger ≤ n ∧ n ≤ maxInteger then .ok (toString n)
    else do
      let _ ← value.written
      Outcome.issue (.integerOutOfRange n) location
  | .float x =>
    if x.isFinite then .ok x.text else Outcome.issue (.inexpressibleNumber x) location
  | .str s => .ok ("\"" ++ escape s ++ "\"")
  | .list _ => Outcome.issue .listLiteral location
  | .object _ => Outcome.issue .objectLiteral location

end ClientGen.CSharp
