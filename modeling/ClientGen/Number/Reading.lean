import ClientGen.Number.Binary64
import ClientGen.Text.Blank
import ClientGen.Text.Digit

/-!
# Reading numbers

The numbers that a text can stand for. `readInt?` reads an integer and `readNumber?` a
double-precision number. Both take decimal digits of any script, blanks around the number,
a sign, and single underscores between digits.

What counts as a blank depends on the text: one that is all ASCII may have the six ASCII
blanks around its number, any other text the blanks beyond ASCII too. `asciiForm` makes
this one rule: it replaces the characters beyond ASCII first, and leaves an ASCII text
alone.
-/

namespace ClientGen.Number

/-- The ASCII stand-in of a character beyond ASCII: a space for a blank, the ASCII digit
for a digit, and a mark that no number has for anything else. -/
def asciiChar (c : Char) : Char :=
  if c.toNat < 127 then c
  else if Text.isBlank c then ' '
  else match Text.digitValue? c with
    | some d => Char.ofNat ('0'.toNat + d)
    | none => '?'

/-- A text with its characters beyond ASCII replaced by their stand-ins. -/
def asciiForm (s : List Char) : List Char :=
  if s.all (·.toNat < 128) then s else s.map asciiChar

/-- Whether a character is one of the ASCII blanks that may surround a number. -/
def isAsciiBlank (c : Char) : Bool :=
  c = ' ' || (9 ≤ c.toNat && c.toNat ≤ 13)

/-- The ASCII form of a text without the blanks around it. -/
def trimmed (s : String) : List Char :=
  Text.dropEndWhile isAsciiBlank ((asciiForm s.toList).dropWhile isAsciiBlank)

/-- Split off a sign; `true` stands for minus. -/
def splitSign : List Char → Bool × List Char
  | '-' :: cs => (true, cs)
  | '+' :: cs => (false, cs)
  | cs => (false, cs)

/-- Remove the underscores of a text, given whether a digit stands before it. Refuses an
underscore that does not stand between two digits. -/
def joinGroups? : Bool → List Char → Option (List Char)
  | _, [] => some []
  | afterDigit, '_' :: c :: cs =>
    if afterDigit && c.isDigit then (joinGroups? true cs).map (c :: ·) else none
  | _, c :: cs => if c = '_' then none else (joinGroups? c.isDigit cs).map (c :: ·)

/-- The natural number that ASCII digits stand for. -/
def digitsValue (ds : List Char) : Nat :=
  ds.foldl (fun n d => 10 * n + (d.toNat - '0'.toNat)) 0

/-- The greatest number of digits an integer may be written with, leading zeros
included. -/
def maxIntDigits : Nat := 4300

/-- The wording for an integer that is written with too many digits. -/
def tooManyDigitsText (count : Nat) : String :=
  "Exceeds the limit (4300 digits) for integer string conversion: value has " ++ toString count
    ++ " digits; use sys.set_int_max_str_digits() to increase the limit"

/-- The least integer with more digits than are written. -/
def longInt : Nat :=
  Binary64.tenTo maxIntDigits

/-- Whether an integer has more digits than are written. -/
def isLong (n : Int) : Bool :=
  decide (longInt ≤ n.natAbs)

/-- The integer a text stands for, if any. -/
def readInt? (s : String) : Option Int :=
  let r := splitSign (trimmed s)
  match joinGroups? false r.2 with
  | none => none
  | some ds =>
    if ds.isEmpty || !ds.all Char.isDigit || ds.length > maxIntDigits then none
    else some (if r.1 then -digitsValue ds else digitsValue ds)

/-- The exponent at the end of a decimal: nothing, or a mark, an optional sign and
digits. -/
def readExponent? : List Char → Option Int
  | [] => some 0
  | c :: cs =>
    let r := splitSign cs
    if (c = 'e' || c = 'E') && !r.2.isEmpty && r.2.all Char.isDigit then
      some (if r.1 then -digitsValue r.2 else digitsValue r.2)
    else none

/-- The value of an unsigned decimal: digits, optionally with a point among them or at one
of their ends, then an optional exponent. -/
def readDecimal? (negative : Bool) (s : List Char) : Option Binary64 :=
  let whole := s.takeWhile Char.isDigit
  let rest := s.dropWhile Char.isDigit
  let parts : List Char × List Char := match rest with
    | '.' :: cs => (cs.takeWhile Char.isDigit, cs.dropWhile Char.isDigit)
    | cs => ([], cs)
  if whole.isEmpty && parts.1.isEmpty then none
  else (readExponent? parts.2).map fun e =>
    Binary64.ofDecimal negative (digitsValue (whole ++ parts.1)) (e - parts.1.length)

/-- The number a text stands for, if any: a decimal, or one of the words for infinity and
for the undefined number in any case. A decimal out of range is infinite. -/
def readNumber? (s : String) : Option Binary64 :=
  match joinGroups? false (trimmed s) with
  | none => none
  | some cs =>
    let r := splitSign cs
    let word := String.ofList (r.2.map Char.toLower)
    if word = "inf" || word = "infinity" then some (.infinite r.1)
    else if word = "nan" then some .nan
    else readDecimal? r.1 r.2

end ClientGen.Number
