import ClientGen.Number.Reading
import ClientGen.Text.CharName

/-!
# Tokens of literals

The arguments that a tag hands to a handler are written as literals. This module divides such
a text into **tokens**: numbers, texts, the words for fixed values, the name of the function
that makes an empty set, signs and brackets.

Blanks and comments separate tokens, and so do line ends inside brackets. Outside of them a
line end is a token of its own, and the line after it must not be indented. A backslash at the
end of a line joins the next line to it.
-/

namespace ClientGen.Terminal.Literal

/-- What kind of number a number is, as far as sums are concerned. -/
inductive NumberKind
  /-- A number that a double-precision number can stand for. -/
  | real : NumberKind
  /-- A whole number that is too large for that. -/
  | vast : NumberKind
  /-- An imaginary number. -/
  | imaginary : NumberKind
  deriving DecidableEq, Repr

/-- A token. -/
inductive Token
  /-- A number without a sign. -/
  | number (kind : NumberKind) : Token
  /-- A text, which may be one of bytes. -/
  | text (bytes : Bool) : Token
  /-- A word or a sign for a fixed value. -/
  | constant : Token
  /-- The name of the function that makes an empty set. -/
  | emptySet : Token
  /-- A plus or a minus. -/
  | sign : Token
  /-- A comma. -/
  | comma : Token
  /-- A colon. -/
  | colon : Token
  /-- An opening round bracket. -/
  | openRound : Token
  /-- A closing round bracket. -/
  | closeRound : Token
  /-- An opening curly bracket. -/
  | openCurly : Token
  /-- A closing curly bracket. -/
  | closeCurly : Token
  /-- The end of a line outside of brackets. -/
  | lineEnd : Token
  deriving DecidableEq, Repr

/-! ### Numbers -/

/-- Whether a character may stand in a name, or is beyond ASCII. -/
def isNameChar (c : Char) : Bool :=
  c.isAlphanum || c = '_' || c.toNat ≥ 0x80

/-- Whether a character is a hexadecimal digit. -/
def isHexDigit (c : Char) : Bool :=
  c.isDigit || ('a' ≤ c && c ≤ 'f') || ('A' ≤ c && c ≤ 'F')

/-- Read digits with single underscores between them, and give them and what follows. -/
def digits? (isDigit : Char → Bool) : List Char → Option (List Char × List Char)
  | c :: '_' :: d :: rest =>
    if isDigit c then
      if isDigit d then (digits? isDigit (d :: rest)).map fun r => (c :: r.1, r.2)
      else none
    else none
  | c :: rest =>
    if isDigit c then match digits? isDigit rest with
      | some r => some (c :: r.1, r.2)
      | none => if rest.head?.any (fun d => isDigit d || d = '_') then none else some ([c], rest)
    else none
  | [] => none

/-- Nothing that could belong to a number follows. -/
def endOfNumber (cs : List Char) : Bool :=
  !cs.head?.any isNameChar

/-- Read a fraction, if there is one. -/
def fraction? (cs : List Char) : Option (Bool × List Char) :=
  match cs with
  | '.' :: rest =>
    if rest.head?.any Char.isDigit then (digits? Char.isDigit rest).map fun r => (true, r.2)
    else some (true, rest)
  | _ => some (false, cs)

/-- Read an exponent, if there is one. -/
def exponent? (cs : List Char) : Option (Bool × List Char) :=
  match cs with
  | c :: rest =>
    if c = 'e' || c = 'E' then
      let unsigned := match rest with
        | '+' :: more => more
        | '-' :: more => more
        | _ => rest
      (digits? Char.isDigit unsigned).map fun r => (true, r.2)
    else some (false, cs)
  | [] => some (false, cs)

/-- Whether digits can be a whole number: they start with a zero only if they are all zeros,
and there are not too many of them. -/
def isWhole (digits : List Char) : Bool :=
  if digits.head? == some '0' then digits.all (· == '0')
  else decide (digits.length ≤ Number.maxIntDigits)

/-- The kind of a whole number. -/
def wholeKind (n : Nat) : NumberKind :=
  if (Binary64.ofInt? n).isSome then .real else .vast

/-- The value of hexadecimal digits, or of the digits of a smaller base. -/
def digitsValue (base : Nat) (ds : List Char) : Nat :=
  ds.foldl (fun n c =>
    n * base + (if c.isDigit then c.toNat - 48 else (c.toNat ||| 32) - 87)) 0

/-- Read what follows the whole part of a number. -/
def afterWhole? (whole : List Char) (cs : List Char) : Option (Token × List Char) := do
  let (hasFraction, rest) ← fraction? cs
  let (hasExponent, rest) ← exponent? rest
  match rest with
  | c :: more =>
    if c = 'j' || c = 'J' then
      if endOfNumber more then return (.number .imaginary, more) else none
  | [] => pure ()
  if !endOfNumber rest then none
  else if hasFraction || hasExponent then return (.number .real, rest)
  else if isWhole whole then return (.number (wholeKind (digitsValue 10 whole)), rest)
  else none

/-- Read a number. -/
def number? (cs : List Char) : Option (Token × List Char) :=
  let based (base : Nat) (isDigit : Char → Bool) (rest : List Char) :
      Option (Token × List Char) := do
    let start := match rest with
      | '_' :: more => more
      | _ => rest
    let (ds, after) ← digits? isDigit start
    if endOfNumber after then return (.number (wholeKind (digitsValue base ds)), after) else none
  match cs with
  | '0' :: 'x' :: rest | '0' :: 'X' :: rest => based 16 isHexDigit rest
  | '0' :: 'o' :: rest | '0' :: 'O' :: rest => based 8 (fun c => '0' ≤ c && c ≤ '7') rest
  | '0' :: 'b' :: rest | '0' :: 'B' :: rest => based 2 (fun c => c = '0' || c = '1') rest
  | '.' :: rest => if rest.head?.any Char.isDigit then afterWhole? [] cs else none
  | _ => do
    let (whole, rest) ← digits? Char.isDigit cs
    afterWhole? whole rest

/-! ### Texts -/

/-- How a text is written. -/
structure TextForm where
  /-- Whether backslashes stand for themselves. -/
  raw : Bool
  /-- Whether the text is one of bytes. -/
  bytes : Bool

/-- The form that the letters in front of a text ask for. -/
def TextForm.ofLetters? (letters : List Char) : Option TextForm :=
  match letters.map Char.toLower with
  | [] | ['u'] => some ⟨false, false⟩
  | ['r'] => some ⟨true, false⟩
  | ['b'] => some ⟨false, true⟩
  | ['b', 'r'] | ['r', 'b'] => some ⟨true, true⟩
  | _ => none

/-- The number of hexadecimal digits that an escape needs. -/
def escapeLength (form : TextForm) (c : Char) : Nat :=
  if c = 'x' then 2
  else if form.bytes then 0
  else if c = 'u' then 4
  else if c = 'U' then 8
  else 0

/-- Whether characters start with the name of a character in curly brackets. -/
def startsWithName : List Char → Bool
  | '\x7b' :: rest =>
    let name := rest.takeWhile (· != '\x7d')
    name.length < rest.length && Text.CharName.isCharName name
  | _ => false

/-- Whether the characters after a backslash are an escape. -/
def isEscape (form : TextForm) : List Char → Bool
  | [] => false
  | c :: rest =>
    if c = 'N' && !form.bytes then startsWithName rest
    else
      let ds := rest.take (escapeLength form c)
      ds.length = escapeLength form c && ds.all isHexDigit
        && (c ≠ 'U' || digitsValue 16 ds ≤ 0x10FFFF)

/-- Read a text up to its closing quote, or quotes if it is a long one, and give what
follows it. -/
def afterText? (form : TextForm) (quote : Char) (long : Bool) : List Char → Option (List Char)
  | [] => none
  | '\\' :: c :: rest =>
    if (form.raw || isEscape form (c :: rest)) && (!form.bytes || c.toNat < 0x80) then
      afterText? form quote long rest
    else none
  | c :: rest =>
    if form.bytes && c.toNat ≥ 0x80 then none
    else if long then
      if [quote, quote, quote].isPrefixOf (c :: rest) then some (rest.drop 2)
      else if c = '\\' then none
      else afterText? form quote long rest
    else if c = quote then some rest
    else if c = '\n' || c = '\\' then none
    else afterText? form quote long rest

/-- Read a text that follows some letters. -/
def text? (letters : List Char) : List Char → Option (Token × List Char)
  | [] => none
  | quote :: rest => do
    let form ← TextForm.ofLetters? letters
    let after ←
      if [quote, quote].isPrefixOf rest then afterText? form quote true (rest.drop 2)
      else afterText? form quote false rest
    return (.text form.bytes, after)

/-! ### Words -/

/-- The words for fixed values. -/
def constants : List (List Char) :=
  ["True".toList, "False".toList, "None".toList]

/-- The characters that are taken for the first letter of the function that makes an empty
set, for the second and for the third: the letter itself and its variants of other styles. -/
def emptySetLetters : List CharSet :=
  [⟨[(0x73, 0x73), (0x17F, 0x17F), (0x2E2, 0x2E2), (0x209B, 0x209B), (0xFF53, 0xFF53),
     (0x1D42C, 0x1D42C), (0x1D460, 0x1D460), (0x1D494, 0x1D494), (0x1D4C8, 0x1D4C8),
     (0x1D4FC, 0x1D4FC), (0x1D530, 0x1D530), (0x1D564, 0x1D564), (0x1D598, 0x1D598),
     (0x1D5CC, 0x1D5CC), (0x1D600, 0x1D600), (0x1D634, 0x1D634), (0x1D668, 0x1D668),
     (0x1D69C, 0x1D69C)]⟩,
   ⟨[(0x65, 0x65), (0x1D49, 0x1D49), (0x2091, 0x2091), (0x212F, 0x212F), (0x2147, 0x2147),
     (0xFF45, 0xFF45), (0x1D41E, 0x1D41E), (0x1D452, 0x1D452), (0x1D486, 0x1D486),
     (0x1D4EE, 0x1D4EE), (0x1D522, 0x1D522), (0x1D556, 0x1D556), (0x1D58A, 0x1D58A),
     (0x1D5BE, 0x1D5BE), (0x1D5F2, 0x1D5F2), (0x1D626, 0x1D626), (0x1D65A, 0x1D65A),
     (0x1D68E, 0x1D68E)]⟩,
   ⟨[(0x74, 0x74), (0x1D57, 0x1D57), (0x209C, 0x209C), (0xFF54, 0xFF54), (0x1D42D, 0x1D42D),
     (0x1D461, 0x1D461), (0x1D495, 0x1D495), (0x1D4C9, 0x1D4C9), (0x1D4FD, 0x1D4FD),
     (0x1D531, 0x1D531), (0x1D565, 0x1D565), (0x1D599, 0x1D599), (0x1D5CD, 0x1D5CD),
     (0x1D601, 0x1D601), (0x1D635, 0x1D635), (0x1D669, 0x1D669), (0x1D69D, 0x1D69D)]⟩]

/-- Whether a word is the name of the function that makes an empty set. -/
def isEmptySet (word : List Char) : Bool :=
  word.length = emptySetLetters.length
    && (word.zip emptySetLetters).all fun (c, letters) => letters.contains c

/-- Read a word, or a text if the word is what stands in front of one. -/
def word? (cs : List Char) : Option (Token × List Char) :=
  let word := cs.takeWhile isNameChar
  let rest := cs.dropWhile isNameChar
  if rest.head? == some '"' || rest.head? == some '\'' then text? word rest
  else if word ∈ constants then some (.constant, rest)
  else if isEmptySet word then some (.emptySet, rest)
  else none

/-! ### Tokens -/

/-- How deep brackets may nest. -/
def maxDepth : Nat := 200

/-- Read a token that is neither a bracket nor a line end. -/
def plain? (cs : List Char) : Option (Token × List Char) :=
  match cs with
  | '+' :: rest | '-' :: rest => some (.sign, rest)
  | ',' :: rest => some (.comma, rest)
  | ':' :: rest => some (.colon, rest)
  | '.' :: '.' :: '.' :: rest => some (.constant, rest)
  | c :: _ => if c.isDigit || c = '.' then number? cs else word? cs
  | [] => none

/-- Read the start of a line outside of brackets. Such a line must not be indented, unless
nothing but a comment is on it; a form feed takes back the blanks before it. The marks tell
whether there are blanks, on this line and on those that a backslash joins to it. -/
def lineStart? (indented earlier : Bool) : List Char → Option (List Char)
  | '\\' :: '\n' :: c :: rest => lineStart? indented (earlier || indented) (c :: rest)
  | c :: rest =>
    if c = ' ' || c = '\t' then lineStart? true earlier rest
    else if c = '\x0c' then lineStart? false earlier rest
    else if c = '#' || c = '\n' || !(earlier || indented) then some (c :: rest)
    else none
  | [] => some []

/-- The tokens of characters inside a number of brackets. -/
def tokensFrom : Nat → Nat → List Char → Option (List Token)
  | 0, _, _ => none
  | _ + 1, depth, [] => if depth = 0 then some [] else none
  | fuel + 1, depth, c :: rest =>
    if c = ' ' || c = '\t' || c = '\x0c' then tokensFrom fuel depth rest
    else if c = '#' then tokensFrom fuel depth (rest.dropWhile (· != '\n'))
    else if c = '\n' then
      if depth = 0 then do
        return .lineEnd :: (← tokensFrom fuel 0 (← lineStart? false false rest))
      else tokensFrom fuel depth rest
    else if c = '\\' then
      match rest with
      | '\n' :: d :: more => tokensFrom fuel depth (d :: more)
      | _ => none
    else if c = '(' || c = '\x7b' then
      if depth < maxDepth then do
        let token := if c = '(' then .openRound else .openCurly
        return token :: (← tokensFrom fuel (depth + 1) rest)
      else none
    else if c = ')' || c = '\x7d' then
      match depth with
      | 0 => none
      | outer + 1 => do
        let token := if c = ')' then .closeRound else .closeCurly
        return token :: (← tokensFrom fuel outer rest)
    else do
      let (token, after) ← plain? (c :: rest)
      return token :: (← tokensFrom fuel depth after)

/-- A text in which a carriage return, with the line feed after it if there is one, is a
line feed. -/
def unifyLineEnds : List Char → List Char
  | '\r' :: '\n' :: cs => '\n' :: unifyLineEnds cs
  | c :: cs => (if c = '\r' then '\n' else c) :: unifyLineEnds cs
  | [] => []

/-- **The tokens of a text**, if it can be divided into tokens. -/
def tokens? (cs : List Char) : Option (List Token) := do
  if cs.contains '\x00' then none
  else
    let lines := unifyLineEnds cs
    tokensFrom (lines.length + 1) 0 (← lineStart? false false lines)

end ClientGen.Terminal.Literal
