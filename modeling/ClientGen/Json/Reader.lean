import ClientGen.Json.Basic
import ClientGen.Number.Reading

/-!
# Reading JSON

The reader of JSON texts. It is strict on the grammar, with one extension: the words
`NaN`, `Infinity` and `-Infinity` stand for numbers. A number written with a point or an
exponent is a double-precision number, any other is an integer. When a key is repeated in
an object, its last value stands at its first place.

Each step of the reader consumes at least one character, so the length of the text is enough
fuel for `readValue`. Lists and objects may only be nested to some depth.
-/

namespace ClientGen.Json

/-- Why a text is not read. -/
inductive ReadError
  /-- The text is not in the grammar. -/
  | grammar : ReadError
  /-- An integer has more digits than are read. -/
  | tooManyDigits (count : Nat) : ReadError
  /-- Lists and objects are nested more deeply than is read. -/
  | tooDeep : ReadError
  deriving DecidableEq, Repr

/-- Whether a character may stand between the tokens. -/
def isGap (c : Char) : Bool :=
  c = ' ' || c = '\t' || c = '\n' || c = '\r'

/-- Skip the characters between tokens. -/
def skipGap (cs : List Char) : List Char :=
  cs.dropWhile isGap

/-- The value of a hexadecimal digit. -/
def hexValue? (c : Char) : Option Nat :=
  if c.isDigit then some (c.toNat - '0'.toNat)
  else if 'a' ≤ c ∧ c ≤ 'f' then some (c.toNat - 'a'.toNat + 10)
  else if 'A' ≤ c ∧ c ≤ 'F' then some (c.toNat - 'A'.toNat + 10)
  else none

/-- The number that four hexadecimal digits stand for, and what follows them. -/
def readHex4 : List Char → Except ReadError (Nat × List Char)
  | a :: b :: c :: d :: rest =>
    match hexValue? a, hexValue? b, hexValue? c, hexValue? d with
    | some w, some x, some y, some z => .ok (((w * 16 + x) * 16 + y) * 16 + z, rest)
    | _, _, _, _ => .error .grammar
  | _ => .error .grammar

/-- The character of a numeric escape, after its letter: one code unit, or two that form a
surrogate pair. A unit that is half of no pair is no character, and the replacement character
stands for it, so texts that differ only in such units read alike. -/
def readUnit (cs : List Char) : Except ReadError (Char × List Char) := do
  let (high, rest) ← readHex4 cs
  if 0xD800 ≤ high ∧ high < 0xDC00 then
    match rest with
    | '\\' :: 'u' :: more =>
      let (low, rest') ← readHex4 more
      if 0xDC00 ≤ low ∧ low < 0xE000 then
        return (Char.ofNat (0x10000 + (high - 0xD800) * 0x400 + (low - 0xDC00)), rest')
      else
        return ('�', rest)
    | _ => return ('�', rest)
  else if 0xDC00 ≤ high ∧ high < 0xE000 then return ('�', rest)
  else return (Char.ofNat high, rest)

/-- The character that a letter stands for after a backslash. -/
def simpleEscape? (c : Char) : Option Char :=
  match c with
  | '"' => some '"'
  | '\\' => some '\\'
  | '/' => some '/'
  | 'b' => some '\x08'
  | 'f' => some '\x0c'
  | 'n' => some '\n'
  | 'r' => some '\r'
  | 't' => some '\t'
  | _ => none

/-- Read a text up to its closing quote. The characters read so far are held back in
reverse. -/
def readText : Nat → List Char → List Char → Except ReadError (String × List Char)
  | 0, _, _ => .error .grammar
  | _ + 1, _, [] => .error .grammar
  | fuel + 1, acc, c :: cs =>
    if c = '"' then .ok (String.ofList acc.reverse, cs)
    else if c.toNat < 0x20 then .error .grammar
    else if c = '\\' then
      match cs with
      | [] => .error .grammar
      | e :: rest =>
        if e = 'u' then
          match readUnit rest with
          | .ok (u, rest') => readText fuel (u :: acc) rest'
          | .error err => .error err
        else match simpleEscape? e with
          | some u => readText fuel (u :: acc) rest
          | none => .error .grammar
    else readText fuel (c :: acc) cs

/-- Read the digits of the whole part of a number: a single zero, or digits that do not
start with one. -/
def readWhole (cs : List Char) : Except ReadError (List Char × List Char) :=
  match cs with
  | '0' :: rest => .ok (['0'], rest)
  | _ =>
    let ds := cs.takeWhile Char.isDigit
    if ds.isEmpty then .error .grammar else .ok (ds, cs.dropWhile Char.isDigit)

/-- Read the digits after a point, if a point with digits follows. -/
def readFraction (cs : List Char) : List Char × List Char :=
  match cs with
  | '.' :: rest =>
    let ds := rest.takeWhile Char.isDigit
    if ds.isEmpty then ([], cs) else (ds, rest.dropWhile Char.isDigit)
  | _ => ([], cs)

/-- Read an exponent, if one with digits follows. -/
def readPower (cs : List Char) : Option Int × List Char :=
  match cs with
  | c :: rest =>
    let r := Number.splitSign rest
    let ds := r.2.takeWhile Char.isDigit
    if (c = 'e' || c = 'E') && !ds.isEmpty then
      let n : Int := Number.digitsValue ds
      (some (if r.1 then -n else n), r.2.dropWhile Char.isDigit)
    else (none, cs)
  | [] => (none, [])

/-- Read a number after its sign. -/
def readNumber (negative : Bool) (cs : List Char) : Except ReadError (Json × List Char) := do
  let (whole, rest) ← readWhole cs
  let (fraction, rest) := readFraction rest
  let (power, rest) := readPower rest
  if fraction.isEmpty && power.isNone then
    if whole.length > Number.maxIntDigits then throw (.tooManyDigits whole.length)
    let n : Int := Number.digitsValue whole
    return (.int (if negative then -n else n), rest)
  else
    let digits := Number.digitsValue (whole ++ fraction)
    return (.float (Binary64.ofDecimal negative digits (power.getD 0 - fraction.length)), rest)

/-- Drop a word from the front of a text, if it stands there. -/
def dropWord? (word : String) (cs : List Char) : Option (List Char) :=
  if word.toList.isPrefixOf cs then some (cs.drop word.length) else none

/-- Read a value that is a word or a number. -/
def readScalar (cs : List Char) : Except ReadError (Json × List Char) :=
  let words : List (String × Json) :=
    [("null", .null), ("true", .bool true), ("false", .bool false), ("NaN", .float .nan),
     ("Infinity", .float (.infinite false)), ("-Infinity", .float (.infinite true))]
  match words.findSome? fun w => (dropWord? w.1 cs).map (w.2, ·) with
  | some r => .ok r
  | none =>
    match cs with
    | '-' :: rest => readNumber true rest
    | _ => readNumber false cs

mutual

/-- Read one value, with a number of lists and objects that may be nested in each other, and
give what follows it. -/
def readValue : Nat → Nat → List Char → Except ReadError (Json × List Char)
  | 0, _, _ => .error .grammar
  | fuel + 1, _, '"' :: cs => do
    let (s, rest) ← readText (fuel + 1) [] cs
    return (.str s, rest)
  | fuel + 1, depth, '[' :: cs =>
    match depth with
    | 0 => .error .tooDeep
    | depth + 1 => match skipGap cs with
      | ']' :: rest => .ok (.list [], rest)
      | rest => readElements fuel depth [] rest
  | fuel + 1, depth, '\x7b' :: cs =>
    match depth with
    | 0 => .error .tooDeep
    | depth + 1 => match skipGap cs with
      | '\x7d' :: rest => .ok (.object [], rest)
      | rest => readFields fuel depth [] rest
  | _ + 1, _, cs => readScalar cs

/-- Read the elements of a list up to its end. The elements read so far are held back in
reverse. -/
def readElements : Nat → Nat → List Json → List Char → Except ReadError (Json × List Char)
  | 0, _, _, _ => .error .grammar
  | fuel + 1, depth, acc, cs => do
    let (v, rest) ← readValue fuel depth cs
    match skipGap rest with
    | ',' :: more => readElements fuel depth (v :: acc) (skipGap more)
    | ']' :: more => return (.list (v :: acc).reverse, more)
    | _ => throw .grammar

/-- Read the fields of an object up to its end. -/
def readFields : Nat → Nat → Fields → List Char → Except ReadError (Json × List Char)
  | 0, _, _, _ => .error .grammar
  | fuel + 1, depth, acc, cs =>
    match cs with
    | '"' :: more => do
      let (k, rest) ← readText (fuel + 1) [] more
      match skipGap rest with
      | ':' :: more =>
        let (v, rest) ← readValue fuel depth (skipGap more)
        match skipGap rest with
        | ',' :: more => readFields fuel depth (acc.set k v) (skipGap more)
        | '\x7d' :: more => return (.object (acc.set k v), more)
        | _ => throw .grammar
      | _ => throw .grammar
    | _ => .error .grammar

end

/-- The greatest depth of nesting in a file. -/
def maxNesting : Nat := 980

/-- **Read a JSON text**: one value with nothing but gaps around it, nested to some depth at
most. -/
def read (s : String) (depth : Nat) : Except ReadError Json := do
  let cs := skipGap s.toList
  let (v, rest) ← readValue (cs.length + 1) depth cs
  if (skipGap rest).isEmpty then return v else throw .grammar

end ClientGen.Json
