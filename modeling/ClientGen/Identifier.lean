import ClientGen.Json.Access
import ClientGen.Text.Case

/-!
# Identifiers

From the names of a document, which may be any text, to identifiers of C#.

* `Identifier.pascal` joins the words of a name, each with a capital first letter;
* `Identifier.safe` keeps the letters and digits of a name and, by a **suffix** put in front
  or behind, makes them an identifier that is none of the reserved words;
* `Identifier.fresh` adds the suffix until a name is free.

Identifiers are made of ASCII letters and digits only. The suffix comes from the
configuration, which does not look at it, and it may have to stand for a whole name; so a
name is a value of any shape, although nearly always a text. `Identifier.safeWith` is
`Identifier.safe` for values of any shape, and a fault where a value that is no text would
have to be joined to one.
-/

namespace ClientGen.Identifier

/-- The keywords of C#. -/
def keywords : List String :=
  ["abstract", "as", "base", "bool", "break", "byte", "case", "catch", "char", "checked",
   "class", "const", "continue", "decimal", "default", "delegate", "do", "double", "else",
   "enum", "event", "explicit", "extern", "false", "finally", "fixed", "float", "for",
   "foreach", "goto", "if", "implicit", "in", "int", "interface", "internal", "is", "lock",
   "long", "namespace", "new", "null", "object", "operator", "out", "override", "params",
   "private", "protected", "public", "readonly", "ref", "return", "sbyte", "sealed", "short",
   "sizeof", "stackalloc", "static", "string", "struct", "switch", "this", "throw", "true",
   "try", "typeof", "uint", "ulong", "unchecked", "unsafe", "ushort", "using", "virtual",
   "void", "volatile", "while"]

/-- The keywords as values. -/
def keywordValues : List Json :=
  keywords.map .str

/-! ### Characters -/

/-- Whether a character may start an identifier. -/
def isFirstChar (c : Char) : Bool :=
  c.isAlpha

/-- Whether a character may stand in an identifier. -/
def isBodyChar (c : Char) : Bool :=
  c.isAlphanum

/-- Whether a text lies between `A` and `Z` or between `a` and `z` in the order of texts.
On a single character this is `isFirstChar`. -/
def inFirstRange (s : String) : Bool :=
  ("A" ≤ s && s ≤ "Z") || ("a" ≤ s && s ≤ "z")

/-- Whether a text lies in `inFirstRange` or between `0` and `9`. On a single character
this is `isBodyChar`. -/
def inBodyRange (s : String) : Bool :=
  inFirstRange s || ("0" ≤ s && s ≤ "9")

/-! ### Words -/

/-- The words of a text: runs of lower-case letters, a capital with the lower-case letters
after it, and runs of digits. Other characters only separate words. Each word is given as
its first character and the rest of it. -/
def words : List Char → List (Char × List Char)
  | [] => []
  | c :: cs =>
    let later := words cs
    match later, cs with
    | (d, ds) :: rest, next :: _ =>
      if (c.isAlpha && next.isLower) || (c.isDigit && next.isDigit) then (c, d :: ds) :: rest
      else if c.isAlphanum then (c, []) :: later
      else later
    | _, _ => if c.isAlphanum then (c, []) :: later else later

/-- **The words of a name, joined**, each with a capital first letter. -/
def pascal (name : String) : String :=
  String.ofList ((words name.toList).flatMap fun w => w.1.toUpper :: w.2)

/-- The first character of a text in upper case. -/
def upperFirst (s : String) : String :=
  String.ofList (Text.upperFirst s.toList)

/-- The first character of a text in lower case. -/
def lowerFirst (s : String) : String :=
  String.ofList (Text.lowerFirst s.toList)

/-! ### Safe names -/

/-- Whether a name is one of the reserved words in any case. -/
def isReserved (name : String) (reserved : List String) : Bool :=
  let lowered := Text.lower name
  reserved.any fun word => lowered == Text.lower word

/-- The characters of a name that an identifier can have. -/
def kept (name : String) : List Char :=
  name.toList.filter isBodyChar

/-- **A safe name** for a candidate. Its letters and digits are kept; the suffix is put in
front when they start with a digit, put behind when the result is a reserved word, and
stands for the name when there are none of them. -/
def safe (candidate : Option String) (suffix : String) (reserved : List String) : String :=
  match (candidate.map kept).getD [] with
  | [] => suffix
  | c :: cs =>
    let body := String.ofList (c :: cs)
    let name := if isFirstChar c then body else suffix ++ body
    if isReserved name reserved then name ++ suffix else name

/-- The characters of a candidate of any shape that an identifier can have. A candidate
that is no text is gone through element by element. -/
def keptOf : Json → Outcome (List Char)
  | .null => .ok []
  | .str s => .ok (kept s)
  | v => do
    let parts ← (← v.elements).mapM Json.asText
    return (parts.filter inBodyRange).flatMap String.toList

/-- Whether a name in lower case is one of some words in any case. The words are looked at
in order up to the first that is, and one of them that is no text is a fault. -/
def isAmong (lowered : String) : List Json → Outcome Bool
  | [] => .ok false
  | .str word :: rest => if lowered == Text.lower word then .ok true else isAmong lowered rest
  | _ :: _ => Outcome.fault .noSuchPart

/-- Words that are reserved in no particular order, in the order in which they are looked
at: those that are no texts come first. -/
def asSet (words : List Json) : List Json :=
  words.filter (fun w => !w.isString) ++ words.filter Json.isString

theorem asSet_texts (words : List String) : asSet (words.map .str) = words.map .str := by
  have all : (words.map Json.str).filter Json.isString = words.map .str :=
    List.filter_eq_self.2 (by simp [Json.isString])
  have none : (words.map Json.str).filter (fun w => !w.isString) = [] :=
    List.filter_eq_nil_iff.2 (by simp [Json.isString])
  rw [asSet, all, none, List.nil_append]

/-- A name, with the suffix behind it if it is a reserved word. -/
def spared (name : String) (suffix : Json) (reserved : List Json) : Outcome Json := do
  if ← isAmong (Text.lower name) reserved then return .str (name ++ (← suffix.asText))
  else return .str name

/-- `safe` for values of any shape. -/
def safeWith (candidate suffix : Json) (reserved : List Json) : Outcome Json := do
  match ← keptOf candidate with
  | [] => return suffix
  | c :: cs =>
    let body := String.ofList (c :: cs)
    if isFirstChar c then spared body suffix reserved
    else spared ((← suffix.asText) ++ body) suffix reserved

theorem isAmong_texts (lowered : String) (words : List String) :
    isAmong lowered (words.map .str) = .ok (words.any fun word => lowered == Text.lower word) := by
  induction words with
  | nil => rfl
  | cons w ws ih => cases h : lowered == Text.lower w <;> simp [isAmong, h, ih]

theorem spared_texts (name suffix : String) (reserved : List String) :
    spared name suffix (reserved.map .str)
      = .ok (.str (if isReserved name reserved then name ++ suffix else name)) := by
  rw [spared, isAmong_texts, isReserved]
  cases reserved.any fun word => Text.lower name == Text.lower word <;> rfl

/-- On texts, `safeWith` is `safe`. -/
theorem safeWith_texts (candidate suffix : String) (reserved : List String) :
    safeWith candidate suffix (reserved.map .str)
      = .ok (.str (safe (some candidate) suffix reserved)) := by
  simp only [safeWith, keptOf, safe, Option.map_some, Option.getD_some, bind, Except.bind]
  cases kept candidate with
  | nil => rfl
  | cons c cs =>
    cases h : isFirstChar c <;>
      simp only [h, Json.asText, spared_texts, if_true, Bool.false_eq_true, if_false]

/-- A safe name for a parameter or a local variable: like `safe`, with a lower-case first
letter. -/
def localName (name : String) (suffix : Json) (reserved : List Json) : Outcome Json :=
  safeWith (lowerFirst (pascal name)) suffix reserved

/-! ### Free names -/

/-- Add the suffix until a name is free, at most as many times as the fuel. -/
def freshWithin (suffix : Json) (used : List Json) : Nat → Json → Outcome Json
  | 0, _ => Outcome.fault .endlessSearch
  | fuel + 1, name => do
    let key ← name.asKey
    if used.any key.sameKey then freshWithin suffix used fuel (← name.add suffix)
    else return name

/-- **The first free name** among a name, the name with the suffix, with the suffix twice,
and so on. A suffix that is not empty makes all of these different, so one of the first
`used.length + 1` is free; an empty suffix gives the same name for ever. -/
def fresh (suffix : Json) (used : List Json) (name : Json) : Outcome Json :=
  freshWithin suffix used (used.length + 1) name

end ClientGen.Identifier
