import ClientGen.Text.CaseTable

/-!
# Upper and lower case

The full case mappings of Unicode: the image of a character is a text, since some
characters have images of more than one (`ß` becomes `SS`). Lower-casing a whole text
looks at the neighbours of one letter only: a capital sigma at the end of a word has a
form of its own.
-/

namespace ClientGen.Text

/-- The image of a code point under rows of one-character images. -/
def rowImage? (rows : List (Nat × Nat × Nat × Nat)) (n : Nat) : Option Nat :=
  (rows.find? fun r => r.1 ≤ n && n ≤ r.2.1 && (n - r.1) % r.2.2.1 == 0).map
    fun r => r.2.2.2 + (n - r.1)

/-- The image of a character under rows of one-character images and a list of longer
images; a character that neither lists is its own image. -/
def caseImage (rows : List (Nat × Nat × Nat × Nat)) (expansions : List (Nat × List Nat))
    (c : Char) : List Char :=
  match rowImage? rows c.toNat, expansions.lookup c.toNat with
  | some n, _ => [Char.ofNat n]
  | none, some ns => ns.map Char.ofNat
  | none, none => [c]

/-- The upper-case form of a character. -/
def upperChar (c : Char) : List Char :=
  if c.toNat < 128 then [c.toUpper]
  else caseImage CaseTable.upperRows CaseTable.upperExpansions c

/-- The lower-case form of a character that stands alone. -/
def lowerChar (c : Char) : List Char :=
  if c.toNat < 128 then [c.toLower]
  else caseImage CaseTable.lowerRows CaseTable.lowerExpansions c

/-- Whether the first character that is not passed over has a case. -/
def nextIsCased (s : List Char) : Bool :=
  match s.dropWhile CaseTable.passedOver.contains with
  | [] => false
  | c :: _ => CaseTable.cased.contains c

/-- Lower-case a text, given the characters before it, the nearest first. A capital sigma
takes its final form after a cased character that no cased character follows. -/
def lowerFrom (before : List Char) : List Char → List Char
  | [] => []
  | c :: cs =>
    let image :=
      if c = 'Σ' then [if nextIsCased before && !nextIsCased cs then 'ς' else 'σ']
      else lowerChar c
    image ++ lowerFrom (c :: before) cs

/-- The lower-case form of a text. -/
def lower (s : String) : String :=
  String.ofList (lowerFrom [] s.toList)

/-- Replace the first character of a text by its upper-case form. -/
def upperFirst : List Char → List Char
  | [] => []
  | c :: cs => upperChar c ++ cs

/-- Replace the first character of a text by its lower-case form. -/
def lowerFirst : List Char → List Char
  | [] => []
  | c :: cs => lowerChar c ++ cs

end ClientGen.Text
