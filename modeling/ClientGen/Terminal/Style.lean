import ClientGen.Terminal.Colour

/-!
# Styles of a terminal

A style is written as words: attributes such as `bold`, possibly with `not` in front, a
colour, a background colour after `on`, and an address after `link`. Styles that look the
same have the same **normal form**, by which a closing tag finds its opening one.
-/

namespace ClientGen.Terminal

/-- The words of a text, which blanks separate. -/
def blankWords (cs : List Char) : List String :=
  ((cs.map fun c => if Text.isBlank c then ' ' else c) |> Text.splitOnChar ' ').filterMap
    fun w => if w.isEmpty then none else some (String.ofList w)

/-- The attributes of styles, in the order in which a normal form has them. -/
def attributeNames : List String :=
  ["bold", "dim", "italic", "underline", "blink", "blink2", "reverse", "conceal", "strike",
   "underline2", "frame", "encircle", "overline"]

/-- The short words for attributes. -/
def attributeLetters : List (String × String) :=
  [("b", "bold"), ("d", "dim"), ("i", "italic"), ("u", "underline"), ("r", "reverse"),
   ("c", "conceal"), ("s", "strike"), ("uu", "underline2"), ("o", "overline")]

/-- The attribute that a word stands for. -/
def attributeOf? (word : String) : Option String :=
  if word ∈ attributeNames then some word else attributeLetters.lookup word

/-- A style. -/
structure Style where
  /-- The attributes that are on or off, the latest first. -/
  attributes : List (String × Bool) := []
  /-- The colour. -/
  colour : Option String := none
  /-- The background colour. -/
  background : Option String := none
  /-- The address. -/
  link : Option String := none

namespace Style

/-- The normal form of a style. -/
def text (s : Style) : String :=
  let attributes := attributeNames.filterMap fun name =>
    (s.attributes.lookup name).map fun on => if on then name else "not " ++ name
  let background := s.background.map ("on " ++ ·)
  let link := s.link.map ("link " ++ ·)
  let parts := attributes ++ s.colour.toList ++ background.toList ++ link.toList
  if parts.isEmpty then "none" else " ".intercalate parts

/-- What the next word of a style is. -/
inductive Expected
  /-- A word of its own. -/
  | any : Expected
  /-- A background colour. -/
  | background : Expected
  /-- An attribute that is off. -/
  | off : Expected
  /-- An address. -/
  | address : Expected
  deriving DecidableEq, Repr

/-- Add a word to a style; nothing if it does not fit. -/
def addWord (s : Style) (expected : Expected) (word : String) :
    Except MarkupFault (Option (Style × Expected)) := do
  let lowered := Text.lower word
  match expected with
  | .background =>
    return (← Colour.ofWord? lowered).map fun c => ({ s with background := some c }, .any)
  | .off =>
    return (attributeOf? word).map fun a =>
      ({ s with attributes := (a, false) :: s.attributes }, .any)
  | .address => return some ({ s with link := some word }, .any)
  | .any =>
    if lowered = "on" then return some (s, .background)
    else if lowered = "not" then return some (s, .off)
    else if lowered = "link" then return some (s, .address)
    else match attributeOf? lowered with
      | some a => return some ({ s with attributes := (a, true) :: s.attributes }, .any)
      | none => return (← Colour.ofWord? lowered).map fun c => ({ s with colour := some c }, .any)

/-- The style that words give, after those already read; nothing if they give none. -/
def ofWordsFrom (s : Style) (expected : Expected) :
    List String → Except MarkupFault (Option Style)
  | [] => .ok (if expected = .any then some s else none)
  | word :: rest => do
    match ← s.addWord expected word with
    | some (s', expected') => s'.ofWordsFrom expected' rest
    | none => return none

/-- **The style that a text describes**; nothing if it describes none. -/
def ofText? (s : String) : Except MarkupFault (Option Style) :=
  if Text.strip s.toList = "none".toList then .ok (some {})
  else ofWordsFrom {} .any (blankWords s.toList)

/-- **The normal form of the description of a style.** A text that describes none is its
own normal form, without the blanks around it and in lower case. -/
def normalise (s : String) : Except MarkupFault String := do
  match ← ofText? s with
  | some style => return style.text
  | none => return Text.lower (String.ofList (Text.strip s.toList))

end Style

end ClientGen.Terminal
