import ClientGen.Terminal.Literal
import ClientGen.Terminal.Style
import ClientGen.Text.Alphanumeric

/-!
# Markup of a terminal

A table that is shown on a terminal takes its cells as **markup**: a text in square
brackets that starts with a small letter, or with one of `#`, `/` and `@`, is a tag, unless
an odd number of backslashes stands in front of it. A tag opens a style, and a tag that
starts with a slash closes the latest style of its name, or the latest of all if it has no
name. A closing tag that closes nothing is a fault. So are the arguments of a tag that names
a handler, an at sign in front, if they are no literals when the tag is closed.

`MarkedText.ofMarkup` gives the text that a markup stands for. A style that has a fault is no
fault of the markup: it comes out only when the text is shown, so the text has a **span** for
each of those.
-/

namespace ClientGen.Terminal

/-- A tag. -/
structure Tag where
  /-- What stands before the first equals sign. -/
  name : String
  /-- What stands after it, if there is one. -/
  arguments : Option String

/-- A part of a markup. -/
inductive Symbol
  /-- A character of the text. -/
  | char (c : Char) : Symbol
  /-- A tag. -/
  | tag (t : Tag) : Symbol

/-- A part of a text whose style has a fault. -/
structure Span where
  /-- The place of its first character. -/
  start : Nat
  /-- The place after its last character. -/
  stop : Nat
  /-- The fault. -/
  fault : MarkupFault

/-- A text with the spans whose styles have faults. -/
structure MarkedText where
  /-- The characters. -/
  chars : List Char
  /-- The spans. -/
  spans : List Span := []

namespace Tag

/-- The inside of a tag at the start of a text that follows an opening bracket. -/
def inside? : List Char → Option (List Char)
  | [] => none
  | c :: rest =>
    if c.isLower || c = '#' || c = '/' || c = '@' then
      let body := rest.takeWhile fun d => d ≠ ']' && d ≠ '['
      if (rest.drop body.length).head? == some ']' then some (c :: body) else none
    else none

/-- The tag with an inside. -/
def ofInside (cs : List Char) : Tag where
  name := String.ofList (cs.takeWhile (· != '='))
  arguments := match cs.dropWhile (· != '=') with
    | [] => none
    | _ :: rest => some (String.ofList rest)

/-- Whether a tag closes a style. -/
def isClosing (t : Tag) : Bool :=
  t.name.toList.head? == some '/'

/-- The style that a tag opens, as a text. -/
def styleText (t : Tag) : String :=
  match t.arguments with
  | none => t.name
  | some arguments => t.name ++ " " ++ arguments

/-- Whether a tag names a handler. -/
def isHandler (t : Tag) : Bool :=
  t.name.toList.head? == some '@'

/-- Whether a character may stand in the name of a function. -/
def isFunctionChar (c : Char) : Bool :=
  Text.isAlphanumeric c || c = '_' || c = '.'

/-- Whether the arguments of a tag that names a handler are literals. They may be the name
of a function, with its arguments in brackets if it has any. -/
def argumentsFit (arguments : String) : Bool :=
  let cs := Text.strip arguments.toList
  let call := cs.dropWhile isFunctionChar
  if call.isEmpty then true
  else if call.head? == some '(' && call.getLast? == some ')' && !call.contains '\n' then
    Literal.isLiteral call
  else Literal.isLiteral cs

/-- A tag that is closed has arguments that fit, if it names a handler. -/
def checkClosed (t : Tag) : Except MarkupFault Unit :=
  if t.isHandler then
    match t.arguments with
    | some arguments =>
      if arguments.isEmpty || argumentsFit arguments then .ok () else .error .badTag
    | none => .ok ()
  else .ok ()

/-- The span of the style that a tag opens, if the style has a fault. -/
def span? (t : Tag) (start stop : Nat) : Option Span :=
  match Style.ofText? t.styleText with
  | .ok _ => none
  | .error fault => some ⟨start, stop, fault⟩

end Tag

namespace Symbol

/-- The symbols of a text, after some characters that are skipped and a number of backslashes,
behind the symbols already read, the latest first. Of the backslashes before a tag every
second one is shown, and if one is left over the tag is shown too. A backslash before any other
opening bracket is not shown. -/
def scan (read : List Symbol) : Nat → Nat → List Char → List Symbol
  | _, backslashes, [] => (shown backslashes ++ read).reverse
  | skip + 1, _, _ :: cs => scan read skip 0 cs
  | 0, backslashes, c :: cs =>
    if c = '\\' then scan read 0 (backslashes + 1) cs
    else if c = '[' then
      match Tag.inside? cs with
      | none => scan (char c :: (shown (backslashes - 1) ++ read)) 0 0 cs
      | some body =>
        let before := shown (backslashes / 2) ++ read
        if backslashes % 2 = 1 then
          scan ((']' :: body.reverse ++ ['[']).map char ++ before) (body.length + 1) 0 cs
        else scan (tag (Tag.ofInside body) :: before) (body.length + 1) 0 cs
    else scan (char c :: (shown backslashes ++ read)) 0 0 cs
where
  /-- A number of backslashes. -/
  shown (n : Nat) : List Symbol :=
    List.replicate n (char '\\')

/-- Whether a character is left out when a text is shown. -/
def isLeftOut (c : Char) : Bool :=
  c = '\x07' || c = '\x08' || c = '\x0b' || c = '\x0c' || c = '\r'

/-- **The symbols of a markup**, without the characters that are left out. -/
def all (markup : String) : List Symbol :=
  (scan [] 0 0 markup.toList).filter fun
    | char c => !isLeftOut c
    | tag _ => true

end Symbol

namespace MarkedText

/-- A tag that is open, with the place where its style starts. -/
abbrev OpenTag := Nat × Tag

/-- Close the latest of some open tags with a name, or the latest of all for an empty name.
Gives the tag and the ones that stay open. -/
def close (name : String) (opened : List OpenTag) :
    Except MarkupFault (OpenTag × List OpenTag) := do
  let style ← if name.isEmpty then .ok "" else Style.normalise name
  let fits (t : OpenTag) : Bool := name.isEmpty || t.2.name == style
  match opened.find? fits with
  | none => throw .badTag
  | some t =>
    t.2.checkClosed
    return (t, opened.eraseP fits)

/-- The spans of the tags of a markup in the order in which they are closed, after a number of
characters, with the tags that are open and the spans already found, both the latest first. -/
def spansFrom (place : Nat) (opened : List OpenTag) (found : List Span) :
    List Symbol → Except MarkupFault (List Span)
  | [] => .ok (found.reverse ++ opened.filterMap fun t => t.2.span? t.1 place)
  | .char _ :: rest => spansFrom (place + 1) opened found rest
  | .tag t :: rest => do
    if t.isClosing then
      let name := String.ofList (Text.strip (t.name.toList.drop 1))
      let (closed, others) ← close name opened
      let span := if closed.2.isHandler then none else closed.2.span? closed.1 place
      spansFrom place others (span.toList ++ found) rest
    else
      let name ← Style.normalise t.name
      spansFrom place ((place, { t with name }) :: opened) found rest

/-- **The text that a markup stands for.** Its spans are in the order of their starts, and of
those that start together the one that is closed last comes first. -/
def ofMarkup (markup : String) : Except MarkupFault MarkedText := do
  let symbols := Symbol.all markup
  let spans ← spansFrom 0 [] [] symbols
  return {
    chars := symbols.filterMap fun
      | .char c => some c
      | .tag _ => none
    spans := spans.reverse.mergeSort fun a b => a.start ≤ b.start }

end MarkedText

end ClientGen.Terminal
