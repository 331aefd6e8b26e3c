import ClientGen.Terminal.Markup
import ClientGen.Terminal.Width

/-!
# Lines of a cell

How a text is laid out in a cell of a table: which of its spans are shown at all. A text is
divided at its line ends, its tabs become spaces, and, if the column allows it, lines that are
too long are divided between words. What is still too long loses the blanks at its end, and
then everything that does not fit, which an ellipsis stands for.

A text that is divided keeps of each span the parts that are not empty, so the spans that
cover line ends only are lost; one that is not divided keeps all its spans. A line that is cut
off keeps the spans that start before the cut.
-/

namespace ClientGen.Terminal.MarkedText

/-- The parts of spans between two places that are not empty. -/
def spansWithin (start stop : Nat) (spans : List Span) : List Span :=
  spans.filterMap fun s =>
    let first := max s.start start
    let last := min s.stop stop
    if first < last then some ⟨first - start, last - start, s.fault⟩ else none

/-- Divide the characters from a place on, with the spans of the whole text, at some later
places. -/
def divideFrom (spans : List Span) (start : Nat) (cs : List Char) : List Nat → List MarkedText
  | [] => [⟨cs, spansWithin start (start + cs.length) spans⟩]
  | place :: places =>
    ⟨cs.take (place - start), spansWithin start place spans⟩
      :: divideFrom spans place (cs.drop (place - start)) places

/-- **Divide a text at some places**, in order. -/
def divide (t : MarkedText) (places : List Nat) : List MarkedText :=
  if places.isEmpty then [t] else divideFrom t.spans 0 t.chars places

/-- The places of a character in a text that starts at a place. -/
def placesOf (c : Char) (place : Nat) (cs : List Char) : List Nat :=
  (cs.zipIdx place).filterMap fun (d, i) => if d = c then some i else none

/-- **The lines of a text**, without their ends. -/
def lines (t : MarkedText) : List MarkedText :=
  (t.divide ((placesOf '\n' 0 t.chars).flatMap fun place => [place, place + 1])).filter fun line =>
    line.chars ≠ ['\n']

/-! ### Tabs -/

/-- The distance of tab stops. -/
def tabSize : Nat := 8

/-- Replace the tab at the end of a part of a line by spaces up to the next tab stop. The part
starts in a cell. A span up to the tab covers the spaces as well. -/
def expandEnd (cell : Nat) (t : MarkedText) : MarkedText :=
  if t.chars.getLast? == some '\t' then
    let chars := t.chars.dropLast ++ [' ']
    let spaces := (tabSize - (cell + textWidth chars) % tabSize) % tabSize
    { chars := chars ++ List.replicate spaces ' '
      spans := t.spans.map fun s =>
        if s.stop ≥ chars.length then { s with stop := s.stop + spaces } else s }
  else t

/-- Append a text to another. -/
def append (t u : MarkedText) : MarkedText where
  chars := t.chars ++ u.chars
  spans := t.spans ++ u.spans.map fun s =>
    { s with start := t.chars.length + s.start, stop := t.chars.length + s.stop }

/-- A line with its tabs replaced by spaces. -/
def expandTabs (t : MarkedText) : MarkedText :=
  if t.chars.contains '\t' then
    (t.divide ((placesOf '\t' 0 t.chars).map (· + 1))).foldl
      (fun done u => done.append (expandEnd (textWidth done.chars) u)) ⟨[], []⟩
  else t

/-! ### Words -/

/-- The places where a line has to be divided so that its words fit into a width, as far as
they can. The line is read from a place on, with a number of cells already filled. -/
def breaksFrom (width : Nat) : Nat → Nat → Nat → List Char → List Nat
  | 0, _, _, _ => []
  | fuel + 1, place, cells, cs =>
    let blanks := cs.takeWhile Text.isBlank
    let letters := (cs.drop blanks.length).takeWhile (!Text.isBlank ·)
    if letters.isEmpty then []
    else
      let word := blanks ++ letters
      let rest := cs.drop word.length
      let gap := rest.takeWhile Text.isBlank
      let filled := textWidth word + textWidth gap
      let later := fun cells => breaksFrom width fuel (place + word.length + gap.length) cells
        (rest.drop gap.length)
      if cells + textWidth word ≤ width then later (cells + filled)
      else if place = 0 then later (if textWidth word > width then filled else cells)
      else if textWidth word > width || 0 < cells then place :: later filled
      else later cells

/-- The lines into which a line is divided between words. -/
def wrap (width : Nat) (t : MarkedText) : List MarkedText :=
  t.divide (breaksFrom width t.chars.length 0 0 t.chars)

/-! ### Cuts -/

/-- The spans that start before a place. -/
def spansBefore (t : MarkedText) (place : Nat) : List Span :=
  t.spans.filter (·.start < place)

/-- A line that is too long without the blanks at its end, as far as they are too much. -/
def trimEnd (width : Nat) (t : MarkedText) : MarkedText :=
  let blanks := t.chars.length - (Text.stripEnd t.chars).length
  let excess := min blanks (t.chars.length - width)
  if excess = 0 then t
  else
    let kept := t.chars.length - excess
    ⟨t.chars.take kept, t.spansBefore kept⟩

/-- The number of characters that a width has room for, between two bounds. It is found by
bisection; a character of two cells that has room for one only is counted too. -/
def fitting (cs : List Char) (width : Nat) : Nat → Nat → Nat → Nat
  | 0, low, _ => low
  | fuel + 1, low, high =>
    let middle := (low + high) / 2
    let cells := textWidth (cs.take (middle + 1))
    if cells = width || (cells = width + 1 && (cs[middle]?).any (charWidth · = 2)) then middle + 1
    else if cells > width then fitting cs width fuel low middle
    else fitting cs width fuel middle high

/-- The spans of a line that are left when the line is cut off at a width, with an ellipsis in
the last cell. -/
def cutSpans (width : Nat) (t : MarkedText) : List Span :=
  if textWidth t.chars ≤ width then t.spans
  else
    let kept := if width ≤ 1 then 0
      else fitting t.chars (width - 1) t.chars.length 0 t.chars.length
    if kept + 1 < t.chars.length then t.spansBefore (kept + 1) else t.spans

/-- **The spans of a text that are shown** in a width, with words on new lines or without. -/
def shownSpans (t : MarkedText) (wraps : Bool) (width : Nat) : List Span :=
  if t.spans.isEmpty then []
  else t.lines.flatMap fun line =>
    let line := line.expandTabs
    (if wraps then line.wrap width else [line]).flatMap fun l => (l.trimEnd width).cutSpans width

end ClientGen.Terminal.MarkedText
