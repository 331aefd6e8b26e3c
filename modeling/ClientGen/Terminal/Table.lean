import ClientGen.Json.Basic
import ClientGen.Terminal.Layout

/-!
# Tables on a terminal

A table has a border, and its cells have a blank on either side. Its columns are as wide as
their longest lines ask for. If that is too wide for the terminal, the columns that wrap get
narrower, the widest first, and if that does not do, all of them.

`checkTable` tells whether a table can be shown. The markup of the cells is read column by
column to find the widths, and then the cells are laid out row by row.
-/

namespace ClientGen.Terminal

/-- A column of a table. -/
structure Column where
  /-- What stands above it. -/
  title : String
  /-- Whether words may go on new lines. -/
  wraps : Bool

/-- The width of the terminal. -/
def terminalWidth : Nat := 80

/-- The number of cells of the blanks on either side of a text. -/
def paddingWidth : Nat := 2

/-- The number of cells that some columns share. -/
def sharedWidth (columns : Nat) : Nat :=
  terminalWidth - (columns + 1)

/-- The width of the longest line of a text. -/
def longestLine (cs : List Char) : Nat :=
  let widths : Nat × Nat := cs.foldl (fun (line, longest) c =>
    if Text.isLineBreak c then (0, longest)
    else (line + charWidth c, max longest (line + charWidth c))) (0, 0)
  widths.2

/-- The width that a column asks for, with some cells. -/
def Column.fullWidth (column : Column) (limit : Nat) (cells : List String) :
    Except MarkupFault Nat := do
  let texts ← cells.mapM fun cell => return (← MarkedText.ofMarkup cell).chars
  let widths := (column.title.toList :: texts).map fun cs =>
    min limit (longestLine cs + paddingWidth)
  return widths.foldl max 0

/-! ### Narrower columns -/

/-- The sum of some widths. -/
def totalWidth (widths : List Nat) : Nat :=
  widths.foldl (· + ·) 0

/-- A quotient to the nearest whole number, a half to the even one. -/
def nearestQuotient (n d : Nat) : Nat :=
  let q := n / d
  let twice := 2 * (n % d)
  if twice < d || (twice = d && q % 2 = 0) then q else q + 1

/-- Take an amount from some widths, in equal parts, and from each no more than a bound; the
widths with the bound zero stay as they are. The number of the others is given. -/
def reduce : Nat → Nat → List (Nat × Nat) → List Nat
  | _, _, [] => []
  | amount, others, (width, bound) :: rest =>
    if bound = 0 || others = 0 then width :: reduce amount others rest
    else
      let part := min bound (nearestQuotient amount others)
      (width - part) :: reduce (amount - part) (others - 1) rest

/-- Take an amount from some widths with bounds. -/
def reduced (amount : Nat) (widths : List (Nat × Nat)) : List Nat :=
  reduce amount (widths.countP fun w => w.2 ≠ 0) widths

/-- Make the widest of the columns that wrap narrower, down to the next width among them, as
long as the columns are too wide. -/
def collapse (limit : Nat) : Nat → List (Nat × Bool) → List (Nat × Bool)
  | 0, widths => widths
  | fuel + 1, widths =>
    let excess := totalWidth (widths.map Prod.fst) - limit
    let wrapping := (widths.filter Prod.snd).map Prod.fst
    let widest := wrapping.foldl max 0
    let next := (wrapping.filter (· ≠ widest)).foldl max 0
    if excess = 0 || widest = 0 then widths
    else
      let bound := min excess (widest - next)
      let narrower := reduced excess (widths.map fun (width, wraps) =>
        (width, if wraps && width = widest then bound else 0))
      collapse limit fuel (narrower.zip (widths.map Prod.snd))

/-- **The widths of columns** that ask for some widths. -/
def fittedWidths (limit : Nat) (widths : List (Nat × Bool)) : List Nat :=
  let excess := totalWidth (widths.map Prod.fst) - limit
  let narrower := (collapse limit excess widths).map Prod.fst
  let left := totalWidth narrower - limit
  if left = 0 then narrower else reduced left (narrower.map fun width => (width, width))

/-! ### Tables -/

/-- The text of a cell: nothing for a null value. -/
def cellText : Json → Except MarkupFault String
  | .str s => .ok s
  | .null => .ok ""
  | _ => .error .notAText

/-- The styles of a cell of some width can be read, as far as they are shown. -/
def checkCell (column : Column) (width : Nat) (cell : String) : Except MarkupFault Unit := do
  let text ← MarkedText.ofMarkup cell
  if paddingWidth < width then
    match text.shownSpans column.wraps (width - paddingWidth) with
    | [] => pure ()
    | span :: _ => throw span.fault

/-- **A table with some columns and rows can be shown.** -/
def checkTable (columns : List Column) (rows : List (List Json)) : Except MarkupFault Unit := do
  let texts ← rows.mapM fun row => row.mapM cellText
  let limit := sharedWidth columns.length
  let full ← columns.zipIdx.mapM fun (column, i) => do
    let width ← column.fullWidth limit (texts.filterMap (·[i]?))
    return (width, column.wraps)
  let widths := columns.zip (fittedWidths limit full)
  texts.forM fun row => (widths.zip row).forM fun ((column, width), cell) =>
    checkCell column width cell

end ClientGen.Terminal
