import ClientGen.Terminal.Token

/-!
# Literals in tags

A literal is a number, a text, one of the words for fixed values, or a tuple, a set or a table
of literals. `isLiteral` tells whether a text is a literal or several with commas between. It
reads the tokens of the text once from left to right; brackets are the only thing that nests,
so a multiple of the number of tokens is enough fuel.
-/

namespace ClientGen.Terminal.Literal

/-- What a literal is, as far as it matters where it stands. -/
inductive Shape
  /-- A number without a sign. -/
  | number (kind : NumberKind) : Shape
  /-- A number with a sign. -/
  | signed (kind : NumberKind) : Shape
  /-- Another value that can be a key of a table. -/
  | key : Shape
  /-- A set or a table, or a tuple with one in it. -/
  | collection : Shape
  /-- The name of the function that makes an empty set, which is no literal yet. -/
  | emptySet : Shape
  deriving DecidableEq, Repr

/-- Whether a literal can be a key of a table. -/
def Shape.isKey (s : Shape) : Bool :=
  s ≠ .collection && s ≠ .emptySet

/-- Read the texts that follow a text directly, which have to be of the same sort. -/
def afterTexts? (bytes : Bool) : List Token → Option (List Token)
  | .text b :: rest => if b = bytes then afterTexts? bytes rest else none
  | rest => some rest

/-- A literal that the call of the function may follow, if it is the name of one. -/
def called : Shape × List Token → Shape × List Token
  | (.emptySet, .openRound :: .closeRound :: rest) => (.collection, rest)
  | r => r

mutual

/-- Read a literal with its sign, and with an imaginary part if one follows. -/
def sum? : Nat → List Token → Option (Shape × List Token)
  | 0, _ => none
  | fuel + 1, ts => do
    let (left, rest) ← match ts with
      | .sign :: more =>
        match ← primary? fuel more with
        | (.number kind, after) => some (Shape.signed kind, after)
        | _ => none
      | _ => primary? fuel ts
    match rest with
    | .sign :: more =>
      if left = .number .real || left = .signed .real then
        match ← primary? fuel more with
        | (.number .imaginary, after) => some (.key, after)
        | _ => none
      else none
    | _ => some (left, rest)

/-- Read a literal without a sign. -/
def primary? : Nat → List Token → Option (Shape × List Token)
  | 0, _ => none
  | fuel + 1, ts =>
    match ts with
    | .number kind :: rest => some (.number kind, rest)
    | .text bytes :: rest => (afterTexts? bytes rest).map (.key, ·)
    | .constant :: rest => some (.key, rest)
    | .emptySet :: rest => some (called (.emptySet, rest))
    | .openRound :: .closeRound :: rest => some (.key, rest)
    | .openRound :: inner => do
      match ← items? fuel inner with
      | ([shape], false, .closeRound :: rest) => some (called (shape, rest))
      | (shapes, _, .closeRound :: rest) =>
        if shapes.contains .emptySet then none
        else some (if shapes.all Shape.isKey then .key else .collection, rest)
      | _ => none
    | .openCurly :: .closeCurly :: rest => some (.collection, rest)
    | .openCurly :: inner => (members? fuel none inner).map (.collection, ·)
    | _ => none

/-- Read literals with commas between, and possibly one after the last. Gives their shapes,
whether there was a comma, and what follows. -/
def items? : Nat → List Token → Option (List Shape × Bool × List Token)
  | 0, _ => none
  | fuel + 1, ts => do
    let (shape, rest) ← sum? fuel ts
    match rest with
    | .comma :: more =>
      match more with
      | [] | .closeRound :: _ | .lineEnd :: _ => some ([shape], true, more)
      | _ => do
        let (shapes, _, after) ← items? fuel more
        some (shape :: shapes, true, after)
    | _ => some ([shape], false, rest)

/-- Read the members of a set or a table up to its closing bracket. Once the first member
is read it is known which of the two it is. -/
def members? : Nat → Option Bool → List Token → Option (List Token)
  | 0, _, _ => none
  | fuel + 1, table?, ts => do
    let (shape, rest) ← sum? fuel ts
    if !shape.isKey then none
    else
      let (isTable, rest) ← match rest with
        | .colon :: more =>
          match ← sum? fuel more with
          | (.emptySet, _) => none
          | (_, after) => some (true, after)
        | _ => some (false, rest)
      if table? == some (!isTable) then none
      else match rest with
        | .comma :: .closeCurly :: after => some after
        | .comma :: more => members? fuel (some isTable) more
        | .closeCurly :: after => some after
        | _ => none

end

/-- Whether tokens are a literal, or several with commas between. Line ends may stand before
and after. -/
def areLiteral (ts : List Token) : Bool :=
  match items? (3 * ts.length + 3) (ts.dropWhile (· == .lineEnd)) with
  | some (shapes, _, rest) => !shapes.contains .emptySet && rest.all (· == .lineEnd)
  | none => false

/-- **Whether a text is a literal**, or several with commas between. -/
def isLiteral (cs : List Char) : Bool :=
  (tokens? cs).any areLiteral

end ClientGen.Terminal.Literal
