import ClientGen.Code.Declaration
import ClientGen.Identifier
import ClientGen.Ledger

/-!
# The code model

All declarations of one generation, in the order in which they were added. A declaration
is addressed by its **index**, an integer: from zero on it counts from the first
declaration, below zero from the last. Declarations are only ever added at the end, each at
the top level or as the last member of a class.

A **journal** of the additions makes it possible to take back the latest ones: `mark` gives
a point in the journal and `rollback` returns to it. A frozen model no longer changes.

An operation that fails may have changed the model before it did; the changes stay. For an
owner counted from the first declaration a failing addition changes nothing. An owner
counted from the last one is looked up a second time after the declaration was added, and
then stands for another declaration.
-/

namespace ClientGen

/-- The declarations of one generation. -/
structure CodeModel where
  /-- The declarations, in the order in which they were added. -/
  nodes : Array Declaration := #[]
  /-- The places of the top-level declarations, in order. -/
  topLevel : List Nat := []
  /-- The additions, the latest first: the owner as it was given, and the place. -/
  journal : List (Option Int × Nat) := []
  /-- Whether the model no longer changes. -/
  frozen : Bool := false
  /-- The words that no member may have as its name. -/
  reserved : List Json := Identifier.keywordValues

namespace CodeModel

open Outcome

/-! ### Reading -/

/-- The number of declarations. -/
def size (m : CodeModel) : Nat :=
  m.nodes.size

/-- The place that an index stands for. -/
def place? (m : CodeModel) (index : Int) : Option Nat :=
  if 0 ≤ index then
    if index < m.size then some index.toNat else none
  else if -(m.size : Int) ≤ index then some (index + m.size).toNat
  else none

/-- The declaration at a place. -/
def atPlace (m : CodeModel) (place : Nat) : Outcome Declaration :=
  match m.nodes[place]? with
  | some d => .ok d
  | none => fault .outOfRange

/-- The declaration at an index. -/
def get (m : CodeModel) (index : Int) : Outcome Declaration :=
  match m.place? index with
  | some place => m.atPlace place
  | none => fault .outOfRange

/-- The class at an index, with the places of its members. -/
def getClass (m : CodeModel) (index : Int) : Outcome (Declaration × List Nat) := do
  let d ← m.get index
  match d.members? with
  | some members => return (d, members)
  | none => fault (.notAClass index d.name)

/-- The members of a class, in order. -/
def members (m : CodeModel) (owner : Int) : Outcome (List Declaration) := do
  let (_, places) ← m.getClass owner
  places.mapM m.atPlace

/-- The places of the declarations in a scope: a class, or the top level. -/
def scope (m : CodeModel) : Option Int → Outcome (List Nat)
  | none => .ok m.topLevel
  | some owner => do return (← m.getClass owner).2

/-- The names declared in a scope, in order. -/
def memberNames (m : CodeModel) (owner : Option Int) : Outcome (List Json) := do
  let places ← m.scope owner
  places.mapM fun place => do return (← m.atPlace place).name

/-- The first of some places where a declaration has a name. -/
def findNamed? (m : CodeModel) (name : Json) : List Nat → Outcome (Option Nat)
  | [] => .ok none
  | place :: rest => do
    if (← m.atPlace place).name.sameKey name then return some place
    else m.findNamed? name rest

/-- The place of the member of a class with a name. -/
def findMember? (m : CodeModel) (owner : Int) (name : Json) : Outcome (Option Nat) := do
  let (_, places) ← m.getClass owner
  m.findNamed? name places

/-- A point in the journal. -/
def mark (m : CodeModel) : Nat :=
  m.journal.length

/-- The words that the name of a new member of a scope must avoid: the reserved words, the
names in the scope, further words, and the name of the class. -/
def avoided (m : CodeModel) (owner : Option Int) (extra : List Json) : Outcome (List Json) := do
  let taken ← m.memberNames owner
  let extra ← extra.mapM Json.asKey
  match owner with
  | none => return m.reserved ++ taken ++ extra
  | some o => return m.reserved ++ taken ++ extra ++ [(← m.get o).name]

/-- **A safe name for a new member of a scope.** It may still be taken, when the name with
the suffix is taken too; adding the member then fails. -/
def safeMemberName (m : CodeModel) (owner : Option Int) (candidate suffix : Json)
    (extra : List Json) : Outcome Json := do
  Identifier.safeWith candidate suffix (Identifier.asSet (← m.avoided owner extra))

/-! ### Writing -/

/-- A change of the model. -/
abbrev Change : Type → Type := Session CodeModel

/-- The names of the scope and of its class leave room for a declaration. -/
def checkName (m : CodeModel) (owner : Option Int) (d : Declaration) : Outcome Unit := do
  let taken ← m.memberNames owner
  let name ← d.name.asKey
  match owner with
  | none =>
    if taken.any name.sameKey then collision (.alreadyDeclared name "top level") "top level"
  | some o =>
    let scope := (← m.get o).name
    if taken.any name.sameKey then collision (.alreadyDeclared name scope) scope
    else if name.sameKey scope && !d.isConstructor then collision (.sameAsClass name) name
where
  /-- Refuse the name of the declaration, which the wording of the issue shows. -/
  collision (cause : Cause) (location : Json) : Outcome Unit := do
    let _ ← d.name.written
    issue cause location

/-- Change the members of the class at an index. -/
def changeMembers (owner : Int) (f : List Nat → Outcome (List Nat)) : Change Unit := do
  let m ← MonadState.get
  let (_, members) ← m.getClass owner
  let members ← f members
  match m.place? owner with
  | some place =>
    set { m with nodes := m.nodes.modify place (Declaration.mapMembers fun _ => members) }
  | none => throw (.fault .outOfRange)

/-- Change the list of places of a scope. -/
def changeScope (owner : Option Int) (f : List Nat → Outcome (List Nat)) : Change Unit := do
  match owner with
  | none =>
    let m ← MonadState.get
    let topLevel ← f m.topLevel
    set { m with topLevel }
  | some o => changeMembers o f

/-- **Add a declaration** at the end of a scope, and give its place. -/
def insert (owner : Option Int) (d : Declaration) : Change Nat := do
  let m ← MonadState.get
  if m.frozen then throw (.fault .frozenModel)
  m.checkName owner d
  let place := m.size
  set { m with nodes := m.nodes.push { d with parent := owner } }
  changeScope owner fun places => .ok (places ++ [place])
  modify fun m => { m with journal := (owner, place) :: m.journal }
  return place

/-- A list of places without the first occurrence of one of them, which it has to hold. -/
def remove (place : Nat) (places : List Nat) : Outcome (List Nat) :=
  if place ∈ places then .ok (places.erase place) else fault .notListed

/-- Take back the latest addition. -/
def undoLast : Change Unit := do
  let m ← MonadState.get
  match m.journal with
  | [] => throw (.fault .outOfRange)
  | (owner, place) :: journal =>
    set { m with journal }
    changeScope owner (remove place)
    modify fun m => { m with nodes := m.nodes.pop }

/-- Take back the latest additions, as many as are given. -/
def undoTimes : Nat → Change Unit
  | 0 => pure ()
  | n + 1 => do
    undoLast
    undoTimes n

/-- **Take back every addition since a mark.** -/
def rollback (mark : Int) : Change Unit := do
  let m ← MonadState.get
  if m.frozen then throw (.fault .frozenModel)
  undoTimes ((m.journal.length : Int) - mark).toNat

/-- Give the declaration at an index a comment. -/
def setComment (index : Int) (comment : Json) : Change Unit := do
  let m ← MonadState.get
  match m.place? index with
  | some place => set { m with nodes := m.nodes.modify place fun d => { d with comment } }
  | none => throw (.fault .outOfRange)

/-- The model, no longer to be changed. -/
def freeze (m : CodeModel) : CodeModel :=
  { m with frozen := true }

end CodeModel

end ClientGen
