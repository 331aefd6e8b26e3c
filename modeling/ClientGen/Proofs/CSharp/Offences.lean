import ClientGen.Proofs.Code.Edits

/-!
# What C# cannot express

A declaration **offends** (`ClientGen.Declaration.Offends`) if C# has no form for it: a
declaration of no kind, a property with accessors that do not go together, a constant with
modifiers, a statement of no kind, or an expression with something in it that cannot be
written. Only the parts of a declaration that are written count: the statements of an
automatic property are not looked at, nor are the arguments that a method which is no
constructor would hand to the constructor of a base class.

The renderer of C# is not mentioned here. What the parts of a declaration are is said once
(`ClientGen.DeclarationBody.statements`, `ClientGen.DeclarationBody.expressions`), and an
expression is looked into to any depth of object creation (`ClientGen.Expression.Inside`).

The names and the types of a declaration are meant to be texts, and so are the pieces of the
target language in it. A declaration that keeps to that is **typed**
(`ClientGen.Declaration.Typed`); values and defaults are free.
-/

namespace ClientGen

/-! ### Expressions -/

/-- Whether a value has a literal: a text, a truth value, nothing, a finite number, or an
integer that a type of 64 bits holds. -/
def Json.IsExpressible : Json → Prop
  | .null | .bool _ | .str _ => True
  | .int n => CSharp.minInteger ≤ n ∧ n ≤ CSharp.maxInteger
  | .float x => x.isFinite = true
  | .list _ | .object _ => False

namespace Expression

/-- `Inside part e`: the expression itself, or one inside an argument of the object that it
creates. -/
inductive Inside (part : Expression) : Expression → Prop
  /-- Every expression is inside itself. -/
  | self : Inside part part
  /-- What is inside an argument is inside the creation of the object. -/
  | argument {type : Json} {args : List Expression} {arg : Expression} : arg ∈ args →
      Inside part arg → Inside part (.create type args)

/-- Whether an expression has no form of its own: one of no kind, a missing one, or a literal
of a value without one. -/
def Unwritable : Expression → Prop
  | .bare | .absent => True
  | .literal value => ¬value.IsExpressible
  | .snippet _ | .create _ _ => False

/-- Whether there is something unwritable inside an expression. -/
def IsWrong (e : Expression) : Prop :=
  ∃ part, Inside part e ∧ part.Unwritable

/-- Whether an integer inside an expression has more digits than are written. -/
def HoldsLong (e : Expression) : Prop :=
  ∃ n, Inside (.literal (.int n)) e ∧ Number.isLong n = true

/-- Whether the types and the pieces of the target language in an expression are texts. -/
inductive Typed : Expression → Prop
  | literal (value : Json) : Typed (.literal value)
  | snippet (text : String) : Typed (.snippet text)
  | create {type : String} {args : List Expression} : (∀ arg ∈ args, Typed arg) →
      Typed (.create type args)
  | bare : Typed .bare
  | absent : Typed .absent

theorem isWrong_literal {value : Json} : (literal value).IsWrong ↔ ¬value.IsExpressible := by
  constructor
  · rintro ⟨_, ⟨⟩, h⟩
    exact h
  · exact fun h => ⟨_, Inside.self, h⟩

theorem not_isWrong_snippet (text : Json) : ¬(snippet text).IsWrong := by
  rintro ⟨_, ⟨⟩, h⟩
  exact h

theorem isWrong_create {type : Json} {args : List Expression} :
    (create type args).IsWrong ↔ ∃ arg ∈ args, arg.IsWrong := by
  constructor
  · rintro ⟨part, hinside, hpart⟩
    cases hinside with
    | self => exact absurd hpart id
    | argument harg hinside => exact ⟨_, harg, part, hinside, hpart⟩
  · rintro ⟨arg, harg, part, hinside, hpart⟩
    exact ⟨part, hinside.argument harg, hpart⟩

theorem isWrong_bare : bare.IsWrong := ⟨bare, Inside.self, trivial⟩

theorem isWrong_absent : absent.IsWrong := ⟨absent, Inside.self, trivial⟩

end Expression

/-! ### The parts that are written -/

/-- The expression that a statement needs: a return may do without. -/
def Statement.expression? : Statement → Option Expression
  | .ret .absent => none
  | .ret value => some value
  | .assign _ value => some value
  | .snippet _ | .bare => none

/-- The default of a parameter, if it has one. -/
def Argument.default? (a : Argument) : Option Expression :=
  match a.default with
  | .absent => none
  | value => some value

/-- Whether a statement is of no kind or needs an expression that is wrong. -/
def Statement.IsWrong (s : Statement) : Prop :=
  s = .bare ∨ ∃ e ∈ s.expression?, e.IsWrong

theorem Statement.expression?_ret {value : Expression} (h : value ≠ .absent) :
    (Statement.ret value).expression? = some value := by
  cases value with
  | absent => exact absurd rfl h
  | _ => rfl

theorem Statement.isWrong_of_expression? {s : Statement} {e : Expression}
    (he : s.expression? = some e) : s.IsWrong ↔ e.IsWrong := by
  cases s with
  | bare => cases he
  | _ => simp [IsWrong, he]

theorem Argument.default?_of_ne {a : Argument} (h : a.default ≠ .absent) :
    a.default? = some a.default := by
  unfold default?
  split
  · exact absurd ‹_› h
  · rfl

theorem exists_mem_filterMap {α β : Type} {f : α → Option β} {as : List α} {p : β → Prop} :
    (∃ b ∈ as.filterMap f, p b) ↔ ∃ a ∈ as, ∃ b ∈ f a, p b := by
  constructor
  · rintro ⟨b, hb, hp⟩
    obtain ⟨a, ha, hb⟩ := List.mem_filterMap.1 hb
    exact ⟨a, ha, b, hb, hp⟩
  · rintro ⟨a, ha, b, hb, hp⟩
    exact ⟨b, List.mem_filterMap.2 ⟨a, ha, hb⟩, hp⟩

theorem Statement.exists_isWrong_iff {body : List Statement} :
    (∃ s ∈ body, s.IsWrong) ↔
      .bare ∈ body ∨ ∃ e ∈ body.filterMap Statement.expression?, e.IsWrong := by
  rw [exists_mem_filterMap]
  simp [IsWrong, and_or_left, exists_or]

/-- **The statements that are written for a declaration.** An accessor without statements is
automatic, and then the other one is too. -/
def DeclarationBody.statements : DeclarationBody → List Statement
  | .property p => if p.getter = [] then [] else p.getter ++ if p.hasSet then p.setter else []
  | .method m => m.statements
  | _ => []

/-- **The expressions that are written for a declaration**, its attributes apart. -/
def DeclarationBody.expressions (body : DeclarationBody) : List Expression :=
  body.statements.filterMap Statement.expression? ++
    match body with
    | .method m => m.parameters.filterMap Argument.default? ++
        if m.isConstructor then m.baseCall.getD [] else []
    | .constant _ value => [.literal value]
    | _ => []

/-- **The expressions that are written for a declaration.** -/
def Declaration.expressions (d : Declaration) : List Expression :=
  d.attributes.flatMap Attribute.arguments ++ d.body.expressions

/-! ### Offending declarations -/

/-- Accessors that do not go together: none for reading, statements for a setter that there
is not, or one of two accessors automatic and the other one not. -/
inductive PropertyBody.Misfit (p : PropertyBody) : Prop
  | noGetter (h : p.hasGet = false) : Misfit p
  | noSetter (h : p.setter ≠ []) (hset : p.hasSet = false) : Misfit p
  | mixed (hset : p.hasSet = true) (h : ¬(p.getter = [] ↔ p.setter = [])) : Misfit p

namespace Declaration

/-- Whether a declaration has no form in C#, whatever is written inside it: one of no kind, a
property with accessors that do not go together, a constant with modifiers. -/
def Misshapen (d : Declaration) : Prop :=
  match d.body with
  | .bare => True
  | .property p => p.Misfit
  | .constant _ _ => d.modifiers ≠ []
  | .ofClass _ _ | .method _ => False

/-- **An offending declaration**: one without a form in C#, or one for which a statement of
no kind or an expression with something unwritable inside would have to be written. -/
inductive Offends (d : Declaration) : Prop
  | shape (h : d.Misshapen) : Offends d
  | statement (h : Statement.bare ∈ d.body.statements) : Offends d
  | expression {e : Expression} (he : e ∈ d.expressions) (h : e.IsWrong) : Offends d

/-- Whether an integer that is written for a declaration has too many digits for it. -/
def HoldsLong (d : Declaration) : Prop :=
  ∃ e ∈ d.expressions, e.HoldsLong

end Declaration

/-- Whether a declaration offends, its attributes apart. -/
def Declaration.BodyOffends (d : Declaration) : Prop :=
  d.Misshapen ∨ .bare ∈ d.body.statements ∨ ∃ e ∈ d.body.expressions, e.IsWrong

theorem Declaration.offends_iff {d : Declaration} :
    d.Offends ↔ d.BodyOffends ∨ ∃ a ∈ d.attributes, ∃ e ∈ a.arguments, e.IsWrong := by
  constructor
  · intro h
    cases h with
    | shape h => exact Or.inl (Or.inl h)
    | statement h => exact Or.inl (Or.inr (Or.inl h))
    | expression he h =>
      rcases List.mem_append.1 he with he | he
      · obtain ⟨a, ha, he⟩ := List.mem_flatMap.1 he
        exact Or.inr ⟨a, ha, _, he, h⟩
      · exact Or.inl (Or.inr (Or.inr ⟨_, he, h⟩))
  · rintro ((h | h | ⟨e, he, h⟩) | ⟨a, ha, e, he, h⟩)
    · exact .shape h
    · exact .statement h
    · exact .expression (List.mem_append_right _ he) h
    · exact .expression (List.mem_append_left _ (List.mem_flatMap.2 ⟨a, ha, he⟩)) h

/-! ### Texts where texts are meant -/

/-- A statement whose texts are texts. -/
inductive Statement.Typed : Statement → Prop
  | ret {value : Expression} (h : value.Typed) : Typed (.ret value)
  | assign {target : String} {value : Expression} (h : value.Typed) : Typed (.assign target value)
  | snippet (text : String) : Typed (.snippet text)
  | bare : Typed .bare

/-- A parameter whose name and type are texts. -/
structure Argument.Typed (a : Argument) : Prop where
  name : a.name.isString = true
  type : a.type.isString = true
  default : a.default.Typed

/-- An attribute whose name is a text. -/
structure Attribute.Typed (a : Attribute) : Prop where
  name : a.name.isString = true
  arguments : ∀ e ∈ a.arguments, e.Typed

/-- The types and statements of a kind of declaration. -/
inductive DeclarationBody.Typed : DeclarationBody → Prop
  | bare : Typed .bare
  | ofClass {bases : List Json} {members : List Nat}
      (h : ∀ base ∈ bases, base.isString = true) : Typed (.ofClass bases members)
  | property {p : PropertyBody} (htype : p.type.isString = true)
      (hget : ∀ s ∈ p.getter, s.Typed) (hset : ∀ s ∈ p.setter, s.Typed) : Typed (.property p)
  | method {m : MethodBody} (htype : m.returnType.isString = true)
      (hparams : ∀ a ∈ m.parameters, a.Typed) (hbody : ∀ s ∈ m.statements, s.Typed)
      (hcall : ∀ args, m.baseCall = some args → ∀ e ∈ args, e.Typed) : Typed (.method m)
  | constant {type value : Json} (htype : type.isString = true) : Typed (.constant type value)

/-- **A typed declaration**: its name is a text, its comment is one if it is there, and so
are the types and the pieces of the target language in it. -/
structure Declaration.Typed (d : Declaration) : Prop where
  name : d.name.isString = true
  comment : d.comment = .null ∨ d.comment.isString = true
  attributes : ∀ a ∈ d.attributes, a.Typed
  body : d.body.Typed

theorem Declaration.Typed.under {d : Declaration} (h : d.Typed) (owner : Option Int) :
    (d.under owner).Typed :=
  ⟨h.name, h.comment, h.attributes, h.body⟩

theorem Declaration.Typed.settle {d : Declaration} (h : d.Typed) (ds : List Declaration)
    (i : Nat) : (settle ds i d).Typed := by
  obtain ⟨hname, hcomment, hattributes, hbody⟩ := h
  rcases d with ⟨_, _, _, _, _, _, body⟩
  cases body with
  | ofClass bases members =>
    obtain _ | hbases := hbody
    exact ⟨hname, hcomment, hattributes, .ofClass hbases⟩
  | _ => exact ⟨hname, hcomment, hattributes, hbody⟩

/-- An edit that adds a typed declaration, or none. -/
def Edit.Typed : Edit → Prop
  | .add _ d => d.Typed
  | .rollback _ | .freeze => True

/-! ### Offending places of a model -/

namespace CodeModel

/-- `Nests m i j`: the declaration at `j` is the one at `i`, or nested in one of its
members. -/
inductive Nests (m : CodeModel) : Nat → Nat → Prop
  /-- Every declaration is nested in itself. -/
  | self {i : Nat} : Nests m i i
  /-- What is nested in a member is nested in its class. -/
  | member {i p j : Nat} : p ∈ m.memberPlaces i → Nests m p j → Nests m i j

theorem exists_nests_iff {m : CodeModel} {i : Nat} {p : Nat → Prop} :
    (∃ j, m.Nests i j ∧ p j) ↔ p i ∨ ∃ k ∈ m.memberPlaces i, ∃ j, m.Nests k j ∧ p j := by
  constructor
  · rintro ⟨j, hnests, hj⟩
    cases hnests with
    | self => exact Or.inl hj
    | member hk hnests => exact Or.inr ⟨_, hk, j, hnests, hj⟩
  · rintro (hi | ⟨k, hk, j, hnests, hj⟩)
    · exact ⟨i, .self, hi⟩
    · exact ⟨j, .member hk hnests, hj⟩

/-- `Qualified m i names`: the names of the classes around a declaration, the outermost
first, and then its own name. -/
inductive Qualified (m : CodeModel) : Nat → List String → Prop
  /-- A declaration of the top level has its name. -/
  | top {i : Nat} {d : Declaration} {name : String} : m.nodes[i]? = some d → d.parent = none →
      d.name = .str name → Qualified m i [name]
  /-- A member has the names of its owner before its own. -/
  | member {i p : Nat} {d : Declaration} {name : String} {names : List String} :
      m.nodes[i]? = some d → d.parent = some (p : Int) → d.name = .str name →
      Qualified m p names → Qualified m i (names ++ [name])

/-- Whether the declaration at a place offends. -/
def OffendsAt (m : CodeModel) (i : Nat) : Prop :=
  ∃ d, m.nodes[i]? = some d ∧ d.Offends

/-- Whether the declaration at a place has an integer with too many digits to be written. -/
def HoldsLongAt (m : CodeModel) (i : Nat) : Prop :=
  ∃ d, m.nodes[i]? = some d ∧ d.HoldsLong

end CodeModel

end ClientGen
