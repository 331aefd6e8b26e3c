import ClientGen.CSharp.Literal
import ClientGen.CSharp.TypeName
import ClientGen.Number.Reading
import ClientGen.Proofs.Session
import Mathlib.Algebra.Group.Int.Defs

/-!
# Values of types

A text of a document becomes a literal of the kind that a type accepts
(`ClientGen.TypeName.literalOf?`). Which values a type has is another matter
(`ClientGen.TypeName.holds`): the integer types have the integers of 32 and 64 bits, and the types
of numbers those that are finite. A literal that a text becomes is always of the right kind, so
that a type lacks it only if it is a number out of range
(`ClientGen.TypeName.holds_iff_of_literalOf?`).

A literal can be written if it has 64 bits, with a sign or without, or is a finite number
(`ClientGen.CSharp.exists_literal_iff`). This is so for every value that a type has, but not the
other way around.
-/

namespace ClientGen

namespace TypeName

/-! ### What a text becomes -/

/-- The kind of literal that a type accepts. -/
def kindOf (type : String) : LiteralKind :=
  match type with
  | "int?" | "long?" | "ulong?" => .integer
  | "double?" | "float?" => .number
  | "bool?" => .boolean
  | _ => .string

theorem literalKind_str (type : String) : literalKind (.str type) = .ok (kindOf type) := by
  simp only [literalKind, kindOf, Json.keyText?, bind, Except.bind]
  split <;> simp_all [pure, Except.pure]

/-- **The literal that a text becomes** for a type, if it is one of the kind. -/
def literalOf? (type text : String) : Option Json :=
  match kindOf type with
  | .integer => (Number.readInt? text).map .int
  | .number => (Number.readNumber? text).map .float
  | .boolean =>
    if text = "true" then some (.bool true)
    else if text = "false" then some (.bool false)
    else none
  | .string => some (.str text)

/-- **A literal of a kind that comes from a text.** -/
inductive Comes (text : String) : LiteralKind → Json → Prop
  | integer {n : Int} (h : Number.readInt? text = some n) : Comes text .integer (.int n)
  | number {x : Binary64} (h : Number.readNumber? text = some x) : Comes text .number (.float x)
  | boolean {b : Bool} (h : text = if b then "true" else "false") : Comes text .boolean (.bool b)
  | string : Comes text .string (.str text)

theorem comes_of_literalOf? {type text : String} {value : Json}
    (h : literalOf? type text = some value) : Comes text (kindOf type) value := by
  rw [literalOf?] at h
  split at h
  · next hkind =>
    obtain ⟨n, hread, rfl⟩ := Option.map_eq_some_iff.1 h
    exact hkind ▸ .integer hread
  · next hkind =>
    obtain ⟨x, hread, rfl⟩ := Option.map_eq_some_iff.1 h
    exact hkind ▸ .number hread
  · next hkind =>
    split at h
    · next htext =>
      cases h
      exact hkind ▸ .boolean htext
    · split at h
      · next htext =>
        cases h
        exact hkind ▸ .boolean htext
      · cases h
  · next hkind =>
    cases h
    exact hkind ▸ .string

/-! ### What a type has -/

/-- The types of primitives. -/
def primitives : List String :=
  ["string", "object", "int?", "long?", "ulong?", "double?", "float?", "bool?"]

/-- The least and the greatest integer of a type of integers. -/
def bounds? : String → Option (Int × Int)
  | "int?" => some (-2 ^ 31, 2 ^ 31 - 1)
  | "long?" => some (-2 ^ 63, 2 ^ 63 - 1)
  | "ulong?" => some (0, 2 ^ 64 - 1)
  | _ => none

/-- **Whether a type has a value.** -/
def holds (type : String) : Json → Bool
  | .int n => (bounds? type).any fun b => decide (b.1 ≤ n) && decide (n ≤ b.2)
  | .float x => (type == "double?" || type == "float?") && x.isFinite
  | .bool _ => type == "bool?"
  | .str _ => type == "string" || type == "object"
  | _ => false

/-- **A number that is out of the range of a type.** -/
inductive Overflows (type : String) : Json → Prop
  | below {n low high : Int} (hbounds : bounds? type = some (low, high)) (h : n < low) :
    Overflows type (.int n)
  | above {n low high : Int} (hbounds : bounds? type = some (low, high)) (h : high < n) :
    Overflows type (.int n)
  | infinite {x : Binary64} (h : x.isFinite = false) : Overflows type (.float x)

theorem mem_primitives {name : String} {format : Json} {type : String}
    (h : ofPrimitive name format = .ok type) : type ∈ primitives := by
  have hname : ofName name ∈ primitives := by
    unfold ofName
    split <;> decide
  obtain ⟨key, -, h⟩ := Outcome.bind_eq_ok.1 h
  cases key with
  | none =>
    cases h
    exact hname
  | some text =>
    cases h
    cases hformat : ofFormat? name text with
    | none => exact hname
    | some type =>
      unfold ofFormat? at hformat
      split at hformat <;> cases hformat <;> decide

theorem holds_int {type : String} {low high : Int} (h : bounds? type = some (low, high)) (n : Int) :
    holds type (.int n) = true ↔ ¬ Overflows type (.int n) := by
  rw [holds, h, Option.any_some, Bool.and_eq_true, decide_eq_true_iff, decide_eq_true_iff]
  constructor
  · rintro ⟨hlow, hhigh⟩ (⟨hbounds, hlt⟩ | ⟨hbounds, hlt⟩)
    · rw [h] at hbounds
      cases hbounds
      omega
    · rw [h] at hbounds
      cases hbounds
      omega
  · intro hin
    exact ⟨Int.not_lt.1 fun hlt => hin (.below h hlt), Int.not_lt.1 fun hlt => hin (.above h hlt)⟩

theorem holds_float {type : String} (h : (type == "double?" || type == "float?") = true)
    (x : Binary64) : holds type (.float x) = true ↔ ¬ Overflows type (.float x) := by
  rw [holds, h, Bool.true_and]
  constructor
  · rintro hfinite ⟨⟩
    simp_all
  · intro hin
    exact Bool.of_not_eq_false fun hinfinite => hin (.infinite hinfinite)

/-- **A type has the literal that a text becomes, unless it is a number out of range.** -/
theorem holds_iff_of_literalOf? {type text : String} {value : Json} (htype : type ∈ primitives)
    (h : literalOf? type text = some value) : holds type value = true ↔ ¬ Overflows type value := by
  have hvalue := comes_of_literalOf? h
  generalize hkind : kindOf type = kind at hvalue
  simp only [primitives, List.mem_cons, List.not_mem_nil, or_false] at htype
  rcases htype with rfl | rfl | rfl | rfl | rfl | rfl | rfl | rfl <;> cases hkind <;> cases hvalue
  · exact ⟨fun _ => nofun, fun _ => rfl⟩
  · exact ⟨fun _ => nofun, fun _ => rfl⟩
  · exact holds_int rfl _
  · exact holds_int rfl _
  · exact holds_int rfl _
  · exact holds_float rfl _
  · exact holds_float rfl _
  · exact ⟨fun _ => nofun, fun _ => rfl⟩

end TypeName

/-! ### What can be written -/

namespace CSharp

/-- **A number for which there is no literal.** -/
inductive Exceeds : Json → Prop
  | below {n : Int} (h : n < minInteger) : Exceeds (.int n)
  | above {n : Int} (h : maxInteger < n) : Exceeds (.int n)
  | infinite {x : Binary64} (h : x.isFinite = false) : Exceeds (.float x)

theorem exists_literal_int (n : Int) (location : Json) :
    (∃ written, literal (.int n) location = .ok written) ↔ ¬ Exceeds (.int n) := by
  rw [literal]
  constructor
  · rintro ⟨written, hwritten⟩ hexceeds
    split at hwritten
    · next hin =>
      obtain hlt | hlt := hexceeds
      · exact Int.not_lt.2 hin.1 hlt
      · exact Int.not_lt.2 hin.2 hlt
    · obtain ⟨_, -, hwritten⟩ := Outcome.bind_eq_ok.1 hwritten
      cases hwritten
  · intro hin
    have hrange : minInteger ≤ n ∧ n ≤ maxInteger :=
      ⟨Int.not_lt.1 fun h => hin (.below h), Int.not_lt.1 fun h => hin (.above h)⟩
    exact ⟨toString n, if_pos hrange⟩

theorem exists_literal_float (x : Binary64) (location : Json) :
    (∃ written, literal (.float x) location = .ok written) ↔ ¬ Exceeds (.float x) := by
  rw [literal]
  cases hfinite : x.isFinite with
  | true =>
    refine ⟨fun _ => ?_, fun _ => ⟨x.text, rfl⟩⟩
    rintro ⟨⟩
    simp_all
  | false => exact ⟨nofun, fun hin => absurd (.infinite hfinite) hin⟩

/-- **A literal that comes from a text can be written, unless it is a number that exceeds them
all.** -/
theorem exists_literal_iff {text : String} {kind : LiteralKind} {value : Json}
    (h : TypeName.Comes text kind value) (location : Json) :
    (∃ written, literal value location = .ok written) ↔ ¬ Exceeds value := by
  cases h with
  | integer _ => exact exists_literal_int _ location
  | number _ => exact exists_literal_float _ location
  | boolean _ => exact ⟨fun _ => nofun, fun _ => ⟨_, rfl⟩⟩
  | string => exact ⟨fun _ => nofun, fun _ => ⟨_, rfl⟩⟩

/-- **A value that a type has is no number that exceeds all literals.** -/
theorem not_exceeds_of_holds {type : String} {value : Json} (h : TypeName.holds type value = true) :
    ¬ Exceeds value := by
  have hbounds {low high : Int} (hb : TypeName.bounds? type = some (low, high)) :
      minInteger ≤ low ∧ high ≤ maxInteger := by
    unfold TypeName.bounds? at hb
    split at hb <;> cases hb <;> decide
  have hrange {n : Int} (h : TypeName.holds type (.int n) = true) :
      minInteger ≤ n ∧ n ≤ maxInteger := by
    obtain ⟨⟨low, high⟩, hb, hin⟩ := (Option.any_eq_true _ _).1 h
    obtain ⟨hlow, hhigh⟩ := (Bool.and_eq_true _ _).mp hin
    have hwide := hbounds hb
    exact ⟨Int.le_trans hwide.1 (of_decide_eq_true hlow),
      Int.le_trans (of_decide_eq_true hhigh) hwide.2⟩
  rintro (hlt | hlt | hinfinite)
  · exact Int.not_lt.2 (hrange h).1 hlt
  · exact Int.not_lt.2 (hrange h).2 hlt
  · rw [TypeName.holds, hinfinite, Bool.and_false] at h
    cases h

end CSharp

end ClientGen
