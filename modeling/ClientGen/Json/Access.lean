import ClientGen.Issue
import ClientGen.Number.Reading
import ClientGen.Text.Blank

/-!
# Using JSON values of unknown shape

The operations that the generator applies to values it has not looked at: asking for
fields, going through elements, testing membership, using a value as a key, adding two
values. Each works on some shapes of values and is a fault on the others.
-/

namespace ClientGen.Json

/-- The fields of a value that is an object or counts as absent. -/
def entries : Json → Outcome Fields
  | .object fs => .ok fs
  | v => if v.truthy then Outcome.fault .noSuchPart else .ok []

/-- The elements of a value: those of a list, the characters of a text, the keys of an
object. -/
def elements : Json → Outcome (List Json)
  | .list xs => .ok xs
  | .str s => .ok (s.toList.map fun c => .str (String.singleton c))
  | .object fs => .ok (fs.map fun f => .str f.1)
  | _ => Outcome.fault .wrongKind

/-- The elements of a value; none if it counts as absent. -/
def elementsOrNone (v : Json) : Outcome (List Json) :=
  if v.truthy then v.elements else .ok []

/-- Whether a value is a given text. -/
def isText (v : Json) (name : String) : Bool :=
  match v with
  | .str s => s == name
  | _ => false

theorem isText_iff {v : Json} {name : String} : v.isText name = true ↔ v = .str name := by
  cases v <;> simp [Json.isText]

/-- Whether a value is a text. -/
def isString : Json → Bool
  | .str _ => true
  | _ => false

theorem exists_of_isString {v : Json} (h : v.isString = true) : ∃ s, v = .str s := by
  cases v with
  | str s => exact ⟨s, rfl⟩
  | _ => cases h

/-- Values that are all texts are the values of some texts. -/
theorem exists_texts {vs : List Json} (h : ∀ v ∈ vs, v.isString = true) :
    ∃ texts : List String, vs = texts.map .str := by
  induction vs with
  | nil => exact ⟨[], rfl⟩
  | cons v rest ih =>
    obtain ⟨hv, hrest⟩ := List.forall_mem_cons.1 h
    obtain ⟨texts, rfl⟩ := ih hrest
    obtain ⟨text, rfl⟩ := exists_of_isString hv
    exact ⟨text :: texts, rfl⟩

/-- The text that a value has to be. -/
def asText : Json → Outcome String
  | .str s => .ok s
  | _ => Outcome.fault .wrongKind

/-- The line that a value has to be. -/
def asLine : Json → Outcome String
  | .str s => .ok s
  | _ => Outcome.fault .noSuchPart

mutual

/-- Whether an integer in a value has more digits than are written. -/
def hasLongInt : Json → Bool
  | .int n => Number.isLong n
  | .list xs => anyLongInt xs
  | .object fs => anyLongField fs
  | _ => false

/-- Whether an integer in some values has more digits than are written. -/
def anyLongInt : List Json → Bool
  | [] => false
  | x :: xs => hasLongInt x || anyLongInt xs

/-- Whether an integer in some fields has more digits than are written. -/
def anyLongField : List (String × Json) → Bool
  | [] => false
  | (_, v) :: fs => hasLongInt v || anyLongField fs

end

/-- **The text of a value as a part of a longer text.** Integers that are too long are not
written. -/
def written (v : Json) : Outcome String :=
  if v.hasLongInt then Outcome.fault .tooManyDigits else .ok v.text

@[simp] theorem written_str (s : String) : written (.str s) = .ok s := rfl

/-- Whether a text is a member of a value: an element of a list, a part of a text, a key
of an object. -/
def holds (v : Json) (name : String) : Outcome Bool :=
  match v with
  | .list xs => .ok (xs.any (·.isText name))
  | .str s => .ok (Text.contains s name)
  | .object fs => .ok (Fields.has fs name)
  | _ => Outcome.fault .wrongKind

/-- Refuse a value that cannot be a key: a list or an object. -/
def asKey : Json → Outcome Json
  | .list _ => Outcome.fault .wrongKind
  | .object _ => Outcome.fault .wrongKind
  | v => .ok v

theorem asKey_eq_ok {v w : Json} (h : v.asKey = .ok w) : w = v := by
  cases v <;> first | (cases h; rfl) | cases h

/-- The text that a value used as a key is, if it is one. -/
def keyText? (v : Json) : Outcome (Option String) :=
  match v with
  | .str s => .ok (some s)
  | .list _ => Outcome.fault .wrongKind
  | .object _ => Outcome.fault .wrongKind
  | _ => .ok none

/-- The integer that a value counts as: truth values count as zero and one. -/
def asInt? : Json → Option Int
  | .bool b => some (if b then 1 else 0)
  | .int n => some n
  | _ => none

/-- Whether two values are the same key. Numbers are compared by value, and truth values
are numbers. -/
def sameKey (v w : Json) : Bool :=
  match v.asInt?, w.asInt? with
  | some m, some n => m == n
  | some m, none => match w with
    | .float y => y.eqInt m
    | _ => false
  | none, some n => match v with
    | .float x => x.eqInt n
    | _ => false
  | none, none => match v, w with
    | .null, .null => true
    | .float x, .float y => x.eqNumber y
    | .str s, .str t => s == t
    | _, _ => false

/-- Texts are the same key if they are equal. -/
@[simp] theorem sameKey_str (s t : String) : sameKey (.str s) (.str t) = (s == t) := rfl

theorem eq_of_sameKey_str {v : Json} {s : String} (h : v.sameKey (.str s) = true) :
    v = .str s := by
  cases v with
  | str t => rw [eq_of_beq h]
  | _ => cases h

theorem sameKey_comm (v w : Json) : v.sameKey w = w.sameKey v := by
  cases v <;> cases w <;> simp [sameKey, asInt?, BEq.comm, Binary64.eqNumber_comm]

/-- Keep the first of the values that are the same key. -/
def distinctKeys : List Json → List Json
  | [] => []
  | v :: vs => v :: (distinctKeys vs).filter fun w => !v.sameKey w

theorem mem_of_mem_distinctKeys {vs : List Json} {v : Json} (h : v ∈ distinctKeys vs) :
    v ∈ vs := by
  induction vs with
  | nil => exact h
  | cons w ws ih =>
    rcases List.mem_cons.1 h with rfl | h
    · exact List.mem_cons_self
    · exact List.mem_cons_of_mem w (ih (List.mem_filter.1 h).1)

/-- The value as a double-precision number. -/
def asNumber : Json → Outcome Binary64
  | .float x => .ok x
  | v => match v.asInt? with
    | none => Outcome.fault .wrongKind
    | some n => match Binary64.ofInt? n with
      | some x => .ok x
      | none => Outcome.fault .tooLarge

/-- Whether a value is a number; truth values are. -/
def isNumber : Json → Bool
  | .bool _ => true
  | .int _ => true
  | .float _ => true
  | _ => false

/-- **The sum of two values**: texts and lists are joined, numbers are added. -/
def add (v w : Json) : Outcome Json :=
  match v, w with
  | .str s, .str t => .ok (.str (s ++ t))
  | .list xs, .list ys => .ok (.list (xs ++ ys))
  | _, _ =>
    match v.asInt?, w.asInt? with
    | some m, some n => .ok (.int (m + n))
    | _, _ =>
      if v.isNumber && w.isNumber then do
        let x ← v.asNumber
        let y ← w.asNumber
        return .float (x.add y)
      else Outcome.fault .wrongKind

end ClientGen.Json
