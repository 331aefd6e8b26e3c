import ClientGen.Number.Binary64

/-!
# JSON values

The values of JSON documents. Integers and double-precision numbers are kept apart, and an
object keeps its fields in the order in which they were written, since that order decides
the order of what is generated. A reader of documents gives each key once.
-/

namespace ClientGen

/-- A JSON value. -/
inductive Json
  /-- The null value. -/
  | null : Json
  /-- A truth value. -/
  | bool (value : Bool) : Json
  /-- An integer of any size. -/
  | int (value : Int) : Json
  /-- A double-precision number. -/
  | float (value : Binary64) : Json
  /-- A text. -/
  | str (value : String) : Json
  /-- A list of values. -/
  | list (elements : List Json) : Json
  /-- An object: its fields in order. -/
  | object (fields : List (String × Json)) : Json
  deriving Inhabited

/-- The fields of a JSON object, in order. -/
abbrev Fields : Type := List (String × Json)

namespace Fields

/-- The value of the field with a name, if there is one. -/
def find? (fields : Fields) (name : String) : Option Json :=
  match fields with
  | [] => none
  | (k, v) :: rest => if k = name then some v else find? rest name

/-- The value of the field with a name, null if there is none. -/
def get (fields : Fields) (name : String) : Json :=
  (fields.find? name).getD .null

/-- Whether there is a field with a name. -/
def has (fields : Fields) (name : String) : Bool :=
  (fields.find? name).isSome

/-- Give a field a value: a field of that name keeps its place, a new one goes last. -/
def set (fields : Fields) (name : String) (value : Json) : Fields :=
  match fields with
  | [] => [(name, value)]
  | (k, v) :: rest => if k = name then (k, value) :: rest else (k, v) :: set rest name value

/-- A field that is found is one of the fields. -/
theorem mem_of_find? {fields : Fields} {name : String} {v : Json}
    (h : fields.find? name = some v) : (name, v) ∈ fields := by
  induction fields with
  | nil => cases h
  | cons f rest ih =>
    obtain ⟨k, w⟩ := f
    rw [find?] at h
    split at h
    · rename_i hk
      cases h
      rw [hk]
      exact List.mem_cons_self
    · exact List.mem_cons_of_mem _ (ih h)

/-- A field's value is smaller than the object. -/
theorem sizeOf_lt_of_find? {fields : Fields} {name : String} {v : Json}
    (h : fields.find? name = some v) : sizeOf v < sizeOf fields := by
  induction fields with
  | nil => simp [find?] at h
  | cons f rest ih =>
    obtain ⟨k, w⟩ := f
    rw [find?] at h
    split at h
    · cases h
      simp +arith
    · have := ih h
      simp only [List.cons.sizeOf_spec]
      omega

end Fields

namespace Json

instance : Coe String Json :=
  ⟨.str⟩

/-- Whether a value counts as present where a condition is asked for: null, `false`, the
zeros and the empty texts, lists and objects do not. -/
def truthy : Json → Bool
  | .null => false
  | .bool b => b
  | .int n => n != 0
  | .float x => !x.isZero
  | .str s => !s.isEmpty
  | .list xs => !xs.isEmpty
  | .object fs => !fs.isEmpty

end Json

end ClientGen
