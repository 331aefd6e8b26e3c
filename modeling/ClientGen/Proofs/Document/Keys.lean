import ClientGen.Json.Access
import Mathlib.Data.List.Nodup

/-!
# Documents with distinct keys

An object of a document has each key once: this is how documents are read, and what the
names of schemas, resources and methods rely on. A value of the type of JSON values may be
an object that has a key twice, so the condition has to be said
(`ClientGen.Json.hasDistinctKeys`). It is handed down to the object under a key
(`ClientGen.Json.distinctKeys_objectAt`).
-/

namespace ClientGen

/-- The fields of an object; none of any other value. -/
def Json.fieldsOf : Json → Fields
  | .object fields => fields
  | _ => []

/-- The fields of the object under a key; none if there is no object under it. -/
def Fields.objectAt (fields : Fields) (key : String) : Fields :=
  (fields.get key).fieldsOf

theorem Fields.objectAt_of_entries {fields entries : Fields} {key : String}
    (h : (fields.get key).entries = .ok entries) : fields.objectAt key = entries := by
  rw [objectAt]
  rw [Json.entries.eq_def] at h
  cases hvalue : fields.get key with
  | object inner =>
    rw [hvalue] at h
    cases h
    rfl
  | _ =>
    rw [hvalue] at h
    dsimp only at h
    split at h
    · cases h
    · cases h
      rfl

namespace Json

mutual

/-- Whether every object in a value has each of its keys once. -/
def hasDistinctKeys : Json → Bool
  | .list xs => allDistinctKeys xs
  | .object fs => decide (fs.map Prod.fst).Nodup && fieldsDistinctKeys fs
  | _ => true

/-- Whether every object in some values has each of its keys once. -/
def allDistinctKeys : List Json → Bool
  | [] => true
  | x :: xs => hasDistinctKeys x && allDistinctKeys xs

/-- Whether every object in some fields has each of its keys once. -/
def fieldsDistinctKeys : List (String × Json) → Bool
  | [] => true
  | (_, v) :: fs => hasDistinctKeys v && fieldsDistinctKeys fs

end

theorem hasDistinctKeys_object {fs : Fields} :
    (Json.object fs).hasDistinctKeys = true ↔
      (fs.map Prod.fst).Nodup ∧ fieldsDistinctKeys fs = true := by
  rw [hasDistinctKeys, Bool.and_eq_true, decide_eq_true_iff]

theorem hasDistinctKeys_of_find? {fs : Fields} (h : fieldsDistinctKeys fs = true)
    {name : String} {v : Json} (hv : fs.find? name = some v) : v.hasDistinctKeys = true := by
  induction fs with
  | nil => cases hv
  | cons f rest ih =>
    obtain ⟨key, value⟩ := f
    rw [fieldsDistinctKeys, Bool.and_eq_true] at h
    rw [Fields.find?] at hv
    split at hv
    · cases hv
      exact h.1
    · exact ih h.2 hv

theorem distinctKeys_objectAt {fs : Fields} (h : fieldsDistinctKeys fs = true) (key : String) :
    ((fs.objectAt key).map Prod.fst).Nodup ∧ fieldsDistinctKeys (fs.objectAt key) = true := by
  rw [Fields.objectAt, Fields.get]
  cases hfound : fs.find? key with
  | none => exact ⟨List.nodup_nil, rfl⟩
  | some v =>
    have hkeys := hasDistinctKeys_of_find? h hfound
    cases v with
    | object inner => exact hasDistinctKeys_object.1 hkeys
    | _ => exact ⟨List.nodup_nil, rfl⟩

end Json

end ClientGen
