import ClientGen.Json.Basic

/-!
# Tables

A table from texts to names that remembers the order in which its keys were first set. A
name is a value of any shape.
-/

namespace ClientGen

/-- A table: its entries in the order of their keys' first appearance. -/
abbrev Table : Type := List (String × Json)

namespace Table

/-- The entry of a key. -/
def find? (t : Table) (key : String) : Option Json :=
  t.lookup key

/-- Whether a key has an entry. -/
def has (t : Table) (key : String) : Bool :=
  (t.find? key).isSome

/-- The values of a table, in order. -/
def values (t : Table) : List Json :=
  t.map Prod.snd

/-- Set the entry of a key: a key that has one keeps its place, a new one goes last. -/
def set (t : Table) (key : String) (value : Json) : Table :=
  match t with
  | [] => [(key, value)]
  | (k, v) :: rest => if k = key then (k, value) :: rest else (k, v) :: set rest key value

theorem find?_set_self (t : Table) (key : String) (value : Json) :
    (t.set key value).find? key = some value := by
  induction t with
  | nil => simp [set, find?]
  | cons e rest ih =>
    obtain ⟨k, v⟩ := e
    by_cases hk : k = key
    · simp [set, find?, hk]
    · have hb : (key == k) = false := by simpa using fun h : key = k => hk h.symm
      simpa [set, find?, hk, List.lookup_cons, hb] using ih

theorem find?_set_of_ne (t : Table) {key other : String} (value : Json) (h : other ≠ key) :
    (t.set key value).find? other = t.find? other := by
  induction t with
  | nil =>
    have hb : (other == key) = false := by simpa using h
    simp [set, find?, List.lookup_cons, hb]
  | cons e rest ih =>
    obtain ⟨k, v⟩ := e
    by_cases hk : k = key
    · have hb : (other == key) = false := by simpa using h
      simp [set, find?, hk, List.lookup_cons, hb]
    · by_cases ho : other = k
      · simp [set, find?, hk, ho]
      · have hb : (other == k) = false := by simpa using ho
        simpa [set, find?, hk, List.lookup_cons, hb] using ih

end Table

end ClientGen
