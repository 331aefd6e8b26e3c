import ClientGen.Proofs.Document.Parts

/-!
# Verdicts on the parts of a document

A schema or a method that cannot be read is left out, and the rest of the document is read. That
holds of every part that is **malformed** in a way that the readers check for. A value that they
use without a check can also be **broken**: an object or a list is wanted and something else is
there, or a list or an object stands where a name is looked up. The fault that arises then is no
issue of the part, and the whole reading ends with it.

The verdict on a part (`ClientGen.Document.Verdict`) is told from its value alone, without paths
and without the item that would be read: what the readers look at is listed in order, and the
first that is not sound decides. A reading of the part then ends as the verdict says, with an
item, an issue or a fault (`ClientGen.Document.verdict_readSchema`,
`ClientGen.Document.verdict_readMethod`).
-/

namespace ClientGen

namespace Document

/-! ### Verdicts -/

/-- What a part of a document is worth. -/
inductive Verdict
  /-- The part can be read. -/
  | sound
  /-- The part has an issue. -/
  | malformed
  /-- The part has a value that the readers cannot use, and do not check. -/
  | broken
  deriving DecidableEq

namespace Verdict

/-- The first verdict, or the second one if the first is that all is sound. -/
def andThen : Verdict → Verdict → Verdict
  | .sound, later => later
  | .malformed, _ => .malformed
  | .broken, _ => .broken

/-- The first of some verdicts that is not that all is sound. -/
def all (vs : List Verdict) : Verdict :=
  vs.foldr andThen .sound

/-- The verdict on something that is checked. -/
def ofCheck (holds : Bool) : Verdict :=
  if holds then .sound else .malformed

/-- The verdict on something that is taken for granted. -/
def ofTrust (holds : Bool) : Verdict :=
  if holds then .sound else .broken

@[simp] theorem andThen_sound (v : Verdict) : v.andThen .sound = v := by
  cases v <;> rfl

theorem all_cons (v : Verdict) (vs : List Verdict) : all (v :: vs) = v.andThen (all vs) := rfl

end Verdict

open Verdict

/-- The verdict that an outcome gives on the part it was read from. -/
def verdictOf {α : Type} : Outcome α → Verdict
  | .ok _ => .sound
  | .error (.issue _) => .malformed
  | .error (.fault _) => .broken

@[simp] theorem verdictOf_pure {α : Type} (a : α) : verdictOf (pure a : Outcome α) = .sound := rfl

@[simp] theorem verdictOf_fault {α : Type} (f : Fault) :
    verdictOf (Outcome.fault f : Outcome α) = .broken := rfl

@[simp] theorem verdictOf_issue {α : Type} (cause : Cause) (location : Json) :
    verdictOf (Outcome.issue cause location : Outcome α) = .malformed := rfl

theorem verdictOf_bind {α β : Type} {o : Outcome α} {f : α → Outcome β} {v w : Verdict}
    (ho : verdictOf o = v) (hf : ∀ a, o = .ok a → verdictOf (f a) = w) :
    verdictOf (o >>= f) = v.andThen w := by
  subst ho
  rcases o with (i | f) | a
  · rfl
  · rfl
  · exact hf a rfl

theorem verdictOf_map {α β : Type} {o : Outcome α} {g : α → β} :
    verdictOf (o >>= fun a => pure (g a)) = verdictOf o := by
  rcases o with (i | f) | a <;> rfl

theorem verdictOf_mapM {α β : Type} {f : α → Outcome β} {judge : α → Verdict} (as : List α)
    (h : ∀ a ∈ as, verdictOf (f a) = judge a) : verdictOf (as.mapM f) = all (as.map judge) := by
  induction as with
  | nil => rfl
  | cons a as ih =>
    rw [List.mapM_cons, List.map_cons, all_cons]
    refine verdictOf_bind (h a List.mem_cons_self) fun b _ => ?_
    rw [verdictOf_map]
    exact ih fun a' ha' => h a' (List.mem_cons_of_mem a ha')

/-! ### Values that are used without a check -/

/-- Whether a value can be asked for its fields: it is an object or counts as absent. -/
def hasFields : Json → Bool
  | .object _ => true
  | v => !v.truthy

/-- Whether a value can be gone through: it is a list, a text or an object, or counts as absent. -/
def hasElements : Json → Bool
  | .list _ | .str _ | .object _ => true
  | v => !v.truthy

/-- The elements of a value that can be gone through. -/
def elementsOf : Json → List Json
  | .list xs => xs
  | .str s => s.toList.map fun c => .str (String.singleton c)
  | .object fs => fs.map fun f => .str f.1
  | _ => []

theorem verdictOf_entries (v : Json) : verdictOf v.entries = ofTrust (hasFields v) := by
  cases v with
  | object fs => rfl
  | _ =>
    simp only [Json.entries, hasFields]
    split <;> simp_all [verdictOf, ofTrust, Outcome.fault]

theorem elementsOrNone_eq (v : Json) :
    v.elementsOrNone = if hasElements v then .ok (elementsOf v) else Outcome.fault .wrongKind := by
  cases v with
  | list xs => cases xs <;> rfl
  | str s =>
    by_cases hs : s = ""
    · subst hs
      rfl
    · have htruthy : (Json.str s).truthy = true := by simp [Json.truthy, hs]
      rw [Json.elementsOrNone, if_pos htruthy]
      rfl
  | object fs => cases fs <;> rfl
  | _ =>
    simp only [Json.elementsOrNone, hasElements, Json.elements, elementsOf]
    split <;> simp_all

theorem verdictOf_elementsOrNone (v : Json) :
    verdictOf v.elementsOrNone = ofTrust (hasElements v) := by
  rw [elementsOrNone_eq, ofTrust]
  split <;> rfl

theorem elementsOf_of_elementsOrNone {v : Json} {xs : List Json}
    (h : v.elementsOrNone = .ok xs) : elementsOf v = xs := by
  rw [elementsOrNone_eq] at h
  split at h <;> cases h
  rfl

/-- The verdict on a value that is looked up among some names. A list or an object cannot be
looked up. -/
def judgeName (names : List String) : Json → Verdict
  | .str s => ofCheck (decide (s ∈ names))
  | .list _ | .object _ => .broken
  | _ => .malformed

theorem verdictOf_keyText? {α : Type} {names : List String} {v : Json} {later : Verdict}
    {f : Option String → Outcome α} (hnone : verdictOf (f none) = .malformed)
    (hmem : ∀ s ∈ names, verdictOf (f (some s)) = later)
    (hother : ∀ s ∉ names, verdictOf (f (some s)) = .malformed) :
    verdictOf (v.keyText? >>= f) = (judgeName names v).andThen later := by
  cases v with
  | str s =>
    by_cases hs : s ∈ names
    · rw [judgeName, decide_eq_true hs]
      exact hmem s hs
    · rw [judgeName, decide_eq_false hs]
      exact hother s hs
  | list xs => rfl
  | object fs => rfl
  | _ => exact hnone

/-! ### Types and schemas -/

mutual

/-- **The verdict on a type description.** -/
def judgeType (fields : Fields) : Verdict :=
  if fields.has "$ref" then .sound
  else (ofTrust (hasElements (fields.get "enum"))).andThen <|
    if (fields.get "type").isText "array" then
      match _h : Fields.find? fields "items" with
      | some (.object items) => judgeType items
      | _ => .sound
    else if describesObject fields then
      if (fields.get "properties").truthy then
        match _h : Fields.find? fields "properties" with
        | some (.object properties) => judgeProperties properties
        | _ => .broken
      else
        match _h : Fields.find? fields "additionalProperties" with
        | some (.object values) => judgeType values
        | _ => .sound
    else judgeName ("any" :: primitiveNames) (fields.get "type")
termination_by sizeOf fields
decreasing_by
  all_goals
    have := Fields.sizeOf_lt_of_find? _h
    simp only [Json.object.sizeOf_spec] at this
    omega

/-- The verdict on the properties of a schema. -/
def judgeProperties (properties : Fields) : Verdict :=
  match properties with
  | [] => .sound
  | (_, .object fields) :: rest => (judgeType fields).andThen (judgeProperties rest)
  | _ :: _ => .malformed
termination_by sizeOf properties

end

/-- **The verdict on a schema.** -/
def judgeSchema : Json → Verdict
  | .object fields =>
    (ofTrust (hasFields (Fields.get fields "properties"))).andThen
      (judgeProperties (Fields.objectAt fields "properties"))
  | _ => .malformed

theorem verdict_readSimpleType (fields : Fields) (values : List Json) (path : String) :
    verdictOf (readSimpleType fields values path)
      = judgeName ("any" :: primitiveNames) (fields.get "type") := by
  rw [← andThen_sound (judgeName _ _)]
  refine verdictOf_keyText? rfl (fun s hs => ?_) (fun s hs => ?_)
  · dsimp only
    split
    · rfl
    · next hany => rw [if_pos ((List.mem_cons.1 hs).resolve_left hany), verdictOf_pure]
  · rw [List.mem_cons, not_or] at hs
    dsimp only
    rw [if_neg hs.1, if_neg hs.2, verdictOf_issue]

mutual

theorem verdict_readType (fields : Fields) (path label : String) :
    verdictOf (readType fields path label) = judgeType fields := by
  rw [readType, judgeType]
  split
  · next target href =>
    rw [Fields.has, href]
    rfl
  · next href =>
    rw [Fields.has, href]
    refine verdictOf_bind (verdictOf_elementsOrNone _) fun values _ => ?_
    -- both sides look for the same field, so what the left side finds decides the right one
    split
    · split
      · next items hitems =>
        refine (verdictOf_map.trans (verdict_readType items _ label)).trans ?_
        grind
      · simp_all
    · split
      · split
        · split
          · next properties hproperties =>
            refine (verdictOf_map.trans (verdict_readProperties properties path)).trans ?_
            grind
          · simp_all
        · split
          · next values hvalues =>
            refine (verdictOf_map.trans (verdict_readType values _ label)).trans ?_
            grind
          · simp_all
      · exact verdict_readSimpleType fields values path
termination_by sizeOf fields
decreasing_by
  all_goals
    have := Fields.sizeOf_lt_of_find? ‹Fields.find? _ _ = some _›
    simp only [Json.object.sizeOf_spec] at this
    omega

theorem verdict_readProperties (properties : Fields) (path : String) :
    verdictOf (readProperties properties path) = judgeProperties properties := by
  match properties with
  | [] =>
    rw [readProperties, judgeProperties]
    rfl
  | (name, value) :: rest =>
    rw [readProperties.eq_def, judgeProperties.eq_def]
    dsimp only
    cases value with
    | object fields =>
      refine verdictOf_bind (verdict_readType fields _ name) fun type _ => ?_
      exact verdictOf_map.trans (verdict_readProperties rest path)
    | _ => rfl
termination_by sizeOf properties

end

theorem verdict_readSchema (name : String) (value : Json) (path : String) :
    verdictOf (readSchema name value path) = judgeSchema value := by
  cases value with
  | object fields =>
    refine verdictOf_bind (verdictOf_entries _) fun entries hentries => ?_
    rw [Fields.objectAt_of_entries hentries]
    exact verdictOf_map.trans (verdict_readProperties entries path)
  | _ => rfl

/-! ### Methods -/

/-- The verdict on a parameter. -/
def judgeParameter : Json → Verdict
  | .object fields =>
    (ofCheck (ParameterLocation.ofJson? (Fields.get fields "location")).isSome).andThen
      (judgeType fields)
  | _ => .malformed

/-- The verdict on a message of a method: a reference to one of the schemas, or nothing. -/
def judgeMessage (names : List String) : Json → Verdict
  | .null => .sound
  | .object fields =>
    (ofCheck (Fields.get fields "$ref").truthy).andThen (judgeName names (Fields.get fields "$ref"))
  | _ => .malformed

/-- Whether a value is there. -/
def isPresent : Json → Bool
  | .null => false
  | _ => true

/-- **The verdict on a method** of a document with schemas of the given names. -/
def judgeMethod (names : List String) : Json → Verdict
  | .object fields =>
    let parameters := Fields.objectAt fields "parameters"
    all [
      ofCheck (Fields.get fields "httpMethod").truthy,
      ofCheck (isPresent (Fields.get fields "path")),
      judgeMessage names (Fields.get fields "request"),
      judgeMessage names (Fields.get fields "response"),
      ofTrust (hasFields (Fields.get fields "parameters")),
      all (parameters.map fun p => judgeParameter p.2),
      ofTrust (hasElements (Fields.get fields "parameterOrder")),
      all ((elementsOf (Fields.get fields "parameterOrder")).map
        (judgeName (parameters.map Prod.fst))),
      ofTrust (hasElements (Fields.get fields "scopes"))]
  | _ => .malformed

theorem verdict_readParameter (name : String) (value : Json) (path : String) :
    verdictOf (readParameter name value path) = judgeParameter value := by
  cases value with
  | object fields =>
    rw [readParameter, judgeParameter]
    cases ParameterLocation.ofJson? (Fields.get fields "location") with
    | none => rfl
    | some location => exact verdictOf_map.trans (verdict_readType fields path "")
  | _ => rfl

theorem verdict_readMessage (value : Json) (role : MessageRole) (path : String)
    (names : List String) :
    verdictOf (readMessage value role path names) = judgeMessage names value := by
  cases value with
  | null => rfl
  | object fields =>
    rw [readMessage, judgeMessage]
    cases (Fields.get fields "$ref").truthy with
    | false => rfl
    | true =>
      rw [← andThen_sound (judgeName _ _)]
      refine verdictOf_keyText? rfl (fun s hs => ?_) (fun s hs => ?_)
      · exact congrArg verdictOf (if_pos hs)
      · exact congrArg verdictOf (if_neg hs)
  | _ => rfl

theorem verdict_readOrder (names : List String) (path : String) (order : List Json) :
    verdictOf (readOrder names path order) = all (order.map (judgeName names)) := by
  induction order with
  | nil => rfl
  | cons entry rest ih =>
    rw [List.map_cons, all_cons]
    refine verdictOf_keyText? rfl (fun s hs => ?_) (fun s hs => ?_)
    · dsimp only
      rw [if_pos hs, verdictOf_map, ih]
    · exact congrArg verdictOf (if_neg hs)

/-- Parameters have the names of their keys. -/
theorem names_of_parameterReads {path : String} {entries : Fields} {parameters : List Parameter}
    (h : List.Forall₂ (ParameterReads path) entries parameters) :
    parameters.map Parameter.name = entries.map Prod.fst := by
  induction h with
  | nil => rfl
  | cons hp _ ih => rw [List.map_cons, List.map_cons, hp.name_eq, ih]

theorem verdict_readMethod (name : String) (value : Json) (path : String) (names : List String) :
    verdictOf (readMethod name value path names) = judgeMethod names value := by
  cases value with
  | object fields =>
    rw [readMethod, judgeMethod]
    cases (Fields.get fields "httpMethod").truthy with
    | false => rfl
    | true =>
      rw [if_neg (by decide)]
      split
      · next hpath =>
        rw [hpath]
        rfl
      · next hpath =>
        have hpresent : isPresent (Fields.get fields "path") = true := by
          cases hvalue : Fields.get fields "path" with
          | null => exact absurd hvalue hpath
          | _ => rfl
        rw [hpresent]
        refine verdictOf_bind (verdict_readMessage _ .request path names) fun request _ => ?_
        refine verdictOf_bind (verdict_readMessage _ .response path names) fun response _ => ?_
        refine verdictOf_bind (verdictOf_entries _) fun entries hentries => ?_
        have hparameters := verdictOf_mapM entries fun p _ =>
          verdict_readParameter p.1 p.2 (dotted path p.1)
        rw [Fields.objectAt_of_entries hentries]
        refine verdictOf_bind hparameters fun parameters hread => ?_
        have hyield := Yields.mapM entries fun entry _ => readParameter_yields entry path
        rw [hread] at hyield
        refine verdictOf_bind (verdictOf_elementsOrNone _) fun order horder => ?_
        rw [elementsOf_of_elementsOrNone horder]
        rw [names_of_parameterReads hyield]
        refine verdictOf_bind (verdict_readOrder _ path order) fun parameterOrder _ => ?_
        exact verdictOf_map.trans ((verdictOf_elementsOrNone _).trans (andThen_sound _).symm)
  | _ => rfl

end Document

end ClientGen
