import Mathlib.Data.List.Nodup
import ClientGen.Proofs.Build.Complete

/-!
# Request classes mirror methods, and factories fit constructors

The class of a request has the name, the verb and the path of its method, a property for each
parameter, the body if the method has one, and a constructor (`ClientGen.MirrorsMethod`). The
constructor takes the service, the required parameters and the body, and gives each to a property
of its type; its other statements give literals to properties. The factory of the method has the
parameters of the constructor but for the service, and hands them on.

The constructor finds the body by its name. That is the property of the body and not that of a
parameter, since the names of the properties of parameters spare the names of the base class
(`ClientGen.RequestProperties.mem_body`).
-/

namespace ClientGen

open Build Decorator ClientGen.Tree

/-! ### Requests that mirror methods -/

variable {c : Context} {location : String} {m : Method}

/-- A property that can be set. -/
def Tree.IsSettable (t : Tree) : Prop :=
  ∃ p, t.decl.body = .property p ∧ p.hasSet = true

theorem isSettable_of_isParameter {p : Parameter} {t : Tree} (h : IsParameter c location p t) :
    t.IsSettable := by
  obtain ⟨name, type, -, -, rfl⟩ := h
  exact ⟨_, rfl, rfl⟩

theorem isSettable_of_bodyTrees {request : Option String} {body : List Tree}
    (hbody : BodyTrees c location request body) {t : Tree} (ht : t ∈ body)
    (hname : t.name = "Body") : t.IsSettable := by
  cases hbody with
  | none => cases ht
  | some htype =>
    simp only [List.mem_cons, List.not_mem_nil, or_false] at ht
    rcases ht with rfl | rfl
    · exact ⟨_, rfl, rfl⟩
    · exact absurd (Json.str.inj hname) (by decide)

namespace RequestProperties

variable {parameters body : List Tree} (h : RequestProperties c location m parameters body)
  {suffix : String} (hsuffix : c.suffix = .str suffix)
  (hends : ¬suffix.toList <:+ "Body".toList)

include h

theorem isSettable_of_mem {t : Tree} (ht : t ∈ parameters) : t.IsSettable := by
  obtain ⟨p, -, hp⟩ := exists_left_of_forall₂ h.parameters ht
  exact isSettable_of_isParameter hp

include hsuffix hends

/-- **The member with the name of the body is the body.** -/
theorem mem_body {t : Tree} (ht : t ∈ parameters ++ body) (hname : t.name = "Body") :
    t ∈ body := by
  rcases List.mem_append.1 ht with ht | ht
  · have hword : Json.str "Body" ∈ requestBaseMembers := by simp [requestBaseMembers]
    obtain ⟨back, hback, hbehind⟩ := h.spares t ht "Body" hword hname
    -- a name that was made safe against `Body` would end with the suffix
    rw [hsuffix] at hback
    cases hback
    exact absurd hbehind hends
  · exact ht

/-- The constructor takes a body exactly if the method has one. -/
theorem forall₂_taken {taken : List Intake} (htaken : BodyIntake (parameters ++ body) taken) :
    List.Forall₂ (fun _ (i : Intake) => i.property ∈ body ∧ i.property.name = .str "Body")
      m.request.toList taken := by
  have hbody := h.body
  cases htaken with
  | none hfree =>
    cases hrequest : m.request with
    | none => exact .nil
    | some schema =>
      rw [hrequest] at hbody
      cases hbody with
      | some htype => exact absurd rfl (hfree _ (List.mem_append_right _ List.mem_cons_self))
  | @some i _ hmember hname =>
    have hmem := h.mem_body hsuffix hends hmember hname
    cases hrequest : m.request with
    | none =>
      rw [hrequest] at hbody
      cases hbody
      cases hmem
    | some schema => exact .cons ⟨hmem, hname⟩ .nil

end RequestProperties

/-! ### The names of the parameters -/

theorem Intakes.isUsable {suffix : String} (hsuffix : c.suffix = .str suffix)
    (hs : IsDisarming suffix) {i : Intake} {used : List Json} {start : Json}
    (hstart : Identifier.localName i.wanted c.suffix Identifier.keywordValues = .ok start)
    (hname : Identifier.fresh c.suffix used start = .ok i.argument.name) :
    IsUsable i.argument.name ∧ i.argument.name ∉ used := by
  rw [hsuffix] at hstart hname
  have husable := Identifier.isUsable_safeWith hs (List.Subset.refl _) hstart
  exact ⟨Identifier.isUsable_freshWithin hs husable hname,
    Identifier.notMem_of_freshWithin hs husable hname⟩

/-- **The names of the parameters of a constructor are different.** -/
theorem Intakes.nodup {suffix : String} (hsuffix : c.suffix = .str suffix)
    (hs : IsDisarming suffix) {used : List Json} {is : List Intake} (h : Intakes c used is)
    (hused : used.Nodup) :
    (used ++ (is.map Intake.argument).map Argument.name).Nodup := by
  induction h with
  | nil => simpa using hused
  | cons hstart hname _ _ _ ih =>
    have hnew := (Intakes.isUsable hsuffix hs hstart hname).2
    have hnext := ih (List.nodup_append.2 ⟨hused, List.nodup_singleton _, ?_⟩)
    · simpa using hnext
    · rintro u hu v hv rfl
      rw [List.mem_singleton.1 hv] at hu
      exact hnew hu

/-! ### Methods -/

end ClientGen
