import ClientGen.CSharp.Render
import ClientGen.Proofs.Code.Walk

/-!
# Writing a code model ends

The writer of C# follows owners upwards for the qualified name of a declaration and members
downwards for its text, both with fuel. In a model laid out from coherent entries owners
come first, so the way up from a place is at most as long as the place
(`ClientGen.CSharp.nameChain_eq_ok`) and the way down at most as long as the number of
declarations behind it (`ClientGen.CSharp.declaration_ends`): the fuel is never used up.

Other failures are not excluded, as a declaration may be one that C# cannot express. So the
second statement is that the outcome is never the fault of nesting without end, and every
part of a declaration is looked at for that fault.
-/

namespace ClientGen

namespace Outcome

variable {α β : Type}

/-- An outcome that is not the fault of nesting without end. -/
def Ends (x : Outcome α) : Prop :=
  x ≠ .error (.fault .endlessNesting)

theorem ends_ok (a : α) : Ends (.ok a : Outcome α) := nofun

theorem ends_pure (a : α) : Ends (pure a : Outcome α) := nofun

theorem ends_issue (cause : Cause) (location : Json) : Ends (issue cause location : Outcome α) :=
  nofun

theorem Ends.bind {x : Outcome α} {f : α → Outcome β} (hx : x.Ends)
    (hf : ∀ a, x = .ok a → (f a).Ends) : (x >>= f).Ends := by
  cases x with
  | error e => exact fun h => hx (by cases h; rfl)
  | ok a => exact hf a rfl

theorem ends_mapM {f : α → Outcome β} {xs : List α} (h : ∀ x ∈ xs, (f x).Ends) :
    (xs.mapM f).Ends := by
  induction xs with
  | nil => exact ends_pure []
  | cons x xs ih =>
    rw [List.mapM_cons]
    refine (h x List.mem_cons_self).bind fun b _ => ?_
    exact (ih fun y hy => h y (List.mem_cons_of_mem x hy)).bind fun bs _ => ends_pure (b :: bs)

theorem ends_written (v : Json) : v.written.Ends := by
  unfold Json.written
  split <;> nofun

theorem ends_asText (v : Json) : v.asText.Ends := by
  cases v <;> nofun

theorem ends_asLine (v : Json) : v.asLine.Ends := by
  cases v <;> nofun

end Outcome

namespace CSharp

open Outcome

/-! ### The parts of a declaration -/

theorem ends_literal (value location : Json) : (literal value location).Ends := by
  cases value with
  | int n =>
    simp only [literal]
    split
    · exact ends_ok _
    · exact (ends_written _).bind fun _ _ => ends_issue _ _
  | float x =>
    simp only [literal]
    split
    · exact ends_ok _
    · exact ends_issue _ _
  | _ => nofun

theorem ends_commaList (parts : List Json) : (commaList parts).Ends :=
  (ends_mapM fun v _ => ends_asText v).bind fun _ _ => ends_pure _

mutual

theorem ends_expression (location : String) : ∀ e : Expression, (expression location e).Ends
  | .literal value => by
    unfold expression
    exact (ends_literal value location).bind fun _ _ => ends_pure _
  | .snippet text => by
    unfold expression
    exact ends_ok text
  | .create type arguments => by
    unfold expression
    exact (ends_expressions location arguments).bind fun parts _ =>
      (ends_commaList parts).bind fun _ _ => (ends_written type).bind fun _ _ => ends_pure _
  | .bare => by
    unfold expression
    exact ends_issue _ _
  | .absent => by
    unfold expression
    exact ends_issue _ _

theorem ends_expressions (location : String) :
    ∀ es : List Expression, (expressions location es).Ends
  | [] => by
    unfold expressions
    exact ends_ok []
  | e :: rest => by
    unfold expressions
    exact (ends_expression location e).bind fun _ _ =>
      (ends_expressions location rest).bind fun _ _ => ends_pure _

end

theorem ends_statement (location : String) (s : Statement) : (statement location s).Ends := by
  cases s with
  | ret value =>
    cases value with
    | absent => exact ends_ok _
    | _ =>
      exact (ends_expression location _).bind fun v _ =>
        (ends_written v).bind fun _ _ => ends_pure _
  | assign target value =>
    exact (ends_written target).bind fun _ _ => (ends_expression location value).bind fun v _ =>
      (ends_written v).bind fun _ _ => ends_pure _
  | snippet text => exact ends_ok text
  | bare => exact ends_issue _ _

theorem ends_block (body : List Json) : (block body).Ends :=
  (ends_mapM fun v _ => ends_asLine v).bind fun _ _ => ends_pure _

theorem ends_argument (location : String) (a : Argument) : (argument location a).Ends := by
  refine (ends_written a.type).bind fun _ _ => (ends_written a.name).bind fun _ _ => ?_
  split
  · exact ends_pure _
  · exact (ends_expression location _).bind fun v _ =>
      (ends_written v).bind fun _ _ => ends_pure _

theorem ends_accessor (keyword : String) (body : List Json) : (accessor keyword body).Ends := by
  unfold accessor
  split
  · exact (ends_written _).bind fun _ _ => ends_pure _
  · exact (ends_block _).bind fun _ _ => ends_pure _

theorem ends_accessorLines (keyword : String) (body : List Statement) (location : String) :
    (accessorLines keyword body location).Ends :=
  (ends_mapM fun s _ => ends_statement location s).bind fun lines _ =>
    (ends_accessor keyword lines).bind fun _ _ => ends_pure _

theorem ends_property (d : Declaration) (p : PropertyBody) (location : String) :
    (property d p location).Ends := by
  unfold property
  split
  · exact ends_issue _ _
  · refine (ends_written p.type).bind fun _ _ => (ends_written d.name).bind fun _ _ => ?_
    split
    · exact ends_pure _
    · refine (ends_accessorLines "get" p.getter location).bind fun _ _ => ?_
      dsimp only
      split
      · exact (ends_accessorLines "set" p.setter location).bind fun _ _ => ends_pure _
      · exact ends_pure _

theorem ends_baseCall (location : String) (call : Option (List Expression)) :
    (baseCall location call).Ends := by
  cases call with
  | none => exact ends_ok ""
  | some arguments =>
    exact (ends_expressions location arguments).bind fun parts _ =>
      (ends_commaList parts).bind fun _ _ => ends_pure _

theorem ends_method (d : Declaration) (m : MethodBody) (location : String) :
    (method d m location).Ends := by
  have hbody (head : String) : Ends (do
      return head :: "\x7b" :: (← block (← statements location m.statements)) ++ ["\x7d"]) :=
    (ends_mapM fun s _ => ends_statement location s).bind fun lines _ =>
      (ends_block lines).bind fun _ _ => ends_pure _
  refine (ends_mapM fun a _ => ends_argument location a).bind fun _ _ => ?_
  dsimp only
  split
  · exact (ends_baseCall location m.baseCall).bind fun _ _ =>
      (ends_written d.name).bind fun _ _ => hbody _
  · exact (ends_written d.name).bind fun _ _ =>
      (ends_written m.returnType).bind fun _ _ => hbody _

theorem ends_constant (d : Declaration) (type value : Json) (location : String) :
    (constant d type value location).Ends := by
  unfold constant
  split
  · exact ends_issue _ _
  · exact (ends_literal value location).bind fun _ _ => (ends_written type).bind fun _ _ =>
      (ends_written d.name).bind fun _ _ => ends_pure _

theorem ends_attributeLine (location : String) (a : Attribute) :
    (attributeLine location a).Ends := by
  unfold attributeLine
  split
  · exact (ends_written a.name).bind fun _ _ => ends_pure _
  · exact (ends_expressions location a.arguments).bind fun parts _ =>
      (ends_commaList parts).bind fun _ _ => (ends_written a.name).bind fun _ _ => ends_pure _

theorem ends_commentOf (comment : Json) : (commentOf comment).Ends := by
  unfold commentOf
  split
  · exact ends_ok _
  · split
    · nofun
    · exact ends_ok []

theorem ends_classHead (d : Declaration) (bases : List Json) : (classHead d bases).Ends := by
  refine (ends_written d.name).bind fun _ _ => ?_
  split
  · exact ends_pure _
  · exact (ends_commaList bases).bind fun _ _ => ends_pure _

theorem ends_declarationBody {member : Nat → Outcome (List String)} {d : Declaration}
    {location : String} (h : ∀ places, d.members? = some places → ∀ i ∈ places, (member i).Ends) :
    (declarationBody member d location).Ends := by
  unfold declarationBody
  split
  · exact ends_issue _ _
  · rename_i bases members hbody
    refine (ends_classHead d bases).bind fun _ _ => Ends.bind ?_ fun _ _ => ends_pure _
    exact ends_mapM (h members (by rw [Declaration.members?, hbody]))
  · exact ends_property d _ location
  · exact ends_method d _ location
  · exact ends_constant d _ _ location

/-! ### Names and declarations -/

variable {m : CodeModel} {ds : List Declaration}

/-- **Following owners ends**: after at most as many steps as there are places up to the
declaration. -/
theorem nameChain_eq_ok (h : Coherent ds) {fuel i : Nat} (hi : i < ds.length) (hfuel : i < fuel) :
    ∃ names, nameChain (m.withEntries ds) fuel i = .ok names := by
  induction fuel generalizing i with
  | zero => omega
  | succ fuel ih =>
    have hd : ds[i]? = some ds[i] := List.getElem?_eq_getElem hi
    rw [nameChain, CodeModel.get_withEntries, hd]
    simp only [bind, Except.bind, settle_parent]
    rcases ho : ds[i].parent with _ | o
    · exact ⟨_, rfl⟩
    · obtain ⟨p, _, rfl, hp, -⟩ := h.ownerClass hd ho
      obtain ⟨names, hnames⟩ := ih (i := p) (by omega) (by omega)
      simp only [hnames]
      exact ⟨_, rfl⟩

theorem ends_qualifiedName (h : Coherent ds) {i : Nat} (hi : i < ds.length) :
    (qualifiedName (m.withEntries ds) i).Ends := by
  obtain ⟨names, hnames⟩ := nameChain_eq_ok (m := m) h hi
    (show i < (m.withEntries ds).size + 1 by rw [CodeModel.withEntries_size]; omega)
  rw [qualifiedName, hnames]
  exact (ends_mapM fun v _ => ends_asText v).bind fun _ _ => ends_pure _

/-- **Writing a declaration ends**: the fuel for as many levels as there are declarations
from it on is never used up. -/
theorem declaration_ends (h : Coherent ds) {fuel i : Nat} (hi : i < ds.length)
    (hfuel : ds.length ≤ fuel + i) : (declaration (m.withEntries ds) fuel i).Ends := by
  induction fuel generalizing i with
  | zero => omega
  | succ fuel ih =>
    rw [declaration]
    refine Ends.bind ?_ fun d hd => ?_
    · rw [CodeModel.get_withEntries, List.getElem?_eq_getElem hi]
      exact ends_ok _
    refine (ends_qualifiedName h hi).bind fun location _ => Ends.bind ?_ fun _ _ =>
      (ends_commentOf d.comment).bind fun _ _ =>
        (ends_mapM fun a _ => ends_attributeLine location a).bind fun _ _ => ends_pure _
    refine ends_declarationBody fun places hplaces j hj => ?_
    rw [CodeModel.get_withEntries, List.getElem?_eq_getElem hi] at hd
    cases hd
    rw [settle_members?] at hplaces
    split at hplaces
    · cases hplaces
      obtain ⟨e, he, ho⟩ := mem_placesOf.1 hj
      obtain ⟨p, _, hp, hlt, -⟩ := h.ownerClass he ho
      exact ih (lt_of_mem_placesOf hj) (by omega)
    · cases hplaces

end CSharp

end ClientGen
