import ClientGen.Proofs.Build.Attempts
import ClientGen.Proofs.Document.Parts

/-!
# What a step of a building can raise

The issues of a guarded step come from few places. Reading a type raises an issue where a
schema is not there, a default raises one where it is no literal of its type, and adding a
declaration raises one where its name is taken. The first two are located in the document, at
the part that is wrong. The third is located in the code: at the scope that has the name
already, or at the name of the class (`ClientGen.Issue.Taken`). Everything else that fails is
a fault.

So an issue of a step for a part of the document is one of a malformed document within the
path of the part, or one about a taken name (`ClientGen.StepIssue`). This is a judgement on
outcomes and sessions (`ClientGen.Outcome.Raises`, `ClientGen.Session.Raises`), with a rule for
each way of putting them together, and it is followed through every decorator.
-/

namespace ClientGen

open Build Decorator Document

variable {α β σ : Type} {P Q : Issue → Prop}

/-! ### Outcomes -/

namespace Outcome

/-- **An outcome raises only issues with a property.** Nothing is said about faults. -/
def Raises (P : Issue → Prop) (x : Outcome α) : Prop :=
  ∀ i, x = .error (.issue i) → P i

namespace Raises

theorem ok {a : α} : Raises P (.ok a) := nofun

theorem pure {a : α} : Raises P (Pure.pure a : Outcome α) := nofun

theorem fault {f : Fault} : Raises P (Outcome.fault f : Outcome α) := nofun

theorem issue {cause : Cause} {location : Json} (h : P ⟨cause, location⟩) :
    Raises P (Outcome.issue cause location : Outcome α) := by
  rintro _ ⟨⟩
  exact h

theorem bind {x : Outcome α} {f : α → Outcome β} (hx : Raises P x) (hf : ∀ a, Raises P (f a)) :
    Raises P (x >>= f) := by
  cases x with
  | error e => exact fun i h => hx i (by cases h; rfl)
  | ok a => exact hf a

theorem ite {c : Prop} [Decidable c] {x y : Outcome α} (hx : Raises P x) (hy : Raises P y) :
    Raises P (if c then x else y) := by
  split
  · exact hx
  · exact hy

theorem mapM {f : α → Outcome β} (hf : ∀ a, Raises P (f a)) (as : List α) :
    Raises P (as.mapM f) := by
  induction as with
  | nil => exact pure
  | cons a as ih =>
    rw [List.mapM_cons]
    exact (hf a).bind fun _ => ih.bind fun _ => pure

theorem written (v : Json) : Raises P v.written := ite fault ok

theorem asText (v : Json) : Raises P v.asText := by cases v <;> nofun

theorem asKey (v : Json) : Raises P v.asKey := by cases v <;> nofun

theorem keyText? (v : Json) : Raises P v.keyText? := by cases v <;> nofun

theorem elements (v : Json) : Raises P v.elements := by cases v <;> nofun

theorem holds (v : Json) (name : String) : Raises P (v.holds name) := by cases v <;> nofun

theorem required (a? : Option α) : Raises P (Outcome.required a?) := by cases a? <;> nofun

theorem asNumber (v : Json) : Raises P v.asNumber := by
  unfold Json.asNumber
  split
  · exact ok
  · split
    · exact fault
    · split
      · exact ok
      · exact fault

theorem add (v w : Json) : Raises P (v.add w) := by
  unfold Json.add
  split
  · exact ok
  · exact ok
  · split
    · exact ok
    · exact ite ((asNumber v).bind fun _ => (asNumber w).bind fun _ => pure) fault

end Raises

end Outcome

/-! ### Names -/

namespace Identifier

open Outcome

theorem raises_keptOf (candidate : Json) : Raises P (keptOf candidate) := by
  unfold keptOf
  split
  · exact .ok
  · exact .ok
  · exact (Raises.elements candidate).bind fun vs => (Raises.mapM .asText vs).bind fun _ => .pure

theorem raises_isAmong (lowered : String) (words : List Json) :
    Raises P (isAmong lowered words) := by
  induction words with
  | nil => exact .ok
  | cons word rest ih =>
    cases word with
    | str s => exact .ite .ok ih
    | _ => exact .fault

theorem raises_spared (name : String) (suffix : Json) (reserved : List Json) :
    Raises P (spared name suffix reserved) :=
  (raises_isAmong _ reserved).bind fun _ => .ite ((Raises.asText suffix).bind fun _ => .pure) .pure

theorem raises_safeWith (candidate suffix : Json) (reserved : List Json) :
    Raises P (safeWith candidate suffix reserved) := by
  refine (raises_keptOf candidate).bind fun cs => ?_
  split
  · exact .pure
  · exact .ite (raises_spared _ suffix reserved)
      ((Raises.asText suffix).bind fun _ => raises_spared _ suffix reserved)

theorem raises_fresh (suffix : Json) (used : List Json) (name : Json) :
    Raises P (fresh suffix used name) := by
  unfold fresh
  generalize used.length + 1 = fuel
  induction fuel generalizing name with
  | zero => exact .fault
  | succ fuel ih =>
    refine (Raises.asKey name).bind fun _ => ?_
    exact .ite ((Raises.add name suffix).bind fun next => ih next) .pure

end Identifier

/-! ### The code model -/

namespace CodeModel

open Outcome

variable (m : CodeModel)

theorem raises_atPlace (place : Nat) : Raises P (m.atPlace place) := by
  unfold atPlace
  split
  · exact .ok
  · exact .fault

theorem raises_get (index : Int) : Raises P (m.get index) := by
  unfold get
  split
  · exact m.raises_atPlace _
  · exact .fault

theorem raises_getClass (index : Int) : Raises P (m.getClass index) := by
  refine (m.raises_get index).bind fun d => ?_
  split
  · exact .pure
  · exact .fault

theorem raises_members (owner : Int) : Raises P (m.members owner) :=
  (m.raises_getClass owner).bind fun _ => .mapM m.raises_atPlace _

theorem raises_memberNames (owner : Option Int) : Raises P (m.memberNames owner) := by
  refine Raises.bind ?_ fun places =>
    .mapM (fun place => (m.raises_atPlace place).bind fun _ => .pure) places
  cases owner with
  | none => exact .ok
  | some o => exact (m.raises_getClass o).bind fun _ => .pure

theorem raises_findMember? (owner : Int) (name : Json) : Raises P (m.findMember? owner name) := by
  refine (m.raises_getClass owner).bind fun r => ?_
  obtain ⟨-, places⟩ := r
  dsimp only
  induction places with
  | nil => exact .ok
  | cons place rest ih => exact (m.raises_atPlace place).bind fun _ => .ite .pure ih

theorem raises_safeMemberName (owner : Option Int) (candidate suffix : Json) (extra : List Json) :
    Raises P (m.safeMemberName owner candidate suffix extra) := by
  refine Raises.bind ?_ fun words => Identifier.raises_safeWith candidate suffix _
  refine (m.raises_memberNames owner).bind fun taken =>
    (Raises.mapM .asKey extra).bind fun words => ?_
  cases owner with
  | none => exact .pure
  | some o => exact (m.raises_get o).bind fun _ => .pure

end CodeModel

/-- **An issue about a taken name**: at the scope that has a declaration of the name, or at the
name itself if it is that of the class. -/
inductive Issue.Taken : Issue → Prop
  | declared (name scope : Json) : Taken ⟨.alreadyDeclared name scope, scope⟩
  | sameAsClass (name : Json) : Taken ⟨.sameAsClass name, name⟩

theorem CodeModel.raises_checkName (m : CodeModel) (owner : Option Int) (d : Declaration) :
    Outcome.Raises Issue.Taken (m.checkName owner d) := by
  have hcollision {cause : Cause} {location : Json} (h : Issue.Taken ⟨cause, location⟩) :
      Outcome.Raises Issue.Taken (checkName.collision d cause location) :=
    (Outcome.Raises.written d.name).bind fun _ => .issue h
  refine (m.raises_memberNames owner).bind fun taken =>
    (Outcome.Raises.asKey d.name).bind fun name => ?_
  cases owner with
  | none => exact .ite (hcollision (.declared name "top level")) .pure
  | some o =>
    refine (m.raises_get o).bind fun c => ?_
    exact .ite (hcollision (.declared name c.name)) (.ite (hcollision (.sameAsClass name)) .pure)

/-! ### Sessions -/

/-- **A session raises only issues with a property**, whatever it starts from. -/
def Session.Raises (P : Issue → Prop) (x : Session σ α) : Prop :=
  ∀ s i t, x s = .error (.issue i) t → P i

namespace Session.Raises

theorem pure {a : α} : Raises P (Pure.pure a : Session σ α) := nofun

theorem fault {f : Fault} : Raises P (throw (.fault f) : Session σ α) := nofun

theorem bind {x : Session σ α} {k : α → Session σ β} (hx : Raises P x) (hk : ∀ a, Raises P (k a)) :
    Raises P (x >>= k) := by
  intro s i t h
  rcases Session.bind_eq_error.1 h with h | ⟨a, s', -, h⟩
  · exact hx s i t h
  · exact hk a s' i t h

/-- After a fault nothing is raised. -/
theorem fault_bind {f : Fault} {k : α → Session σ β} :
    Raises P ((throw (.fault f) : Session σ α) >>= k) := nofun

theorem get : Raises P (MonadState.get : Session σ σ) := nofun

theorem set {s : σ} : Raises P (MonadStateOf.set s : Session σ PUnit) := nofun

theorem modify {f : σ → σ} : Raises P (modify f : Session σ PUnit) := nofun

theorem ite {c : Prop} [Decidable c] {x y : Session σ α} (hx : Raises P x) (hy : Raises P y) :
    Raises P (if c then x else y) := by
  split
  · exact hx
  · exact hy

theorem forM {f : β → Session σ PUnit} {bs : List β} (h : ∀ b ∈ bs, Raises P (f b)) :
    Raises P (bs.forM f) := by
  induction bs with
  | nil => exact pure
  | cons b bs ih =>
    exact (h b List.mem_cons_self).bind fun _ => ih fun b' hb' => h b' (List.mem_cons_of_mem b hb')

theorem lift {o : Outcome α} (h : o.Raises P) : Raises P (liftM o : Session σ α) := by
  intro s i t hrun
  rw [Session.lift_run] at hrun
  cases o with
  | ok a => cases hrun
  | error e =>
    cases hrun
    exact h i rfl

/-- After a lifted outcome its value is known. -/
theorem lift_bind {o : Outcome α} {k : α → Session σ β} (ho : o.Raises P)
    (hk : ∀ a, o = .ok a → Raises P (k a)) : Raises P ((liftM o : Session σ α) >>= k) := by
  intro s i t hrun
  rcases Session.bind_eq_error.1 hrun with h | ⟨a, s', ha, h⟩
  · exact lift ho s i t h
  · exact hk a (Session.lift_eq_ok.1 ha).1 s' i t h

theorem mono {x : Session σ α} (h : Raises P x) (hPQ : ∀ i, P i → Q i) : Raises Q x :=
  fun s i t hrun => hPQ i (h s i t hrun)

theorem look {f : CodeModel → Outcome α} (h : ∀ m, (f m).Raises P) : Raises P (look f) :=
  get.bind fun w => lift (h w.model)

theorem write {level : LogLevel} {text : String} : Raises P (write level text) := nofun

theorem onModel {change : CodeModel.Change α} (h : Raises P change) :
    Raises P (onModel change) := by
  intro w i v hrun
  rw [Build.onModel] at hrun
  cases hchange : change w.model with
  | ok a model =>
    rw [hchange] at hrun
    cases hrun
  | error e model =>
    rw [hchange] at hrun
    cases hrun
    exact h _ i _ hchange

end Session.Raises

namespace CodeModel

open Session

theorem raises_changeScope (owner : Option Int) {f : List Nat → Outcome (List Nat)}
    (hf : ∀ places, (f places).Raises P) : Raises P (changeScope owner f) := by
  cases owner with
  | none => exact .bind .get fun m => .bind (.lift (hf _)) fun _ => .set
  | some o =>
    refine .bind .get fun m => .bind (.lift (m.raises_getClass o)) fun _ =>
      .bind (.lift (hf _)) fun members => ?_
    split
    · exact .set
    · exact .fault

theorem raises_insert (owner : Option Int) (d : Declaration) :
    Raises Issue.Taken (insert owner d) := by
  refine .bind .get fun m => .ite .fault_bind ?_
  refine .bind (.lift (m.raises_checkName owner d)) fun _ => .bind .set fun _ => ?_
  exact .bind (raises_changeScope owner fun _ => .ok) fun _ => .bind .modify fun _ => .pure

theorem raises_rollback (mark : Int) : Raises P (rollback mark) := by
  refine .bind .get fun m => .ite .fault_bind ?_
  dsimp only
  generalize ((m.journal.length : Int) - mark).toNat = n
  induction n with
  | zero => exact .pure
  | succ n ih =>
    refine .bind (.bind .get fun m => ?_) fun _ => ih
    split
    · exact .fault
    · refine .bind .set fun _ => .bind (raises_changeScope _ fun places => ?_) fun _ => .modify
      exact .ite .ok .fault

theorem raises_setComment (index : Int) (comment : Json) : Raises P (setComment index comment) := by
  refine .bind .get fun m => ?_
  split
  · exact .set
  · exact .fault

end CodeModel

/-! ### Steps -/

/-- **An issue of the step for a part of a document**: one of a malformed document that is located
within the part, or one about a taken name. -/
inductive StepIssue (path : String) (i : Issue) : Prop
  | malformed (kind : i.kind = .malformedDocument) (location : IsWithin path i.location) :
      StepIssue path i
  | taken (h : i.Taken) : StepIssue path i

section

variable {path : String}

theorem raises_addMember (owner : Int) (d : Declaration) :
    Session.Raises (StepIssue path) (addMember owner d) :=
  .bind (.onModel ((CodeModel.raises_insert _ d).mono fun _ => .taken)) fun _ => .pure

theorem raises_addClass (owner : Option Int) (d : Declaration) :
    Session.Raises (StepIssue path) (addClass owner d) :=
  .bind (.onModel ((CodeModel.raises_insert _ d).mono fun _ => .taken)) fun _ => .pure

theorem raises_safeName (owner : Int) (candidate : String) (suffix : Json) (extra : List Json) :
    Session.Raises P (safeName owner candidate suffix extra) :=
  .look fun m => m.raises_safeMemberName _ _ _ _

theorem raises_guarded (location : String) (step : Build Unit) :
    Session.Raises P (guarded location step) := by
  intro w i v hrun
  rw [guarded] at hrun
  split at hrun
  · cases hrun
  · cases hrun
  · refine Session.Raises.bind (.onModel (CodeModel.raises_rollback _)) (fun _ => ?_) _ i v hrun
    exact .modify

/-! ### Types -/

theorem raises_className {index : SchemaIndex} {location : Json} (target : Json)
    (h : P ⟨.unknownSchema target, location⟩) :
    Outcome.Raises P (index.className target location) := by
  refine (Outcome.Raises.asKey target).bind fun key => .ite ?_ (.issue h)
  split <;> exact .pure

theorem raises_ofPrimitive (name : String) (format : Json) :
    Outcome.Raises P (TypeName.ofPrimitive name format) := by
  refine (Outcome.Raises.keyText? format).bind fun t => ?_
  split <;> exact .pure

/-- The type of a type raises issues at the location that it is given. -/
theorem raises_ofType {index : SchemaIndex} {location inline : Json}
    (h : ∀ target, P ⟨.unknownSchema target, location⟩) :
    ∀ type : TypeRef, Outcome.Raises P (TypeName.ofType index location inline type)
  | .primitive name format _ => (raises_ofPrimitive name format).bind fun _ => .pure
  | .ref target => raises_className target (h target)
  | .array items => by
    rw [TypeName.ofType]
    exact (raises_ofType h items).bind fun _ => (Outcome.Raises.written _).bind fun _ => .pure
  | .map values => by
    rw [TypeName.ofType]
    exact (raises_ofType h values).bind fun _ => (Outcome.Raises.written _).bind fun _ => .pure
  | .object _ _ => .ok
  | .any _ => .ok

theorem raises_literalKind (type : Json) : Outcome.Raises P (TypeName.literalKind type) := by
  refine (Outcome.Raises.keyText? type).bind fun t => ?_
  split <;> exact .pure

/-! ### The decorators -/

variable {c : Context} {o : Int}

theorem raises_resourceClass (path : String) : Outcome.Raises P (c.resourceClass path) := by
  unfold Context.resourceClass
  split
  · exact .ok
  · exact .fault

theorem raises_ignoresResource (path : String) : Outcome.Raises P (c.ignoresResource path) :=
  (Outcome.Raises.required _).bind fun _ => .holds _ _

theorem raises_resourceAssignments (children : List Resource) (service : String)
    (ds : List Declaration) : Outcome.Raises P (resourceAssignments c children service ds) := by
  induction ds with
  | nil => exact .ok
  | cons d rest ih =>
    rw [resourceAssignments]
    split
    · exact ih
    · exact (Outcome.Raises.asKey _).bind fun _ => ih.bind fun _ => .ite .pure .pure

namespace ServicePass

theorem raises_addScopeConstants (scopes : List (String × Json)) :
    Session.Raises (StepIssue path) (addScopeConstants c o scopes) := by
  induction scopes with
  | nil => exact .pure
  | cons scope rest ih =>
    exact .bind (raises_safeName _ _ _ _) fun _ => .bind (raises_addMember _ _) fun _ => ih

theorem raises_addResources (rs : List Resource) :
    Session.Raises (StepIssue path) (addResources o c rs) := by
  induction rs with
  | nil => exact .pure
  | cons r rest ih =>
    refine .bind (.lift (raises_ignoresResource _)) fun ignored => ?_
    dsimp only
    refine .ite ?_ ih
    refine .bind (.lift (raises_resourceClass _)) fun type =>
      .bind (.look fun m => m.raises_memberNames _) fun names => ?_
    exact .ite (.bind (raises_safeName _ _ _ _) fun _ => .bind (raises_addMember _ _) fun _ => ih)
      ih

theorem raises_run (p : ServicePass) (service : Service) :
    Session.Raises (StepIssue path) (p.run service o c) := by
  cases p with
  | constants =>
    exact .bind (raises_addMember _ _) fun _ => .bind (raises_addMember _ _) fun _ =>
      .ite (raises_addMember _ _) .pure
  | scopes =>
    refine .ite (.bind (raises_safeName _ _ _ _) fun name => ?_) .pure
    exact .bind (raises_addClass _ _) fun _ => raises_addScopeConstants service.scopes
  | resources => exact raises_addResources service.resources
  | constructor =>
    exact .bind (.look fun m => m.raises_getClass _) fun _ =>
      .bind (.look fun m => m.raises_members _) fun _ =>
      .bind (.lift (raises_resourceAssignments _ _ _)) fun _ => raises_addMember _ _

end ServicePass

namespace ResourcePass

theorem raises_addSubresources (rs : List Resource) :
    Session.Raises (StepIssue path) (addSubresources o c rs) := by
  induction rs with
  | nil => exact .pure
  | cons r rest ih =>
    refine .bind (.lift (raises_ignoresResource _)) fun ignored => ?_
    dsimp only
    refine .ite ?_ ih
    refine .bind (.lift (raises_resourceClass _)) fun type =>
      .bind (.look fun m => m.raises_memberNames _) fun names => ?_
    exact .ite (.bind (raises_safeName _ _ _ _) fun _ => .bind (raises_addMember _ _) fun _ => ih)
      ih

theorem raises_run (p : ResourcePass) (r : Resource) :
    Session.Raises (StepIssue path) (p.run r o c) := by
  cases p with
  | wireName => exact raises_addMember _ _
  | subresources => exact raises_addSubresources r.resources
  | service =>
    exact .bind (.look fun m => m.raises_getClass _) fun _ => .bind (raises_addMember _ _) fun _ =>
      .bind (.look fun m => m.raises_members _) fun _ =>
      .bind (.lift (raises_resourceAssignments _ _ _)) fun _ => raises_addMember _ _

end ResourcePass

namespace RequestPass

variable {s : RequestSite}

theorem raises_method : Outcome.Raises P s.method := .required _

theorem raises_context : Outcome.Raises P s.context := .required _

theorem raises_wireProperties (ds : List Declaration) : Outcome.Raises P (wireProperties ds) := by
  induction ds with
  | nil => exact .ok
  | cons d rest ih =>
    refine Outcome.Raises.bind ?_ fun _ => ih.bind fun _ => .pure
    unfold wireName?
    split
    · split
      · exact .ok
      · exact .keyText? _
      · exact .fault
    · exact .ok

theorem raises_take (g : Signature) (wanted : String) (suffix target : Json) (type? : Option Json) :
    Outcome.Raises P (g.take wanted suffix (Outcome.required type?) target) :=
  (Identifier.raises_safeWith _ _ _).bind fun _ => (Identifier.raises_fresh _ _ _).bind fun _ =>
    (Outcome.Raises.required type?).bind fun _ => .pure

theorem raises_takeRequired {properties : List (String × Declaration)} (ps : List Parameter)
    (g : Signature) : Outcome.Raises P (takeRequired s properties ps g) := by
  induction ps generalizing g with
  | nil => exact .ok
  | cons p rest ih =>
    rw [takeRequired]
    split
    · exact ih g
    · exact raises_context.bind fun _ => (raises_take _ _ _ _ _).bind fun g => ih g

theorem raises_takeBody (g : Signature) : Session.Raises P (takeBody s g) := by
  refine .bind (.look fun m => m.raises_findMember? _ _) fun place => ?_
  split
  · exact .pure
  · exact .bind (.lift raises_context) fun _ => .bind (.look fun m => m.raises_atPlace _) fun _ =>
      .lift (raises_take _ _ _ _ _)

/-- The default of a parameter raises issues at the location that it is given: the type that it is
read for has no references. -/
theorem raises_defaultLiteral {p : Parameter} {value : Json} {location : String}
    (h : ∀ text kind, P ⟨.invalidDefault text kind, location⟩) :
    Outcome.Raises P (defaultLiteral s p value location) := by
  unfold defaultLiteral
  split
  · rename_i name format values text htype
    have htypeName {index : SchemaIndex} :
        Outcome.Raises P (TypeName.ofType index "" .null p.type) := by
      rw [htype]
      exact (raises_ofPrimitive name format).bind fun _ => .pure
    refine raises_context.bind fun _ => htypeName.bind fun _ =>
      (raises_literalKind _).bind fun kind => ?_
    split
    · split
      · exact .pure
      · exact .issue (h text _)
    · split
      · exact .pure
      · exact .issue (h text _)
    · exact .ite .pure (.ite .pure (.issue (h text _)))
    · exact .pure
  · exact .ok

/-- An issue of a malformed document at the path of a part, or at a part of it. -/
theorem stepIssue_self {cause : Cause} (hkind : cause.kind = .malformedDocument) :
    StepIssue path ⟨cause, path⟩ :=
  .malformed hkind (.self path)

theorem stepIssue_part {cause : Cause} (part : String) (hkind : cause.kind = .malformedDocument) :
    StepIssue path ⟨cause, path ++ "." ++ part⟩ :=
  .malformed hkind (.inr ⟨part, rfl⟩)

theorem raises_addParameters (m : Method) (ps : List Parameter) :
    Session.Raises (StepIssue (s.locationOf m)) (addParameters s m ps) := by
  induction ps with
  | nil => exact .pure
  | cons p rest ih =>
    refine .bind (.lift raises_context) fun c => .bind (raises_safeName _ _ _ _) fun name =>
      .bind (.lift ?_) fun type => .bind (raises_addMember _ _) fun _ => ih
    have hissue (target : Json) : StepIssue (s.locationOf m)
        ⟨.unknownSchema target, s.locationOf m ++ "." ++ p.name⟩ := stepIssue_part p.name rfl
    have htype : Outcome.Raises (StepIssue (s.locationOf m)) (TypeName.ofType c.schemaIndex
        (s.locationOf m ++ "." ++ p.name) .null p.type) := raises_ofType hissue p.type
    exact htype.bind fun _ => .ite ((Outcome.Raises.written _).bind fun _ => .pure) .pure

theorem raises_assignDefaults {location : String} {properties : List (String × Declaration)}
    (ps : List Parameter) (g : Signature) :
    Session.Raises (StepIssue location) (assignDefaults s location properties ps g) := by
  induction ps generalizing g with
  | nil => exact .pure
  | cons p rest ih =>
    rw [assignDefaults]
    split
    · dsimp only
      refine .ite (.bind .write fun _ => ih g) (.bind (.lift ?_) fun _ => ih _)
      exact raises_defaultLiteral fun text kind => stepIssue_part p.name rfl
    · exact ih g

/-- **The decorators of a request class** raise issues at the method, or at its parameters. -/
theorem raises_run {m : Method} (hm : s.method? = some m) (p : RequestPass) :
    Session.Raises (StepIssue (s.locationOf m)) (p.run s) := by
  have hmethod {m' : Method} (h : s.method = .ok m') : m' = m := by
    rw [RequestSite.method, hm] at h
    exact (Except.ok.inj h).symm
  cases p with
  | documentation =>
    exact .bind (.look fun m => m.raises_get _) fun _ => .bind (.lift raises_method) fun _ =>
      .ite (.onModel (CodeModel.raises_setComment _ _)) .pure
  | fields =>
    exact .bind (.lift raises_method) fun _ => .bind (raises_addMember _ _) fun _ =>
      .bind (raises_addMember _ _) fun _ => raises_addMember _ _
  | parameters =>
    refine .lift_bind raises_method fun m' h => ?_
    obtain rfl := hmethod h
    exact raises_addParameters m' m'.parameters
  | body =>
    refine .lift_bind raises_method fun m' h => ?_
    obtain rfl := hmethod h
    split
    · exact .pure
    · exact .bind (.lift raises_context) fun _ =>
        .bind (.lift (raises_className _ (stepIssue_self rfl))) fun _ =>
        .bind (raises_addMember _ _) fun _ => raises_addMember _ _
  | constructor =>
    refine .bind (.look fun m => m.raises_getClass _) fun _ =>
      .lift_bind raises_method fun m' h => ?_
    obtain rfl := hmethod h
    exact .bind (.look fun m => m.raises_members _) fun _ =>
      .bind (.lift (raises_wireProperties _)) fun _ =>
      .bind (.lift (raises_takeRequired _ _)) fun g =>
      .bind (raises_assignDefaults _ g) fun g => .bind (raises_takeBody g) fun _ =>
      raises_addMember _ _
  | factory =>
    exact .bind (.look fun m => m.raises_getClass _) fun _ =>
      .bind (.look fun m => m.raises_members _) fun _ => .bind (.lift raises_method) fun _ =>
      .bind (.lift raises_context) fun _ => .bind (raises_safeName _ _ _ _) fun _ =>
      .bind (raises_addMember _ _) fun _ => .bind (.look fun m => m.raises_get _) fun _ =>
      .bind (.lift (.written _)) fun _ => .bind (.lift (.written _)) fun _ => .write

end RequestPass

/-! ### Schemas -/

theorem isWithin_dotted {here : String} (h : IsWithin path here) (part : String) :
    IsWithin path (dotted here part) := by
  rcases h with h | ⟨rest, h⟩
  · cases h
    exact .inr ⟨part, rfl⟩
  · cases h
    refine .inr ⟨dotted rest part, ?_⟩
    simp only [dotted, String.append_assoc]

theorem of_fieldsRead_cons {here name place : String} {properties : Fields} {type : TypeRef}
    {description : Json} {required : Bool} {rest : List Field}
    (h : FieldsRead here properties (⟨name, type, description, required, place⟩ :: rest)) :
    place = dotted here name ∧ (∃ fields, TypeReads (dotted here name) name fields type) ∧
      ∃ later, FieldsRead here later rest := by
  cases h with
  | cons htype hrest => exact ⟨rfl, ⟨_, htype⟩, _, hrest⟩

namespace SchemaPass

mutual

/-- Every field is located within the part whose fields are read, and so are the fields of the
objects described on the spot. -/
theorem raises_addFields (reserved : List Json) (o : Int) {here : String}
    (hhere : IsWithin path here) : ∀ (fields : List Field) {properties : Fields},
      FieldsRead here properties fields →
        Session.Raises (StepIssue path) (addFields c reserved o fields)
  | [], _, _ => .pure
  | ⟨wireName, type, description, required, place⟩ :: rest, _, h => by
    obtain ⟨rfl, ⟨_, htype⟩, _, hrest⟩ := of_fieldsRead_cons h
    have hplace := isWithin_dotted hhere wireName
    have hissue (target : Json) : StepIssue path ⟨.unknownSchema target, dotted here wireName⟩ :=
      .malformed rfl hplace
    have hlater := raises_addFields reserved o hhere rest hrest
    rw [addFields]
    refine .bind (raises_safeName _ _ _ _) fun name => ?_
    split
    · exact .bind (.lift (raises_ofType hissue type)) fun _ => .bind (raises_addMember _ _) fun _ =>
        hlater
    · refine .bind (raises_safeName _ _ _ _) fun nested =>
        .bind (.lift (raises_ofType hissue type)) fun _ => .bind (raises_addMember _ _) fun _ => ?_
      dsimp only
      exact .ite (.bind (raises_addInline o nested hplace type htype) fun _ => hlater) hlater

theorem raises_addInline (o : Int) (name : Json) {here label : String}
    (hhere : IsWithin path here) : ∀ (type : TypeRef) {description : Fields},
      TypeReads here label description type →
        Session.Raises (StepIssue path) (addInline c o name type)
  | .object _ ⟨_, description, fields, _⟩, _, h => by
    obtain ⟨properties, hread⟩ : ∃ properties, FieldsRead here properties fields := by
      cases h with
      | object _ _ _ _ hread => exact ⟨_, hread⟩
    rw [addInline]
    exact .bind (raises_addClass _ _) fun nested => raises_addFields [] nested hhere fields hread
  | .array items, _, h => by
    rw [addInline]
    cases h with
    | list _ _ _ hread => exact raises_addInline o name (isWithin_dotted hhere "items") items hread
    | listOfAny => exact .pure
  | .map values, _, h => by
    rw [addInline]
    cases h with
    | map _ _ _ _ hread =>
      exact raises_addInline o name (isWithin_dotted hhere "additionalProperties") values hread
  | .primitive .., _, _ => .pure
  | .ref _, _, _ => .pure
  | .any _, _, _ => .pure

end

/-- **The decorators of a schema class** raise issues at the fields of the schema. -/
theorem raises_run {schema : Schema} {properties : Fields}
    (h : FieldsRead path properties schema.fields) (p : SchemaPass) :
    Session.Raises (StepIssue path) (p.run (some schema) o c) := by
  cases p with
  | documentation =>
    exact .bind (.look fun m => m.raises_get _) fun _ => .bind (.lift (.required _)) fun _ =>
      .ite (.onModel (CodeModel.raises_setComment _ _)) .pure
  | properties =>
    refine .lift_bind (.required _) fun s hs => ?_
    cases hs
    exact raises_addFields _ o (.self path) schema.fields h
  | etag =>
    refine .ite (.bind (.look fun m => m.raises_findMember? _ _) fun place => ?_) .pure
    split
    · exact .pure
    · exact raises_addMember _ _

end SchemaPass

end

end ClientGen
