import ClientGen.Proofs.CSharp.Offences

/-!
# What the renderer refuses

The text of a declaration exists exactly if nothing that is nested in it offends
(`ClientGen.CSharp.render_refuses`). A refusal is an issue whose location is the qualified
name of a declaration that offends, with one exception: the wording of the issue for an
integer shows the integer, and an integer with more digits than are written cannot be
shown. Then the refusal is a fault, which says nothing about the place.

The argument is a judgement on outcomes (`ClientGen.Outcome.Settles`): an outcome is a
failure of a given kind if something is wrong, and a value of a given kind if nothing is.
There is one rule for each way in which the parts of a text are put together, and one lemma
for each part of a declaration.
-/

namespace ClientGen

namespace Outcome

/-! ### The judgement -/

variable {α β : Type} {wrong p q : Prop} {T T' : Failure → Prop} {P : α → Prop} {Q : β → Prop}

/-- **An outcome settled by what is wrong**: with something wrong it is a failure of one
kind, and otherwise a value of another. -/
structure Settles (wrong : Prop) (T : Failure → Prop) (P : α → Prop) (x : Outcome α) : Prop where
  /-- With something wrong it is a failure. -/
  fails : wrong → ∃ e, x = .error e ∧ T e
  /-- With nothing wrong it is a value. -/
  ends : ¬wrong → ∃ a, x = .ok a ∧ P a

namespace Settles

theorem ok {a : α} (h : P a) : Settles False T P (.ok a) :=
  ⟨False.elim, fun _ => ⟨a, rfl, h⟩⟩

theorem error {e : Failure} (h : T e) : Settles True T P (.error e) :=
  ⟨fun _ => ⟨e, rfl, h⟩, fun hn => absurd trivial hn⟩

theorem congr {x : Outcome α} (h : Settles p T P x) (hpq : p ↔ q) : Settles q T P x :=
  ⟨fun hq => h.fails (hpq.2 hq), fun hq => h.ends fun hp => hq (hpq.1 hp)⟩

/-- The kind of the failures matters only with something wrong. -/
theorem mono {x : Outcome α} (h : Settles p T P x) (hT : ∀ e, p → T e → T' e) :
    Settles p T' P x :=
  ⟨fun hp => (h.fails hp).imp fun e he => ⟨he.1, hT e hp he.2⟩, h.ends⟩

/-- One part after the other: the first thing wrong decides. -/
theorem bind {x : Outcome α} {f : α → Outcome β} (hx : Settles p T P x)
    (hf : ∀ a, P a → Settles q T Q (f a)) : Settles (p ∨ q) T Q (x >>= f) := by
  by_cases hp : p
  · refine ⟨fun _ => ?_, fun hn => absurd (Or.inl hp) hn⟩
    obtain ⟨e, rfl, he⟩ := hx.fails hp
    exact ⟨e, rfl, he⟩
  · obtain ⟨a, rfl, ha⟩ := hx.ends hp
    exact (hf a ha).congr ⟨Or.inr, fun h => h.resolve_left hp⟩

/-- A first step in which nothing can be wrong. -/
theorem step {x : Outcome α} {f : α → Outcome β} {a : α} (hx : x = .ok a)
    (hf : Settles q T Q (f a)) : Settles q T Q (x >>= f) := by
  rw [hx]
  exact hf

/-- A last step in which nothing can be wrong. -/
theorem finish {x : Outcome α} {f : α → Outcome β} (hx : Settles p T P x)
    (hf : ∀ a, P a → ∃ b, f a = .ok b ∧ Q b) : Settles p T Q (x >>= f) := by
  refine Settles.congr (hx.bind (q := False) fun a ha => ?_) (or_iff_left id)
  obtain ⟨b, hb, hQ⟩ := hf a ha
  rw [hb]
  exact ok hQ

theorem map {x : Outcome α} {f : α → β} (hx : Settles p T P x) (hf : ∀ a, P a → Q (f a)) :
    Settles p T Q (x >>= fun a => pure (f a)) :=
  hx.finish fun a ha => ⟨f a, rfl, hf a ha⟩

/-- A list of parts: something is wrong with one of them, or nothing is. -/
theorem mapM {p : α → Prop} {f : α → Outcome β} {as : List α}
    (h : ∀ a ∈ as, Settles (p a) T Q (f a)) :
    Settles (∃ a ∈ as, p a) T (fun bs => ∀ b ∈ bs, Q b) (as.mapM f) := by
  induction as with
  | nil => exact (ok (a := []) (by simp)).congr (by simp)
  | cons a as ih =>
    obtain ⟨ha, has⟩ := List.forall_mem_cons.1 h
    rw [List.mapM_cons]
    refine Settles.congr (ha.bind fun b hb => (ih has).map fun bs hbs => ?_) (by simp)
    exact List.forall_mem_cons.2 ⟨hb, hbs⟩

end Settles

end Outcome

namespace CSharp

open Outcome

/-! ### Texts -/

theorem commaList_eq_ok {vs : List Json} (h : ∀ v ∈ vs, v.isString = true) :
    ∃ s, commaList vs = .ok s := by
  obtain ⟨texts, htexts⟩ := exists_mapM (f := Json.asText) fun v hv => by
    obtain ⟨s, rfl⟩ := Json.exists_of_isString (h v hv)
    exact ⟨s, rfl⟩
  exact ⟨_, by rw [commaList, htexts]; rfl⟩

theorem block_eq_ok {vs : List Json} (h : ∀ v ∈ vs, v.isString = true) :
    ∃ lines, block vs = .ok lines := by
  obtain ⟨texts, htexts⟩ := exists_mapM (f := Json.asLine) fun v hv => by
    obtain ⟨s, rfl⟩ := Json.exists_of_isString (h v hv)
    exact ⟨s, rfl⟩
  exact ⟨_, by rw [block, htexts]; rfl⟩

theorem accessor_eq_ok (keyword : String) {vs : List Json} (h : ∀ v ∈ vs, v.isString = true) :
    ∃ lines, accessor keyword vs = .ok lines := by
  unfold accessor
  split
  · obtain ⟨s, rfl⟩ := Json.exists_of_isString (h _ List.mem_cons_self)
    exact ⟨_, rfl⟩
  · obtain ⟨lines, hlines⟩ := block_eq_ok h
    exact ⟨_, by rw [hlines]; rfl⟩

theorem commentOf_eq_ok {comment : Json} (h : comment = .null ∨ comment.isString = true) :
    ∃ lines, commentOf comment = .ok lines := by
  rcases h with rfl | h
  · exact ⟨[], rfl⟩
  · obtain ⟨s, rfl⟩ := Json.exists_of_isString h
    exact ⟨commentLines s, rfl⟩

/-! ### Expressions and statements -/

variable {T : Failure → Prop} {location : String}

/-- The failures with which the expressions of a part may be refused: the issues at its
location, and the fault for an integer with too many digits if there is one. -/
structure Tells (T : Failure → Prop) (location : String) (es : List Expression) : Prop where
  issue : ∀ {cause : Cause}, cause.kind = .unsupportedConstruct → T (.issue ⟨cause, location⟩)
  long : ∀ {e : Expression}, e ∈ es → e.HoldsLong → T (.fault .tooManyDigits)

theorem Tells.mono {es es' : List Expression} (h : Tells T location es) (hsub : es' ⊆ es) :
    Tells T location es' :=
  ⟨h.issue, fun he => h.long (hsub he)⟩

theorem Tells.arguments {type : Json} {args : List Expression}
    (h : Tells T location [.create type args]) : Tells T location args :=
  ⟨h.issue, fun harg hlong => h.long List.mem_cons_self
    (hlong.imp fun _ hn => ⟨hn.1.argument harg, hn.2⟩)⟩

theorem settles_literal {value : Json} (hT : Tells T location [.literal value]) :
    Settles (¬value.IsExpressible) T (fun _ => True) (literal value location) := by
  have hissue {cause : Cause} (hkind : cause.kind = .unsupportedConstruct) :
      Settles True T (fun _ : String => True) (issue cause location) :=
    Settles.error (hT.issue hkind)
  cases value with
  | null => exact (Settles.ok trivial).congr (by simp [Json.IsExpressible])
  | bool b => exact (Settles.ok trivial).congr (by simp [Json.IsExpressible])
  | str s => exact (Settles.ok trivial).congr (by simp [Json.IsExpressible])
  | int n =>
    simp only [literal, Json.IsExpressible]
    split
    · rename_i hrange
      exact (Settles.ok trivial).congr (by simp [hrange])
    · rename_i hrange
      refine Settles.congr ?_ (iff_of_true trivial hrange)
      -- the wording shows the integer, so it is written before the issue arises
      rw [Json.written, Json.hasLongInt]
      split
      · rename_i hlong
        exact Settles.error (hT.long List.mem_cons_self ⟨n, .self, hlong⟩)
      · exact hissue rfl
  | float x =>
    simp only [literal, Json.IsExpressible]
    split
    · rename_i hfinite
      exact (Settles.ok trivial).congr (by simp [hfinite])
    · rename_i hfinite
      exact (hissue rfl).congr (iff_of_true trivial hfinite)
  | list xs => exact (hissue rfl).congr (by simp [Json.IsExpressible])
  | object fs => exact (hissue rfl).congr (by simp [Json.IsExpressible])

theorem expressions_eq_mapM (location : String) (es : List Expression) :
    expressions location es = es.mapM (expression location) := by
  induction es with
  | nil => rw [expressions, List.mapM_nil]; rfl
  | cons e rest ih => rw [expressions, List.mapM_cons, ih]

theorem settles_expression {e : Expression} (he : e.Typed) (hT : Tells T location [e]) :
    Settles e.IsWrong T (fun v => v.isString = true) (expression location e) := by
  -- the induction is on the typing, which follows the arguments of created objects
  induction he with
  | literal value =>
    rw [expression]
    refine Settles.congr ?_ Expression.isWrong_literal.symm
    exact (settles_literal hT).map fun _ _ => rfl
  | snippet text =>
    rw [expression]
    refine Settles.congr ?_ (iff_of_false id (Expression.not_isWrong_snippet text))
    exact Settles.ok rfl
  | @create type args hargs ih =>
    rw [expression, expressions_eq_mapM]
    have hparts := Settles.mapM fun arg harg =>
      ih arg harg (hT.arguments.mono (by simpa using harg))
    refine Settles.congr (hparts.finish fun parts hparts => ?_) Expression.isWrong_create.symm
    obtain ⟨inner, hinner⟩ := commaList_eq_ok hparts
    rw [hinner]
    exact ⟨_, rfl, rfl⟩
  | bare =>
    rw [expression]
    refine Settles.congr ?_ (iff_of_true trivial Expression.isWrong_bare)
    exact Settles.error (hT.issue rfl)
  | absent =>
    rw [expression]
    refine Settles.congr ?_ (iff_of_true trivial Expression.isWrong_absent)
    exact Settles.error (hT.issue rfl)

/-- Expressions between commas. -/
theorem settles_expressions {es : List Expression} (hes : ∀ e ∈ es, e.Typed)
    (hT : Tells T location es) :
    Settles (∃ e ∈ es, e.IsWrong) T (fun _ => True) (expressions location es >>= commaList) := by
  rw [expressions_eq_mapM]
  have hparts := Settles.mapM fun e he =>
    settles_expression (hes e he) (hT.mono (by simpa using he))
  refine hparts.finish fun parts hparts => ?_
  obtain ⟨inner, hinner⟩ := commaList_eq_ok hparts
  exact ⟨inner, hinner, trivial⟩

/-- An expression in the middle of a line. -/
theorem settles_inLine {β : Type} {Q : β → Prop} {e : Expression} (he : e.Typed)
    (hT : Tells T location [e]) {f : String → β} (hf : ∀ s, Q (f s)) :
    Settles e.IsWrong T Q
      (expression location e >>= fun v => v.written >>= fun s => pure (f s)) := by
  refine (settles_expression he hT).finish fun v hv => ?_
  obtain ⟨s, rfl⟩ := Json.exists_of_isString hv
  exact ⟨f s, rfl, hf s⟩

theorem statement_ret {value : Expression} (h : value ≠ .absent) :
    statement location (.ret value) = expression location value >>= fun v =>
      v.written >>= fun s => pure (.str ("return " ++ s ++ ";")) := by
  cases value with
  | absent => exact absurd rfl h
  | _ => rfl

theorem settles_statement {s : Statement} (hs : s.Typed)
    (hT : Tells T location s.expression?.toList) :
    Settles s.IsWrong T (fun v => v.isString = true) (statement location s) := by
  cases hs with
  | @ret value hvalue =>
    by_cases hv : value = .absent
    · subst hv
      refine Settles.congr (Settles.ok rfl) (iff_of_false id ?_)
      simp [Statement.IsWrong, Statement.expression?]
    · have he := Statement.expression?_ret hv
      rw [he] at hT
      rw [Statement.isWrong_of_expression? he, statement_ret hv]
      exact settles_inLine hvalue hT fun _ => by rfl
  | @assign target value hvalue =>
    have he : (Statement.assign target value).expression? = some value := rfl
    rw [he] at hT
    rw [Statement.isWrong_of_expression? he]
    exact settles_inLine hvalue hT fun _ => by rfl
  | snippet text =>
    refine Settles.congr (Settles.ok rfl) (iff_of_false id ?_)
    simp [Statement.IsWrong, Statement.expression?]
  | bare =>
    exact (Settles.error (hT.issue rfl)).congr (iff_of_true trivial (Or.inl rfl))

theorem settles_statements {body : List Statement} (hbody : ∀ s ∈ body, s.Typed)
    (hT : Tells T location (body.filterMap Statement.expression?)) :
    Settles (∃ s ∈ body, s.IsWrong) T (fun vs => ∀ v ∈ vs, v.isString = true)
      (statements location body) :=
  Settles.mapM fun s hs => settles_statement (hbody s hs) <| hT.mono fun e he =>
    List.mem_filterMap.2 ⟨s, hs, by simpa using he⟩

theorem settles_accessorLines (keyword : String) {body : List Statement}
    (hbody : ∀ s ∈ body, s.Typed) (hT : Tells T location (body.filterMap Statement.expression?)) :
    Settles (∃ s ∈ body, s.IsWrong) T (fun _ => True) (accessorLines keyword body location) := by
  refine (settles_statements hbody hT).finish fun vs hvs => ?_
  obtain ⟨lines, hlines⟩ := accessor_eq_ok keyword hvs
  rw [hlines]
  exact ⟨_, rfl, trivial⟩

theorem settles_argument {a : Argument} (ha : a.Typed) (hT : Tells T location a.default?.toList) :
    Settles (∃ e ∈ a.default?, e.IsWrong) T (fun _ => True) (argument location a) := by
  obtain ⟨type, htype⟩ := Json.exists_of_isString ha.type
  obtain ⟨name, hname⟩ := Json.exists_of_isString ha.name
  unfold argument
  rw [htype, hname]
  simp only [Json.written_str]
  by_cases h : a.default = .absent
  · rw [Argument.default?, h]
    exact (Settles.ok trivial).congr (by simp)
  · rw [Argument.default?_of_ne h] at hT ⊢
    refine Settles.congr (p := a.default.IsWrong) ?_ (by simp)
    split
    · exact absurd ‹_› h
    · exact settles_inLine ha.default hT fun _ => trivial

/-! ### Members -/

theorem of_accessorIssue? {p : PropertyBody} {cause : Cause}
    (h : accessorIssue? p = some cause) : p.Misfit ∧ cause.kind = .unsupportedConstruct := by
  unfold accessorIssue? at h
  split at h
  · rename_i hget
    cases h
    refine ⟨.noGetter (by simpa using hget), ?_⟩
    split <;> rfl
  · split at h
    · rename_i hset
      cases h
      rw [Bool.and_eq_true, Bool.not_eq_true', Bool.not_eq_true'] at hset
      exact ⟨.noSetter (by simpa using hset.1) hset.2, rfl⟩
    · split at h
      · rename_i hmixed
        cases h
        obtain ⟨hset, hne⟩ := Bool.and_eq_true_iff.1 hmixed
        rw [bne_iff_ne, ne_eq, Bool.eq_iff_iff, List.isEmpty_iff, List.isEmpty_iff] at hne
        exact ⟨.mixed hset hne, rfl⟩
      · cases h

theorem accessorIssue?_ne_none {p : PropertyBody} (h : p.Misfit) : accessorIssue? p ≠ none := by
  unfold accessorIssue?
  cases h with
  | noGetter hget => simp [hget]
  | noSetter hbody hset =>
    split
    · nofun
    · simp [hbody, hset]
  | mixed hset hmixed =>
    have hne : p.getter.isEmpty ≠ p.setter.isEmpty := by
      rwa [ne_eq, Bool.eq_iff_iff, List.isEmpty_iff, List.isEmpty_iff]
    split
    · nofun
    · simp [hset, hne]

theorem settles_property {d : Declaration} {p : PropertyBody} (hname : d.name.isString = true)
    (htype : p.type.isString = true) (hget : ∀ s ∈ p.getter, s.Typed)
    (hset : ∀ s ∈ p.setter, s.Typed)
    (hT : Tells T location (DeclarationBody.property p).expressions) :
    Settles (p.Misfit ∨ ∃ s ∈ (DeclarationBody.property p).statements, s.IsWrong) T
      (fun _ => True) (property d p location) := by
  unfold property
  split
  · rename_i cause hcause
    obtain ⟨hmisfit, hkind⟩ := of_accessorIssue? hcause
    exact (Settles.error (hT.issue hkind)).congr (iff_of_true trivial (Or.inl hmisfit))
  · rename_i hnone
    refine Settles.congr ?_
      (or_iff_right fun hmisfit => accessorIssue?_ne_none hmisfit hnone).symm
    obtain ⟨type, htype⟩ := Json.exists_of_isString htype
    obtain ⟨name, hname⟩ := Json.exists_of_isString hname
    rw [htype, hname]
    simp only [Json.written_str, DeclarationBody.statements]
    simp only [DeclarationBody.expressions, DeclarationBody.statements, List.append_nil] at hT
    by_cases hempty : p.getter = []
    · rw [hempty]
      exact (Settles.ok trivial).congr (by simp)
    · rw [if_neg hempty] at hT ⊢
      rw [List.filterMap_append] at hT
      have hgetter := settles_accessorLines "get" hget
        (hT.mono (List.subset_append_left _ _))
      simp only [List.isEmpty_iff, hempty, List.mem_append, or_and_right, exists_or]
      refine hgetter.bind fun getter _ => ?_
      by_cases hhas : p.hasSet = true
      · simp only [if_pos hhas] at hT ⊢
        have hsetter := settles_accessorLines "set" hset
          (hT.mono (List.subset_append_right _ _))
        exact hsetter.map fun _ _ => by trivial
      · simp only [if_neg hhas]
        exact Settles.congr (p := False) (Settles.ok trivial) (by simp)

theorem settles_baseCall {call : Option (List Expression)}
    (hcall : ∀ args, call = some args → ∀ e ∈ args, e.Typed)
    (hT : Tells T location (call.getD [])) :
    Settles (∃ e ∈ call.getD [], e.IsWrong) T (fun _ => True) (baseCall location call) := by
  cases call with
  | none => exact (Settles.ok trivial).congr (by simp)
  | some args =>
    have hargs := settles_expressions (hcall args rfl) hT
    rw [baseCall, ← bind_assoc]
    exact hargs.map fun _ _ => by trivial

theorem settles_method {d : Declaration} {m : MethodBody} (hname : d.name.isString = true)
    (hm : (DeclarationBody.method m).Typed)
    (hT : Tells T location (DeclarationBody.method m).expressions) :
    Settles ((∃ e ∈ m.parameters.filterMap Argument.default?, e.IsWrong) ∨
      (∃ e ∈ if m.isConstructor then m.baseCall.getD [] else [], e.IsWrong) ∨
      ∃ s ∈ m.statements, s.IsWrong) T (fun _ => True) (method d m location) := by
  obtain _ | _ | _ | ⟨htype, hparams, hbody, hcall⟩ := hm
  obtain ⟨name, hname⟩ := Json.exists_of_isString hname
  obtain ⟨type, htype⟩ := Json.exists_of_isString htype
  have hlines (head : String) : Settles (∃ s ∈ m.statements, s.IsWrong) T (fun _ => True) (do
      return head :: "\x7b" :: (← block (← statements location m.statements)) ++ ["\x7d"]) := by
    have hstatements := settles_statements hbody (hT.mono (List.subset_append_left _ _))
    refine hstatements.finish fun vs hvs => ?_
    obtain ⟨lines, hlines⟩ := block_eq_ok hvs
    rw [hlines]
    exact ⟨_, rfl, trivial⟩
  rw [exists_mem_filterMap]
  refine Settles.bind (Settles.mapM fun a ha => settles_argument (hparams a ha) (hT.mono ?_))
    fun _ _ => ?_
  · intro e he
    refine List.mem_append_right _ (List.mem_append_left _ ?_)
    exact List.mem_filterMap.2 ⟨a, ha, by simpa using he⟩
  · simp only [hname, htype, Json.written_str]
    by_cases hcon : m.isConstructor = true
    · simp only [if_pos hcon]
      have hbase : Tells T location (m.baseCall.getD []) := by
        refine hT.mono fun e he => List.mem_append_right _ (List.mem_append_right _ ?_)
        rwa [if_pos hcon]
      exact (settles_baseCall hcall hbase).bind fun _ _ => hlines _
    · simp only [if_neg hcon]
      exact (hlines _).congr (by simp)

theorem settles_constant {d : Declaration} {type value : Json} (hname : d.name.isString = true)
    (htype : type.isString = true) (hT : Tells T location [.literal value]) :
    Settles (d.modifiers ≠ [] ∨ (Expression.literal value).IsWrong) T (fun _ => True)
      (constant d type value location) := by
  obtain ⟨name, hname⟩ := Json.exists_of_isString hname
  obtain ⟨type, rfl⟩ := Json.exists_of_isString htype
  unfold constant
  by_cases hmods : d.modifiers = []
  · simp only [hmods, hname, List.isEmpty_nil, Bool.not_true, ne_eq, not_true, false_or,
      Expression.isWrong_literal]
    exact (settles_literal hT).map fun _ _ => by trivial
  · have hnonempty : (!d.modifiers.isEmpty) = true := by simpa using hmods
    rw [if_pos hnonempty]
    exact (Settles.error (hT.issue rfl)).congr (iff_of_true trivial (Or.inl hmods))

theorem settles_attributeLine {a : Attribute} (ha : a.Typed) (hT : Tells T location a.arguments) :
    Settles (∃ e ∈ a.arguments, e.IsWrong) T (fun _ => True) (attributeLine location a) := by
  obtain ⟨name, hname⟩ := Json.exists_of_isString ha.name
  unfold attributeLine
  rw [hname]
  split
  · rename_i hempty
    rw [List.isEmpty_iff.1 hempty]
    exact (Settles.ok trivial).congr (by simp)
  · have hargs := settles_expressions ha.arguments hT
    rw [← bind_assoc]
    exact hargs.map fun _ _ => by trivial

theorem classHead_eq_ok {d : Declaration} {bases : List Json} (hname : d.name.isString = true)
    (hbases : ∀ base ∈ bases, base.isString = true) : ∃ head, classHead d bases = .ok head := by
  obtain ⟨name, hname⟩ := Json.exists_of_isString hname
  obtain ⟨inner, hinner⟩ := commaList_eq_ok hbases
  unfold classHead
  rw [hname, hinner]
  split <;> exact ⟨_, rfl⟩

/-! ### Declarations -/

/-- The lines of a declaration that is no class, above which its attributes will stand. -/
theorem settles_ownBody (member : Nat → Outcome (List String)) {d : Declaration}
    (hd : d.Typed) (hclass : d.isClass = false) (hT : Tells T location d.body.expressions) :
    Settles d.BodyOffends T (fun _ => True) (declarationBody member d location) := by
  have htyped := hd.body
  cases hbody : d.body with
  | bare =>
    simp only [declarationBody, Declaration.BodyOffends, Declaration.Misshapen, hbody, true_or]
    exact Settles.error (hT.issue rfl)
  | ofClass bases members =>
    rw [Declaration.isClass, Declaration.members?, hbody] at hclass
    cases hclass
  | property p =>
    rw [hbody] at htyped hT
    obtain _ | _ | ⟨htype, hget, hset⟩ := htyped
    simp only [declarationBody, Declaration.BodyOffends, Declaration.Misshapen, hbody]
    refine (settles_property hd.name htype hget hset hT).congr ?_
    simp only [Statement.exists_isWrong_iff, DeclarationBody.expressions, List.append_nil]
  | method m =>
    rw [hbody] at htyped hT
    simp only [declarationBody, Declaration.BodyOffends, Declaration.Misshapen, hbody, false_or]
    refine (settles_method hd.name htyped hT).congr ?_
    simp only [DeclarationBody.statements, DeclarationBody.expressions, List.mem_append,
      or_and_right, exists_or, Statement.exists_isWrong_iff]
    rw [← or_assoc, or_comm, or_assoc]
  | constant type value =>
    rw [hbody] at htyped hT
    obtain _ | _ | _ | _ | htype := htyped
    simp only [declarationBody, Declaration.BodyOffends, Declaration.Misshapen, hbody]
    refine (settles_constant hd.name htype hT).congr ?_
    simp [DeclarationBody.statements, DeclarationBody.expressions]

theorem settles_classBody {d : Declaration} {member : Nat → Outcome (List String)}
    {bases : List Json} {members : List Nat} {wrong : Nat → Prop} (hd : d.Typed)
    (hbody : d.body = .ofClass bases members)
    (hmember : ∀ i ∈ members, Settles (wrong i) T (fun _ => True) (member i)) :
    Settles (∃ i ∈ members, wrong i) T (fun _ => True) (declarationBody member d location) := by
  have htyped := hd.body
  rw [hbody] at htyped
  obtain _ | hbases := htyped
  obtain ⟨head, hhead⟩ := classHead_eq_ok hd.name hbases
  simp only [declarationBody, hbody, hhead]
  exact (Settles.mapM hmember).map fun _ _ => by trivial

/-! ### Models -/

variable {m : CodeModel} {ds : List Declaration}

/-- **A refusal inside a declaration**: one that is nested in it offends, and the failure is
an issue at the qualified name of that one, or the fault for an integer of it that has too
many digits. -/
def Refuses (m : CodeModel) (i : Nat) (e : Failure) : Prop :=
  ∃ j names, m.Nests i j ∧ m.OffendsAt j ∧ m.Qualified j names ∧
    ((∃ cause : Cause, cause.kind = .unsupportedConstruct ∧
        e = .issue ⟨cause, ".".intercalate names⟩) ∨
      m.HoldsLongAt j ∧ e = .fault .tooManyDigits)

theorem exists_nameChain (h : Coherent ds) (htyped : ∀ d ∈ ds, d.Typed) {fuel i : Nat}
    (hi : i < ds.length) (hfuel : i < fuel) :
    ∃ names : List String, nameChain (m.withEntries ds) fuel i = .ok (names.map Json.str) ∧
      (m.withEntries ds).Qualified i names := by
  induction fuel generalizing i with
  | zero => omega
  | succ fuel ih =>
    have hd : ds[i]? = some ds[i] := List.getElem?_eq_getElem hi
    have hnode : (m.withEntries ds).nodes[i]? = some (settle ds i ds[i]) := by
      rw [CodeModel.withEntries_nodes, hd, Option.map_some]
    obtain ⟨name, hname⟩ := Json.exists_of_isString (htyped _ (List.getElem_mem hi)).name
    rw [nameChain, CodeModel.get_withEntries, hd]
    simp only [bind, Except.bind, settle_parent, settle_name]
    rcases ho : ds[i].parent with _ | o
    · exact ⟨[name], by rw [hname]; rfl, .top hnode (by simpa using ho) (by simpa using hname)⟩
    · obtain ⟨p, _, rfl, hp, -⟩ := h.ownerClass hd ho
      obtain ⟨names, hnames, hq⟩ := ih (i := p) (by omega) (by omega)
      refine ⟨names ++ [name], ?_,
        .member hnode (by simpa using ho) (by simpa using hname) hq⟩
      simp [hnames, hname, pure, Except.pure]

theorem exists_qualifiedName (h : Coherent ds) (htyped : ∀ d ∈ ds, d.Typed) {i : Nat}
    (hi : i < ds.length) :
    ∃ names, qualifiedName (m.withEntries ds) i = .ok (".".intercalate names) ∧
      (m.withEntries ds).Qualified i names := by
  obtain ⟨names, hnames, hq⟩ := exists_nameChain (m := m) h htyped hi
    (show i < (m.withEntries ds).size + 1 by rw [CodeModel.withEntries_size]; omega)
  refine ⟨names, ?_, hq⟩
  rw [qualifiedName, hnames]
  show (names.map Json.str).mapM Json.asText >>= _ = _
  rw [mapM_map (g := Json.str) fun _ => rfl]
  rfl

/-- The failures with which a declaration itself is refused. -/
def RefusesOwn (d : Declaration) (location : String) (e : Failure) : Prop :=
  (∃ cause : Cause, cause.kind = .unsupportedConstruct ∧ e = .issue ⟨cause, location⟩) ∨
    d.HoldsLong ∧ e = .fault .tooManyDigits

theorem tells_refusesOwn (d : Declaration) (location : String) :
    Tells (RefusesOwn d location) location d.expressions :=
  ⟨fun hkind => Or.inl ⟨_, hkind, rfl⟩, fun he hlong => Or.inr ⟨⟨_, he, hlong⟩, rfl⟩⟩

theorem RefusesOwn.refuses {i : Nat} {d : Declaration} {names : List String} {e : Failure}
    (he : RefusesOwn d (".".intercalate names) e) (hd : m.nodes[i]? = some d)
    (hoffends : d.Offends) (hq : m.Qualified i names) : Refuses m i e :=
  ⟨i, names, .self, ⟨d, hd, hoffends⟩, hq, he.imp_right fun h => ⟨⟨d, hd, h.1⟩, h.2⟩⟩

theorem Refuses.member {i p : Nat} {e : Failure} (hp : p ∈ m.memberPlaces i)
    (h : Refuses m p e) : Refuses m i e := by
  obtain ⟨j, names, hnests, hrest⟩ := h
  exact ⟨j, names, .member hp hnests, hrest⟩

/-- The body of a declaration, with what is known of the members. -/
theorem settles_declarationBody {i : Nat} {d : Declaration} {names : List String}
    {member : Nat → Outcome (List String)} (hnode : m.nodes[i]? = some d) (hd : d.Typed)
    (hq : m.Qualified i names)
    (hmember : ∀ p ∈ m.memberPlaces i, Settles (∃ j, m.Nests p j ∧ m.OffendsAt j) (Refuses m p)
      (fun _ => True) (member p)) :
    Settles (d.BodyOffends ∨ ∃ p ∈ m.memberPlaces i, ∃ j, m.Nests p j ∧ m.OffendsAt j)
      (Refuses m i) (fun _ => True) (declarationBody member d (".".intercalate names)) := by
  rw [CodeModel.memberPlaces, hnode, Option.bind_some] at hmember ⊢
  by_cases hclass : d.isClass = true
  · obtain ⟨places, hplaces⟩ := Option.isSome_iff_exists.1 hclass
    obtain ⟨bases, hbody⟩ : ∃ bases, d.body = .ofClass bases places := by
      unfold Declaration.members? at hplaces
      split at hplaces
      · cases hplaces
        exact ⟨_, ‹_›⟩
      · cases hplaces
    have hown : ¬d.BodyOffends := by
      simp [Declaration.BodyOffends, Declaration.Misshapen, DeclarationBody.statements,
        DeclarationBody.expressions, hbody]
    rw [hplaces, Option.getD_some] at hmember ⊢
    refine (settles_classBody hd hbody fun p hp => (hmember p hp).mono fun e _ he => ?_).congr
      (or_iff_right hown).symm
    refine he.member ?_
    rwa [CodeModel.memberPlaces, hnode, Option.bind_some, hplaces]
  · rw [Bool.not_eq_true] at hclass
    have hnone : d.members? = none :=
      Option.isNone_iff_eq_none.1 (Option.isSome_eq_false_iff.1 hclass)
    have hown := settles_ownBody member hd hclass
      ((tells_refusesOwn d (".".intercalate names)).mono (List.subset_append_right _ _))
    rw [hnone]
    refine (hown.mono fun e hoffends he => ?_).congr (by simp)
    exact he.refuses hnode (Declaration.offends_iff.2 (Or.inl hoffends)) hq

/-- **The lines of a declaration** exist exactly if nothing that is nested in it offends. -/
theorem settles_declaration (h : Coherent ds) (htyped : ∀ d ∈ ds, d.Typed) {fuel i : Nat}
    (hi : i < ds.length) (hfuel : ds.length ≤ fuel + i) :
    Settles (∃ j, (m.withEntries ds).Nests i j ∧ (m.withEntries ds).OffendsAt j)
      (Refuses (m.withEntries ds) i) (fun _ => True) (declaration (m.withEntries ds) fuel i) := by
  -- the induction is on the fuel; a member stands behind its class and needs less of it
  induction fuel generalizing i with
  | zero => omega
  | succ fuel ih =>
    have hentry : ds[i]? = some ds[i] := List.getElem?_eq_getElem hi
    have hd := (htyped _ (List.getElem_mem hi)).settle ds i
    have hnode : (m.withEntries ds).nodes[i]? = some (settle ds i ds[i]) := by
      rw [CodeModel.withEntries_nodes, hentry, Option.map_some]
    have hget : (m.withEntries ds).get i = .ok (settle ds i ds[i]) := by
      rw [CodeModel.get_withEntries, hentry]
    obtain ⟨names, hname, hq⟩ := exists_qualifiedName (m := m) h htyped hi
    obtain ⟨comment, hcomment⟩ := commentOf_eq_ok hd.comment
    have hmember : ∀ p ∈ (m.withEntries ds).memberPlaces i,
        Settles (∃ j, (m.withEntries ds).Nests p j ∧ (m.withEntries ds).OffendsAt j)
          (Refuses (m.withEntries ds) p) (fun _ => True)
          (declaration (m.withEntries ds) fuel p) := by
      intro p hp
      rw [CodeModel.memberPlaces_withEntries h] at hp
      obtain ⟨e, he, ho⟩ := mem_placesOf.1 hp
      obtain ⟨q, _, hq, hlt, -⟩ := h.ownerClass he ho
      exact ih (lt_of_mem_placesOf hp) (by omega)
    rw [declaration]
    refine .step hget (.step hname ?_)
    generalize settle ds i ds[i] = d at hd hnode hcomment ⊢
    rw [CodeModel.exists_nests_iff]
    have hbody := settles_declarationBody hnode hd hq hmember
    have hattributes := Settles.mapM fun a ha => settles_attributeLine (hd.attributes a ha)
      ((tells_refusesOwn d (".".intercalate names)).mono fun e he =>
        List.mem_append_left _ (List.mem_flatMap.2 ⟨a, ha, he⟩))
    refine Settles.congr (hbody.bind fun body _ => .step hcomment
      ((hattributes.mono fun e hwrong he => ?_).map fun _ _ => by trivial)) ?_
    · exact he.refuses hnode (Declaration.offends_iff.2 (Or.inr hwrong)) hq
    · have hoffends : (m.withEntries ds).OffendsAt i ↔ d.Offends := by
        simp [CodeModel.OffendsAt, hnode]
      rw [hoffends, Declaration.offends_iff, or_right_comm]

/-! ### Every run -/

theorem place?_lt {index : Int} {i : Nat} (hi : m.place? index = some i) : i < m.size := by
  unfold CodeModel.place? at hi
  split at hi
  · split at hi
    · cases hi
      omega
    · cases hi
  · split at hi
    · cases hi
      omega
    · cases hi

/-- A declaration is written from its place, however the place was counted. -/
theorem render_eq_of_place? {index : Int} {i : Nat} (hi : m.place? index = some i) :
    render m index = render m i := by
  have hget : m.get index = m.get i := by
    rw [CodeModel.get, CodeModel.get, hi, CodeModel.place?_of_lt (place?_lt hi)]
  have hname : qualifiedName m index = qualifiedName m i := by
    rw [qualifiedName, qualifiedName, nameChain, nameChain, hget]
  rw [render, render, declaration, declaration, hget, hname]

/-- The text of a declaration exists exactly if its lines do. -/
theorem settles_render (h : Coherent ds) (htyped : ∀ d ∈ ds, d.Typed) {i : Nat}
    (hi : i < ds.length) :
    Settles (∃ j, (m.withEntries ds).Nests i j ∧ (m.withEntries ds).OffendsAt j)
      (Refuses (m.withEntries ds) i) (fun _ => True) (render (m.withEntries ds) i) := by
  refine (settles_declaration h htyped hi ?_).map fun _ _ => by trivial
  rw [CodeModel.withEntries_size]
  omega

/-- The entries after a run of typed edits are typed. -/
theorem typed_of_adds {edits : List Edit} (hedits : ∀ e ∈ edits, e.Typed) {entry : Declaration}
    (h : ∃ e ∈ edits, e.Introduces entry) : entry.Typed := by
  obtain ⟨e, he, owner, d, rfl, rfl⟩ := h
  exact Declaration.Typed.under (hedits _ he) owner

/-- **The renderer refuses exactly what it cannot express.** After any run of edits that add
typed declarations, and for any index of the model, the text exists exactly if nothing that
is nested in the declaration offends. Every failure is an issue at the qualified name of a
declaration that offends, or the fault for an integer of it with too many digits; so without
such integers there is an issue exactly if something offends. -/
theorem render_refuses (words : List Json) (edits : List Edit)
    (hedits : ∀ e ∈ edits, e.Proper ∧ e.Typed) {m : CodeModel}
    (hm : Edit.runAll edits { reserved := words } = m) {index : Int} {i : Nat}
    (hi : m.place? index = some i) :
    ((∃ text, render m index = .ok text) ↔ ¬∃ j, m.Nests i j ∧ m.OffendsAt j) ∧
      (∀ e, render m index = .error e → Refuses m i e) ∧
      ((∀ j, m.Nests i j → ¬m.HoldsLongAt j) →
        ((∃ j, m.Nests i j ∧ m.OffendsAt j) ↔ ∃ issue : Issue,
          issue.kind = .unsupportedConstruct ∧ render m index = .error (.issue issue))) := by
  rw [← CodeModel.withEntries_nil words] at hm
  obtain ⟨base, ds, hds, hnew, hrun⟩ := Edit.runAll_withEntries_adds edits
    (fun e he => (hedits e he).1) Coherent.nil
  obtain rfl := hrun.symm.trans hm
  have htyped : ∀ d ∈ ds, d.Typed := fun d hd => by
    rcases hnew d hd with hnone | hadds
    · cases hnone
    · exact typed_of_adds (fun e he => (hedits e he).2) hadds
  have hlt : i < ds.length := by simpa using place?_lt hi
  rw [render_eq_of_place? hi]
  obtain ⟨hfails, hends⟩ := settles_render (m := base) hds htyped hlt
  refine ⟨⟨?_, fun hnone => ?_⟩, fun e he => ?_, fun hshort => ⟨fun hoffends => ?_, ?_⟩⟩
  · rintro ⟨text, htext⟩ hoffends
    obtain ⟨e, he, -⟩ := hfails hoffends
    rw [htext] at he
    cases he
  · obtain ⟨text, htext, -⟩ := hends hnone
    exact ⟨text, htext⟩
  · by_cases hoffends : ∃ j, (base.withEntries ds).Nests i j ∧ (base.withEntries ds).OffendsAt j
    · obtain ⟨e', he', hrefuses⟩ := hfails hoffends
      rw [he] at he'
      cases he'
      exact hrefuses
    · obtain ⟨text, htext, -⟩ := hends hoffends
      rw [he] at htext
      cases htext
  · obtain ⟨e, he, j, names, hnests, -, -, ⟨cause, hkind, rfl⟩ | ⟨hlong, -⟩⟩ := hfails hoffends
    · exact ⟨⟨cause, ".".intercalate names⟩, hkind, he⟩
    · exact absurd hlong (hshort j hnests)
  · rintro ⟨issue, -, hissue⟩
    by_contra hnone
    obtain ⟨text, htext, -⟩ := hends hnone
    rw [hissue] at htext
    cases htext

/-- A class inside a class, a method that hands arguments of no kind to a base class and is no
constructor, and one that creates an object out of an object out of an expression of no
kind. -/
def latchEdits : List Edit :=
  let lid : Expression := .create "Lid" [.create "Hinge" [.bare]]
  [.add none (Declaration.ofClass "Shelf" [] .null),
   .add (some 0) (Declaration.ofClass "Box" ["Shelf"] "A box."),
   .add (some 1) { name := "Shut", body := .method { baseCall := some [.bare] } },
   .add (some 1) { name := "Open", body := .method { statements := [.ret .absent, .ret lid] } }]

theorem typed_latchEdits : ∀ e ∈ latchEdits, e.Proper ∧ e.Typed := by
  have hproper : ∀ e ∈ latchEdits, e.Proper := by
    simp [latchEdits, Edit.Proper, Declaration.IsFresh, Declaration.members?, Declaration.ofClass]
  have hlid : Expression.Typed (.create "Lid" [.create "Hinge" [.bare]]) :=
    .create (by simpa using .create (by simpa using .bare))
  have htyped : ∀ e ∈ latchEdits, e.Typed := by
    simp only [latchEdits, List.forall_mem_cons, Edit.Typed]
    refine ⟨⟨rfl, Or.inl rfl, by simp [Declaration.ofClass], .ofClass (by simp)⟩,
      ⟨rfl, Or.inr rfl, by simp [Declaration.ofClass], .ofClass (by simp [Json.isString])⟩,
      ⟨rfl, Or.inl rfl, by simp, .method rfl (by simp) (by simp) ?_⟩,
      ⟨rfl, Or.inl rfl, by simp, .method rfl (by simp) ?_ (by simp)⟩, by simp⟩
    · simpa using .bare
    · simpa using ⟨.ret .absent, .ret hlid⟩
  exact fun e he => ⟨hproper e he, htyped e he⟩

/-- Counted from the last declaration, the outer class is refused, at the second method. -/
theorem render_refuses_latch :
    let m := Edit.runAll latchEdits {}
    (∀ e ∈ latchEdits, e.Proper ∧ e.Typed) ∧ m.place? (-4) = some 0 ∧
      render m (-4) = .error (.issue ⟨.bareExpression, "Shelf.Box.Open"⟩) ∧
      (((∃ text, render m (-4) = .ok text) ↔ ¬∃ j, m.Nests 0 j ∧ m.OffendsAt j) ∧
        (∀ e, render m (-4) = .error e → Refuses m 0 e) ∧
        ((∀ j, m.Nests 0 j → ¬m.HoldsLongAt j) →
          ((∃ j, m.Nests 0 j ∧ m.OffendsAt j) ↔ ∃ issue : Issue,
            issue.kind = .unsupportedConstruct ∧ render m (-4) = .error (.issue issue)))) :=
  ⟨typed_latchEdits, by decide, by rfl,
    render_refuses Identifier.keywordValues latchEdits typed_latchEdits rfl (by decide)⟩

/-- A class with a constant whose value is the least integer that is not written out. -/
def longEdits : List Edit :=
  [.add none (Declaration.ofClass "Shelf" [] .null),
   .add (some 0) { name := "Span", body := .constant "long" (.int Number.longInt) }]

theorem typed_longEdits : ∀ e ∈ longEdits, e.Proper ∧ e.Typed := by
  simp only [longEdits, List.forall_mem_cons, Edit.Typed, Edit.Proper]
  refine ⟨⟨⟨by simp, ?_⟩, rfl, Or.inl rfl, by simp [Declaration.ofClass], .ofClass (by simp)⟩,
    ⟨⟨by simp, ?_⟩, rfl, Or.inl rfl, by simp, .constant rfl⟩, by simp⟩
  all_goals simp [Declaration.IsFresh, Declaration.members?, Declaration.ofClass]

/-- Whether an outcome is the fault that an integer is too long. -/
def isTooLong : Outcome String → Bool
  | .error (.fault .tooManyDigits) => true
  | _ => false

theorem eq_of_isTooLong {o : Outcome String} (h : isTooLong o = true) :
    o = .error (.fault .tooManyDigits) := by
  unfold isTooLong at h
  split at h
  · rfl
  · cases h

/-- **A refusal without an issue**: the constant offends, and the class is refused with a
fault that names no declaration. -/
theorem render_longEdits :
    let m := Edit.runAll longEdits {}
    (∀ e ∈ longEdits, e.Proper ∧ e.Typed) ∧ m.Nests 0 1 ∧ m.OffendsAt 1 ∧
      render m 0 = .error (.fault .tooManyDigits) := by
  have hrange : ¬(Json.int Number.longInt).IsExpressible := by
    show ¬((minInteger ≤ (Number.longInt : Int)) ∧ (Number.longInt : Int) ≤ maxInteger)
    decide +kernel
  have hrun : isTooLong (render (Edit.runAll longEdits {}) 0) = true := by
    decide +kernel
  refine ⟨typed_longEdits, .member (p := 1) (by decide) .self, ⟨_, rfl, ?_⟩,
    eq_of_isTooLong hrun⟩
  exact .expression List.mem_cons_self (Expression.isWrong_literal.2 hrange)

end CSharp

end ClientGen
