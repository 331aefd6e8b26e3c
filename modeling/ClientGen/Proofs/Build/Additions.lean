import ClientGen.Proofs.Build.Requests

/-!
# What the decorators of a request class add

Each decorator of request classes looks at what is there when it is run: the name of a property for
a parameter avoids the names in the class, the constructor takes what it finds properties for, the
factory has the parameters of the constructor it finds. All the same, what a decorator adds can be
told beforehand, up to the parameters and statements of the constructor and of the factory
(`ClientGen.RequestPass.members`, `ClientGen.RequestPass.factories`), and this is what is added
(`ClientGen.RequestPass.appends_members`, `ClientGen.RequestPass.appends_factories`).

Names are chosen by looking at sets of words (`ClientGen.Identifier.safeWith_congr`), and for a
parameter the set is the same at whatever point it is looked at: the names that the other decorators
add to the class are those of members of its base class, which are avoided anyway, and that of the
class itself (`ClientGen.RequestPass.name_of_mem_members`).
-/

namespace ClientGen

open Build Decorator

/-! ### Words in no particular order -/

namespace Identifier

theorem isAmong_of_not_isString {lowered : String} {words : List Json} {word : Json}
    (hword : word ∈ words) (h : word.isString = false) :
    isAmong lowered (asSet words) = Outcome.fault .noSuchPart := by
  have hmem : word ∈ words.filter fun w => !w.isString := List.mem_filter.2 ⟨hword, by rw [h]; rfl⟩
  obtain ⟨first, rest, hfilter⟩ := List.exists_cons_of_ne_nil (List.ne_nil_of_mem hmem)
  have hfirst : first ∈ words.filter fun w => !w.isString := hfilter ▸ List.mem_cons_self
  rw [asSet, hfilter]
  cases first with
  | str text => exact absurd (List.mem_filter.1 hfirst).2 (by simp [Json.isString])
  | _ => rfl

/-- Whether a name is among some words depends on nothing but which words there are. -/
theorem isAmong_asSet_congr {words words' : List Json} (h : ∀ w, w ∈ words ↔ w ∈ words')
    (lowered : String) : isAmong lowered (asSet words) = isAmong lowered (asSet words') := by
  by_cases hall : ∀ w ∈ words, w.isString = true
  · obtain ⟨texts, rfl⟩ := Json.exists_texts hall
    obtain ⟨texts', rfl⟩ := Json.exists_texts fun w hw => hall w ((h w).2 hw)
    have hmem : ∀ t, t ∈ texts ↔ t ∈ texts' := fun t => by simpa using h (.str t)
    rw [asSet_texts, asSet_texts, isAmong_texts, isAmong_texts]
    refine congrArg _ (Bool.eq_iff_iff.2 ?_)
    simp only [List.any_eq_true, hmem]
  · simp only [not_forall, Bool.not_eq_true] at hall
    obtain ⟨word, hword, hother⟩ := hall
    rw [isAmong_of_not_isString hword hother, isAmong_of_not_isString ((h word).1 hword) hother]

/-- **A safe name depends on nothing but which words are reserved.** -/
theorem safeWith_congr {words words' : List Json} (h : ∀ w, w ∈ words ↔ w ∈ words')
    (candidate suffix : Json) :
    safeWith candidate suffix (asSet words) = safeWith candidate suffix (asSet words') := by
  have hspared (name : String) :
      spared name suffix (asSet words) = spared name suffix (asSet words') := by
    rw [spared, spared, isAmong_asSet_congr h]
  simp only [safeWith, hspared]

end Identifier

/-! ### Steps that append entries -/

variable {α β : Type} {m : CodeModel} {ds es : List Declaration}

/-- A workbench whose model is laid out from some coherent entries. -/
structure Workbench.Laid (w : Workbench) (m : CodeModel) (ds : List Declaration) : Prop where
  model : w.model = m.withEntries ds
  coherent : Coherent ds

/-- **A step appends entries** to those of a model. The property is that of its result and of the
entries. -/
def Appends (m : CodeModel) (ds : List Declaration) (x : Build α)
    (Q : α → List Declaration → Prop) : Prop :=
  ∀ ⦃w w' : Workbench⦄ ⦃a : α⦄, w.Laid m ds → x w = .ok a w' →
    ∃ es, w'.Laid m (ds ++ es) ∧ Q a es

namespace Appends

variable {Q : α → List Declaration → Prop} {R : β → List Declaration → Prop} {x : Build α}
  {k : α → Build β}

theorem imp {Q' : α → List Declaration → Prop} (hx : Appends m ds x Q)
    (h : ∀ a es, Q a es → Q' a es) : Appends m ds x Q' := by
  intro w w' a hw hrun
  obtain ⟨es, hes, hQ⟩ := hx hw hrun
  exact ⟨es, hes, h a es hQ⟩

theorem pure {a : α} (h : Q a []) : Appends m ds (Pure.pure a : Build α) Q := by
  rintro w w' b hw ⟨⟩
  exact ⟨[], by rwa [List.append_nil], h⟩

theorem bind (hx : Appends m ds x Q)
    (hk : ∀ a es, Q a es → Appends m (ds ++ es) (k a) fun b es' => R b (es ++ es')) :
    Appends m ds (x >>= k) R := by
  intro w w' b hw hrun
  obtain ⟨a, v, hv, hrun⟩ := Session.bind_eq_ok.1 hrun
  obtain ⟨es, hes, hQ⟩ := hx hw hv
  obtain ⟨es', hes', hR⟩ := hk a es hQ hes hrun
  exact ⟨es ++ es', by rwa [← List.append_assoc], hR⟩

/-- A step that looks appends nothing. -/
theorem after {P : α → Prop} (hx : Looks (m.withEntries ds) x P)
    (hk : ∀ a, P a → Appends m ds (k a) R) : Appends m ds (x >>= k) R := by
  intro w w' b hw hrun
  obtain ⟨a, v, hv, hrun⟩ := Session.bind_eq_ok.1 hrun
  obtain ⟨hmodel, ha⟩ := hx hw.model hv
  exact hk a ha ⟨hmodel, hw.coherent⟩ hrun

theorem lift {o : Outcome α} (hk : ∀ a, o = .ok a → Appends m ds (k a) R) :
    Appends m ds ((liftM o : Build α) >>= k) R :=
  after (.lift fun _ => id) hk

theorem member {p : Nat} {d : Declaration} (hd : d.detached = d) :
    Appends m ds (addMember p d) fun _ es => es = [d.under (some (p : Int))] := by
  intro w w' u hw hrun
  obtain ⟨place, v, hv, hrun⟩ := Session.bind_eq_ok.1 hrun
  cases hrun
  obtain ⟨m', hinsert, rfl⟩ := onModel_eq_ok.1 hv
  rw [hw.model] at hinsert
  have hf := CodeModel.frozen_of_insert hinsert
  rw [CodeModel.withEntries_frozen] at hf
  have ho : ∀ o, some (p : Int) = some o → 0 ≤ o := by
    rintro o ⟨⟩
    exact Int.natCast_nonneg p
  have hfresh := Declaration.isFresh_of_detached hd
  rcases CodeModel.insert_withEntries hf hw.coherent ho hfresh with ⟨e, hother⟩ | ⟨ha, hother⟩
  · rw [hother] at hinsert
    cases hinsert
  · rw [hother] at hinsert
    cases hinsert
    exact ⟨_, ⟨rfl, hw.coherent.snoc ha⟩, rfl⟩

/-- The name of a class that is looked at. -/
theorem getClass {p : Nat} {k : Declaration × List Nat → Build β}
    (hk : ∀ own : Declaration × List Nat, own.1.name = CodeModel.nameAt ds p →
      Appends m ds (k own) R) :
    Appends m ds (look (fun m => m.getClass p) >>= k) R := by
  refine after (.look fun own h => ?_) hk
  obtain ⟨q, c, hq, hc, -, rfl⟩ := CodeModel.getClass_withEntries_eq_ok (Int.natCast_nonneg p) h
  obtain rfl := Int.ofNat.inj hq
  rw [CodeModel.nameAt, hc]
  exact settle_name _ _ _

/-- The words that a safe name for a member of a class avoids. -/
theorem safeName {p : Nat} {candidate : String} {suffix : Json} {extra : List Json}
    {k : Json → Build β}
    (hk : ∀ name, Identifier.safeWith candidate suffix (Identifier.asSet
        (m.reserved ++ scopeNames ds (some (p : Int)) ++ extra ++ [CodeModel.nameAt ds p])) =
          .ok name → Appends m ds (k name) R) :
    Appends m ds (safeName p candidate suffix extra >>= k) R := by
  refine after (.look fun name h => ?_) hk
  obtain ⟨words, hwords, h⟩ := Outcome.bind_eq_ok.1 h
  obtain ⟨taken, htaken, hwords⟩ := Outcome.bind_eq_ok.1 hwords
  obtain ⟨keys, hkeys, hwords⟩ := Outcome.bind_eq_ok.1 hwords
  obtain ⟨scope, hscope, hwords⟩ := Outcome.bind_eq_ok.1 hwords
  cases hwords
  obtain rfl := CodeModel.asKeys_eq_ok hkeys
  have hcounted : ∀ o, some (p : Int) = some o → 0 ≤ o := by
    rintro o ⟨⟩
    exact Int.natCast_nonneg p
  obtain rfl := CodeModel.memberNames_eq_ok hcounted htaken
  have hname : scope.name = CodeModel.nameAt ds p := by
    rw [CodeModel.get_withEntries] at hscope
    rw [CodeModel.nameAt]
    cases hd : ds[p]? with
    | none =>
      rw [hd] at hscope
      cases hscope
    | some d =>
      rw [hd] at hscope
      cases hscope
      exact settle_name _ _ _
  rwa [hname] at h

end Appends

/-! ### What a decorator adds -/

namespace Declaration

/-- A declaration without its parameters and statements, if it is a method. -/
def withoutSteps (d : Declaration) : Declaration :=
  match d.body with
  | .method b => { d with body := .method { b with parameters := [], statements := [] } }
  | _ => d

/-- A declaration without its parameters and statements, if it is a constructor. -/
def outline (d : Declaration) : Declaration :=
  if d.isConstructor then d.withoutSteps else d

/-- An entry without what depends on the order of the decorators: the parameters and statements of
a constructor, and of a method of the class with a given index. -/
def sketch (owner : Int) (d : Declaration) : Declaration :=
  if d.parent = some owner then d.withoutSteps else d.outline

section Sketch

variable (d : Declaration) {o q : Int}

@[simp] theorem withoutSteps_name : d.withoutSteps.name = d.name := by
  rw [withoutSteps]
  split <;> rfl

@[simp] theorem withoutSteps_parent : d.withoutSteps.parent = d.parent := by
  rw [withoutSteps]
  split <;> rfl

@[simp] theorem withoutSteps_isClass : d.withoutSteps.isClass = d.isClass := by
  rw [withoutSteps]
  split
  · rename_i b hb
    simp [isClass, members?, hb]
  · rfl

theorem withoutSteps_under (owner : Option Int) :
    (d.under owner).withoutSteps = d.withoutSteps.under owner := by
  rcases d with ⟨_, _, _, _, _, _, body⟩
  cases body <;> rfl

theorem outline_under (owner : Option Int) : (d.under owner).outline = d.outline.under owner := by
  rw [outline, outline, withoutSteps_under]
  split <;> rename_i h
  · rw [if_pos (show d.isConstructor = true from h)]
  · rw [if_neg (show ¬ d.isConstructor = true from h)]

theorem sketch_of_parent {d : Declaration} (h : d.parent = some o) :
    d.sketch o = d.withoutSteps :=
  if_pos h

theorem sketch_of_parent_ne {d : Declaration} (h : d.parent ≠ some o) : d.sketch o = d.outline :=
  if_neg h

@[simp] theorem sketch_name : (d.sketch o).name = d.name := by
  rw [sketch, outline]
  split_ifs <;> simp

@[simp] theorem sketch_parent : (d.sketch o).parent = d.parent := by
  rw [sketch, outline]
  split_ifs <;> simp

@[simp] theorem sketch_isClass : (d.sketch o).isClass = d.isClass := by
  rw [sketch, outline]
  split_ifs <;> simp

theorem sketch_under (h : q ≠ o) :
    (d.under (some q)).sketch o = d.outline.under (some q) := by
  rw [sketch_of_parent_ne (by simpa using h), outline_under]

end Sketch

end Declaration

namespace RequestPass

/-- The property for a parameter. -/
def parameterProperty (q : Parameter) (name type : Json) : Declaration :=
  { name, modifiers := [.virtual], attributes := [parameterAttribute q], comment := q.description
    body := .property { type } }

/-- The properties for some parameters, whose names avoid some words and one another. -/
def parameterProperties (s : RequestSite) (method : Method) (words : List Json) :
    List Parameter → Outcome (List Declaration)
  | [] => .ok []
  | q :: rest => do
    let context ← s.context
    let name ← Identifier.safeWith (Identifier.pascal q.name) context.suffix
      (Identifier.asSet words)
    let type ← parameterType context q (s.locationOf method ++ "." ++ q.name)
    let later ← parameterProperties s method (words ++ [name]) rest
    return parameterProperty q name type :: later

/-- The property for the body of a request. -/
def bodyProperty (type : Json) : Declaration :=
  { name := "Body", modifiers := [.virtual]
    comment := .str "Gets or sets the body of this request.", body := .property { type } }

/-- The method that returns the body of a request. -/
def bodyGetter : Declaration :=
  { name := "GetBody", access := .derived, modifiers := [.override]
    comment := .str "Returns the body of the request."
    body := .method { returnType := "object", statements := [.ret (.snippet "Body")] } }

/-- **What a decorator adds to the request class**, in outline, when some words are reserved and the
class has a name. -/
def members (s : RequestSite) (reserved : List Json) (own : Json) :
    RequestPass → Outcome (List Declaration)
  | .documentation => .ok []
  | .fields => do
    let method ← s.method
    return [overriding "MethodName" (.str method.name), overriding "HttpMethod" method.httpMethod,
      overriding "RestPath" method.path]
  | .parameters => do
    let method ← s.method
    parameterProperties s method (reserved ++ requestBaseMembers ++ [own]) method.parameters
  | .body => do
    let method ← s.method
    match method.request with
    | none => return []
    | some schema =>
      let context ← s.context
      let type ← context.schemaIndex.className schema (s.locationOf method)
      return [bodyProperty type, bodyGetter]
  | .constructor => do
    let method ← s.method
    return [requestConstructor method own [] []]
  | .factory => .ok []

/-- **What a decorator adds to the resource class**, without parameters and statements, when some
words are to be avoided and the request class has a name. -/
def factories (s : RequestSite) (words : List Json) (own : Json) :
    RequestPass → Outcome (List Declaration)
  | .factory => do
    let method ← s.method
    let context ← s.context
    let name ← Identifier.safeWith (Identifier.pascal method.name) context.suffix
      (Identifier.asSet words)
    return [(factoryMethod method name own []).withoutSteps]
  | _ => .ok []

variable {s : RequestSite} {p o : Nat} {own : Json}

theorem isClass_of_parameterProperties {method : Method} {qs : List Parameter} {words : List Json}
    {gs : List Declaration} (h : parameterProperties s method words qs = .ok gs) :
    ∀ g ∈ gs, g.isClass = false := by
  induction qs generalizing words gs with
  | nil =>
    cases h
    nofun
  | cons q rest ih =>
    obtain ⟨context, -, h⟩ := Outcome.bind_eq_ok.1 h
    obtain ⟨name, -, h⟩ := Outcome.bind_eq_ok.1 h
    obtain ⟨type, -, h⟩ := Outcome.bind_eq_ok.1 h
    obtain ⟨later, hlater, h⟩ := Outcome.bind_eq_ok.1 h
    cases h
    exact List.forall_mem_cons.2 ⟨rfl, ih hlater⟩

/-- **The names that decorators add to the class are known**, apart from those of the properties
for parameters: they are those of members of the base class, and that of the class. -/
theorem name_of_mem_members {reserved : List Json} {pass : RequestPass} {gs : List Declaration}
    (h : members s reserved own pass = .ok gs) {g : Declaration} (hg : g ∈ gs) :
    g.isClass = false ∧ (pass ≠ .parameters → g.name ∈ requestBaseMembers ++ [own]) := by
  cases pass with
  | documentation =>
    cases h
    cases hg
  | fields =>
    obtain ⟨method, -, h⟩ := Outcome.bind_eq_ok.1 h
    cases h
    simp only [List.mem_cons, List.not_mem_nil, or_false] at hg
    rcases hg with rfl | rfl | rfl <;>
      exact ⟨rfl, fun _ => by simp [overriding, constantProperty, requestBaseMembers]⟩
  | parameters =>
    obtain ⟨method, -, h⟩ := Outcome.bind_eq_ok.1 h
    exact ⟨isClass_of_parameterProperties h g hg, fun hne => absurd rfl hne⟩
  | body =>
    obtain ⟨method, -, h⟩ := Outcome.bind_eq_ok.1 h
    split at h
    · cases h
      cases hg
    · obtain ⟨context, -, h⟩ := Outcome.bind_eq_ok.1 h
      obtain ⟨type, -, h⟩ := Outcome.bind_eq_ok.1 h
      cases h
      simp only [List.mem_cons, List.not_mem_nil, or_false] at hg
      rcases hg with rfl | rfl <;>
        exact ⟨rfl, fun _ => by simp [bodyProperty, bodyGetter, requestBaseMembers]⟩
  | constructor =>
    obtain ⟨method, -, h⟩ := Outcome.bind_eq_ok.1 h
    cases h
    obtain rfl := List.mem_singleton.1 hg
    exact ⟨rfl, fun _ => List.mem_append_right _ List.mem_cons_self⟩
  | factory =>
    cases h
    cases hg

/-- **The properties for parameters have the names told beforehand**, as long as the words that
their names avoid are those that were taken into account. -/
theorem appends_addParameters (hrequest : s.request = p) (hpo : (p : Int) ≠ o) (method : Method)
    (qs : List Parameter) (words : List Json) (hp : p < ds.length)
    (hwords : ∀ w, w ∈ m.reserved ++ scopeNames ds (some (p : Int)) ++ requestBaseMembers ++
      [CodeModel.nameAt ds p] ↔ w ∈ words) :
    Appends m ds (addParameters s method qs) fun _ es => ∃ gs,
      parameterProperties s method words qs = .ok gs ∧
        es.map (Declaration.sketch o) = gs.map fun g => g.under (some (p : Int)) := by
  induction qs generalizing ds words with
  | nil => exact .pure ⟨[], rfl, rfl⟩
  | cons q rest ih =>
    rw [addParameters, hrequest]
    refine .lift fun context hcontext => ?_
    refine .safeName fun name hname => ?_
    refine .lift fun type htype => ?_
    refine .bind (.member rfl) ?_
    rintro _ _ rfl
    rw [Identifier.safeWith_congr hwords] at hname
    -- the name just chosen is in the scope from now on, and among the words as well
    refine .imp (ih (words ++ [name]) (by simp; omega) fun w => ?_) ?_
    · rw [scopeNames_snoc_under, CodeModel.nameAt_append hp]
      simp only [List.mem_append, ← hwords, List.mem_singleton]
      exact iff_of_eq (by ac_rfl)
    · rintro _ es ⟨gs, hgs, hes⟩
      refine ⟨parameterProperty q name type :: gs, ?_, ?_⟩
      · simp only [parameterProperties, hcontext, hname, htype, hgs, bind, Except.bind]
        rfl
      · rw [List.singleton_append, List.map_cons, hes,
          Declaration.sketch_under _ hpo]
        rfl

theorem looks_assignDefaults_model (s : RequestSite) (location : String)
    (properties : List (String × Declaration)) (qs : List Parameter) (g : Signature)
    (m : CodeModel) :
    Looks m (assignDefaults s location properties qs g) fun _ => True := by
  induction qs generalizing g with
  | nil => exact .pure trivial
  | cons q rest ih =>
    rw [assignDefaults]
    split
    · split
      · exact .bind (.write _ _) fun _ _ => ih g
      · exact .bind (P := fun _ => True) (.lift fun _ _ => trivial) fun _ _ => ih _
    · exact ih g

theorem looks_takeBody_model (s : RequestSite) (g : Signature) (m : CodeModel) :
    Looks m (takeBody s g) fun _ => True := by
  refine .bind (P := fun _ => True) (.look fun _ _ => trivial) fun found _ => ?_
  split
  · exact .pure trivial
  · refine .bind (P := fun _ => True) (.lift fun _ _ => trivial) fun context _ => ?_
    refine .bind (P := fun _ => True) (.look fun _ _ => trivial) fun body _ => ?_
    exact .lift fun _ _ => trivial

/-- **A decorator adds to the request class what was told beforehand**, whatever is in the class
but for the names in it. -/
theorem appends_members {pass : RequestPass} (hdocumentation : pass ≠ .documentation)
    (hfactory : pass ≠ .factory) (hrequest : s.request = p) (hpo : (p : Int) ≠ o)
    (hp : p < ds.length) (hown : CodeModel.nameAt ds p = own)
    (hnames : pass = .parameters →
      ∀ w ∈ scopeNames ds (some (p : Int)), w ∈ requestBaseMembers ++ [own]) :
    Appends m ds (pass.run s) fun _ es => ∃ gs, members s m.reserved own pass = .ok gs ∧
      es.map (Declaration.sketch o) = gs.map fun g => g.under (some (p : Int)) := by
  have hsketch (d : Declaration) :
      (d.under (some (p : Int))).sketch o = d.outline.under (some (p : Int)) :=
    Declaration.sketch_under d hpo
  cases pass with
  | documentation => exact absurd rfl hdocumentation
  | factory => exact absurd rfl hfactory
  | fields =>
    refine .lift fun method hmethod => ?_
    rw [hrequest]
    refine .bind (.member rfl) ?_
    rintro _ _ rfl
    refine .bind (.member rfl) ?_
    rintro _ _ rfl
    refine .imp (.member rfl) ?_
    rintro _ _ rfl
    refine ⟨[overriding "MethodName" (.str method.name), overriding "HttpMethod" method.httpMethod,
      overriding "RestPath" method.path], ?_, ?_⟩
    · simp only [members, hmethod, bind, Except.bind]
      rfl
    · simp only [List.singleton_append, List.map_cons, hsketch, List.map_nil]
      rfl
  | parameters =>
    refine .lift fun method hmethod => ?_
    refine .imp (appends_addParameters hrequest hpo method method.parameters
      (m.reserved ++ requestBaseMembers ++ [own]) hp fun w => ?_) ?_
    · have hmem := hnames rfl w
      rw [hown]
      simp only [List.mem_append, List.mem_singleton] at hmem ⊢
      tauto
    · rintro _ es ⟨gs, hgs, hes⟩
      refine ⟨gs, ?_, hes⟩
      simp only [members, hmethod, bind, Except.bind]
      exact hgs
  | body =>
    refine .lift fun method hmethod => ?_
    split
    · rename_i hnone
      refine .pure ⟨[], ?_, rfl⟩
      simp only [members, hmethod, bind, Except.bind, hnone]
      rfl
    · rename_i schema hschema
      refine .lift fun context hcontext => ?_
      refine .lift fun type htype => ?_
      rw [hrequest]
      refine .bind (.member rfl) ?_
      rintro _ _ rfl
      refine .imp (.member rfl) ?_
      rintro _ _ rfl
      refine ⟨[bodyProperty type, bodyGetter], ?_, ?_⟩
      · simp only [members, hmethod, bind, Except.bind, hschema, hcontext, htype]
        rfl
      · simp only [List.singleton_append, List.map_cons, hsketch, List.map_nil]
        rfl
  | constructor =>
    simp only [run, addConstructor, hrequest]
    refine .getClass fun class' hclass => ?_
    refine .lift fun method hmethod => ?_
    refine .after (P := fun _ => True) (.look fun _ _ => trivial) fun ds' _ => ?_
    refine .lift fun properties _ => ?_
    refine .lift fun required _ => ?_
    refine .after (looks_assignDefaults_model ..) fun preset _ => ?_
    refine .after (looks_takeBody_model ..) fun g _ => ?_
    refine .imp (.member rfl) ?_
    rintro _ _ rfl
    refine ⟨[requestConstructor method own [] []], ?_, ?_⟩
    · simp only [members, hmethod, bind, Except.bind]
      rfl
    · rw [← hown, ← hclass]
      simp only [List.map_cons, hsketch, List.map_nil]
      rfl

/-- **The factory has the name told beforehand**, whatever is in the request class. -/
theorem appends_factories (hrequest : s.request = p) (howner : s.owner = o)
    (hown : CodeModel.nameAt ds p = own) :
    Appends m ds (addFactory s) fun _ es => ∃ g,
      factories s (m.reserved ++ scopeNames ds (some (o : Int)) ++ [CodeModel.nameAt ds o]) own
        .factory = .ok [g] ∧
      es.map (Declaration.sketch o) = [g.under (some (o : Int))] := by
  rw [addFactory, hrequest, howner]
  refine .getClass fun class' hclass => ?_
  refine .after (P := fun _ => True) (.look fun _ _ => trivial) fun ds' _ => ?_
  refine .lift fun method hmethod => ?_
  refine .lift fun context hcontext => ?_
  refine .safeName fun name hname => ?_
  rw [List.append_nil] at hname
  refine .bind (.member rfl) ?_
  rintro _ _ rfl
  refine .after (P := fun _ => True) (.look fun _ _ => trivial) fun d _ => ?_
  refine .lift fun _ _ => ?_
  refine .lift fun _ _ => ?_
  refine .after (k := Pure.pure) (.write _ _) fun _ _ => .pure ?_
  refine ⟨(factoryMethod method name own []).withoutSteps, ?_, ?_⟩
  · simp only [factories, hmethod, hcontext, hname, bind, Except.bind]
    rfl
  · rw [← hown, ← hclass, List.append_nil, List.map_singleton,
      Declaration.sketch_of_parent (Declaration.under_parent _ _), Declaration.withoutSteps_under]
    rfl

end RequestPass

end ClientGen
