import ClientGen.Proofs.Build.Passes
import ClientGen.Proofs.CSharp.Assembly
import ClientGen.Proofs.Generation.Namespace

/-!
# Generated units are accepted

With the default settings, every unit that is generated passes the check of source texts,
and its braces outside literals and comments are properly nested
(`ClientGen.check_units_of_generate`). Nothing is assumed of the document: its names,
descriptions, paths and defaults may have any quotes, slashes, braces and line breaks. The
text of the command line, which is put into a comment as it is, must not have a line break.

The proof follows a generation. The building adds declarations of a known form only; in a
plain context these are written as properly nested texts, classes at the top level; and the
frame of the units is plain.
-/

namespace ClientGen

open Output CSharp

/-! ### The frame -/

namespace Context

theorem inert_versionPart (version : String) : Inert (versionPart version) := by
  intro c hc
  rcases Bool.or_eq_true_iff.1 (isPartChar_versionPart version c hc) with h | h
  · exact isInert_of_isAlphanum h
  · rw [eq_of_beq h]
    decide

variable {c : Context} {perType : Json}

/-- The namespace starts with the root, and its parts are made of words. -/
theorem isCode_namespaceName (hc : c.config = { oneFilePerType := perType }) {name : Json}
    (h : c.namespaceName = .ok name) : IsCode name ∧ name.truthy = true := by
  rw [namespaceName_eq (by rw [hc]) (by rw [hc])] at h
  cases h
  have hinert : ∀ p ∈ "Google.Apis" :: [Identifier.pascal c.service.name,
      versionPart c.service.version].filter (fun s => !s.isEmpty), Inert p := by
    refine List.forall_mem_cons.2 ⟨by decide, forall_mem_filter_pair.2 ⟨fun _ => ?_, fun _ => ?_⟩⟩
    · obtain ⟨_, ⟨⟩, hword⟩ := (Identifier.isWord_pascal c.service.name).isCode
      exact hword
    · exact inert_versionPart c.service.version
  refine ⟨(Inert.intercalate (by decide) hinert).isCode, ?_⟩
  have hpart : "Google.Apis".toList <:+:
      (derivedNamespace c.service.name c.service.version).toList :=
    Text.infix_intercalate List.mem_cons_self
  rw [Json.truthy, Bool.not_eq_true', Bool.eq_false_iff]
  intro hempty
  rw [String.isEmpty_iff.1 hempty] at hpart
  exact absurd hpart (by decide)

/-- **The frame of the units is plain** with the default settings. -/
theorem plain_unitFrame (hc : c.config = { oneFilePerType := perType }) {commandLine : String}
    (hline : '\n' ∉ commandLine.toList) {frame : UnitFrame}
    (h : c.unitFrame commandLine = .ok frame) : frame.Plain := by
  obtain ⟨name, hname, h⟩ := Outcome.bind_eq_ok.1 h
  obtain ⟨usings, husings, h⟩ := Outcome.bind_eq_ok.1 h
  cases h
  obtain ⟨hcode, htruthy⟩ := isCode_namespaceName hc hname
  rw [Context.usings, hc] at husings
  cases husings
  refine ⟨htruthy, hcode, fun u hu => ?_, nofun, ?_⟩
  · have hdefault : ∀ u ∈ defaultUsings.map Json.str, IsCode u := by decide
    exact hdefault u (Json.mem_of_mem_distinctKeys hu)
  · rw [generationComment, hc]
    refine ⟨" Generated by discovery_to_code v1.0.0 : " ++ commandLine, ?_, ?_⟩
    · rw [← String.append_assoc]
      rfl
    · rw [String.toList_append, List.mem_append, not_or]
      exact ⟨by decide, hline⟩

end Context

/-! ### The declarations -/

/-- A declaration is rendered before those at the later places, or it is left out. -/
theorem renderEach_cons_eq_ok {m : CodeModel} {place : Nat} {rest : List Nat} {l l' : Ledger}
    {rendered : List (Json × String)} (h : renderEach m (place :: rest) l = .ok rendered l') :
    ∃ d l₁ later, m.atPlace place = .ok d ∧ renderEach m rest l₁ = .ok later l' ∧
      (rendered = later ∨
        ∃ text, CSharp.render m place = .ok text ∧ rendered = (d.name, text) :: later) := by
  rw [renderEach] at h
  obtain ⟨d, _, hd, h⟩ := Session.bind_eq_ok.1 h
  have hd := (Session.lift_eq_ok.1 hd).1
  -- what is done after the first place, whatever that gave
  have hlater : ∀ (text : Option (Json × String)) {l₁ : Ledger},
      (do return text.toList ++ (← renderEach m rest) :
        Session Ledger (List (Json × String))) l₁ = .ok rendered l' →
      ∃ later, renderEach m rest l₁ = .ok later l' ∧ rendered = text.toList ++ later := by
    intro text l₁ h
    obtain ⟨later, _, hlater, h⟩ := Session.bind_eq_ok.1 h
    cases h
    exact ⟨later, hlater, rfl⟩
  generalize hrender : CSharp.render m place = outcome at h
  match outcome, h with
  | .ok text, h =>
    obtain ⟨later, hlater, hrendered⟩ := hlater (some (d.name, text)) h
    exact ⟨d, _, later, hd, hlater, .inr ⟨text, rfl, hrendered⟩⟩
  | .error (.fault f), h => cases h
  | .error (.issue i), h =>
    dsimp only at h
    split at h
    · obtain ⟨_, _, -, h⟩ := Session.bind_eq_ok.1 h
      obtain ⟨later, hlater, hrendered⟩ := hlater none h
      exact ⟨d, _, later, hd, hlater, .inl hrendered⟩
    · cases h

theorem exists_render_of_mem_renderEach {m : CodeModel} {places : List Nat} {l l' : Ledger}
    {rendered : List (Json × String)} (h : renderEach m places l = .ok rendered l')
    {r : Json × String} (hr : r ∈ rendered) :
    ∃ place ∈ places, CSharp.render m place = .ok r.2 := by
  induction places generalizing l rendered with
  | nil =>
    cases h
    cases hr
  | cons place rest ih =>
    obtain ⟨d, l₁, later, -, hlater, hrendered⟩ := renderEach_cons_eq_ok h
    have hmore : r ∈ later → ∃ place' ∈ place :: rest, CSharp.render m place' = .ok r.2 := by
      intro hr
      obtain ⟨place', hplace', hrender⟩ := ih hlater hr
      exact ⟨place', List.mem_cons_of_mem place hplace', hrender⟩
    rcases hrendered with rfl | ⟨text, htext, rfl⟩
    · exact hmore hr
    · rcases List.mem_cons.1 hr with rfl | hr
      · exact ⟨place, List.mem_cons_self, htext⟩
      · exact hmore hr

/-- A unit is assembled from some of the declarations. -/
theorem exists_assemble_of_mem_units {c : Context} {commandLine : String}
    {rendered : List (Json × String)} {units : List SourceUnit}
    (h : c.units commandLine rendered = .ok units) {u : SourceUnit} (hu : u ∈ units) :
    ∃ frame declarations, c.unitFrame commandLine = .ok frame ∧ declarations ≠ [] ∧
      (∀ text ∈ declarations, ∃ r ∈ rendered, r.2 = text) ∧
      u.text = frame.assemble declarations := by
  rw [Context.units] at h
  split at h
  · cases h
    cases hu
  · rename_i hempty
    obtain ⟨frame, hframe, h⟩ := Outcome.bind_eq_ok.1 h
    split at h
    · obtain ⟨r, hr, hunit⟩ := Outcome.of_mem_mapM h hu
      obtain ⟨fileName, -, hunit⟩ := Outcome.bind_eq_ok.1 hunit
      cases hunit
      exact ⟨frame, [r.2], hframe, List.cons_ne_nil _ _,
        List.forall_mem_singleton.2 ⟨r, hr, rfl⟩, rfl⟩
    · obtain ⟨fileName, -, h⟩ := Outcome.bind_eq_ok.1 h
      cases h
      rw [List.mem_singleton.1 hu]
      refine ⟨frame, _, hframe, ?_, fun text htext => List.mem_map.1 htext, rfl⟩
      rw [Ne, List.map_eq_nil_iff]
      exact fun hnil => hempty (List.isEmpty_iff.2 hnil)

/-- Writing a model of declarations as a building makes them, in a plain context. -/
theorem Plan.check_of_mem_write {plan : Plan} (hc : plan.context.Plain) {perType : Json}
    (hconfig : plan.context.config = { oneFilePerType := perType }) {m : CodeModel}
    (hm : Over (made plan.context) [] m) {commandLine : String}
    (hline : '\n' ∉ commandLine.toList) {l l' : Ledger} {units : List SourceUnit}
    (h : plan.write commandLine m.freeze l = .ok units l') {u : SourceUnit} (hu : u ∈ units) :
    check u.text true = .ok () ∧ Nested (stripLiterals u.text.toList) := by
  rw [Plan.write] at h
  obtain ⟨rendered, l₁, hrendered, h⟩ := Session.bind_eq_ok.1 h
  obtain ⟨_, l₂, hlift, h⟩ := Session.bind_eq_ok.1 h
  obtain ⟨hunits, rfl⟩ := Session.lift_eq_ok.1 hlift
  cases h
  obtain ⟨frame, declarations, hframe, hne, hsome, htext⟩ := exists_assemble_of_mem_units hunits hu
  have hrender : ∀ text ∈ declarations, ∃ place ∈ m.topLevel,
      CSharp.render m.freeze place = .ok text := by
    intro text htext
    obtain ⟨r, hr, rfl⟩ := hsome text htext
    exact exists_render_of_mem_renderEach hrendered hr
  -- one declaration is enough for the word of a class: at the top level all are classes
  obtain ⟨first, rest, rfl⟩ := List.exists_cons_of_ne_nil hne
  obtain ⟨place, hplace, hfirst⟩ := hrender first List.mem_cons_self
  have hclass := infix_render (m := m.freeze)
    (fun d hd => (hm.get hd).topLevel (hm.parent_of_mem_topLevel hplace hd)) hfirst
  rw [htext]
  refine (plan.context.plain_unitFrame hconfig hline hframe).check_assemble (fun text ht => ?_)
    List.mem_cons_self hclass
  obtain ⟨place, -, hplace⟩ := hrender text ht
  exact nested_render (m := m.freeze) hc (fun _ _ hd => hm.get hd) hplace

/-- **Every generated unit is accepted, and its braces are properly nested**, whatever the
document. -/
theorem check_units_of_generate {perType : Bool} {commandLine : String} {document : Json}
    {result : Generated} (hline : '\n' ∉ commandLine.toList)
    (h : generate { oneFilePerType := .bool perType } commandLine document = .ok result) :
    ∀ u ∈ result.units,
      check u.text true = .ok () ∧ Nested (stripLiterals u.text.toList) := by
  intro u hu
  obtain ⟨pipeline, -, h⟩ := Outcome.bind_eq_ok.1 h
  split at h
  · split at h
    · cases h
      cases hu
    · cases h
  · cases h
  · rename_i plan w hbuilt
    split at h
    · rename_i units ledger hwrite
      cases h
      obtain ⟨service, l, -, hplan, hbuild⟩ := exists_build_of_buildDocument hbuilt
      have hsuffix : IsWord (.str "Value") := by decide
      have hc : plan.context.Plain :=
        plain_planFor hsuffix (Inert.isCode (by decide)) (Inert.isCode (by decide))
          (Inert.isCode (by decide)) hplan
      have hover := (plan.steady_build).over_of_ok Over.nil hbuild
      exact plan.check_of_mem_write hc (planFor_context hplan).2 hover hline hwrite hu
    · cases h

/-- A document with quotes, backslashes, slashes, braces and line breaks in its names,
descriptions, paths and defaults. -/
def quotedDocument : Json :=
  .object [("name", "pet \x7b\"shop"), ("version", "v1\x7d"), ("title", "Pets \x7b // \" \\"),
    ("schemas", .object [
      ("Pet\x7b", .object [("description", "A \"pet\x7d\" // \\\n\x7b"),
        ("properties", .object [
          ("na\"me\x7b", .object [("type", "string"), ("description", "\x7b\n\x7d\"")])])])]),
    ("resources", .object [
      ("pets\x7d", .object [("methods", .object [
        ("get\"", .object [("httpMethod", "GET"), ("path", "pets/\x7bid\x7d//\"\\"),
          ("parameters", .object [("id\x7d", .object [("type", "string"), ("location", "query"),
            ("default", "\"\x7b\\\n//")])]),
          ("response", .object [("$ref", "Pet\x7b")])])])])])]

/-- The units of the document above, one for each class, pass the check. -/
theorem check_units_of_quotedDocument :
    ∃ result,
      generate { oneFilePerType := .bool true } "pets \x7b \" //" quotedDocument = .ok result ∧
      result.units.map SourceUnit.fileName = ["PetShopService.cs", "PetsResource.cs", "Pet.cs"] ∧
      ∀ u ∈ result.units,
        check u.text true = .ok () ∧ Nested (stripLiterals u.text.toList) := by
  have hnames :
      (generate { oneFilePerType := .bool true } "pets \x7b \" //" quotedDocument).toOption.map
        (fun result => result.units.map SourceUnit.fileName) =
          some ["PetShopService.cs", "PetsResource.cs", "Pet.cs"] := by
    decide +kernel
  cases h : generate { oneFilePerType := .bool true } "pets \x7b \" //" quotedDocument with
  | error e =>
    rw [h] at hnames
    cases hnames
  | ok result =>
    rw [h] at hnames
    exact ⟨result, rfl, Option.some.inj hnames, check_units_of_generate (by decide) h⟩

end ClientGen
