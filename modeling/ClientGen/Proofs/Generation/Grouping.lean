import ClientGen.Proofs.Build.Grouped
import ClientGen.Proofs.Build.Growth
import ClientGen.Proofs.Build.Usable
import ClientGen.Proofs.Generation.Frames

/-!
# One unit for each type, or one for the service

The setting that gives every type a unit of its own changes how the declarations are grouped, and
nothing else (`ClientGen.generate_regrouped`): a generation fails alike, reports the same issues,
and puts the same bodies into the same frame (`ClientGen.Regrouped`).

The steps are these. The model does not depend on the grouping, so one list of declarations is
rendered in both cases. A unit with several declarations is their bodies with line breaks between
(`ClientGen.CSharp.UnitFrame.assemble_eq`), since the empty line between two declarations is not
indented and no declaration is without lines. And what is rendered has names that are texts and
different keys, so that every type has a file of its own.
-/

namespace ClientGen

open CSharp

/-! ### Bodies of units -/

namespace CSharp

theorem separated_cons_cons (block next : List String) (rest : List (List String)) :
    separated (block :: next :: rest) = block ++ "" :: separated (next :: rest) :=
  rfl

theorem indent_separated_cons_cons (block next : List String) (rest : List (List String)) :
    indent (separated (block :: next :: rest)) =
      indent block ++ "" :: indent (separated (next :: rest)) := by
  rw [separated_cons_cons, indent, List.map_append, List.map_cons]
  rfl

namespace UnitFrame

variable (f : UnitFrame)

/-- What a declaration adds to the text of a unit. -/
def body (text : String) : String :=
  "\n".intercalate (f.bodyLines [text]) ++ "\n"

theorem declarationLines_ne_nil (text : String) : declarationLines text ≠ [] := by
  rw [declarationLines, Ne, List.map_eq_nil_iff]
  exact Text.splitOnChar_ne_nil _ _

theorem bodyLines_cons_cons (text next : String) (rest : List String) :
    f.bodyLines (text :: next :: rest) =
      f.bodyLines [text] ++ "" :: f.bodyLines (next :: rest) := by
  simp only [bodyLines, List.map_cons, List.map_nil]
  split
  · exact indent_separated_cons_cons _ _ _
  · exact separated_cons_cons _ _ _

theorem bodyLines_ne_nil (text : String) (rest : List String) :
    f.bodyLines (text :: rest) ≠ [] := by
  cases rest with
  | nil =>
    have hlines := declarationLines_ne_nil text
    simp only [bodyLines, List.map_cons, List.map_nil, separated]
    split
    · rwa [indent, Ne, List.map_eq_nil_iff]
    · exact hlines
  | cons next rest =>
    rw [bodyLines_cons_cons]
    exact List.append_ne_nil_of_right_ne_nil _ (List.cons_ne_nil _ _)

/-- The lines of several declarations are those of each, with a line break between. -/
theorem intercalate_bodyLines (text : String) : ∀ rest : List String,
    "\n".intercalate (f.bodyLines (text :: rest)) ++ "\n" =
      "\n".intercalate ((text :: rest).map f.body)
  | [] => by rw [List.map_cons, List.map_nil, String.intercalate_singleton, body]
  | next :: rest => by
    calc "\n".intercalate (f.bodyLines (text :: next :: rest)) ++ "\n"
      _ = "\n".intercalate (f.bodyLines [text]) ++ "\n" ++
            "\n".intercalate ("" :: f.bodyLines (next :: rest)) ++ "\n" := by
          rw [bodyLines_cons_cons, String.intercalate_append_of_ne_nil (f.bodyLines_ne_nil text [])
            (List.cons_ne_nil _ _)]
      _ = f.body text ++ "\n" ++ ("\n".intercalate (f.bodyLines (next :: rest)) ++ "\n") := by
          rw [String.intercalate_cons_of_ne_nil (f.bodyLines_ne_nil next rest), body,
            String.empty_append]
          simp only [String.append_assoc]
      _ = "\n".intercalate ((text :: next :: rest).map f.body) := by
          rw [intercalate_bodyLines next rest]
          exact String.intercalate_cons_cons.symm

/-- **A unit is the bodies of its declarations**, with line breaks between, in the frame. -/
theorem assemble_eq {texts : List String} (h : texts ≠ []) :
    f.assemble texts = f.header ++ "\n".intercalate (texts.map f.body) ++ f.footer := by
  obtain ⟨text, rest, rfl⟩ := List.exists_cons_of_ne_nil h
  have hne : (f.bodyLines (text :: rest)).isEmpty = false :=
    List.isEmpty_eq_false_iff.2 (f.bodyLines_ne_nil text rest)
  simp only [assemble, hne, Bool.false_eq_true, if_false, intercalate_bodyLines]

theorem assemble_singleton (text : String) :
    f.assemble [text] = f.header ++ f.body text ++ f.footer := by
  rw [assemble_eq f (List.cons_ne_nil _ _), List.map_cons, List.map_nil,
    String.intercalate_singleton]

end UnitFrame

end CSharp

/-! ### What is rendered -/

/-- What is rendered has a text for its name: the name is a part of its location. -/
theorem CSharp.exists_name_of_render {m : CodeModel} {index : Int} {text : String}
    {d : Declaration} (hd : m.get index = .ok d) (h : render m index = .ok text) :
    ∃ name, d.name = .str name := by
  obtain ⟨lines, hlines, -⟩ := Outcome.bind_eq_ok.1 h
  obtain ⟨_, -, hlines⟩ := Outcome.bind_eq_ok.1 hlines
  obtain ⟨location, hlocation, -⟩ := Outcome.bind_eq_ok.1 hlines
  obtain ⟨names, hnames, hlocation⟩ := Outcome.bind_eq_ok.1 hlocation
  obtain ⟨texts, htexts, -⟩ := Outcome.bind_eq_ok.1 hlocation
  have hmem : d.name ∈ names := by
    rw [nameChain, hd] at hnames
    obtain ⟨_, ⟨⟩, hnames⟩ := Outcome.bind_eq_ok.1 hnames
    split at hnames
    · cases hnames
      exact List.mem_singleton_self _
    · obtain ⟨_, -, hnames⟩ := Outcome.bind_eq_ok.1 hnames
      cases hnames
      exact List.mem_append_right _ (List.mem_singleton_self _)
  obtain ⟨name, -, hname⟩ := exists_right_of_forall₂ (Outcome.forall₂_of_mapM htexts) hmem
  cases hvalue : d.name with
  | str s => exact ⟨s, rfl⟩
  | _ =>
    rw [hvalue] at hname
    cases hname

/-- Types that are given by texts for their names and declarations, as they are rendered. -/
def asRendered (types : List (String × String)) : List (Json × String) :=
  types.map fun t => (.str t.1, t.2)

/-- **What is rendered has texts for its names**, and these are names at some of the places, in
their order. -/
theorem exists_types_of_renderEach {m : CodeModel} {ds : List Declaration} {places : List Nat}
    {l l' : Ledger} {rendered : List (Json × String)}
    (h : renderEach (m.withEntries ds) places l = .ok rendered l') :
    ∃ types : List (String × String), rendered = asRendered types ∧
      (types.map fun t => Json.str t.1).Sublist (places.map (CodeModel.nameAt ds)) := by
  induction places generalizing l rendered with
  | nil =>
    cases h
    exact ⟨[], rfl, .slnil⟩
  | cons place rest ih =>
    obtain ⟨d, l₁, later, hd, hlater, hrendered⟩ := renderEach_cons_eq_ok h
    obtain ⟨types, rfl, hsublist⟩ := ih hlater
    rcases hrendered with rfl | ⟨text, htext, rfl⟩
    · exact ⟨types, rfl, hsublist.cons _⟩
    · -- the place is that of an entry, which has the same name
      have hget : (m.withEntries ds).get place = .ok d := by
        rw [CodeModel.get_withEntries, ← CodeModel.atPlace_withEntries, hd]
      have hname : d.name = CodeModel.nameAt ds place := by
        rw [CodeModel.atPlace_withEntries] at hd
        split at hd
        · rename_i e he
          cases hd
          rw [settle_name, CodeModel.nameAt, he]
          rfl
        · cases hd
      obtain ⟨name, hd⟩ := exists_name_of_render hget htext
      refine ⟨(name, text) :: types, by rw [hd]; rfl, ?_⟩
      rw [List.map_cons, List.map_cons, ← hname, hd]
      exact hsublist.cons_cons _

/-- Names that are different keys give files of different names. -/
theorem nodup_fileNames {types : List (String × String)} {names : List Json}
    (h : AreApart names) (hsublist : (types.map fun t => Json.str t.1).Sublist names) :
    (types.map fun t => t.1 ++ ".cs").Nodup := by
  have hapart := h.sublist hsublist
  rw [List.pairwise_map] at hapart
  rw [List.Nodup, List.pairwise_map]
  refine hapart.imp fun {t u} hkey heq => ?_
  have hname : t.1 = u.1 := (String.append_left_inj _).1 heq
  rw [hname, Json.sameKey_str, beq_self_eq_true] at hkey
  cases hkey

/-- The class of a service has a text for its name. -/
theorem Naming.exists_serviceClass {suffix : Json} {service : Service} {naming : Naming}
    (h : Naming.resolve suffix service = .ok naming) : ∃ name, naming.serviceClass = .str name := by
  obtain ⟨serviceClass, hservice, h⟩ := Outcome.bind_eq_ok.1 h
  obtain ⟨_, -, h⟩ := Outcome.bind_eq_ok.1 h
  obtain ⟨_, -, h⟩ := Outcome.bind_eq_ok.1 h
  cases h
  obtain ⟨name, hname, hfresh⟩ := Outcome.bind_eq_ok.1 hservice
  -- nothing is in use yet, so the first safe name is taken
  obtain ⟨_, -, hfresh⟩ := Outcome.bind_eq_ok.1 hfresh
  cases hfresh
  have hmem : 'S' ∈ Identifier.kept (serviceCandidate service.name) := by
    refine List.mem_filter.2 ⟨?_, by decide⟩
    rw [serviceCandidate, String.toList_append]
    exact List.mem_append_right _ (by decide)
  obtain ⟨front, back, rfl, -⟩ := Identifier.exists_of_safeWith (List.ne_nil_of_mem hmem) hname
  exact ⟨_, rfl⟩

/-! ### The units of the two groupings -/

/-- **The same bodies in two groupings**: each of them in a unit of its own, and all in one. -/
structure Regrouped (frame : UnitFrame) (bodies : List String) (units whole : List SourceUnit) :
    Prop where
  /-- A body ends with a line break, so it is not empty. -/
  ended : ∀ body ∈ bodies, ∃ lines, body = lines ++ "\n"
  /-- A unit of its own has one body in the frame. -/
  each : units.map SourceUnit.text = bodies.map fun body => frame.header ++ body ++ frame.footer
  /-- The whole has the bodies in the frame, with line breaks between. -/
  all : ∀ u ∈ whole, u.text = frame.header ++ "\n".intercalate bodies ++ frame.footer
  /-- The whole is one unit at most, -/
  atMostOne : whole.length ≤ 1
  /-- and missing exactly if there are no units of their own. -/
  nil_iff : units = [] ↔ whole = []
  /-- The units of their own have files of different names. -/
  names : (units.map SourceUnit.fileName).Nodup

theorem Regrouped.nil (frame : UnitFrame) : Regrouped frame [] [] [] :=
  ⟨nofun, rfl, nofun, Nat.zero_le 1, Iff.rfl, .nil⟩

/-- Declarations are regrouped by putting each, or all of them, into the frame. -/
theorem regrouped_assemble (frame : UnitFrame) (name : String) {types : List (String × String)}
    (hne : types ≠ []) (hnames : (types.map fun t => t.1 ++ ".cs").Nodup) :
    Regrouped frame (types.map fun t => frame.body t.2)
      (types.map fun t => ⟨t.1 ++ ".cs", frame.assemble [t.2]⟩)
      [⟨name, frame.assemble (types.map Prod.snd)⟩] where
  ended := by
    intro body hbody
    obtain ⟨t, -, rfl⟩ := List.mem_map.1 hbody
    exact ⟨_, rfl⟩
  each := by
    rw [List.map_map, List.map_map]
    exact List.map_congr_left fun t _ => frame.assemble_singleton t.2
  all := by
    refine List.forall_mem_singleton.2 ?_
    rw [frame.assemble_eq (by simpa using hne), List.map_map]
    rfl
  atMostOne := le_rfl
  nil_iff := by simpa using hne
  names := by rwa [List.map_map]

namespace Context

variable {c : Context} {commandLine : String}

theorem units_each (h : c.config.oneFilePerType.truthy = true) {types : List (String × String)}
    (hne : types ≠ []) :
    c.units commandLine (asRendered types) =
      (c.unitFrame commandLine).map fun frame =>
        types.map fun t => ⟨t.1 ++ ".cs", frame.assemble [t.2]⟩ := by
  rw [units, if_neg (by simpa [asRendered] using hne)]
  cases c.unitFrame commandLine with
  | error e => rfl
  | ok frame =>
    change (if _ then _ else _) = _
    rw [if_pos h, asRendered, List.mapM_map]
    exact List.mapM_pure

theorem units_all (h : c.config.oneFilePerType.truthy = false) {name : String}
    (hname : c.naming.serviceClass = .str name) {types : List (String × String)}
    (hne : types ≠ []) :
    c.units commandLine (asRendered types) =
      (c.unitFrame commandLine).map fun frame =>
        [⟨name ++ ".cs", frame.assemble (types.map Prod.snd)⟩] := by
  rw [units, if_neg (by simpa [asRendered] using hne)]
  cases c.unitFrame commandLine with
  | error e => rfl
  | ok frame =>
    change (if _ then _ else _) = _
    rw [if_neg (by simp [h]), hname, asRendered, List.map_map]
    rfl

/-- The units of declarations under the two groupings: both fail alike, or both are given. -/
theorem regrouped_units (c : Context) (commandLine : String) {each all : Json}
    (heach : each.truthy = true) (hall : all.truthy = false) {name : String}
    (hname : c.naming.serviceClass = .str name) {types : List (String × String)}
    (hnames : (types.map fun t => t.1 ++ ".cs").Nodup) :
    (∃ e, (c.grouped each).units commandLine (asRendered types) = .error e ∧
      (c.grouped all).units commandLine (asRendered types) = .error e) ∨
    ∃ frame bodies units units',
      (c.grouped each).units commandLine (asRendered types) = .ok units ∧
      (c.grouped all).units commandLine (asRendered types) = .ok units' ∧
      (units ≠ [] → c.unitFrame commandLine = .ok frame) ∧
      Regrouped frame bodies units units' := by
  rcases eq_or_ne types [] with rfl | hne
  · exact .inr ⟨{}, [], [], [], rfl, rfl, fun hnil => absurd rfl hnil, .nil _⟩
  · have hframe (grouping : Json) :
        (c.grouped grouping).unitFrame commandLine = c.unitFrame commandLine := rfl
    rw [units_each (c := c.grouped each) heach hne, units_all (c := c.grouped all) hall hname hne,
      hframe, hframe]
    cases c.unitFrame commandLine with
    | error e => exact .inl ⟨e, rfl, rfl⟩
    | ok frame =>
      exact .inr ⟨frame, _, _, _, rfl, rfl, fun _ => rfl, regrouped_assemble frame _ hne hnames⟩

end Context

/-! ### Writing and generating -/

theorem Plan.write_of_units (plan : Plan) {commandLine : String} {m : CodeModel} {l l' : Ledger}
    {rendered : List (Json × String)} (hrendered : renderEach m m.topLevel l = .ok rendered l')
    {outcome : Outcome (List SourceUnit)} :
    plan.context.units commandLine rendered = outcome → plan.write commandLine m l =
      match outcome with
      | .error e => .error e l'
      | .ok units => .ok units (l'.write .debug
          ("Generated " ++ toString units.length ++ " source unit(s) for " ++ l'.serviceName)) := by
  rintro rfl
  rw [Plan.write, Session.bind_run_of_ok hrendered, Session.bind_run, Session.lift_run]
  cases plan.context.units commandLine rendered <;> rfl

/-- **Only the writing of a document depends on the grouping**: either nothing is written, or it is
one model that is written. -/
theorem generate_grouped_cases (config : Config) (commandLine : String) (document : Json) :
    ((∀ g, generate config commandLine document = .ok g → g.units = []) ∧
      ∀ grouping, generate (config.grouped grouping) commandLine document =
        generate config commandLine document) ∨
    ∃ pipeline plan w,
      buildDocument config pipeline document (Workbench.start document) = .ok plan w ∧
      ∀ grouping, generate (config.grouped grouping) commandLine document =
        match (plan.grouped grouping).write commandLine w.model.freeze w.ledger with
        | .ok units ledger => .ok ⟨units, ledger⟩
        | .error e _ => .error e := by
  have hsame (grouping : Json) :
      Pipeline.ofConfig (config.grouped grouping) = Pipeline.ofConfig config := rfl
  cases hpipeline : Pipeline.ofConfig config with
  | error e =>
    have herror (grouping : Json) :
        generate (config.grouped grouping) commandLine document = .error e := by
      rw [generate, hsame, hpipeline]
      rfl
    have hown : generate config commandLine document = .error e := herror config.oneFilePerType
    exact .inl ⟨fun g hg => (nomatch hown.symm.trans hg), fun grouping => by rw [herror, hown]⟩
  | ok pipeline =>
    cases hbuilt : buildDocument config pipeline document (Workbench.start document) with
    | error e w =>
      refine .inl ⟨fun g hg => ?_, fun grouping => ?_⟩
      · obtain ⟨_, hpipeline', ⟨_, _, hbuilt', -⟩ | ⟨-, hnil⟩⟩ := generate_cases hg
        · cases hpipeline.symm.trans hpipeline'
          cases hbuilt.symm.trans hbuilt'
        · exact hnil
      · rw [generate, generate, hsame, hpipeline]
        simp only [bind, Except.bind, buildDocument_grouped, Functor.map, EStateM.map, hbuilt]
    | ok plan w =>
      refine .inr ⟨pipeline, plan, w, hbuilt, fun grouping => ?_⟩
      rw [generate, hsame, hpipeline]
      simp only [bind, Except.bind, buildDocument_grouped, Functor.map, EStateM.map, hbuilt]
      rfl

/-- **One unit for each type and one for the service say the same.** Under both groupings a
generation fails alike or reports the same issues, and the units have the same bodies in the same
frame, which is that of the service under the settings. -/
theorem generate_regrouped (config : Config) {each all : Json} (heach : each.truthy = true)
    (hall : all.truthy = false) (commandLine : String) (document : Json) :
    (∀ e, generate { config with oneFilePerType := each } commandLine document = .error e ↔
      generate { config with oneFilePerType := all } commandLine document = .error e) ∧
    ∀ g g', generate { config with oneFilePerType := each } commandLine document = .ok g →
      generate { config with oneFilePerType := all } commandLine document = .ok g' →
      g.ledger.serviceName = g'.ledger.serviceName ∧ g.ledger.issues = g'.ledger.issues ∧
      ∃ (frame : UnitFrame) (bodies : List String),
        (g.units ≠ [] → ∃ (c : Context) (l : Ledger),
          Document.read document (Workbench.start document).ledger = .ok c.service l ∧
          c.config = config ∧ c.unitFrame commandLine = .ok frame) ∧
        Regrouped frame bodies g.units g'.units := by
  change (∀ e, generate (config.grouped each) commandLine document = .error e ↔
    generate (config.grouped all) commandLine document = .error e) ∧ ∀ g g',
      generate (config.grouped each) commandLine document = .ok g →
      generate (config.grouped all) commandLine document = .ok g' → _
  obtain ⟨hnil, hsame⟩ | ⟨pipeline, plan, w, hbuilt, hwritten⟩ :=
    generate_grouped_cases config commandLine document
  · rw [hsame, hsame]
    refine ⟨fun e => Iff.rfl, fun g g' hg hg' => ?_⟩
    cases hg.symm.trans hg'
    refine ⟨rfl, rfl, {}, [], fun hne => absurd (hnil g hg) hne, ?_⟩
    rw [hnil g hg]
    exact .nil _
  · obtain ⟨service, l, hread, hplan, hbuild⟩ := exists_build_of_buildDocument hbuilt
    obtain ⟨hservice, hconfig⟩ := planFor_context hplan
    obtain ⟨ds, hds, -, -, hmodel⟩ := plan.steady_build.over_of_ok Over.nil hbuild
    obtain ⟨name, hname⟩ : ∃ name, plan.context.naming.serviceClass = .str name := by
      obtain ⟨naming, hnaming, hplan⟩ := Outcome.bind_eq_ok.1 hplan
      cases hplan
      exact Naming.exists_serviceClass hnaming
    have hfrozen : w.model.freeze = CodeModel.withEntries { frozen := true } ds := by
      rw [hmodel]
      rfl
    rw [hwritten, hwritten, hfrozen]
    cases hrendered : renderEach (CodeModel.withEntries { frozen := true } ds) (placesOf ds none)
      w.ledger with
    | error e l' =>
      have herror (grouping : Json) : (plan.grouped grouping).write commandLine
          (CodeModel.withEntries { frozen := true } ds) w.ledger = .error e l' :=
        Session.bind_run_of_error hrendered _
      rw [herror, herror]
      exact ⟨fun e' => Iff.rfl, nofun⟩
    | ok rendered l' =>
      obtain ⟨types, rfl, hsublist⟩ := exists_types_of_renderEach hrendered
      have hnames := nodup_fileNames (hds.areApart_names none) hsublist
      obtain ⟨e, heach, hall⟩ | ⟨frame, bodies, units, units', heach, hall, hframe, hregrouped⟩ :=
        plan.context.regrouped_units commandLine heach hall hname hnames
      · rw [(plan.grouped each).write_of_units hrendered heach,
          (plan.grouped all).write_of_units hrendered hall]
        exact ⟨fun e' => Iff.rfl, nofun⟩
      · rw [(plan.grouped each).write_of_units hrendered heach,
          (plan.grouped all).write_of_units hrendered hall]
        refine ⟨fun e' => iff_of_false nofun nofun, ?_⟩
        rintro _ _ ⟨⟩ ⟨⟩
        refine ⟨rfl, rfl, frame, bodies, fun hne => ⟨plan.context, l, ?_, hconfig, hframe hne⟩,
          hregrouped⟩
        rw [hservice, hread]

/-- The same classes in three units and in one. -/
theorem generate_regrouped_quotedDocument :
    ∃ g g', generate { oneFilePerType := .bool true } "pets" quotedDocument = .ok g ∧
      generate { oneFilePerType := .bool false } "pets" quotedDocument = .ok g' ∧
      g.units.length = 3 ∧ g'.units.length = 1 ∧ g.ledger.issues = g'.ledger.issues ∧
      ∃ frame bodies, Regrouped frame bodies g.units g'.units := by
  have hcounts :
      ((generate { oneFilePerType := .bool true } "pets" quotedDocument).toOption.map
        fun g => g.units.length,
      (generate { oneFilePerType := .bool false } "pets" quotedDocument).toOption.map
        fun g => g.units.length) = (some 3, some 1) := by
    decide +kernel
  obtain ⟨heach, hall⟩ := Prod.mk.inj hcounts
  cases hg : generate { oneFilePerType := .bool true } "pets" quotedDocument with
  | error e =>
    rw [hg] at heach
    cases heach
  | ok g =>
    cases hg' : generate { oneFilePerType := .bool false } "pets" quotedDocument with
    | error e =>
      rw [hg'] at hall
      cases hall
    | ok g' =>
      rw [hg] at heach
      rw [hg'] at hall
      obtain ⟨-, hissues, frame, bodies, -, hregrouped⟩ :=
        (generate_regrouped {} (rfl : (Json.bool true).truthy = true)
          (rfl : (Json.bool false).truthy = false) "pets" quotedDocument).2 g g' hg hg'
      exact ⟨g, g', rfl, rfl, Option.some.inj heach, Option.some.inj hall, hissues, frame, bodies,
        hregrouped⟩

end ClientGen
