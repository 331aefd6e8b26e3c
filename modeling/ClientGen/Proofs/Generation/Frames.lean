import ClientGen.Json.Reader
import ClientGen.Proofs.Generation.Accepted

/-!
# What the units of a generation start with

A unit is a frame around declarations, and the frame is all of it that depends on the command
line: generations with different command lines give units of the same names, and the same
units if there is no comment on the generation (`ClientGen.names_eq_of_generate`).

Every unit starts with a comment or with a using directive, so its text is no JSON
(`ClientGen.read_text_of_generate`).
-/

namespace ClientGen

open CSharp

variable {config : Config} {commandLine commandLine' : String} {document : Json}
  {g g' : Generated} {u : SourceUnit}

/-! ### The frame -/

theorem Context.unitFrame_eq_ok {c : Context} {frame : UnitFrame}
    (h : c.unitFrame commandLine = .ok frame) :
    c.namespaceName = .ok frame.namespaceName ∧ c.usings = .ok frame.usings ∧
      frame.comment = .str (c.generationComment commandLine) := by
  obtain ⟨namespaceName, hnamespace, h⟩ := Outcome.bind_eq_ok.1 h
  obtain ⟨usings, husings, h⟩ := Outcome.bind_eq_ok.1 h
  cases h
  exact ⟨hnamespace, husings, rfl⟩

/-- What is written for a document: the model of its plan, or nothing. -/
theorem generate_cases (h : generate config commandLine document = .ok g) :
    ∃ pipeline, Pipeline.ofConfig config = .ok pipeline ∧
      ((∃ plan w, buildDocument config pipeline document (Workbench.start document) = .ok plan w ∧
          plan.write commandLine w.model.freeze w.ledger = .ok g.units g.ledger) ∨
        (∃ e w, buildDocument config pipeline document (Workbench.start document) = .error e w) ∧
          g.units = []) := by
  obtain ⟨pipeline, hpipeline, h⟩ := Outcome.bind_eq_ok.1 h
  refine ⟨pipeline, hpipeline, ?_⟩
  cases hbuilt : buildDocument config pipeline document (Workbench.start document) with
  | error e w =>
    rw [hbuilt] at h
    refine .inr ⟨⟨e, w, rfl⟩, ?_⟩
    -- only a document that cannot be read is passed over
    cases e with
    | issue i =>
      dsimp only at h
      split at h <;> cases h
      rfl
    | fault f => cases h
  | ok plan w =>
    rw [hbuilt] at h
    refine .inl ⟨plan, w, rfl, ?_⟩
    dsimp only at h
    split at h
    · rename_i hwrite
      cases h
      exact hwrite
    · cases h

theorem Plan.write_eq_ok {plan : Plan} {m : CodeModel} {l l' : Ledger} {units : List SourceUnit}
    (h : plan.write commandLine m l = .ok units l') :
    ∃ rendered l₁, renderEach m m.topLevel l = .ok rendered l₁ ∧
      plan.context.units commandLine rendered = .ok units := by
  rw [Plan.write] at h
  obtain ⟨rendered, l₁, hrendered, h⟩ := Session.bind_eq_ok.1 h
  obtain ⟨_, _, hlift, h⟩ := Session.bind_eq_ok.1 h
  cases h
  exact ⟨rendered, l₁, hrendered, (Session.lift_eq_ok.1 hlift).1⟩

/-- A unit is a frame around declarations, for the service that the document describes. -/
theorem exists_frame_of_generate (h : generate config commandLine document = .ok g)
    (hu : u ∈ g.units) :
    ∃ (c : Context) (l : Ledger) (frame : UnitFrame) (declarations : List String),
      Document.read document (Workbench.start document).ledger = .ok c.service l ∧
      c.config = config ∧ c.unitFrame commandLine = .ok frame ∧
      u.text = frame.assemble declarations := by
  obtain ⟨pipeline, -, ⟨plan, w, hbuilt, h⟩ | ⟨-, hnil⟩⟩ := generate_cases h
  · obtain ⟨service, l, hread, hplan, -⟩ := exists_build_of_buildDocument hbuilt
    obtain ⟨hservice, hconfig⟩ := planFor_context hplan
    obtain ⟨rendered, _, -, hunits⟩ := Plan.write_eq_ok h
    obtain ⟨frame, declarations, hframe, -, -, htext⟩ := exists_assemble_of_mem_units hunits hu
    exact ⟨plan.context, l, frame, declarations, by rw [hservice, hread], hconfig, hframe, htext⟩
  · rw [hnil] at hu
    cases hu

/-! ### Other command lines -/

theorem Context.names_units {c : Context} {rendered : List (Json × String)}
    {units units' : List SourceUnit} (h : c.units commandLine rendered = .ok units)
    (h' : c.units commandLine' rendered = .ok units') :
    units.map SourceUnit.fileName = units'.map SourceUnit.fileName := by
  rw [Context.units] at h h'
  split at h
  · rename_i hempty
    rw [if_pos hempty] at h'
    cases h
    cases h'
    rfl
  · rename_i hempty
    rw [if_neg hempty] at h'
    obtain ⟨frame, -, h⟩ := Outcome.bind_eq_ok.1 h
    obtain ⟨frame', -, h'⟩ := Outcome.bind_eq_ok.1 h'
    split at h
    · rename_i hper
      rw [if_pos hper] at h'
      refine Outcome.map_eq_of_mapM ?_ h h'
      intro r _ v v' hv hv'
      obtain ⟨name, hname, hv⟩ := Outcome.bind_eq_ok.1 hv
      obtain ⟨name', hname', hv'⟩ := Outcome.bind_eq_ok.1 hv'
      cases hname.symm.trans hname'
      cases hv
      cases hv'
      rfl
    · rename_i hper
      rw [if_neg hper] at h'
      obtain ⟨name, hname, h⟩ := Outcome.bind_eq_ok.1 h
      obtain ⟨name', hname', h'⟩ := Outcome.bind_eq_ok.1 h'
      cases hname.symm.trans hname'
      cases h
      cases h'
      rfl

theorem Context.units_congr {c : Context} (h : c.config.generationComment.truthy = false)
    (commandLine commandLine' : String) (rendered : List (Json × String)) :
    c.units commandLine rendered = c.units commandLine' rendered := by
  have hcomment : ∀ line, c.generationComment line = "" := by
    intro line
    rw [generationComment, h]
    rfl
  rw [Context.units, Context.units, unitFrame, unitFrame, hcomment, hcomment]

/-- **The command line shows in the comments only**: the units have the same names, and
without comments they are the same. -/
theorem names_eq_of_generate (h : generate config commandLine document = .ok g)
    (h' : generate config commandLine' document = .ok g') :
    g.units.map SourceUnit.fileName = g'.units.map SourceUnit.fileName ∧
      (config.generationComment.truthy = false → g.units = g'.units) := by
  obtain ⟨pipeline, hpipeline, hcases⟩ := generate_cases h
  obtain ⟨pipeline', hpipeline', hcases'⟩ := generate_cases h'
  cases hpipeline.symm.trans hpipeline'
  -- both go on from the same model, which does not depend on the command line
  rcases hcases with ⟨plan, w, hbuilt, h⟩ | ⟨⟨e, w, hbuilt⟩, hnil⟩ <;>
    rcases hcases' with ⟨plan', w', hbuilt', h'⟩ | ⟨⟨e', w', hbuilt'⟩, hnil'⟩ <;>
    cases hbuilt.symm.trans hbuilt'
  · obtain ⟨_, _, -, hplan, -⟩ := exists_build_of_buildDocument hbuilt
    obtain ⟨rendered, _, hrendered, hunits⟩ := Plan.write_eq_ok h
    obtain ⟨_, _, hrendered', hunits'⟩ := Plan.write_eq_ok h'
    cases hrendered.symm.trans hrendered'
    refine ⟨Context.names_units hunits hunits', fun hoff => ?_⟩
    rw [← (planFor_context hplan).2] at hoff
    rw [Context.units_congr hoff commandLine commandLine', hunits'] at hunits
    exact (Except.ok.inj hunits).symm
  · rw [hnil, hnil']
    exact ⟨rfl, fun _ => rfl⟩

/-! ### Reading a frame off its text -/

namespace CSharp.UnitFrame

variable {f f' : UnitFrame} {declarations declarations' : List String}

theorem comment_eq (h : f.assemble declarations = f'.assemble declarations')
    (hf : f.comment.truthy = true) (hf' : f'.comment.truthy = true)
    (hline : '\n' ∉ f.comment.text.toList) (hline' : '\n' ∉ f'.comment.text.toList) :
    f.comment.text = f'.comment.text := by
  have hlist := congrArg String.toList h
  simp only [assemble, header, hf, hf', if_true, String.toList_append, List.append_assoc] at hlist
  exact String.toList_inj.1 (Text.eq_of_append_newline hline hline' hlist)

theorem namespaceName_eq (h : f.assemble declarations = f'.assemble declarations')
    (hcomment : f.comment = f'.comment) (husings : f.usings = f'.usings)
    (hf : f.namespaceName.truthy = true) (hf' : f'.namespaceName.truthy = true)
    (hline : '\n' ∉ f.namespaceName.text.toList) (hline' : '\n' ∉ f'.namespaceName.text.toList) :
    f.namespaceName.text = f'.namespaceName.text := by
  have hlist := congrArg String.toList h
  simp only [assemble, header, hcomment, husings, hf, hf', if_true, String.toList_append,
    List.append_assoc, List.append_cancel_left_eq] at hlist
  exact String.toList_inj.1 (Text.eq_of_append_newline hline hline' hlist)

end CSharp.UnitFrame

/-! ### No unit is a document -/

theorem Json.read_of_head {s : String} {c : Char} {cs : List Char} (hs : s.toList = c :: cs)
    (hc : c = '/' ∨ c = 'u') (depth : Nat) : Json.read s depth = .error .grammar := by
  rw [Json.read, hs]
  rcases hc with rfl | rfl <;> rfl

theorem Context.exists_usings {c : Context} {usings : List Json} (h : c.usings = .ok usings) :
    ∃ rest, usings = .str "System" :: rest := by
  obtain ⟨_, -, h⟩ := Outcome.bind_eq_ok.1 h
  obtain ⟨_, -, h⟩ := Outcome.bind_eq_ok.1 h
  obtain ⟨_, -, h⟩ := Outcome.bind_eq_ok.1 h
  cases h
  exact ⟨_, rfl⟩

namespace CSharp.UnitFrame

variable {f : UnitFrame} (declarations : List String)

theorem comment_prefix (h : f.comment.truthy = true) :
    f.comment.text.toList <+: (f.assemble declarations).toList := by
  simp only [assemble, header, h, if_true, String.toList_append, List.append_assoc]
  exact List.prefix_append _ _

theorem using_prefix (h : f.comment.truthy = false) {first : Json} {rest : List Json}
    (husings : f.usings = first :: rest) :
    "using ".toList <+: (f.assemble declarations).toList := by
  simp only [assemble, header, h, husings, List.map_cons, String.join_cons, String.toList_append,
    List.append_assoc, Bool.false_eq_true, if_false]
  exact List.prefix_append _ _

end CSharp.UnitFrame

/-- **The text of a unit is no JSON.** -/
theorem read_text_of_generate (h : generate config commandLine document = .ok g)
    (hu : u ∈ g.units) (depth : Nat) : Json.read u.text depth = .error .grammar := by
  obtain ⟨c, l, frame, declarations, -, -, hframe, htext⟩ := exists_frame_of_generate h hu
  obtain ⟨-, husings, hcomment⟩ := Context.unitFrame_eq_ok hframe
  rw [htext]
  cases htruthy : frame.comment.truthy with
  | true =>
    obtain ⟨more, hmore⟩ := frame.comment_prefix declarations htruthy
    rw [hcomment, Context.generationComment] at hmore
    rw [hcomment, Context.generationComment] at htruthy
    split at htruthy
    · rename_i hon
      rw [if_pos hon, Json.text, String.toList_append] at hmore
      exact Json.read_of_head hmore.symm (.inl rfl) depth
    · cases htruthy
  | false =>
    obtain ⟨rest, hrest⟩ := Context.exists_usings husings
    obtain ⟨more, hmore⟩ := frame.using_prefix declarations htruthy hrest
    exact Json.read_of_head hmore.symm (.inr rfl) depth

end ClientGen
