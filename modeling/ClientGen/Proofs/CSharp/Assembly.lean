import ClientGen.Output.Check
import ClientGen.Proofs.CSharp.Nesting

/-!
# Source units pass the check

A frame is **plain** (`ClientGen.CSharp.UnitFrame.Plain`) if it has a namespace and using
directives, all inert code, and a comment of one line. Texts that are properly nested, one
of them with a class in it, are assembled in a plain frame to a unit that the check accepts
and whose braces are properly nested (`ClientGen.CSharp.UnitFrame.check_assemble`).
-/

namespace ClientGen.CSharp

open Output

/-! ### Parts of lines -/

theorem mem_separated {blocks : List (List String)} {block : List String} (hb : block ∈ blocks)
    {line : String} (hl : line ∈ block) : line ∈ separated blocks := by
  match blocks with
  | [] => cases hb
  | [b] =>
    rw [List.mem_singleton.1 hb] at hl
    exact hl
  | b :: next :: rest =>
    change line ∈ b ++ "" :: separated (next :: rest)
    rcases List.mem_cons.1 hb with rfl | hb
    · exact List.mem_append_left _ hl
    · exact List.mem_append_right b (List.mem_cons_of_mem "" (mem_separated hb hl))

theorem exists_infix_indent {part : List Char} {lines : List String} {line : String}
    (hl : line ∈ lines) (h : part <:+: line.toList) :
    ∃ line' ∈ indent lines, part <:+: line'.toList := by
  refine ⟨_, List.mem_map_of_mem hl, ?_⟩
  split
  · exact h
  · rw [String.toList_append]
    exact h.trans (List.suffix_append _ _).isInfix

theorem exists_infix_declarationLines {part : List Char} (hne : part ≠ []) (hp : '\n' ∉ part)
    {text : String} (h : part <:+: text.toList) :
    ∃ line ∈ UnitFrame.declarationLines text, part <:+: line.toList := by
  have hnewline : ∀ c ∈ part, (c == '\n') = false := by
    intro c hc
    rw [beq_eq_false_iff_ne]
    rintro rfl
    exact hp hc
  obtain ⟨l, hl, hpart⟩ :=
    Text.exists_infix_splitOnChar hp (Text.infix_dropEndWhile hne hnewline h)
  exact ⟨String.ofList l, List.mem_map_of_mem hl, by rwa [String.toList_ofList]⟩

namespace UnitFrame

/-! ### Frames -/

/-- **A plain frame.** -/
structure Plain (f : UnitFrame) : Prop where
  truthy : f.namespaceName.truthy = true
  namespaceName : IsCode f.namespaceName
  usings : ∀ u ∈ f.usings, IsCode u
  used : f.usings ≠ []
  comment : ∃ s : String, f.comment = .str ("//" ++ s) ∧ '\n' ∉ s.toList

variable {f : UnitFrame}

theorem Plain.reads_comment (hf : f.Plain) :
    Reads (if f.comment.truthy then f.comment.text ++ "\n" else "") [] := by
  obtain ⟨s, hs, hnewline⟩ := hf.comment
  split
  · have hlist : ("//" ++ s).toList = '/' :: '/' :: s.toList := by simp
    have hbraces : braces ("//" ++ s).toList = [] := hlist ▸ braces_comment hnewline
    rw [hs, ← hbraces]
    exact .line _
  · exact Inert.reads (by decide)

theorem Plain.inert_usings (hf : f.Plain) :
    Inert (String.join (f.usings.map fun u => "using " ++ u.text ++ ";\n")) := by
  intro c hc
  rw [String.toList_join, List.flatMap_map] at hc
  obtain ⟨u, hu, hc⟩ := List.mem_flatMap.1 hc
  have hinert : Inert ("using " ++ u.text ++ ";\n") :=
    (Inert.append (by decide) (hf.usings u hu).inert_text).append (by decide)
  exact hinert c hc

theorem Plain.reads_header (hf : f.Plain) : Reads f.header ['\x7b'] := by
  have hopening : Reads ("namespace " ++ f.namespaceName.text ++ "\n\x7b\n") ['\x7b'] :=
    (hf.namespaceName.inert_text.reads.after (by decide)).append (.code (by decide))
  rw [header]
  rw [if_pos hf.truthy]
  refine ((hf.reads_comment.before hf.inert_usings).before ?_).append hopening
  split <;> decide

theorem Plain.reads_footer (hf : f.Plain) : Reads f.footer ['\x7d'] := by
  rw [footer, if_pos hf.truthy]
  exact .code (by decide)

theorem lineBraces_bodyLines (declarations : List String) :
    lineBraces (f.bodyLines declarations) =
      declarations.flatMap fun text => braces text.toList := by
  have hlines : lineBraces (separated (declarations.map declarationLines)) =
      declarations.flatMap fun text => braces text.toList := by
    rw [lineBraces_separated, List.flatMap_map]
    simp only [lineBraces_declarationLines]
  rw [bodyLines]
  split
  · rw [lineBraces_indent, hlines]
  · exact hlines

/-- The braces of a unit are those of its declarations inside a pair of braces. -/
theorem Plain.reads_assemble (hf : f.Plain) (declarations : List String) :
    Reads (f.assemble declarations)
      ('\x7b' :: (declarations.flatMap fun text => braces text.toList) ++ ['\x7d']) := by
  have hbody : Reads (if (f.bodyLines declarations).isEmpty then ""
      else "\n".intercalate (f.bodyLines declarations) ++ "\n")
      (lineBraces (f.bodyLines declarations)) := by
    split
    · rename_i hempty
      rw [List.isEmpty_iff.1 hempty]
      exact Inert.reads (by decide)
    · rw [← braces_lines]
      exact .line _
  rw [← lineBraces_bodyLines (f := f)]
  exact (hf.reads_header.append hbody).append hf.reads_footer

theorem infix_assemble_of_header {part : List Char} (h : part <:+: f.header.toList)
    (declarations : List String) : part <:+: (f.assemble declarations).toList :=
  Text.infix_append_left (Text.infix_append_left h _) _

theorem Plain.infix_namespace (hf : f.Plain) (declarations : List String) :
    "namespace ".toList <:+: (f.assemble declarations).toList := by
  refine infix_assemble_of_header ?_ declarations
  rw [header, if_pos hf.truthy]
  exact Text.infix_append_right _ (Text.infix_append_left
    (Text.infix_append_left List.infix_rfl _) _)

theorem Plain.infix_using (hf : f.Plain) (declarations : List String) :
    "using ".toList <:+: (f.assemble declarations).toList := by
  refine infix_assemble_of_header ?_ declarations
  obtain ⟨u, us, hus⟩ := List.exists_cons_of_ne_nil hf.used
  have husings : "using ".toList <:+:
      (String.join (f.usings.map fun u => "using " ++ u.text ++ ";\n")).toList := by
    rw [hus, List.map_cons, String.join_cons]
    exact Text.infix_append_left (Text.infix_append_left
      (Text.infix_append_left List.infix_rfl _) _) _
  exact Text.infix_append_left (Text.infix_append_left (Text.infix_append_right _ husings) _) _

/-- A part of a line of a declaration is a part of the unit. -/
theorem infix_assemble {part : List Char} (hne : part ≠ []) (hp : '\n' ∉ part)
    {declarations : List String} {text : String} (ht : text ∈ declarations)
    (h : part <:+: text.toList) : part <:+: (f.assemble declarations).toList := by
  -- the part lies in one line, and that line is kept, perhaps with blanks in front of it
  obtain ⟨line, hline, hpart⟩ := exists_infix_declarationLines hne hp h
  have hmem := mem_separated (List.mem_map_of_mem ht) hline
  obtain ⟨line', hline', hpart'⟩ : ∃ line ∈ f.bodyLines declarations, part <:+: line.toList := by
    rw [bodyLines]
    split
    · exact exists_infix_indent hmem hpart
    · exact ⟨line, hmem, hpart⟩
  have hempty : ¬(f.bodyLines declarations).isEmpty = true := by
    rw [List.isEmpty_iff]
    exact List.ne_nil_of_mem hline'
  rw [assemble, if_neg hempty]
  exact Text.infix_append_left (Text.infix_append_right _ (Text.infix_append_left
    (hpart'.trans (Text.infix_intercalate hline')) _)) _

/-- **A unit of nested declarations is accepted**, and its braces are properly nested. -/
theorem Plain.check_assemble (hf : f.Plain) {declarations : List String}
    (hnested : ∀ text ∈ declarations, Nested (braces text.toList))
    {text : String} (ht : text ∈ declarations) (hclass : "class ".toList <:+: text.toList) :
    check (f.assemble declarations) true = .ok () ∧
      Nested (stripLiterals (f.assemble declarations).toList) := by
  have hbraces : Nested (stripLiterals (f.assemble declarations).toList) := by
    refine .of_filter ?_
    have hread := (hf.reads_assemble declarations).braces
    rw [braces] at hread
    rw [hread]
    exact (Nested.flatMap hnested).wrap
  refine ⟨?_, hbraces⟩
  have hnamespace := Text.contains_of_infix (hf.infix_namespace declarations)
  have husing := Text.contains_of_infix (hf.infix_using declarations)
  have hclass := Text.contains_of_infix (infix_assemble (f := f) (by decide) (by decide) ht hclass)
  rw [check, fault?]
  simp [hnamespace, husing, hclass, hbraces.closed]

end UnitFrame

end ClientGen.CSharp
