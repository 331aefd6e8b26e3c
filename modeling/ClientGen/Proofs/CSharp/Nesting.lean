import ClientGen.Proofs.Build.Plain

/-!
# Declarations are properly nested

The lines of a declaration that a building made in a plain context have properly nested
braces (`ClientGen.CSharp.nested_declaration`). Three things come together:

* the parts of a declaration are **quiet** (`ClientGen.IsQuiet`): names and types are inert
  code, and literals read as no braces;
* comments read as no braces, since they do not span lines;
* braces come in pairs around lines that are nested already.
-/

namespace ClientGen

open Output

/-- **A quiet value** is a text that reads as no braces. -/
def IsQuiet (v : Json) : Prop :=
  ∃ s : String, v = .str s ∧ Reads s []

theorem IsQuiet.reads_of_written {v : Json} {text : String} (h : IsQuiet v)
    (ht : v.written = .ok text) : Reads text [] := by
  obtain ⟨s, rfl, hs⟩ := h
  cases ht
  exact hs

theorem Output.Reads.isQuiet {s : String} (h : Reads s []) : IsQuiet (.str s) :=
  ⟨s, rfl, h⟩

theorem IsCode.isQuiet {v : Json} (h : IsCode v) : IsQuiet v := by
  obtain ⟨s, rfl, hs⟩ := h
  exact hs.reads.isQuiet

theorem IsCode.reads_of_written {v : Json} {text : String} (h : IsCode v)
    (ht : v.written = .ok text) : Reads text [] :=
  (h.inert_of_written ht).reads

namespace CSharp

variable {c : Context}

/-! ### Expressions -/

theorem reads_commaList {parts : List Json} {text : String} (hparts : ∀ v ∈ parts, IsQuiet v)
    (h : commaList parts = .ok text) : Reads text [] := by
  obtain ⟨texts, htexts, h⟩ := Outcome.bind_eq_ok.1 h
  cases h
  refine .intercalate (by decide) fun p hp => ?_
  obtain ⟨v, hv, hp⟩ := Outcome.of_mem_mapM htexts hp
  obtain ⟨s, rfl, hs⟩ := hparts v hv
  cases hp
  exact hs

theorem isQuiet_of_mem_expressions {location : String} {es : List Expression} {vs : List Json}
    (hes : ∀ e ∈ es, ∀ v, expression location e = .ok v → IsQuiet v)
    (h : expressions location es = .ok vs) : ∀ v ∈ vs, IsQuiet v := by
  induction es generalizing vs with
  | nil =>
    cases h
    exact nofun
  | cons e es ih =>
    obtain ⟨v, hv, h⟩ := Outcome.bind_eq_ok.1 h
    obtain ⟨later, hlater, h⟩ := Outcome.bind_eq_ok.1 h
    cases h
    rw [List.forall_mem_cons] at hes
    exact List.forall_mem_cons.2 ⟨hes.1 v hv, ih hes.2 hlater⟩

theorem isQuiet_literal {location : String} {value v : Json}
    (h : expression location (.literal value) = .ok v) : IsQuiet v := by
  obtain ⟨text, htext, h⟩ := Outcome.bind_eq_ok.1 h
  cases h
  exact (reads_literal htext).isQuiet

theorem isQuiet_expression (hc : c.Plain) {location : String} {e : Expression}
    (he : IsExpression c e) {v : Json} (h : expression location e = .ok v) : IsQuiet v := by
  cases e with
  | literal value => exact isQuiet_literal h
  | snippet text =>
    cases h
    exact (hc.isCode_snippet he).isQuiet
  | create type arguments =>
    obtain ⟨parts, hparts, h⟩ := Outcome.bind_eq_ok.1 h
    obtain ⟨inner, hinner, h⟩ := Outcome.bind_eq_ok.1 h
    obtain ⟨typeText, htype, h⟩ := Outcome.bind_eq_ok.1 h
    cases h
    -- the arguments are texts of the target language, so this case needs no induction
    have hquiet : ∀ v ∈ parts, IsQuiet v := by
      refine isQuiet_of_mem_expressions (fun e harg v hv => ?_) hparts
      obtain ⟨text, rfl, htext⟩ := he.2 e harg
      cases hv
      exact (hc.isCode_snippet htext).isQuiet
    have htype := (hc.isCode_type he.1).reads_of_written htype
    have hinner := reads_commaList hquiet hinner
    exact ((((htype.after (by decide)).before (by decide)).append hinner).before
      (by decide)).isQuiet
  | bare => exact he.elim
  | absent => exact he.elim

/-! ### Statements -/

theorem isQuiet_statement (hc : c.Plain) {location : String} {s : Statement}
    (hs : IsStatement c s) {v : Json} (h : statement location s = .ok v) : IsQuiet v := by
  cases s with
  | ret value =>
    have hvalue : value ≠ .absent := by
      rintro rfl
      exact hs
    rw [statement] at h
    · obtain ⟨e, he, h⟩ := Outcome.bind_eq_ok.1 h
      obtain ⟨text, htext, h⟩ := Outcome.bind_eq_ok.1 h
      cases h
      have htext := (isQuiet_expression hc hs he).reads_of_written htext
      exact ((htext.after (by decide)).before (by decide)).isQuiet
    · exact hvalue
  | assign target value =>
    obtain ⟨targetText, htarget, h⟩ := Outcome.bind_eq_ok.1 h
    obtain ⟨e, he, h⟩ := Outcome.bind_eq_ok.1 h
    obtain ⟨text, htext, h⟩ := Outcome.bind_eq_ok.1 h
    cases h
    have htarget := (hc.isCode_name hs.1).reads_of_written htarget
    have htext := (isQuiet_expression hc hs.2 he).reads_of_written htext
    exact (((htarget.before (by decide)).append htext).before (by decide)).isQuiet
  | snippet text => exact hs.elim
  | bare => exact hs.elim

theorem isQuiet_of_mem_statements (hc : c.Plain) {location : String} {body : List Statement}
    (hbody : ∀ s ∈ body, IsStatement c s) {vs : List Json}
    (h : statements location body = .ok vs) : ∀ v ∈ vs, IsQuiet v := by
  intro v hv
  obtain ⟨s, hs, hv⟩ := Outcome.of_mem_mapM h hv
  exact isQuiet_statement hc (hbody s hs) hv

/-! ### Blocks -/

/-- Lines in braces below a quiet line. -/
theorem nested_block {head : String} {inner : List String} (hhead : Reads head [])
    (hinner : Nested (lineBraces inner)) :
    Nested (lineBraces (head :: "\x7b" :: inner ++ ["\x7d"])) := by
  have hopen : braces "\x7b".toList = ['\x7b'] := (Reads.code (by decide)).braces
  have hclose : lineBraces ["\x7d"] = ['\x7d'] := by
    rw [lineBraces_cons, (Reads.code (by decide)).braces]
    rfl
  rw [lineBraces_append, lineBraces_cons, lineBraces_cons, hhead.braces, hopen, hclose]
  exact hinner.wrap

/-- Code in braces on one line. -/
theorem nested_line {head inner : String} (hhead : Reads head []) (hinner : Reads inner []) :
    Nested (lineBraces [head ++ " \x7b " ++ inner ++ " \x7d"]) := by
  have hopen : Reads " \x7b " ['\x7b'] := .code (by decide)
  have hclose : Reads " \x7d" ['\x7d'] := .code (by decide)
  rw [lineBraces_cons, (((hhead.append hopen).append hinner).append hclose).braces]
  exact Nested.nil.wrap

theorem nested_statements {body : List Json} (hbody : ∀ v ∈ body, IsQuiet v)
    {lines : List String} (h : block body = .ok lines) : Nested (lineBraces lines) := by
  obtain ⟨texts, htexts, h⟩ := Outcome.bind_eq_ok.1 h
  cases h
  rw [lineBraces_indent, lineBraces_eq_nil]
  · exact .nil
  · intro l hl
    obtain ⟨v, hv, hl⟩ := Outcome.of_mem_mapM htexts hl
    obtain ⟨s, rfl, hs⟩ := hbody v hv
    cases hl
    exact hs.braces

/-! ### Members -/

theorem reads_access (a : Access) : Reads a.keyword [] := by
  cases a <;> exact Inert.reads (by decide)

theorem reads_modifiers (d : Declaration) : Reads (modifiers d) [] := by
  refine .intercalate (by decide) (List.forall_mem_cons.2 ⟨reads_access d.access, fun p hp => ?_⟩)
  obtain ⟨modifier, -, rfl⟩ := List.mem_map.1 hp
  cases modifier <;> exact Inert.reads (by decide)

theorem nested_accessor {keyword : String} (hkeyword : Inert keyword) {body : List Json}
    (hbody : ∀ v ∈ body, IsQuiet v) {lines : List String} (h : accessor keyword body = .ok lines) :
    Nested (lineBraces lines) := by
  rw [accessor.eq_def] at h
  split at h
  · rename_i line
    obtain ⟨text, htext, h⟩ := Outcome.bind_eq_ok.1 h
    cases h
    exact nested_line hkeyword.reads ((hbody line (by simp)).reads_of_written htext)
  · obtain ⟨inner, hinner, h⟩ := Outcome.bind_eq_ok.1 h
    cases h
    exact nested_block hkeyword.reads (nested_statements hbody hinner)

theorem nested_accessorLines (hc : c.Plain) {keyword : String} (hkeyword : Inert keyword)
    {body : List Statement} (hbody : ∀ s ∈ body, IsStatement c s) {location : String}
    {lines : List String} (h : accessorLines keyword body location = .ok lines) :
    Nested (lineBraces lines) := by
  obtain ⟨vs, hvs, h⟩ := Outcome.bind_eq_ok.1 h
  obtain ⟨inner, hinner, h⟩ := Outcome.bind_eq_ok.1 h
  cases h
  rw [lineBraces_indent]
  exact nested_accessor hkeyword (isQuiet_of_mem_statements hc hbody hvs) hinner

theorem nested_property (hc : c.Plain) {d : Declaration} (hd : IsName c d.name) {p : PropertyBody}
    (hp : IsBody c (.property p)) {location : String} {lines : List String}
    (h : property d p location = .ok lines) : Nested (lineBraces lines) := by
  rw [property] at h
  split at h
  · cases h
  · obtain ⟨type, htype, h⟩ := Outcome.bind_eq_ok.1 h
    obtain ⟨name, hname, h⟩ := Outcome.bind_eq_ok.1 h
    have htype := (hc.isCode_type hp.1).reads_of_written htype
    have hname := (hc.isCode_name hd).reads_of_written hname
    have hhead : Reads (modifiers d ++ " " ++ type ++ " " ++ name) [] :=
      ((((reads_modifiers d).before (by decide)).append htype).before (by decide)).append hname
    dsimp only at h
    split at h
    · cases h
      exact nested_line hhead (Inert.reads (by split <;> decide))
    · obtain ⟨getter, hgetter, h⟩ := Outcome.bind_eq_ok.1 h
      have hgetter := nested_accessorLines hc (by decide) hp.2.2 hgetter
      have hboth (setter : List String) (hsetter : Nested (lineBraces setter)) :
          Nested (lineBraces (getter ++ setter)) := by
        rw [lineBraces_append]
        exact hgetter.append hsetter
      split at h
      · obtain ⟨setter, hsetter, h⟩ := Outcome.bind_eq_ok.1 h
        cases h
        have hsetter := nested_accessorLines hc (by decide) (by simp [hp.2.1]) hsetter
        exact nested_block hhead (hboth setter hsetter)
      · cases h
        exact nested_block hhead (hboth [] .nil)

theorem reads_argument (hc : c.Plain) {location : String} {a : Argument} (ha : IsArgument c a)
    {text : String} (h : argument location a = .ok text) : Reads text [] := by
  obtain ⟨type, htype, h⟩ := Outcome.bind_eq_ok.1 h
  obtain ⟨name, hname, h⟩ := Outcome.bind_eq_ok.1 h
  rw [ha.default] at h
  cases h
  have htype := (hc.isCode_type ha.type).reads_of_written htype
  have hname := (hc.isCode_local ha.name).reads_of_written hname
  exact (htype.before (by decide)).append hname

theorem reads_baseCall (hc : c.Plain) {location : String} {call : Option (List Expression)}
    (hcall : ∀ arguments, call = some arguments → ∀ e ∈ arguments, IsExpression c e)
    {text : String} (h : baseCall location call = .ok text) : Reads text [] := by
  cases call with
  | none =>
    cases h
    exact Inert.reads (by decide)
  | some arguments =>
    obtain ⟨parts, hparts, h⟩ := Outcome.bind_eq_ok.1 h
    obtain ⟨inner, hinner, h⟩ := Outcome.bind_eq_ok.1 h
    cases h
    have hquiet := isQuiet_of_mem_expressions
      (fun e he _ => isQuiet_expression hc (hcall arguments rfl e he)) hparts
    exact ((reads_commaList hquiet hinner).after (by decide)).before (by decide)

/-- Statements in braces below a quiet line. -/
theorem nested_statementBlock (hc : c.Plain) {head : String} (hhead : Reads head [])
    {body : List Statement} (hbody : ∀ s ∈ body, IsStatement c s) {location : String}
    {lines : List String}
    (h : (do return head :: "\x7b" :: (← block (← statements location body)) ++ ["\x7d"]) =
      Except.ok lines) : Nested (lineBraces lines) := by
  obtain ⟨vs, hvs, h⟩ := Outcome.bind_eq_ok.1 h
  obtain ⟨inner, hinner, h⟩ := Outcome.bind_eq_ok.1 h
  cases h
  exact nested_block hhead (nested_statements (isQuiet_of_mem_statements hc hbody hvs) hinner)

theorem nested_method (hc : c.Plain) {d : Declaration} (hd : IsName c d.name) {m : MethodBody}
    (hm : IsBody c (.method m)) {location : String} {lines : List String}
    (h : method d m location = .ok lines) : Nested (lineBraces lines) := by
  obtain ⟨htype, hparameters, hstatements, hcalled, -⟩ := hm
  obtain ⟨parameters, hps, h⟩ := Outcome.bind_eq_ok.1 h
  have hps : Reads ("(" ++ ", ".intercalate parameters ++ ")") [] := by
    refine ((Reads.intercalate (by decide) fun p hp => ?_).after (by decide)).before (by decide)
    obtain ⟨a, ha, hp⟩ := Outcome.of_mem_mapM hps hp
    exact reads_argument hc (hparameters a ha) hp
  have hstart := (reads_modifiers d).before (b := " ") (by decide)
  -- a constructor has a call of the base class and no type, a method a type and no call
  cases hconstructor : m.isConstructor with
  | true =>
    simp only [hconstructor, if_true] at h
    obtain ⟨call, hcall, h⟩ := Outcome.bind_eq_ok.1 h
    obtain ⟨name, hname, h⟩ := Outcome.bind_eq_ok.1 h
    have hname := (hc.isCode_name hd).reads_of_written hname
    have hcall := reads_baseCall hc hcalled hcall
    exact nested_statementBlock hc (((hstart.append hname).append hps).append hcall) hstatements h
  | false =>
    simp only [hconstructor, Bool.false_eq_true, if_false] at h
    obtain ⟨_, -, h⟩ := Outcome.bind_eq_ok.1 h
    obtain ⟨name, hname, h⟩ := Outcome.bind_eq_ok.1 h
    obtain ⟨type, ht, h⟩ := Outcome.bind_eq_ok.1 h
    have hname := (hc.isCode_name hd).reads_of_written hname
    have ht := (hc.isCode_type htype).reads_of_written ht
    exact nested_statementBlock hc
      ((((hstart.append ht).before (by decide)).append hname).append hps) hstatements h

theorem nested_constant (hc : c.Plain) {d : Declaration} (hd : IsName c d.name) {type value : Json}
    (ht : IsType c type) {location : String} {lines : List String}
    (h : constant d type value location = .ok lines) : Nested (lineBraces lines) := by
  rw [constant] at h
  split at h
  · cases h
  · obtain ⟨text, htext, h⟩ := Outcome.bind_eq_ok.1 h
    obtain ⟨typeText, htype, h⟩ := Outcome.bind_eq_ok.1 h
    obtain ⟨name, hname, h⟩ := Outcome.bind_eq_ok.1 h
    cases h
    have htype := (hc.isCode_type ht).reads_of_written htype
    have hname := (hc.isCode_name hd).reads_of_written hname
    have hdeclared := (htype.before (b := " ") (by decide)).append hname
    have hline : Reads (d.access.keyword ++ " const " ++ (typeText ++ " " ++ name) ++ " = " ++ text
        ++ ";") [] :=
      (((((reads_access d.access).before (by decide)).append hdeclared).before (by decide)).append
        (reads_literal htext)).before (by decide)
    rw [lineBraces_cons, hline.braces]
    exact .nil

theorem reads_attributeLine {location : String} {a : Attribute} (ha : IsAttribute a)
    {line : String} (h : attributeLine location a = .ok line) : Reads line [] := by
  have hquiet : ∀ e ∈ a.arguments, ∀ v, expression location e = .ok v → IsQuiet v := by
    cases ha with
    | field wireName => exact List.forall_mem_singleton.2 fun _ => isQuiet_literal
    | parameter p =>
      refine List.forall_mem_cons.2 ⟨fun _ => isQuiet_literal, List.forall_mem_singleton.2 ?_⟩
      intro v hv
      cases hv
      exact IsCode.isQuiet (Inert.isCode (by cases p.location <;> decide))
  have hname : IsCode a.name := by
    cases ha with
    | field wireName => exact Inert.isCode (by decide)
    | parameter p => exact Inert.isCode (by decide)
  rw [attributeLine] at h
  split at h
  · obtain ⟨name, hwritten, h⟩ := Outcome.bind_eq_ok.1 h
    cases h
    exact ((hname.reads_of_written hwritten).after (by decide)).before (by decide)
  · obtain ⟨parts, hparts, h⟩ := Outcome.bind_eq_ok.1 h
    obtain ⟨inner, hinner, h⟩ := Outcome.bind_eq_ok.1 h
    obtain ⟨name, hwritten, h⟩ := Outcome.bind_eq_ok.1 h
    cases h
    have hinner := reads_commaList (isQuiet_of_mem_expressions hquiet hparts) hinner
    exact ((((hname.reads_of_written hwritten).after (by decide)).before (by decide)).append
      hinner).before (by decide)

/-! ### Comments -/

theorem newline_notMem_entityChar {d : Char} (h : d ≠ '\n') : '\n' ∉ entityChar d := by
  rw [entityChar]
  split_ifs
  · decide
  · decide
  · decide
  · simpa using Ne.symm h

/-- The lines of a comment have no line breaks inside. -/
theorem newline_notMem_commentText {comment line : List Char} (h : line ∈ commentText comment) :
    '\n' ∉ line := by
  obtain ⟨l, hl, rfl⟩ := List.mem_map.1 h
  rw [List.mem_flatMap]
  rintro ⟨d, hd, hmem⟩
  have hline : d ≠ '\n' := by
    rintro rfl
    exact Text.newline_notMem_splitLines hl (Text.mem_of_mem_strip hd)
  exact newline_notMem_entityChar hline hmem

theorem braces_summary {line : List Char} (h : '\n' ∉ line) :
    braces ("/// <summary>" ++ String.ofList line ++ "</summary>").toList = [] := by
  have hlist : ("/// <summary>" ++ String.ofList line ++ "</summary>").toList =
      '/' :: '/' :: ("/ <summary>".toList ++ line ++ "</summary>".toList) := by simp
  rw [hlist]
  exact braces_comment (by simpa using h)

/-- The slashes stay in front of a line when the blanks at its end are removed. -/
theorem braces_summaryLine {line : List Char} (h : '\n' ∉ line) :
    braces (Text.stripEnd ("/// ".toList ++ line)) = [] := by
  have hlist : "/// ".toList ++ line = ['/', '/', '/'] ++ (' ' :: line) := by simp
  obtain ⟨rest, hrest, hsubset⟩ :=
    Text.exists_stripEnd_append (a := ['/', '/', '/']) (by decide) (' ' :: line)
  have hnewline : '\n' ∉ '/' :: rest := by
    intro hmem
    rcases List.mem_cons.1 (hsubset ((List.mem_cons.1 hmem).resolve_left (by decide))) with hc | hc
    · exact absurd hc (by decide)
    · exact h hc
  rw [hlist, hrest]
  exact braces_comment hnewline

theorem braces_commentLines (comment : String) :
    ∀ line ∈ commentLines comment, braces line.toList = [] := by
  rw [commentLines]
  split
  · exact nofun
  · split
    · rename_i line hline
      have hmem : line ∈ commentText comment.toList := by rw [hline]; exact List.mem_cons_self
      exact List.forall_mem_singleton.2 (braces_summary (newline_notMem_commentText hmem))
    · rw [List.forall_mem_append, List.forall_mem_cons, List.forall_mem_singleton]
      refine ⟨⟨braces_comment (s := "/ <summary>".toList) (by decide), fun line hline => ?_⟩,
        braces_comment (s := "/ </summary>".toList) (by decide)⟩
      obtain ⟨l, hl, rfl⟩ := List.mem_map.1 hline
      rw [String.toList_ofList]
      exact braces_summaryLine (newline_notMem_commentText hl)

theorem lineBraces_commentOf {comment : Json} {lines : List String}
    (h : commentOf comment = .ok lines) : lineBraces lines = [] := by
  rw [commentOf.eq_def] at h
  split at h
  · cases h
    exact lineBraces_eq_nil (braces_commentLines _)
  · split at h
    · cases h
    · cases h
      rfl

/-! ### Classes -/

theorem reads_classHead (hc : c.Plain) {d : Declaration} (hd : IsName c d.name)
    {baseTypes : List Json} (hbases : ∀ b ∈ baseTypes, IsBase c b) {head : String}
    (h : classHead d baseTypes = .ok head) : Reads head [] := by
  obtain ⟨name, hname, h⟩ := Outcome.bind_eq_ok.1 h
  have hname := (hc.isCode_name hd).reads_of_written hname
  have hhead := ((reads_modifiers d).before (b := " class ") (by decide)).append hname
  dsimp only at h
  split at h
  · cases h
    exact hhead
  · obtain ⟨text, htext, h⟩ := Outcome.bind_eq_ok.1 h
    cases h
    have hbases := reads_commaList (fun b hb => (hc.isCode_base (hbases b hb)).isQuiet) htext
    exact (hhead.before (by decide)).append hbases

/-- The lines of a declaration are nested if those of its members are. -/
theorem nested_declarationBody (hc : c.Plain) {d : Declaration} (hd : Made c d)
    {member : Nat → Outcome (List String)}
    (hmember : ∀ place lines, member place = .ok lines → Nested (lineBraces lines))
    {location : String} {lines : List String}
    (h : declarationBody member d location = .ok lines) : Nested (lineBraces lines) := by
  have hbody := hd.body
  rw [declarationBody.eq_def] at h
  split at h
  · cases h
  · rename_i baseTypes members hclass
    rw [hclass] at hbody
    obtain ⟨head, hhead, h⟩ := Outcome.bind_eq_ok.1 h
    obtain ⟨blocks, hblocks, h⟩ := Outcome.bind_eq_ok.1 h
    cases h
    refine nested_block (reads_classHead hc hd.name hbody hhead) ?_
    rw [lineBraces_separated, List.flatMap_map]
    refine .flatMap fun block hblock => ?_
    obtain ⟨place, -, hplace⟩ := Outcome.of_mem_mapM hblocks hblock
    rw [lineBraces_indent]
    exact hmember place block hplace
  · rename_i p hp
    rw [hp] at hbody
    exact nested_property hc hd.name hbody h
  · rename_i m hm
    rw [hm] at hbody
    exact nested_method hc hd.name hbody h
  · rename_i type value hv
    rw [hv] at hbody
    exact nested_constant hc hd.name hbody h

/-- **The lines of a declaration are properly nested**, in a model of declarations that a
building made in a plain context. -/
theorem nested_declaration (hc : c.Plain) {m : CodeModel}
    (hm : ∀ i d, m.get i = .ok d → Made c d) {fuel : Nat} {index : Int} {lines : List String}
    (h : declaration m fuel index = .ok lines) : Nested (lineBraces lines) := by
  -- the members of a class are written with less fuel than the class
  induction fuel generalizing index lines with
  | zero => cases h
  | succ fuel ih =>
    obtain ⟨d, hd, h⟩ := Outcome.bind_eq_ok.1 h
    obtain ⟨location, -, h⟩ := Outcome.bind_eq_ok.1 h
    obtain ⟨body, hbody, h⟩ := Outcome.bind_eq_ok.1 h
    obtain ⟨comment, hcomment, h⟩ := Outcome.bind_eq_ok.1 h
    obtain ⟨attributes, hattributes, h⟩ := Outcome.bind_eq_ok.1 h
    cases h
    have hd := hm index d hd
    have hquiet : lineBraces attributes = [] := by
      refine lineBraces_eq_nil fun line hline => ?_
      obtain ⟨a, ha, hline⟩ := Outcome.of_mem_mapM hattributes hline
      exact (reads_attributeLine (hd.attributes a ha) hline).braces
    rw [lineBraces_append, lineBraces_append, lineBraces_commentOf hcomment, hquiet]
    exact nested_declarationBody hc hd (fun _ _ => ih) hbody

/-- **The text of a declaration is properly nested.** -/
theorem nested_render (hc : c.Plain) {m : CodeModel} (hm : ∀ i d, m.get i = .ok d → Made c d)
    {index : Int} {text : String} (h : render m index = .ok text) :
    Nested (braces text.toList) := by
  obtain ⟨lines, hlines, h⟩ := Outcome.bind_eq_ok.1 h
  cases h
  rw [(Reads.line _).braces, braces_lines]
  exact nested_declaration hc hm hlines

/-! ### The word of a class -/

theorem infix_classHead {d : Declaration} {baseTypes : List Json} {head : String}
    (h : classHead d baseTypes = .ok head) : "class ".toList <:+: head.toList := by
  obtain ⟨name, -, h⟩ := Outcome.bind_eq_ok.1 h
  have hword : "class ".toList <:+: (modifiers d ++ " class " ++ name).toList :=
    Text.infix_append_left (Text.infix_append_right _ ⟨[' '], [], by decide⟩) _
  dsimp only at h
  split at h
  · cases h
    exact hword
  · obtain ⟨text, -, h⟩ := Outcome.bind_eq_ok.1 h
    cases h
    exact Text.infix_append_left (Text.infix_append_left hword _) _

theorem exists_head_declarationBody {member : Nat → Outcome (List String)} {d : Declaration}
    (hclass : d.isClass = true) {location : String} {lines : List String}
    (h : declarationBody member d location = .ok lines) :
    ∃ head rest, lines = head :: rest ∧ "class ".toList <:+: head.toList := by
  rw [Declaration.isClass, Declaration.members?] at hclass
  rw [declarationBody.eq_def] at h
  split at hclass
  · rename_i hbody
    rw [hbody] at h
    obtain ⟨head, hhead, h⟩ := Outcome.bind_eq_ok.1 h
    obtain ⟨blocks, -, h⟩ := Outcome.bind_eq_ok.1 h
    cases h
    exact ⟨head, _, rfl, infix_classHead hhead⟩
  · cases hclass

/-- The text of a class has the word for it. -/
theorem infix_render {m : CodeModel} {index : Int}
    (hclass : ∀ d, m.get index = .ok d → d.isClass = true) {text : String}
    (h : render m index = .ok text) : "class ".toList <:+: text.toList := by
  obtain ⟨lines, hlines, h⟩ := Outcome.bind_eq_ok.1 h
  cases h
  obtain ⟨d, hd, hlines⟩ := Outcome.bind_eq_ok.1 hlines
  obtain ⟨location, -, hlines⟩ := Outcome.bind_eq_ok.1 hlines
  obtain ⟨body, hbody, hlines⟩ := Outcome.bind_eq_ok.1 hlines
  obtain ⟨comment, -, hlines⟩ := Outcome.bind_eq_ok.1 hlines
  obtain ⟨attributes, -, hlines⟩ := Outcome.bind_eq_ok.1 hlines
  cases hlines
  obtain ⟨head, rest, rfl, hhead⟩ := exists_head_declarationBody (hclass d hd) hbody
  have hmem : head ∈ comment ++ attributes ++ head :: rest :=
    List.mem_append_right _ List.mem_cons_self
  exact Text.infix_append_left (hhead.trans (Text.infix_intercalate hmem)) _

end CSharp

end ClientGen
