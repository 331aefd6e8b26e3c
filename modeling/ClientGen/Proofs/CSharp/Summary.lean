import ClientGen.CSharp.Comment
import ClientGen.Proofs.Text.Lines
import Mathlib.Data.List.DropRight

/-!
# Documentation comments keep their text

A comment is written as lines of slashes with one summary in them. Whatever the comment, the
lines stay lines: none of them has a line terminator of C# in it, so nothing of the text leaves
the comment. And they keep the text: the angle brackets of the two tags are the only ones, and a
reader that takes away the slashes and the tags and undoes the entities
(`ClientGen.CSharp.summary?`) gives back the lines of the comment, the blank ones included, each
without the blanks around it (`ClientGen.CSharp.summary?_commentLines`).

There are two written forms, one line or several, and the text does not say which one it is in:
the reader tells them apart by the number of lines.
-/

namespace ClientGen.Text

/-! ### Blanks at the end -/

theorem stripEnd_eq_self_iff {s : List Char} :
    stripEnd s = s ↔ ∀ h : s ≠ [], isBlank (s.getLast h) = false := by
  simp only [← Bool.not_eq_true]
  exact List.rdropWhile_eq_self_iff

theorem stripEnd_append {a b : List Char} (hb : stripEnd b = b) (hne : b ≠ []) :
    stripEnd (a ++ b) = a ++ b := by
  refine stripEnd_eq_self_iff.2 fun h => ?_
  rw [List.getLast_append_of_ne_nil h hne]
  exact stripEnd_eq_self_iff.1 hb hne

theorem stripEnd_strip (s : List Char) : stripEnd (strip s) = strip s :=
  List.rdropWhile_idempotent isBlank _

theorem splitLines_ne_nil {s : List Char} (h : s ≠ []) : splitLines s ≠ [] := by
  fun_cases splitLines s with
  | case1 => exact absurd rfl h
  | case2 cs => exact List.cons_ne_nil _ _
  | case3 c cs _ hc => exact List.cons_ne_nil _ _
  | case4 c cs _ hc => cases splitLines cs <;> exact List.cons_ne_nil _ _

theorem isAllBlank_iff_strip {s : List Char} : isAllBlank s = true ↔ strip s = [] := by
  have hstrip : strip s = [] ↔ ∀ c ∈ s.dropWhile isBlank, isBlank c = true :=
    List.rdropWhile_eq_nil_iff
  rw [isAllBlank, List.all_eq_true, hstrip]
  constructor
  · intro h c hc
    exact h c ((List.dropWhile_sublist _).subset hc)
  · intro h
    -- what is left begins with a character that is no blank, if it begins at all
    have hnil : s.dropWhile isBlank = [] := by
      by_contra hne
      have hhead := List.head_dropWhile_not isBlank hne
      rw [h _ (List.head_mem hne)] at hhead
      cases hhead
    exact List.dropWhile_eq_nil_iff.1 hnil

end ClientGen.Text

namespace ClientGen.CSharp

open Text

/-! ### Entities -/

/-- **Undo the entities** of XML text. -/
def undoEntities : List Char → List Char
  | '&' :: 'a' :: 'm' :: 'p' :: ';' :: rest => '&' :: undoEntities rest
  | '&' :: 'l' :: 't' :: ';' :: rest => '<' :: undoEntities rest
  | '&' :: 'g' :: 't' :: ';' :: rest => '>' :: undoEntities rest
  | c :: rest => c :: undoEntities rest
  | [] => []

theorem entityChar_of_ne {c : Char} (hamp : c ≠ '&') (hlt : c ≠ '<') (hgt : c ≠ '>') :
    entityChar c = [c] := by
  rw [entityChar, if_neg hamp, if_neg hlt, if_neg hgt]

theorem undoEntities_entityChar (c : Char) (rest : List Char) :
    undoEntities (entityChar c ++ rest) = c :: undoEntities rest := by
  by_cases hamp : c = '&'
  · subst hamp
    rfl
  by_cases hlt : c = '<'
  · subst hlt
    rfl
  by_cases hgt : c = '>'
  · subst hgt
    rfl
  rw [entityChar_of_ne hamp hlt hgt, List.singleton_append, undoEntities]
  all_goals simp [hamp]

/-- **Entities are undone** to the text that they were put into. -/
theorem undoEntities_flatMap (s : List Char) : undoEntities (s.flatMap entityChar) = s := by
  induction s with
  | nil => rfl
  | cons c cs ih => rw [List.flatMap_cons, undoEntities_entityChar, ih]

/-- A property of the characters of a fixed text, checked for one after the other. -/
theorem forall_of_all {P : Char → Prop} [DecidablePred P] {s : List Char}
    (h : (s.all fun c => decide (P c)) = true) : ∀ c ∈ s, P c := by
  simpa using h

/-- The characters of a text with entities are its own, save the angle brackets, and some that
break no line. -/
theorem of_mem_flatMap_entityChar {s : List Char} {c : Char} (h : c ∈ s.flatMap entityChar) :
    (c ≠ '<' ∧ c ≠ '>') ∧ (c ∈ s ∨ isLineBreak c = false) := by
  have hplain {entity : List Char} (hentity : (entity.all fun d =>
      decide ((d ≠ '<' ∧ d ≠ '>') ∧ isLineBreak d = false)) = true) (hc : c ∈ entity) :
      (c ≠ '<' ∧ c ≠ '>') ∧ (c ∈ s ∨ isLineBreak c = false) :=
    (forall_of_all hentity c hc).imp_right .inr
  obtain ⟨d, hd, hc⟩ := List.mem_flatMap.1 h
  rw [entityChar] at hc
  split_ifs at hc with hamp hlt hgt
  · exact hplain (by decide) hc
  · exact hplain (by decide) hc
  · exact hplain (by decide) hc
  · obtain rfl := List.mem_singleton.1 hc
    exact ⟨⟨hlt, hgt⟩, .inl hd⟩

theorem stripEnd_entityChar {c : Char} (hc : isBlank c = false) :
    stripEnd (entityChar c) = entityChar c ∧ entityChar c ≠ [] := by
  rw [entityChar]
  split_ifs
  · decide
  · decide
  · decide
  · simp [stripEnd, dropEndWhile, hc]

/-- Entities at the end of a text are no blanks. -/
theorem stripEnd_flatMap_entityChar {s : List Char} (h : stripEnd s = s) :
    stripEnd (s.flatMap entityChar) = s.flatMap entityChar := by
  rcases List.eq_nil_or_concat' s with rfl | ⟨front, c, rfl⟩
  · rfl
  · have hblank : isBlank c = false := by
      simpa using stripEnd_eq_self_iff.1 h (by simp)
    obtain ⟨hstrip, hne⟩ := stripEnd_entityChar hblank
    rw [List.flatMap_append, List.flatMap_singleton]
    exact stripEnd_append hstrip hne

/-! ### Reading a summary -/

/-- What a documentation line says: what stands behind its slashes and one space. -/
def documented? : List Char → Option (List Char)
  | ['/', '/', '/'] => some []
  | '/' :: '/' :: '/' :: ' ' :: rest => some rest
  | _ => none

/-- The tag that opens a summary. -/
def openingTag : List Char := "<summary>".toList

/-- The tag that closes a summary. -/
def closingTag : List Char := "</summary>".toList

/-- **The text of a summary**, line by line: one line between the tags, or the lines between a line
for either tag. No lines are no summary, and have no text. -/
def summary? (lines : List String) : Option (List (List Char)) := do
  match ← lines.mapM fun line => documented? line.toList with
  | [] => some []
  | [line] => do
    let rest ← line.dropPrefix? openingTag
    let inside ← rest.dropSuffix? closingTag
    return [undoEntities inside]
  | first :: rest =>
    if first = openingTag ∧ rest.getLast? = some closingTag then
      some (rest.dropLast.map undoEntities)
    else none

/-! ### The lines of a comment -/

/-- The line terminators of C#. -/
def lineTerminators : List Char := ['\n', '\r', '\u0085', '\u2028', '\u2029']

theorem notMem_lineTerminators {c : Char} (h : isLineBreak c = false) : c ∉ lineTerminators := by
  have hbreaks : ∀ d ∈ lineTerminators, isLineBreak d = true := forall_of_all (by decide)
  intro hc
  rw [hbreaks c hc] at h
  cases h

/-- **A documentation line**: it begins with three slashes, and it is one line. -/
structure IsDocumentation (line : String) : Prop where
  /-- The slashes come first. -/
  slashes : ['/', '/', '/'] <+: line.toList
  /-- No line terminator is in it. -/
  oneLine : ∀ c ∈ line.toList, c ∉ lineTerminators

/-- **One summary**: the two tags, and no angle bracket besides theirs. -/
def HasOneSummary (lines : List String) : Prop :=
  ∃ before inside after : List Char,
    lines.flatMap String.toList = before ++ openingTag ++ inside ++ closingTag ++ after ∧
    ∀ c ∈ before ++ inside ++ after, c ≠ '<' ∧ c ≠ '>'

/-- The slashes in front of a line, and the space behind them. -/
def slashes : List Char := "/// ".toList

theorem toList_summary (line : List Char) :
    ("/// <summary>" ++ String.ofList line ++ "</summary>").toList =
      slashes ++ openingTag ++ (line ++ closingTag) := by
  have hfront : "/// <summary>".toList = slashes ++ openingTag := rfl
  have hback : "</summary>".toList = closingTag := rfl
  rw [String.toList_append, String.toList_append, hfront, hback, String.toList_ofList,
    List.append_assoc]

/-- The line that is written for a line of a comment among several. -/
def summaryLine (line : List Char) : String :=
  String.ofList (stripEnd (slashes ++ line))

/-- **Text of a comment**: neither line breaks nor angle brackets, and no blank at the end. -/
structure IsCommentText (line : List Char) : Prop where
  /-- No character ends a line. -/
  oneLine : ∀ c ∈ line, isLineBreak c = false
  /-- No character belongs to a tag. -/
  noTags : ∀ c ∈ line, c ≠ '<' ∧ c ≠ '>'
  /-- Blanks at the end are gone. -/
  stripped : stripEnd line = line

theorem isCommentText_of_mem {comment line : List Char} (h : line ∈ commentText comment) :
    IsCommentText line := by
  obtain ⟨l, hl, rfl⟩ := List.mem_map.1 h
  refine ⟨fun c hc => ?_, fun c hc => (of_mem_flatMap_entityChar hc).1,
    stripEnd_flatMap_entityChar (stripEnd_strip l)⟩
  rcases (of_mem_flatMap_entityChar hc).2 with hmem | hplain
  · exact isLineBreak_of_mem_splitLines hl (mem_of_mem_strip hmem)
  · exact hplain

theorem undoEntities_commentText (comment : List Char) :
    (commentText comment).map undoEntities = (splitLines (strip comment)).map strip := by
  rw [commentText, List.map_map]
  exact List.map_congr_left fun line _ => undoEntities_flatMap (strip line)

namespace IsCommentText

variable {line : List Char} (h : IsCommentText line)

include h

/-- Only the space in front of an empty line is taken away with the blanks at the end. -/
theorem toList_summaryLine : (summaryLine line).toList =
    if line = [] then ['/', '/', '/'] else slashes ++ line := by
  rw [summaryLine, String.toList_ofList]
  split_ifs with hline
  · rw [hline]
    decide
  · exact stripEnd_append h.stripped hline

theorem documented?_summaryLine : documented? (summaryLine line).toList = some line := by
  rw [h.toList_summaryLine]
  split_ifs with hline
  · rw [hline]
    rfl
  · rfl

theorem of_mem_summaryLine {c : Char} (hc : c ∈ (summaryLine line).toList) :
    isLineBreak c = false ∧ c ≠ '<' ∧ c ≠ '>' := by
  have hslashes : ∀ d ∈ slashes, isLineBreak d = false ∧ d ≠ '<' ∧ d ≠ '>' :=
    forall_of_all (by decide)
  rw [h.toList_summaryLine] at hc
  split_ifs at hc with hline
  · exact hslashes c (List.mem_append_left [' '] hc)
  · rcases List.mem_append.1 hc with hc | hc
    · exact hslashes c hc
    · exact ⟨h.oneLine c hc, h.noTags c hc⟩

theorem isDocumentation_summaryLine : IsDocumentation (summaryLine line) := by
  refine ⟨?_, fun c hc => notMem_lineTerminators (h.of_mem_summaryLine hc).1⟩
  rw [h.toList_summaryLine]
  split_ifs
  · exact List.prefix_rfl
  · exact List.prefix_append ['/', '/', '/'] (' ' :: line)

theorem isDocumentation_summary :
    IsDocumentation ("/// <summary>" ++ String.ofList line ++ "</summary>") := by
  have htags : ∀ c ∈ slashes ++ openingTag ++ closingTag, isLineBreak c = false :=
    forall_of_all (by decide)
  obtain ⟨hopening, hclosing⟩ := List.forall_mem_append.1 htags
  constructor
  · rw [toList_summary]
    exact List.prefix_append ['/', '/', '/'] _
  · rw [toList_summary]
    refine List.forall_mem_append.2 ⟨fun c hc => ?_,
      List.forall_mem_append.2 ⟨fun c hc => ?_, fun c hc => ?_⟩⟩
    · exact notMem_lineTerminators (hopening c hc)
    · exact notMem_lineTerminators (h.oneLine c hc)
    · exact notMem_lineTerminators (hclosing c hc)

end IsCommentText

/-! ### The two written forms -/

/-- A comment of one line: the tags stand around it. -/
theorem summary?_oneLine {line : List Char} (h : IsCommentText line) :
    HasOneSummary ["/// <summary>" ++ String.ofList line ++ "</summary>"] ∧
      summary? ["/// <summary>" ++ String.ofList line ++ "</summary>"] =
        some [undoEntities line] := by
  refine ⟨⟨slashes, line, [], ?_, ?_⟩, ?_⟩
  · rw [List.flatMap_singleton, toList_summary, List.append_nil, List.append_assoc _ line]
  · rw [List.append_nil, List.forall_mem_append]
    exact ⟨forall_of_all (by decide), h.noTags⟩
  · have hread : documented? (slashes ++ openingTag ++ (line ++ closingTag)) =
        some (openingTag ++ (line ++ closingTag)) := rfl
    have hopened : (openingTag ++ (line ++ closingTag)).dropPrefix? openingTag =
        some (line ++ closingTag) := List.dropPrefix?_append_of_beq _ (by simp)
    have hclosed : (line ++ closingTag).dropSuffix? closingTag = some line :=
      List.dropSuffix?_eq_some_iff.2 ⟨closingTag, rfl, by simp⟩
    simp only [summary?, List.mapM_cons, List.mapM_nil, toList_summary, hread]
    simp [hopened, hclosed]

theorem documented?_summaryLines {lines : List (List Char)}
    (h : ∀ line ∈ lines, IsCommentText line) :
    (lines.map summaryLine).mapM (fun line => documented? line.toList) = some lines := by
  induction lines with
  | nil => rfl
  | cons line rest ih =>
    obtain ⟨hline, hrest⟩ := List.forall_mem_cons.1 h
    rw [List.map_cons, List.mapM_cons, hline.documented?_summaryLine, ih hrest]
    rfl

/-- A comment of several lines: the tags stand on lines of their own. -/
theorem summary?_severalLines {lines : List (List Char)} (hne : lines ≠ [])
    (h : ∀ line ∈ lines, IsCommentText line) :
    HasOneSummary ("/// <summary>" :: lines.map summaryLine ++ ["/// </summary>"]) ∧
      summary? ("/// <summary>" :: lines.map summaryLine ++ ["/// </summary>"]) =
        some (lines.map undoEntities) := by
  constructor
  · refine ⟨slashes, (lines.map summaryLine).flatMap String.toList ++ slashes, [], ?_, ?_⟩
    · rw [List.cons_append, List.flatMap_cons, List.flatMap_append, List.flatMap_singleton,
        List.append_nil, List.append_assoc, List.append_assoc, List.append_assoc]
      rfl
    · rw [List.append_nil, List.forall_mem_append, List.forall_mem_append]
      refine ⟨forall_of_all (by decide), fun c hc => ?_, forall_of_all (by decide)⟩
      obtain ⟨written, hwritten, hc⟩ := List.mem_flatMap.1 hc
      obtain ⟨line, hline, rfl⟩ := List.mem_map.1 hwritten
      exact ((h line hline).of_mem_summaryLine hc).2
  · obtain ⟨line, rest, rfl⟩ := List.exists_cons_of_ne_nil hne
    have hread : ("/// <summary>" :: (line :: rest).map summaryLine ++ ["/// </summary>"]).mapM
        (fun line => documented? line.toList) =
          some (openingTag :: (line :: rest ++ [closingTag])) := by
      rw [List.cons_append, List.mapM_cons, List.mapM_append, documented?_summaryLines h]
      rfl
    have hlast : (line :: rest ++ [closingTag]).getLast? = some closingTag :=
      List.getLast?_concat
    rw [summary?, hread]
    change (if openingTag = openingTag ∧ (line :: rest ++ [closingTag]).getLast? = some closingTag
      then some ((line :: rest ++ [closingTag]).dropLast.map undoEntities) else none) = _
    rw [if_pos ⟨rfl, hlast⟩, List.dropLast_concat]

/-- **Comments stay comments and keep their text.** Every line is a documentation line; there are
no lines exactly if the comment is blank; there is one summary, and no angle brackets besides those
of its tags; and the summary reads as the lines of the comment, all of them, in order. -/
theorem summary?_commentLines (comment : String) :
    (∀ line ∈ commentLines comment, IsDocumentation line) ∧
    (commentLines comment = [] ↔ isAllBlank comment.toList = true) ∧
    (commentLines comment ≠ [] → HasOneSummary (commentLines comment)) ∧
    summary? (commentLines comment) =
      some ((splitLines (strip comment.toList)).map strip) := by
  by_cases hblank : isAllBlank comment.toList = true
  · have hnone : commentLines comment = [] := by rw [commentLines, if_pos hblank]
    rw [hnone, isAllBlank_iff_strip.1 hblank]
    exact ⟨nofun, by simp [hblank], fun h => absurd rfl h, rfl⟩
  · have htext : ∀ line ∈ commentText comment.toList, IsCommentText line :=
      fun line => isCommentText_of_mem
    have hne : commentText comment.toList ≠ [] := by
      intro hnil
      have hlines := splitLines_ne_nil fun hstrip => hblank (isAllBlank_iff_strip.2 hstrip)
      exact hlines (List.map_eq_nil_iff.1 hnil)
    rw [commentLines, if_neg hblank, ← undoEntities_commentText]
    split
    · rename_i line hline
      rw [hline] at htext ⊢
      have hline := htext line List.mem_cons_self
      obtain ⟨hone, hread⟩ := summary?_oneLine hline
      refine ⟨?_, by simp [hblank], fun _ => hone, hread⟩
      exact List.forall_mem_singleton.2 hline.isDocumentation_summary
    · obtain ⟨hone, hread⟩ := summary?_severalLines hne htext
      refine ⟨?_, by simp [hblank], fun _ => hone, hread⟩
      rw [List.cons_append, List.forall_mem_cons, List.forall_mem_append, List.forall_mem_singleton]
      have hopening : IsDocumentation "/// <summary>" := ⟨by decide, forall_of_all (by decide)⟩
      have hclosing : IsDocumentation "/// </summary>" := ⟨by decide, forall_of_all (by decide)⟩
      refine ⟨hopening, fun written hwritten => ?_, hclosing⟩
      obtain ⟨line, hline, rfl⟩ := List.mem_map.1 hwritten
      exact (htext line hline).isDocumentation_summaryLine

/-- A comment with entities, tags, an empty line and line ends of four kinds. -/
theorem summary?_commentLines_marked :
    let comment := " Less < &amp; more >\r\n\n\u2028a </summary>\u0085\x0C// end \t\n"
    commentLines comment =
        ["/// <summary>", "/// Less &lt; &amp;amp; more &gt;", "///", "///",
         "/// a &lt;/summary&gt;", "///", "/// // end", "/// </summary>"] ∧
      (∀ line ∈ commentLines comment, IsDocumentation line) ∧
      (commentLines comment = [] ↔ isAllBlank comment.toList = true) ∧
      (commentLines comment ≠ [] → HasOneSummary (commentLines comment)) ∧
      summary? (commentLines comment) =
        some ((splitLines (strip comment.toList)).map strip) :=
  ⟨by decide, summary?_commentLines _⟩

end ClientGen.CSharp
