import ClientGen.Text.Blank
import Mathlib.Data.List.TakeWhile

/-!
# Pieces of texts

A text is its pieces between the occurrences of one character, put together again
(`ClientGen.Text.intercalate_splitOnChar`), and a part of the text that does not have the
character lies in one of the pieces (`ClientGen.Text.exists_infix_splitOnChar`). Pieces that
do not have the character are found again (`ClientGen.Text.splitOnChar_intercalate`).
-/

namespace ClientGen.Text

/-! ### Parts -/

/-- A text occurs in another if it is a part of it. -/
theorem occursIn_iff_infix {part s : List Char} : occursIn part s = true ↔ part <:+: s := by
  induction s with
  | nil => simp [occursIn]
  | cons c cs ih =>
    rw [occursIn, Bool.or_eq_true, List.isPrefixOf_iff_prefix, ih, List.infix_cons_iff]

theorem contains_of_infix {s part : String} (h : part.toList <:+: s.toList) :
    contains s part = true :=
  occursIn_iff_infix.2 h

theorem infix_append_left {part : List Char} {s : String} (h : part <:+: s.toList) (t : String) :
    part <:+: (s ++ t).toList := by
  rw [String.toList_append]
  exact h.trans (List.prefix_append _ _).isInfix

theorem infix_append_right {part : List Char} (s : String) {t : String} (h : part <:+: t.toList) :
    part <:+: (s ++ t).toList := by
  rw [String.toList_append]
  exact h.trans (List.suffix_append _ _).isInfix

theorem not_prefix_cons {p : Char → Bool} {part s : List Char} {c : Char} (hne : part ≠ [])
    (hp : ∀ d ∈ part, p d = false) (hc : p c = true) : ¬part <+: c :: s := by
  cases part with
  | nil => exact absurd rfl hne
  | cons d ds =>
    intro h
    obtain rfl : d = c := (List.cons_prefix_cons.1 h).1
    rw [hp d List.mem_cons_self] at hc
    cases hc

/-- A part that has none of some characters does not need those at the start of the text. -/
theorem infix_dropWhile {p : Char → Bool} {part s : List Char} (hne : part ≠ [])
    (hp : ∀ c ∈ part, p c = false) (h : part <:+: s) : part <:+: s.dropWhile p := by
  induction s with
  | nil => exact h
  | cons c cs ih =>
    rw [List.dropWhile_cons]
    split
    · rename_i hc
      rcases List.infix_cons_iff.1 h with h | h
      · exact absurd h (not_prefix_cons hne hp hc)
      · exact ih h
    · exact h

theorem infix_dropEndWhile {p : Char → Bool} {part s : List Char} (hne : part ≠ [])
    (hp : ∀ c ∈ part, p c = false) (h : part <:+: s) : part <:+: dropEndWhile p s := by
  rw [dropEndWhile, ← List.reverse_infix, List.reverse_reverse]
  exact infix_dropWhile (by simpa using hne) (by simpa using hp) (List.reverse_infix.2 h)

/-- Dropping characters at the end takes away some of them. -/
theorem exists_dropEndWhile_append (p : Char → Bool) (s : List Char) :
    ∃ tail, dropEndWhile p s ++ tail = s ∧ ∀ c ∈ tail, p c = true := by
  refine ⟨(s.reverse.takeWhile p).reverse, ?_, fun c hc => ?_⟩
  · rw [dropEndWhile, ← List.reverse_append, List.takeWhile_append_dropWhile, List.reverse_reverse]
  · exact List.mem_takeWhile_imp (List.mem_reverse.1 hc)

theorem mem_of_mem_dropEndWhile {p : Char → Bool} {s : List Char} {c : Char}
    (h : c ∈ dropEndWhile p s) : c ∈ s := by
  obtain ⟨tail, htail, -⟩ := exists_dropEndWhile_append p s
  rw [← htail]
  exact List.mem_append_left tail h

theorem mem_of_mem_strip {s : List Char} {c : Char} (h : c ∈ strip s) : c ∈ s :=
  (List.dropWhile_sublist _).subset (mem_of_mem_dropEndWhile h)

/-- Removing blanks at the end does not reach a part in front that ends without one. -/
theorem exists_stripEnd_append {a : List Char} (ha : stripEnd a = a) (b : List Char) :
    ∃ t, stripEnd (a ++ b) = a ++ t ∧ t ⊆ b := by
  rw [stripEnd, dropEndWhile, List.reverse_append, List.dropWhile_append]
  split
  · refine ⟨[], ?_, List.nil_subset b⟩
    rw [List.append_nil]
    exact ha
  · rw [List.reverse_append, List.reverse_reverse]
    exact ⟨dropEndWhile isBlank b, rfl, fun c => mem_of_mem_dropEndWhile⟩

/-! ### Lines -/

/-- **The lines of a text have no line breaks in them.** -/
theorem isLineBreak_of_mem_splitLines {s line : List Char} (h : line ∈ splitLines s) {c : Char}
    (hc : c ∈ line) : isLineBreak c = false := by
  fun_induction splitLines s generalizing line with
  | case1 => cases h
  | case2 cs ih =>
    rcases List.mem_cons.1 h with rfl | h
    · cases hc
    · exact ih h hc
  | case3 d cs _ hd ih =>
    rcases List.mem_cons.1 h with rfl | h
    · cases hc
    · exact ih h hc
  | case4 d cs _ hd ih =>
    have hd : isLineBreak d = false := by simpa using hd
    cases hls : splitLines cs with
    | nil =>
      rw [hls, consFirst, List.mem_singleton] at h
      rw [h, List.mem_singleton] at hc
      exact hc ▸ hd
    | cons first rest =>
      rw [hls, consFirst, List.mem_cons] at h
      rcases h with rfl | h
      · rcases List.mem_cons.1 hc with rfl | hc
        · exact hd
        · exact ih (by rw [hls]; exact List.mem_cons_self) hc
      · exact ih (by rw [hls]; exact List.mem_cons_of_mem first h) hc

theorem newline_notMem_splitLines {s line : List Char} (h : line ∈ splitLines s) :
    '\n' ∉ line := fun hc => absurd (isLineBreak_of_mem_splitLines h hc) (by decide)

/-- The first line of a text is told from the text. -/
theorem eq_of_append_newline {a a' r r' : List Char} (ha : '\n' ∉ a) (ha' : '\n' ∉ a')
    (h : a ++ '\n' :: r = a' ++ '\n' :: r') : a = a' := by
  have htake : ∀ {b s : List Char}, '\n' ∉ b → (b ++ '\n' :: s).takeWhile (· != '\n') = b := by
    intro b s hb
    rw [List.takeWhile_append_of_pos, List.takeWhile_cons_of_neg (by decide), List.append_nil]
    intro c hc
    simpa using fun heq : c = '\n' => hb (heq ▸ hc)
  rw [← htake ha, h, htake ha']

/-- What holds of the pieces and the glue, and is kept when texts are joined, holds of the
whole. -/
theorem intercalate_of_append {P : String → Prop} {glue : String} {pieces : List String}
    (hempty : P "") (happend : ∀ {a b : String}, P a → P b → P (a ++ b)) (hglue : P glue)
    (hpieces : ∀ piece ∈ pieces, P piece) : P (glue.intercalate pieces) := by
  match pieces with
  | [] =>
    rw [String.intercalate_nil]
    exact hempty
  | [piece] =>
    rw [String.intercalate_singleton]
    exact hpieces piece List.mem_cons_self
  | piece :: next :: rest =>
    rw [String.intercalate_cons_cons]
    rw [List.forall_mem_cons] at hpieces
    exact happend (happend hpieces.1 hglue)
      (intercalate_of_append hempty happend hglue hpieces.2)

/-- A piece is a part of the text that it is a piece of. -/
theorem infix_intercalate {glue piece : String} {pieces : List String} (h : piece ∈ pieces) :
    piece.toList <:+: (glue.intercalate pieces).toList := by
  match pieces with
  | [] => cases h
  | [l] =>
    have heq : glue.intercalate [l] = piece := by
      rw [List.mem_singleton.1 h, String.intercalate_singleton]
    exact heq ▸ List.infix_rfl
  | l :: next :: rest =>
    rw [String.intercalate_cons_cons]
    rcases List.mem_cons.1 h with rfl | h
    · exact infix_append_left (infix_append_left List.infix_rfl _) _
    · exact infix_append_right _ (infix_intercalate h)

/-! ### Pieces -/

variable {sep : Char}

theorem intercalate_consFirst (c : Char) {pieces : List (List Char)} (h : pieces ≠ []) :
    [sep].intercalate (consFirst c pieces) = c :: [sep].intercalate pieces := by
  match pieces, h with
  | [l], _ => rfl
  | l :: l' :: ls, _ => simp [consFirst, List.intercalate]

/-- **The pieces of a text make it up again.** -/
theorem intercalate_splitOnChar (s : List Char) :
    [sep].intercalate (splitOnChar sep s) = s := by
  induction s with
  | nil => rfl
  | cons c cs ih =>
    rw [splitOnChar]
    split
    · rename_i hc
      obtain ⟨l, ls, hls⟩ := List.exists_cons_of_ne_nil (splitOnChar_ne_nil sep cs)
      rw [hls] at ih ⊢
      subst hc
      simpa [List.intercalate] using ih
    · rw [intercalate_consFirst c (splitOnChar_ne_nil sep cs), ih]

theorem prefix_head_splitOnChar {part s : List Char} (hp : sep ∉ part) (h : part <+: s) :
    ∃ l ls, splitOnChar sep s = l :: ls ∧ part <+: l := by
  induction s generalizing part with
  | nil => exact ⟨[], [], rfl, h⟩
  | cons c cs ih =>
    rw [splitOnChar]
    cases part with
    | nil =>
      split
      · exact ⟨_, _, rfl, List.nil_prefix⟩
      · obtain ⟨l, ls, hls, -⟩ := ih List.not_mem_nil List.nil_prefix
        exact ⟨c :: l, ls, by rw [hls, consFirst], List.nil_prefix⟩
    | cons d ds =>
      obtain ⟨rfl, hds⟩ := List.cons_prefix_cons.1 h
      rw [List.mem_cons, not_or] at hp
      rw [if_neg (Ne.symm hp.1)]
      obtain ⟨l, ls, hls, hl⟩ := ih hp.2 hds
      exact ⟨d :: l, ls, by rw [hls, consFirst], List.cons_prefix_cons.2 ⟨rfl, hl⟩⟩

/-- **A part without the separating character lies in a piece.** -/
theorem exists_infix_splitOnChar {part s : List Char} (hp : sep ∉ part) (h : part <:+: s) :
    ∃ l ∈ splitOnChar sep s, part <:+: l := by
  induction s with
  | nil => exact ⟨[], by simp [splitOnChar], h⟩
  | cons c cs ih =>
    rcases List.infix_cons_iff.1 h with h | h
    · obtain ⟨l, ls, hls, hl⟩ := prefix_head_splitOnChar hp h
      exact ⟨l, by simp [hls], hl.isInfix⟩
    · obtain ⟨l, hl, hpart⟩ := ih h
      rw [splitOnChar]
      split
      · exact ⟨l, List.mem_cons_of_mem _ hl, hpart⟩
      · cases hls : splitOnChar sep cs with
        | nil => exact absurd hls (splitOnChar_ne_nil sep cs)
        | cons first rest =>
          rw [hls] at hl
          rcases List.mem_cons.1 hl with rfl | hl
          · exact ⟨c :: l, List.mem_cons_self, hpart.trans (List.infix_cons (List.infix_refl l))⟩
          · exact ⟨l, List.mem_cons_of_mem _ hl, hpart⟩

theorem notMem_of_mem_splitOnChar {s piece : List Char} (h : piece ∈ splitOnChar sep s) :
    sep ∉ piece := by
  induction s generalizing piece with
  | nil =>
    rw [List.mem_singleton.1 h]
    exact List.not_mem_nil
  | cons c cs ih =>
    rw [splitOnChar] at h
    split at h
    · rcases List.mem_cons.1 h with rfl | h
      · exact List.not_mem_nil
      · exact ih h
    · rename_i hc
      obtain ⟨l, ls, hls⟩ := List.exists_cons_of_ne_nil (splitOnChar_ne_nil sep cs)
      rw [hls, consFirst] at h
      rcases List.mem_cons.1 h with rfl | h
      · rw [List.mem_cons, not_or]
        exact ⟨Ne.symm hc, ih (by rw [hls]; exact List.mem_cons_self)⟩
      · exact ih (by rw [hls]; exact List.mem_cons_of_mem l h)

theorem splitOnChar_eq_splitOn (s : List Char) : splitOnChar sep s = s.splitOn sep := by
  induction s with
  | nil => rfl
  | cons c cs ih =>
    rw [splitOnChar, List.splitOn, List.splitOnP_cons_eq_if_modifyHead, ← List.splitOn, ← ih]
    by_cases hc : c = sep
    · rw [if_pos hc, if_pos (beq_iff_eq.2 hc)]
    · rw [if_neg hc, if_neg fun h => hc (beq_iff_eq.1 h)]
      obtain ⟨l, ls, hls⟩ := List.exists_cons_of_ne_nil (splitOnChar_ne_nil sep cs)
      rw [hls, consFirst, List.modifyHead_cons]

/-- **Pieces without the separating character are found again.** -/
theorem splitOnChar_intercalate {pieces : List (List Char)} (hne : pieces ≠ [])
    (h : ∀ piece ∈ pieces, sep ∉ piece) :
    splitOnChar sep ([sep].intercalate pieces) = pieces := by
  rw [splitOnChar_eq_splitOn, List.splitOn_intercalate sep h hne]

end ClientGen.Text
