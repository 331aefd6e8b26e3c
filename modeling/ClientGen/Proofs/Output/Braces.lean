import ClientGen.CSharp.Unit
import ClientGen.Proofs.Output.Strip
import ClientGen.Proofs.Text.Lines

/-!
# The braces of a text

The braces of a text that count are those outside its literals and comments
(`ClientGen.Output.braces`). They are taken line by line, so that a text that is put
together from lines has the braces of its lines, one after the other, however often it is
split, indented and joined again on the way.

Inside a line, a piece of code **reads as** certain braces (`ClientGen.Output.Reads`) if it
adds just these in front of whatever follows it. Pieces of code can be put together
because a piece does not change how the rest is read: a literal is closed, and there
are no slashes outside literals.

The braces of a text are **nested** (`ClientGen.Output.Nested`) if no brace is closed that
was not opened before, and none stays open.
-/

namespace ClientGen.Output

open CSharp

/-! ### Nesting -/

/-- **Properly nested braces**: every initial part of a text has at least as many opening as
closing braces, and the whole text has as many of each. -/
structure Nested (s : List Char) : Prop where
  opened : ∀ t, t <+: s → t.count '\x7d' ≤ t.count '\x7b'
  closed : s.count '\x7b' = s.count '\x7d'

theorem Nested.nil : Nested [] := by
  refine ⟨fun t ht => ?_, rfl⟩
  rw [List.prefix_nil.1 ht]
  exact Nat.le_refl _

/-- An initial part of two texts is one of the first, or has the first in it. -/
theorem prefix_of_append {t a b : List Char} (h : t <+: a ++ b) :
    t <+: a ∨ ∃ u, t = a ++ u ∧ u <+: b := by
  rcases Nat.le_total t.length a.length with hle | hle
  · exact .inl (List.prefix_of_prefix_length_le h (List.prefix_append a b) hle)
  · obtain ⟨u, rfl⟩ := List.prefix_of_prefix_length_le (List.prefix_append a b) h hle
    exact .inr ⟨u, rfl, (List.prefix_append_right_inj a).1 h⟩

theorem Nested.append {a b : List Char} (ha : Nested a) (hb : Nested b) : Nested (a ++ b) where
  opened t ht := by
    rcases prefix_of_append ht with h | ⟨u, rfl, hu⟩
    · exact ha.opened t h
    · have hclosed := ha.closed
      have hopened := hb.opened u hu
      rw [List.count_append, List.count_append]
      omega
  closed := by rw [List.count_append, List.count_append, ha.closed, hb.closed]

theorem Nested.flatMap {α : Type} {f : α → List Char} {as : List α}
    (h : ∀ a ∈ as, Nested (f a)) : Nested (as.flatMap f) := by
  induction as with
  | nil => exact .nil
  | cons a as ih =>
    exact (h a List.mem_cons_self).append (ih fun b hb => h b (List.mem_cons_of_mem a hb))

/-- Nested braces in a pair of braces are nested. -/
theorem Nested.wrap {s : List Char} (h : Nested s) : Nested ('\x7b' :: s ++ ['\x7d']) where
  opened t ht := by
    cases t with
    | nil => exact Nat.le_refl _
    | cons c cs =>
      obtain ⟨rfl, hcs⟩ := List.cons_prefix_cons.1 ht
      have hclosed := h.closed
      rcases prefix_of_append hcs with hcs | ⟨u, rfl, hu⟩
      · have := h.opened cs hcs
        simp
        omega
      · have := hu.sublist.count_le '\x7d'
        simp at this ⊢
        omega
  closed := by
    have := h.closed
    simp
    omega

/-- Whether a character is a brace. -/
def isBrace (c : Char) : Bool :=
  c == '\x7b' || c == '\x7d'

/-- Only the braces of a text matter. -/
theorem Nested.of_filter {s : List Char} (h : Nested (s.filter isBrace)) : Nested s where
  opened t ht := by
    have := h.opened _ (ht.filter isBrace)
    rwa [List.count_filter (by rfl), List.count_filter (by rfl)] at this
  closed := by
    have := h.closed
    rwa [List.count_filter (by rfl), List.count_filter (by rfl)] at this

/-! ### Braces outside literals and comments -/

/-- **The braces of a text** outside its literals and comments. -/
def braces (s : List Char) : List Char :=
  (stripLiterals s).filter isBrace

@[simp] theorem braces_nil : braces [] = [] := by
  rw [braces, stripLiterals_nil, List.filter_nil]

theorem braces_newline (a b : List Char) : braces (a ++ '\n' :: b) = braces a ++ braces b := by
  rw [braces, stripLiterals_newline, List.filter_append, List.filter_cons_of_neg (by decide)]
  rfl

theorem braces_intercalate (lines : List (List Char)) :
    braces (['\n'].intercalate lines) = lines.flatMap braces := by
  match lines with
  | [] => exact braces_nil
  | [l] => simp [List.intercalate]
  | l :: l' :: ls =>
    have hcons :
        ['\n'].intercalate (l :: l' :: ls) = l ++ '\n' :: ['\n'].intercalate (l' :: ls) := by
      simp [List.intercalate]
    rw [hcons, braces_newline, braces_intercalate (l' :: ls)]
    rfl

/-- Splitting a text into lines keeps its braces. -/
theorem flatMap_braces_splitOnChar (s : List Char) :
    (Text.splitOnChar '\n' s).flatMap braces = braces s := by
  rw [← braces_intercalate, Text.intercalate_splitOnChar]

/-! ### Reading code -/

/-- Whether a character belongs to code: it is neither a quote nor a slash. -/
def isCodeChar (c : Char) : Bool :=
  c != '"' && c != '/'

/-- **A piece of code reads as braces** if it adds just these to whatever follows it. -/
def Reads (s : String) (bs : List Char) : Prop :=
  ∀ rest, braces (s.toList ++ rest) = bs ++ braces rest

namespace Reads

variable {a b : String} {as bs : List Char}

theorem braces (h : Reads a as) : braces a.toList = as := by
  have := h []
  rwa [List.append_nil, braces_nil, List.append_nil] at this

theorem append (ha : Reads a as) (hb : Reads b bs) : Reads (a ++ b) (as ++ bs) := by
  intro rest
  rw [String.toList_append, List.append_assoc, ha, hb, List.append_assoc]

/-- Code without quotes and slashes. -/
theorem code {s : String} (h : s.toList.all isCodeChar = true) :
    Reads s (s.toList.filter isBrace) := by
  have hcode : ∀ c ∈ s.toList, c ≠ '"' ∧ c ≠ '/' := by
    simpa [isCodeChar] using h
  intro rest
  rw [Output.braces, stripLiterals_append hcode, List.filter_append]
  rfl

theorem literal (s : String) : Reads ("\"" ++ escape s ++ "\"") [] := by
  intro rest
  have hlist : ("\"" ++ escape s ++ "\"").toList ++ rest
      = '"' :: (escape s).toList ++ '"' :: rest := by
    simp
  rw [hlist, Output.braces, stripLiterals_literal]
  rfl

/-- A whole line does not change how the next one is read. -/
theorem line (s : String) : Reads (s ++ "\n") (Output.braces s.toList) := by
  intro rest
  rw [String.toList_append, List.append_assoc]
  exact braces_newline s.toList rest

end Reads

/-- Whether a character is code that opens and closes nothing. -/
def isInert (c : Char) : Bool :=
  isCodeChar c && !isBrace c

/-- **Inert code** has neither quotes nor slashes nor braces. -/
def Inert (s : String) : Prop :=
  ∀ c ∈ s.toList, isInert c = true

instance (s : String) : Decidable (Inert s) :=
  decidable_of_iff (s.toList.all isInert = true) List.all_eq_true

namespace Inert

variable {a b : String}

theorem reads (h : Inert a) : Reads a [] := by
  simp only [Inert, isInert, Bool.and_eq_true, Bool.not_eq_true'] at h
  have hcode : a.toList.all isCodeChar = true := List.all_eq_true.2 fun c hc => (h c hc).1
  have hnone : a.toList.filter isBrace = [] := by
    rw [List.filter_eq_nil_iff]
    intro c hc
    simp [(h c hc).2]
  rw [← hnone]
  exact .code hcode

theorem append (ha : Inert a) (hb : Inert b) : Inert (a ++ b) := by
  intro c hc
  rw [String.toList_append] at hc
  rcases List.mem_append.1 hc with hc | hc
  · exact ha c hc
  · exact hb c hc

theorem intercalate {sep : String} (hsep : Inert sep) {parts : List String}
    (h : ∀ p ∈ parts, Inert p) : Inert (sep.intercalate parts) :=
  Text.intercalate_of_append (by decide) Inert.append hsep h

end Inert

/-- Inert code behind a piece adds nothing. -/
theorem Reads.before {a b : String} {as : List Char} (ha : Reads a as) (hb : Inert b) :
    Reads (a ++ b) as := by
  have := ha.append hb.reads
  rwa [List.append_nil] at this

/-- Inert code in front of a piece adds nothing. -/
theorem Reads.after {a b : String} {as : List Char} (ha : Reads a as) (hb : Inert b) :
    Reads (b ++ a) as :=
  hb.reads.append ha

theorem Reads.intercalate {sep : String} (hsep : Inert sep) {parts : List String}
    (h : ∀ p ∈ parts, Reads p []) : Reads (sep.intercalate parts) [] :=
  Text.intercalate_of_append (P := fun s => Reads s []) (Inert.reads (by decide)) Reads.append
    hsep.reads h

/-- A comment has no braces. -/
theorem braces_comment {s : List Char} (h : '\n' ∉ s) : braces ('/' :: '/' :: s) = [] := by
  rw [braces, stripLiterals_comment h, List.filter_nil]

/-! ### Lines -/

/-- **The braces of lines**, one line after the other. -/
def lineBraces (lines : List String) : List Char :=
  lines.flatMap fun line => braces line.toList

theorem lineBraces_append (ls ms : List String) :
    lineBraces (ls ++ ms) = lineBraces ls ++ lineBraces ms :=
  List.flatMap_append

theorem lineBraces_cons (l : String) (ls : List String) :
    lineBraces (l :: ls) = braces l.toList ++ lineBraces ls :=
  List.flatMap_cons

theorem lineBraces_eq_nil {ls : List String} (h : ∀ l ∈ ls, braces l.toList = []) :
    lineBraces ls = [] :=
  List.flatMap_eq_nil_iff.2 h

theorem braces_lines (ls : List String) :
    braces ("\n".intercalate ls).toList = lineBraces ls := by
  have hsep : "\n".toList = ['\n'] := rfl
  rw [String.toList_intercalate, hsep, braces_intercalate, List.flatMap_map]
  rfl

/-- Indenting keeps the braces. -/
theorem lineBraces_indent (ls : List String) : lineBraces (indent ls) = lineBraces ls := by
  rw [indent, lineBraces, List.flatMap_map, lineBraces]
  congr 1
  funext l
  split
  · rfl
  · have hspaces : Inert "    " := by decide
    rw [String.toList_append, hspaces.reads, List.nil_append]

theorem lineBraces_separated (blocks : List (List String)) :
    lineBraces (separated blocks) = blocks.flatMap lineBraces := by
  match blocks with
  | [] => rfl
  | [block] => simp [separated]
  | block :: next :: rest =>
    have hcons : separated (block :: next :: rest) = block ++ "" :: separated (next :: rest) := rfl
    have hempty : braces "".toList = [] := braces_nil
    rw [hcons, lineBraces_append, lineBraces_cons, hempty, List.nil_append,
      lineBraces_separated (next :: rest)]
    rfl

/-- The lines of a declaration's text have the braces of the text. -/
theorem lineBraces_declarationLines (text : String) :
    lineBraces (UnitFrame.declarationLines text) = braces text.toList := by
  have hsplit : lineBraces (UnitFrame.declarationLines text) =
      braces (Text.dropEndWhile (· == '\n') text.toList) := by
    rw [UnitFrame.declarationLines, lineBraces, List.flatMap_map, ← flatMap_braces_splitOnChar]
    simp only [String.toList_ofList]
  -- what is dropped at the end is a run of line ends, without braces
  obtain ⟨tail, htail, hnewlines⟩ := Text.exists_dropEndWhile_append (· == '\n') text.toList
  rw [hsplit]
  conv => rhs; rw [← htail]
  cases tail with
  | nil => rw [List.append_nil]
  | cons c cs =>
    obtain rfl : c = '\n' := by simpa using hnewlines c List.mem_cons_self
    have hcs : Reads (String.ofList cs) [] := Inert.reads fun c hc => by
      rw [String.toList_ofList] at hc
      have hc' : c = '\n' := by simpa using hnewlines c (List.mem_cons_of_mem _ hc)
      rw [hc']
      decide
    have hbraces := hcs.braces
    rw [String.toList_ofList] at hbraces
    rw [braces_newline, hbraces, List.append_nil]

end ClientGen.Output
