import ClientGen.CSharp.Literal
import ClientGen.Output.Check
import Mathlib.Tactic.SplitIfs

/-!
# Taking literals and comments out of a text

Four laws say what is left of a text when its text literals and line comments are taken
out, and together they settle every text that is put together from code, literals and
comments:

* it is done **line by line** (`ClientGen.Output.stripLiterals_newline`): neither a literal
  nor a comment goes on to the next line;
* **code** without quotes and slashes stays as it is
  (`ClientGen.Output.stripLiterals_append`);
* a **literal**, as it is written for a text, goes away as a whole
  (`ClientGen.Output.stripLiterals_literal`): what the text has in it can neither end the
  literal early nor carry it on;
* a **comment** goes away up to the end of its line
  (`ClientGen.Output.stripLiterals_comment`).

So the check of braces sees no character of a literal behind code, whatever follows
(`ClientGen.Output.stripLiterals_lines_literals`).
-/

namespace ClientGen.Output

open CSharp

/-! ### One character at a time -/

section Steps

variable {c d : Char} {cs ds rest : List Char}

@[simp] theorem afterLiteral?_nil : afterLiteral? [] = none := rfl

@[simp] theorem afterLiteral?_quote : afterLiteral? ('"' :: cs) = some cs := by
  unfold afterLiteral?
  rw [if_pos rfl]

@[simp] theorem afterLiteral?_lineEnd : afterLiteral? ('\n' :: cs) = none := by
  unfold afterLiteral?
  rw [if_neg (by decide), if_pos rfl]

@[simp] theorem afterLiteral?_backslash_nil : afterLiteral? ['\\'] = none := by
  unfold afterLiteral?
  rw [if_neg (by decide), if_neg (by decide), if_pos rfl]

@[simp] theorem afterLiteral?_backslash :
    afterLiteral? ('\\' :: d :: ds) = if d = '\n' then none else afterLiteral? ds := by
  conv => lhs; unfold afterLiteral?
  rw [if_neg (by decide), if_neg (by decide), if_pos rfl]

theorem afterLiteral?_other (hq : c ≠ '"') (hn : c ≠ '\n') (hb : c ≠ '\\') :
    afterLiteral? (c :: cs) = afterLiteral? cs := by
  conv => lhs; unfold afterLiteral?
  rw [if_neg hq, if_neg hn, if_neg hb]

@[simp] theorem stripLiterals_nil : stripLiterals [] = [] := by
  rw [stripLiterals]

theorem stripLiterals_closed (h : afterLiteral? cs = some rest) :
    stripLiterals ('"' :: cs) = stripLiterals rest := by
  rw [stripLiterals, if_pos rfl]
  split
  · rename_i rest' h'
    rw [h] at h'
    cases h'
    rfl
  · rename_i h'
    rw [h] at h'
    cases h'

theorem stripLiterals_open (h : afterLiteral? cs = none) :
    stripLiterals ('"' :: cs) = '"' :: stripLiterals cs := by
  rw [stripLiterals, if_pos rfl]
  split
  · rename_i rest' h'
    rw [h] at h'
    cases h'
  · rfl

theorem stripLiterals_slashes :
    stripLiterals ('/' :: '/' :: cs) = stripLiterals (cs.dropWhile (· != '\n')) := by
  rw [stripLiterals, if_neg (by decide), if_pos ⟨rfl, rfl⟩]
  rfl

theorem stripLiterals_other (hq : c ≠ '"') (hs : ¬(c = '/' ∧ cs.head? = some '/')) :
    stripLiterals (c :: cs) = c :: stripLiterals cs := by
  rw [stripLiterals, if_neg hq, if_neg hs]

end Steps

/-! ### Lines -/

theorem afterLiteral?_newline (a b : List Char) :
    afterLiteral? (a ++ '\n' :: b) = (afterLiteral? a).map (· ++ '\n' :: b) := by
  fun_induction afterLiteral? a with
  | case6 d ds hd _ _ ih =>
    rw [List.cons_append, List.cons_append, afterLiteral?_backslash, if_neg hd, ih]
  | case7 c cs hq hn hb ih => rw [List.cons_append, afterLiteral?_other hq hn hb, ih]
  | _ => simp

/-- The rest of a line is dropped in the line alone. -/
theorem dropWhile_newline (a b : List Char) :
    (a ++ '\n' :: b).dropWhile (· != '\n') = a.dropWhile (· != '\n') ++ '\n' :: b := by
  rw [List.dropWhile_append]
  split
  · rename_i h
    rw [List.isEmpty_iff.1 h]
    rfl
  · rfl

theorem head?_newline (a b : List Char) :
    (a ++ '\n' :: b).head? = some '/' ↔ a.head? = some '/' := by
  cases a with
  | nil => simp
  | cons c cs => rfl

/-- **Literals and comments are taken out line by line.** -/
theorem stripLiterals_newline (a b : List Char) :
    stripLiterals (a ++ '\n' :: b) = stripLiterals a ++ '\n' :: stripLiterals b := by
  -- on the recursion of `stripLiterals`: a literal that is closed in the line is closed at the
  -- same place in the longer text, and one that is not closed there is never closed
  fun_induction stripLiterals a with
  | case1 => exact stripLiterals_other (by decide) (by simp)
  | case2 cs rest h ih =>
    have hline : afterLiteral? (cs ++ '\n' :: b) = some (rest ++ '\n' :: b) := by
      rw [afterLiteral?_newline, h, Option.map_some]
    rw [List.cons_append, stripLiterals_closed hline, ih]
  | case3 cs h ih =>
    have hline : afterLiteral? (cs ++ '\n' :: b) = none := by
      rw [afterLiteral?_newline, h, Option.map_none]
    rw [List.cons_append, stripLiterals_open hline, ih, List.cons_append]
  | case4 c cs hq hs ih =>
    have hline : c = '/' ∧ (cs ++ '\n' :: b).head? = some '/' :=
      ⟨hs.1, (head?_newline cs b).2 hs.2⟩
    rw [List.cons_append, stripLiterals, if_neg hq, if_pos hline, dropWhile_newline, ih]
  | case5 c cs hq hs ih =>
    have hline : ¬(c = '/' ∧ (cs ++ '\n' :: b).head? = some '/') := fun h =>
      hs ⟨h.1, (head?_newline cs b).1 h.2⟩
    rw [List.cons_append, stripLiterals_other hq hline, ih, List.cons_append]

/-! ### Code and comments -/

/-- **Code stays as it is**, if it has no quote and no two slashes in a row, also across its
end. -/
theorem stripLiterals_code {code rest : List Char} (hq : '"' ∉ code)
    (hs : ¬['/', '/'] <:+: code) (hend : code.getLast? = some '/' → rest.head? ≠ some '/') :
    stripLiterals (code ++ rest) = code ++ stripLiterals rest := by
  induction code with
  | nil => rfl
  | cons c cs ih =>
    rw [List.mem_cons, not_or] at hq
    obtain ⟨hc, hcs⟩ := hq
    have hslashes : ¬(c = '/' ∧ (cs ++ rest).head? = some '/') := by
      rintro ⟨rfl, hhead⟩
      rcases cs with _ | ⟨d, ds⟩
      · exact hend rfl hhead
      · obtain rfl : d = '/' := Option.some.inj hhead
        exact hs ⟨[], ds, rfl⟩
    have htail : cs.getLast? = some '/' → rest.head? ≠ some '/' := by
      intro hlast
      exact hend (by rw [List.getLast?_cons, hlast]; rfl)
    rw [List.cons_append, stripLiterals_other (Ne.symm hc) hslashes,
      ih hcs (fun h => hs (h.trans (List.suffix_cons c cs).isInfix)) htail, List.cons_append]

theorem stripLiterals_append {code : List Char} (h : ∀ c ∈ code, c ≠ '"' ∧ c ≠ '/')
    (rest : List Char) : stripLiterals (code ++ rest) = code ++ stripLiterals rest := by
  refine stripLiterals_code (fun hmem => (h _ hmem).1 rfl) (fun hs => ?_) (fun hlast => ?_)
  · exact absurd rfl (h '/' (hs.subset List.mem_cons_self)).2
  · exact absurd rfl (h '/' (List.mem_of_getLast? hlast)).2

/-- **A comment goes away.** -/
theorem stripLiterals_comment {text : List Char} (h : '\n' ∉ text) :
    stripLiterals ('/' :: '/' :: text) = [] := by
  have hdrop : text.dropWhile (· != '\n') = [] := by
    have hne : ∀ c ∈ text, (c != '\n') = true := fun c hc => by
      simpa using fun he : c = '\n' => h (he ▸ hc)
    rw [← List.append_nil text, List.dropWhile_append_of_pos hne, List.dropWhile_nil]
  rw [stripLiterals_slashes, hdrop, stripLiterals_nil]

/-! ### Literals -/

/-- A digit is neither a quote nor a backslash nor a line end. -/
theorem digitChar_inside : ∀ n < 16,
    n.digitChar ≠ '"' ∧ n.digitChar ≠ '\n' ∧ n.digitChar ≠ '\\' := by
  decide

theorem toDigits_inside (n : Nat) :
    ∀ c ∈ Nat.toDigits 16 n, c ≠ '"' ∧ c ≠ '\n' ∧ c ≠ '\\' := by
  induction n using Nat.strongRecOn with
  | ind n ih =>
    rw [Nat.toDigits_eq_if (by decide)]
    split
    · rename_i h
      simp [digitChar_inside n h]
    · rename_i h
      intro c hc
      rcases List.mem_append.1 hc with hc | hc
      · exact ih (n / 16) (by omega) c hc
      · rw [List.mem_singleton.1 hc]
        exact digitChar_inside _ (Nat.mod_lt n (by decide))

theorem afterLiteral?_inside {code rest : List Char}
    (h : ∀ c ∈ code, c ≠ '"' ∧ c ≠ '\n' ∧ c ≠ '\\') :
    afterLiteral? (code ++ rest) = afterLiteral? rest := by
  induction code with
  | nil => rfl
  | cons c cs ih =>
    obtain ⟨hq, hn, hb⟩ := h c List.mem_cons_self
    rw [List.cons_append, afterLiteral?_other hq hn hb,
      ih fun c' hc' => h c' (List.mem_cons_of_mem c hc')]

theorem hexDigits_inside (width n : Nat) :
    ∀ c ∈ Text.hexDigits width n, c ≠ '"' ∧ c ≠ '\n' ∧ c ≠ '\\' := by
  intro c hc
  rcases List.mem_append.1 hc with hc | hc
  · rw [List.eq_of_mem_replicate hc]
    decide
  · exact toDigits_inside n c hc

/-- A written character does not end a literal. -/
theorem afterLiteral?_escapeChar (c : Char) (rest : List Char) :
    afterLiteral? (escapeChar c ++ rest) = afterLiteral? rest := by
  unfold escapeChar
  split_ifs with hb hq h0 hn hr ht hcontrol
  · simp
  · simp
  · simp
  · simp
  · simp
  · simp
  · rw [unicodeEscape, List.cons_append, List.cons_append, afterLiteral?_backslash,
      if_neg (by decide), afterLiteral?_inside (hexDigits_inside 4 c.toNat)]
  · exact afterLiteral?_other hq hn hb

theorem afterLiteral?_escape (s : String) (rest : List Char) :
    afterLiteral? ((escape s).toList ++ '"' :: rest) = some rest := by
  rw [escape, String.toList_ofList]
  induction s.toList with
  | nil => exact afterLiteral?_quote
  | cons c cs ih => rw [List.flatMap_cons, List.append_assoc, afterLiteral?_escapeChar, ih]

/-- **The literal of a text goes away as a whole.** -/
theorem stripLiterals_literal (s : String) (rest : List Char) :
    stripLiterals ('"' :: (escape s).toList ++ '"' :: rest) = stripLiterals rest :=
  stripLiterals_closed (afterLiteral?_escape s rest)

/-! ### The check of braces -/

/-- A text is refused for its braces exactly if it passes the checks before and the braces outside
of literals and comments differ in number. -/
theorem fault?_eq_unbalanced_iff {content : String} {named : Bool} {opening closing : Nat} :
    fault? content named = some (.unbalancedBraces opening closing) ↔
      (named = true → Text.contains content "namespace " = true) ∧
      Text.contains content "class " = true ∧ opening ≠ closing ∧
      opening = (stripLiterals content.toList).count '\x7b' ∧
      closing = (stripLiterals content.toList).count '\x7d' := by
  unfold fault?
  dsimp only
  split_ifs with hnamed htypes hbraces husing
  · simp only [Bool.and_eq_true, Bool.not_eq_true'] at hnamed
    simp [hnamed]
  · simp only [Bool.not_eq_true'] at htypes
    simp [htypes]
  · simp only [Option.some.injEq, Cause.unbalancedBraces.injEq]
    constructor
    · rintro ⟨rfl, rfl⟩
      exact ⟨by simpa using hnamed, by simpa using htypes, hbraces, rfl, rfl⟩
    · rintro ⟨-, -, -, rfl, rfl⟩
      exact ⟨rfl, rfl⟩
  all_goals
    constructor
    · intro h
      cases h
    · rintro ⟨-, -, hne, rfl, rfl⟩
      exact absurd hne hbraces

/-- **Literals and comments are taken out line by line, and literals exactly.** Neither goes on to
the next line. The literal of a text behind code is taken out as if it were not there, whatever the
text and whatever follows, so that no character of it is seen by the check of braces. -/
theorem stripLiterals_lines_literals :
    (∀ a b, stripLiterals (a ++ '\n' :: b) = stripLiterals a ++ '\n' :: stripLiterals b) ∧
    ∀ (p : List Char) (v : String) (q : List Char), '"' ∉ p → ¬['/', '/'] <:+: p →
      p.getLast? ≠ some '/' →
      stripLiterals (p ++ '"' :: (escape v).toList ++ '"' :: q) = p ++ stripLiterals q ∧
      stripLiterals (p ++ q) = p ++ stripLiterals q ∧
      ∀ (content : String) (named : Bool) (opening closing : Nat),
        content.toList = p ++ '"' :: (escape v).toList ++ '"' :: q →
        (fault? content named = some (.unbalancedBraces opening closing) ↔
          (named = true → Text.contains content "namespace " = true) ∧
          Text.contains content "class " = true ∧ opening ≠ closing ∧
          opening = p.count '\x7b' + (stripLiterals q).count '\x7b' ∧
          closing = p.count '\x7d' + (stripLiterals q).count '\x7d') := by
  refine ⟨stripLiterals_newline, fun p v q hq hs hend => ?_⟩
  have hcode (rest : List Char) : stripLiterals (p ++ rest) = p ++ stripLiterals rest :=
    stripLiterals_code hq hs fun hlast => absurd hlast hend
  have hliteral : stripLiterals (p ++ '"' :: (escape v).toList ++ '"' :: q) =
      p ++ stripLiterals q := by
    rw [List.append_assoc, hcode, stripLiterals_literal]
  refine ⟨hliteral, hcode q, fun content named opening closing hcontent => ?_⟩
  rw [fault?_eq_unbalanced_iff, hcontent, hliteral, List.count_append, List.count_append]

/-- A literal with slashes, a brace, a quote and a backslash at its end, behind code with a single
slash, and in front of a quote that is not closed on its line. -/
theorem stripLiterals_hard :
    let p := ['a', '/', 'b', '\x7b']
    let q := ['"', '\n', '\x7d', '/', '/', '\x7d']
    ('"' ∉ p ∧ ¬['/', '/'] <:+: p ∧ p.getLast? ≠ some '/') ∧
      stripLiterals (p ++ '"' :: (escape "//\x7d\"\\").toList ++ '"' :: q) = p ++ stripLiterals q ∧
      stripLiterals (p ++ q) = p ++ stripLiterals q := by
  have h : '"' ∉ ['a', '/', 'b', '\x7b'] ∧ ¬['/', '/'] <:+: ['a', '/', 'b', '\x7b'] ∧
      ['a', '/', 'b', '\x7b'].getLast? ≠ some '/' := by decide
  obtain ⟨hliteral, hcode, -⟩ := stripLiterals_lines_literals.2 _ "//\x7d\"\\"
    ['"', '\n', '\x7d', '/', '/', '\x7d'] h.1 h.2.1 h.2.2
  exact ⟨h, hliteral, hcode⟩

end ClientGen.Output
