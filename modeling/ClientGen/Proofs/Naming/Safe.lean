import ClientGen.Proofs.Naming.Initials

/-!
# What a safe name is

A name is made safe for any candidate and against any reserved words
(`ClientGen.Identifier.safeWith`). The result is **safe** (`ClientGen.Identifier.IsSafe`): letters
and digits after a letter, and none of the reserved words in any letter case. For that the suffix
must not undo its own work: with the suffix `t` and the words `in` and `int` reserved, `in` becomes
`int`. It is enough that no reserved word ends with the suffix (`ClientGen.Identifier.Disarms`).

Then the empty candidate is no special case: it is the name without letters, and the suffix in
front of it is not reserved. So a safe name is the candidate's letters and digits, with the suffix
in front unless they start with a letter, and behind if that is reserved
(`ClientGen.Identifier.safe_eq`). A safe candidate is left alone, and the rest follows from this
(`ClientGen.Identifier.sanitizes_safeWith`).
-/

namespace ClientGen.Identifier

/-- The letters and digits of a candidate, if there is one. -/
def letters (candidate : Option String) : String :=
  String.ofList ((candidate.map kept).getD [])

theorem isAlphanum_letters (candidate : Option String) :
    ∀ c ∈ (letters candidate).toList, c.isAlphanum = true := by
  rw [letters, String.toList_ofList]
  cases candidate with
  | none => exact nofun
  | some text => exact fun c hc => (List.mem_filter.1 hc).2

theorem letters_of_isAlphanum {text : String} (h : ∀ c ∈ text.toList, c.isAlphanum = true) :
    letters (some text) = text := by
  have hkept : kept text = text.toList := List.filter_eq_self.2 h
  rw [letters, Option.map_some, Option.getD_some, hkept, String.ofList_toList]

theorem isReserved_iff {name : String} {reserved : List String} :
    isReserved name reserved = true ↔ ∃ word ∈ reserved, Text.lower name = Text.lower word := by
  simp [isReserved]

theorem IsSafe.isReserved_eq_false {reserved : List String} {name : String}
    (h : IsSafe reserved name) : isReserved name reserved = false := by
  refine Bool.eq_false_iff.2 fun hreserved => ?_
  obtain ⟨word, hword, heq⟩ := isReserved_iff.1 hreserved
  exact h.unreserved word hword heq

/-! ### The suffix -/

namespace Disarms

variable {suffix : String} {reserved : List String} (h : Disarms suffix reserved)

include h

theorem startsWithLetter_fronted (name : String) :
    startsWithLetter (fronted suffix name) = true := by
  rw [fronted]
  split
  · assumption
  · exact startsWithLetter_append h.start name

theorem isAlphanum_fronted {name : String} (hbody : ∀ c ∈ name.toList, c.isAlphanum = true) :
    ∀ c ∈ (fronted suffix name).toList, c.isAlphanum = true := by
  rw [fronted]
  split
  · exact hbody
  · exact isAlphanum_append h.body hbody

end Disarms

/-! ### Safe names -/

variable {suffix : String} {reserved : List String}

/-- **A safe name, without cases for the candidate**: its letters and digits, with the suffix in
front unless they start with a letter, and behind if the result is reserved. -/
theorem safe_eq (h : Disarms suffix reserved) (candidate : Option String) :
    safe candidate suffix reserved =
      if isReserved (fronted suffix (letters candidate)) reserved then
        fronted suffix (letters candidate) ++ suffix
      else fronted suffix (letters candidate) := by
  rw [safe, letters]
  cases (candidate.map kept).getD [] with
  | nil =>
    have hsuffix : fronted suffix (String.ofList []) = suffix := by
      simp [fronted, startsWithLetter]
    rw [hsuffix, h.isSafe.isReserved_eq_false]
    rfl
  | cons c cs =>
    have hfirst : startsWithLetter (String.ofList (c :: cs)) = isFirstChar c := by
      rw [startsWithLetter, String.toList_ofList]
      rfl
    rw [fronted, hfirst]

theorem isSafe_safe (h : Disarms suffix reserved) (candidate : Option String) :
    IsSafe reserved (safe candidate suffix reserved) := by
  have hstart := h.startsWithLetter_fronted (letters candidate)
  have hbody := h.isAlphanum_fronted (isAlphanum_letters candidate)
  rw [safe_eq h]
  split
  · exact h.append hstart hbody
  · rename_i hfree
    exact ⟨hstart, hbody, fun word hword heq => hfree (isReserved_iff.2 ⟨word, hword, heq⟩)⟩

/-- A safe candidate is left alone. -/
theorem safe_of_isSafe (h : Disarms suffix reserved) {name : String}
    (hname : IsSafe reserved name) : safe (some name) suffix reserved = name := by
  have hself : fronted suffix (letters (some name)) = name := by
    rw [letters_of_isAlphanum hname.body, fronted, if_pos hname.start]
  rw [safe_eq h, hself, hname.isReserved_eq_false]
  rfl

/-- The suffix is added at most once in front and at most once behind. -/
theorem exists_parts_safe (h : Disarms suffix reserved) (candidate : Option String) :
    ∃ front ∈ ["", suffix], ∃ back ∈ ["", suffix],
      safe candidate suffix reserved = front ++ letters candidate ++ back := by
  obtain ⟨front, hmem, hfront⟩ : ∃ front ∈ ["", suffix],
      fronted suffix (letters candidate) = front ++ letters candidate := by
    rw [fronted]
    split
    · exact ⟨"", by simp, by rw [String.empty_append]⟩
    · exact ⟨suffix, by simp, rfl⟩
  rw [safe_eq h, hfront]
  refine ⟨front, hmem, ?_⟩
  split
  · exact ⟨suffix, by simp, rfl⟩
  · exact ⟨"", by simp, by rw [String.append_empty]⟩

/-- A candidate that may be missing, as a value. -/
def ofCandidate (candidate : Option String) : Json :=
  (candidate.map .str).getD .null

theorem safeWith_ofCandidate (candidate : Option String) (suffix : String)
    (reserved : List String) : safeWith (ofCandidate candidate) (.str suffix) (reserved.map .str) =
      .ok (.str (safe candidate suffix reserved)) := by
  cases candidate with
  | none => rfl
  | some text => exact safeWith_texts text suffix reserved

/-- **A name sanitizes a candidate**: it is safe, is left alone when it is made safe again, is the
candidate itself if that is safe, and has its letters and digits in order, with the suffix at most
once in front and at most once behind. -/
structure Sanitizes (suffix : String) (reserved : List String) (candidate : Option String)
    (name : String) : Prop where
  safe : IsSafe reserved name
  stable : safeWith (.str name) (.str suffix) (reserved.map .str) = .ok (.str name)
  same : ∀ text, candidate = some text → IsSafe reserved text → name = text
  parts : ∃ front ∈ ["", suffix], ∃ back ∈ ["", suffix], name = front ++ letters candidate ++ back

/-- **Every candidate is sanitized**, if the suffix disarms the reserved words. -/
theorem sanitizes_safeWith (h : Disarms suffix reserved) (candidate : Option String) :
    ∃ name, safeWith (ofCandidate candidate) (.str suffix) (reserved.map .str) = .ok (.str name) ∧
      Sanitizes suffix reserved candidate name := by
  have hsafe := isSafe_safe h candidate
  refine ⟨_, safeWith_ofCandidate candidate suffix reserved, hsafe, ?_, ?_,
    exists_parts_safe h candidate⟩
  · rw [safeWith_texts, safe_of_isSafe h hsafe]
  · rintro text rfl htext
    exact safe_of_isSafe h htext

/-- A candidate that starts with a digit, and the suffix in front of it makes it a reserved word. -/
theorem sanitizes_first : Disarms "Value" ["class", "VALUE1ST", "1st", "ß"] ∧
    ∃ name, safeWith (ofCandidate (some "1-st é")) (.str "Value")
        (["class", "VALUE1ST", "1st", "ß"].map .str) = .ok (.str name) ∧
      Sanitizes "Value" ["class", "VALUE1ST", "1st", "ß"] (some "1-st é") name := by
  have h : Disarms "Value" ["class", "VALUE1ST", "1st", "ß"] :=
    ⟨by decide, List.all_eq_true.1 (by decide), by decide +kernel⟩
  exact ⟨h, sanitizes_safeWith h (some "1-st é")⟩

end ClientGen.Identifier
