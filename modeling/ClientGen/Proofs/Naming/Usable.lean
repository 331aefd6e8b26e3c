import ClientGen.Proofs.Naming.Words

/-!
# Names that can be used

A name is **safe** from reserved words (`ClientGen.Identifier.IsSafe`) if it starts with an ASCII
letter, has ASCII letters and digits only, and is none of the words in any letter case. A suffix
that no reserved word ends with **disarms** the words (`ClientGen.Identifier.Disarms`): a name with
the suffix behind it is never one of them.

Names that are made safe or kept free can be used (`ClientGen.IsUsable`): they are safe from the
keywords, if the suffix disarms these (`ClientGen.IsDisarming`). The condition on the suffix cannot
be dropped: with the suffix `t` the name `in` becomes the keyword `int`.
-/

namespace ClientGen

open Identifier

/-- The letters and digits of a text in lower case. -/
def lowered (s : String) : List Char :=
  s.toList.map Char.toLower

theorem lowered_append (s t : String) : lowered (s ++ t) = lowered s ++ lowered t := by
  simp [lowered]

/-- Whether a text starts with a letter. -/
def startsWithLetter (s : String) : Bool :=
  s.toList.head?.any Char.isAlpha

theorem startsWithLetter_append {s : String} (h : startsWithLetter s = true) (t : String) :
    startsWithLetter (s ++ t) = true := by
  rw [startsWithLetter] at h ⊢
  rw [String.toList_append]
  cases hs : s.toList with
  | nil =>
    rw [hs] at h
    cases h
  | cons c cs =>
    rw [hs] at h
    exact h

theorem isAlphanum_append {s t : String} (hs : ∀ c ∈ s.toList, c.isAlphanum = true)
    (ht : ∀ c ∈ t.toList, c.isAlphanum = true) : ∀ c ∈ (s ++ t).toList, c.isAlphanum = true := by
  rw [String.toList_append]
  exact List.forall_mem_append.2 ⟨hs, ht⟩

/-! ### Lower case -/

theorem isAlphanum_of_isAlpha {c : Char} (hc : c.isAlpha = true) : c.isAlphanum = true := by
  rw [Char.isAlphanum, hc, Bool.true_or]

theorem isAlpha_of_isLower {c : Char} (hc : c.isLower = true) : c.isAlpha = true :=
  Bool.or_eq_true_iff.2 (.inr hc)

theorem toNat_lt_of_isAlphanum {c : Char} (h : c.isAlphanum = true) : c.toNat < 128 := by
  change (decide ('A'.val ≤ c.val ∧ c.val ≤ 'Z'.val) ||
    (decide ('a'.val ≤ c.val) && decide (c.val ≤ 'z'.val)) ||
    (decide ('0'.val ≤ c.val) && decide (c.val ≤ '9'.val))) = true at h
  simp only [Bool.or_eq_true, Bool.and_eq_true, decide_eq_true_eq, UInt32.le_iff_toNat_le] at h
  change ((65 ≤ c.toNat ∧ c.toNat ≤ 90) ∨ (97 ≤ c.toNat ∧ c.toNat ≤ 122)) ∨
    (48 ≤ c.toNat ∧ c.toNat ≤ 57) at h
  omega

/-- Among letters and digits nothing depends on the neighbours. -/
theorem lowerFrom_of_isAlphanum {cs : List Char} (h : ∀ c ∈ cs, c.isAlphanum = true)
    (before : List Char) : Text.lowerFrom before cs = cs.map Char.toLower := by
  induction cs generalizing before with
  | nil => rfl
  | cons c cs ih =>
    obtain ⟨hc, hcs⟩ := List.forall_mem_cons.1 h
    have hascii := toNat_lt_of_isAlphanum hc
    have hsigma : c ≠ 'Σ' := by
      rintro rfl
      exact absurd hascii (by decide)
    rw [Text.lowerFrom, if_neg hsigma, Text.lowerChar, if_pos hascii, ih hcs]
    rfl

theorem toList_lower {s : String} (h : ∀ c ∈ s.toList, c.isAlphanum = true) :
    (Text.lower s).toList = lowered s := by
  rw [Text.lower, String.toList_ofList, lowerFrom_of_isAlphanum h, lowered]

theorem isLower_of_mem_keywords : ∀ k ∈ keywords, ∀ c ∈ k.toList, c.isLower = true := by
  have hall : ∀ k ∈ keywords, k.toList.all Char.isLower = true := by decide +kernel
  exact fun k hk => List.all_eq_true.1 (hall k hk)

/-! ### Safe names and disarming suffixes -/

namespace Identifier

/-- **A safe name**: it starts with a letter, has letters and digits only, and is no reserved word
in any letter case. -/
structure IsSafe (reserved : List String) (name : String) : Prop where
  start : startsWithLetter name = true
  body : ∀ c ∈ name.toList, c.isAlphanum = true
  unreserved : ∀ word ∈ reserved, Text.lower name ≠ Text.lower word

instance {reserved : List String} : DecidablePred (IsSafe reserved) := fun name =>
  decidable_of_iff (startsWithLetter name = true ∧ name.toList.all Char.isAlphanum = true ∧
      ∀ word ∈ reserved, Text.lower name ≠ Text.lower word)
    ⟨fun h => ⟨h.1, List.all_eq_true.1 h.2.1, h.2.2⟩,
      fun h => ⟨h.start, List.all_eq_true.2 h.body, h.unreserved⟩⟩

/-- **A suffix disarms reserved words**: it has letters and digits after a letter, and none of the
words ends with it in any letter case. -/
structure Disarms (suffix : String) (reserved : List String) : Prop where
  start : startsWithLetter suffix = true
  body : ∀ c ∈ suffix.toList, c.isAlphanum = true
  noEnding : ∀ word ∈ reserved, ¬(Text.lower suffix).toList <:+ (Text.lower word).toList

instance {suffix : String} {reserved : List String} : Decidable (Disarms suffix reserved) :=
  decidable_of_iff (startsWithLetter suffix = true ∧ suffix.toList.all Char.isAlphanum = true ∧
      ∀ word ∈ reserved, ¬(Text.lower suffix).toList <:+ (Text.lower word).toList)
    ⟨fun h => ⟨h.1, List.all_eq_true.1 h.2.1, h.2.2⟩,
      fun h => ⟨h.start, List.all_eq_true.2 h.body, h.noEnding⟩⟩

namespace Disarms

variable {suffix : String} {reserved : List String} (h : Disarms suffix reserved)

include h

/-- Letters and digits after a letter are safe with the suffix behind them. -/
theorem append {name : String} (hstart : startsWithLetter name = true)
    (hbody : ∀ c ∈ name.toList, c.isAlphanum = true) : IsSafe reserved (name ++ suffix) where
  start := startsWithLetter_append hstart suffix
  body := isAlphanum_append hbody h.body
  unreserved word hword heq := by
    refine h.noEnding word hword ⟨lowered name, ?_⟩
    rw [← heq, toList_lower (isAlphanum_append hbody h.body), lowered_append, toList_lower h.body]

theorem isSafe : IsSafe reserved suffix where
  start := h.start
  body := h.body
  unreserved word hword heq := h.noEnding word hword (heq ▸ List.suffix_rfl)

end Disarms

end Identifier

/-- **A disarming suffix**: it disarms the keywords. -/
abbrev IsDisarming (s : String) : Prop :=
  Disarms s keywords

example : IsDisarming "Value" := by decide +kernel

/-- A name that can be used: a text that is safe from the keywords. -/
def IsUsable (v : Json) : Prop :=
  ∃ s : String, v = .str s ∧ IsSafe keywords s

instance : DecidablePred IsUsable :=
  Json.decidableText fun _ => inferInstance

theorem IsUsable.sameKey_self {v : Json} (h : IsUsable v) : v.sameKey v = true := by
  obtain ⟨s, rfl, -⟩ := h
  simp

/-! ### Safe and free names -/

namespace Identifier

/-- A name that is among none of some words is none of them in any letter case. -/
theorem ne_of_isAmong {name : String} {words : List Json} (h : isAmong name words = .ok false) :
    ∀ word : String, .str word ∈ words → name ≠ Text.lower word := by
  induction words with
  | nil => exact nofun
  | cons v rest ih =>
    intro word hword
    cases v with
    | str other =>
      rw [isAmong] at h
      split at h
      · cases h
      · rename_i hne
        rcases List.mem_cons.1 hword with heq | hword
        · rw [Json.str.inj heq]
          simpa using hne
        · exact ih h word hword
    | _ => cases h

/-- **A name spares some words**: it is one of them only if that word ends with the suffix. -/
def Spares (suffix : Json) (words : List Json) (name : Json) : Prop :=
  ∀ word : String, .str word ∈ words → name = .str word →
    ∃ back : String, suffix = .str back ∧ back.toList <:+ word.toList

theorem Spares.mono {suffix name : Json} {words words' : List Json}
    (h : Spares suffix words name) (hsubset : words' ⊆ words) : Spares suffix words' name :=
  fun word hword => h word (hsubset hword)

theorem spares_spared {text : String} {suffix name : Json} {reserved : List Json}
    (h : spared text suffix reserved = .ok name) : Spares suffix reserved name := by
  obtain ⟨among, hamong, h⟩ := Outcome.bind_eq_ok.1 h
  rintro word hword rfl
  cases among with
  | true =>
    obtain ⟨back, hback, h⟩ := Outcome.bind_eq_ok.1 h
    cases suffix with
    | str s =>
      cases hback
      cases h
      exact ⟨back, rfl, by simp⟩
    | _ => cases hback
  | false =>
    cases h
    exact absurd rfl (ne_of_isAmong hamong text hword)

/-- **A safe name spares the reserved words.** -/
theorem spares_safeWith {candidate : String} {suffix name : Json} {reserved : List Json}
    (h : safeWith candidate suffix reserved = .ok name) : Spares suffix reserved name := by
  obtain ⟨chars, hchars, h⟩ := Outcome.bind_eq_ok.1 h
  cases hchars
  split at h
  · cases h
    -- nothing was kept, and the suffix stands for the name
    rintro word - rfl
    exact ⟨word, rfl, List.suffix_rfl⟩
  · dsimp only at h
    split at h
    · exact spares_spared h
    · obtain ⟨front, -, h⟩ := Outcome.bind_eq_ok.1 h
      exact spares_spared h

variable {suffix : String} (hs : IsDisarming suffix)

include hs

theorem isUsable_spared {text : String} (ht : startsWithLetter text = true)
    (hbody : ∀ c ∈ text.toList, c.isAlphanum = true) {reserved : List Json}
    (hk : keywordValues ⊆ reserved) {name : Json}
    (h : spared text (.str suffix) reserved = .ok name) : IsUsable name := by
  obtain ⟨among, hamong, h⟩ := Outcome.bind_eq_ok.1 h
  cases among with
  | true =>
    cases h
    exact ⟨_, rfl, hs.append ht hbody⟩
  | false =>
    cases h
    refine ⟨_, rfl, ht, hbody, fun k hmem heq => ?_⟩
    -- a keyword in another letter case would have been among the reserved words
    exact ne_of_isAmong hamong k (hk (List.mem_map_of_mem hmem)) heq

theorem isUsable_safeWith {candidate : String} {reserved : List Json}
    (hk : keywordValues ⊆ reserved) {name : Json}
    (h : safeWith candidate (.str suffix) reserved = .ok name) : IsUsable name := by
  obtain ⟨chars, hchars, h⟩ := Outcome.bind_eq_ok.1 h
  cases hchars
  split at h
  · cases h
    exact ⟨suffix, rfl, hs.isSafe⟩
  · rename_i c cs hkept
    have hbody : ∀ d ∈ (String.ofList (c :: cs)).toList, d.isAlphanum = true := by
      intro d hd
      rw [String.toList_ofList, ← hkept] at hd
      exact (List.mem_filter.1 hd).2
    dsimp only at h
    split at h
    · rename_i hfirst
      refine isUsable_spared hs ?_ hbody hk h
      rw [startsWithLetter, String.toList_ofList]
      exact hfirst
    · obtain ⟨u, hu, h⟩ := Outcome.bind_eq_ok.1 h
      cases hu
      -- the suffix stands in front, and it starts with a letter
      exact isUsable_spared hs (startsWithLetter_append hs.start _)
        (isAlphanum_append hs.body hbody) hk h

theorem isUsable_freshWithin {used : List Json} {fuel : Nat} {name free : Json}
    (hn : IsUsable name) (h : freshWithin (.str suffix) used fuel name = .ok free) :
    IsUsable free := by
  induction fuel generalizing name with
  | zero => cases h
  | succ fuel ih =>
    obtain ⟨key, -, h⟩ := Outcome.bind_eq_ok.1 h
    split at h
    · obtain ⟨longer, hlonger, h⟩ := Outcome.bind_eq_ok.1 h
      obtain ⟨text, rfl, htext⟩ := hn
      cases hlonger
      exact ih ⟨_, rfl, hs.append htext.start htext.body⟩ h
    · cases h
      exact hn

/-- A name that was made free is not in use. -/
theorem notMem_of_freshWithin {used : List Json} {fuel : Nat} {name free : Json}
    (hn : IsUsable name) (h : freshWithin (.str suffix) used fuel name = .ok free) :
    free ∉ used := by
  have hself := (isUsable_freshWithin hs hn h).sameKey_self
  intro hmem
  rw [sameKey_of_freshWithin h free hmem] at hself
  cases hself

end Identifier

namespace Naming

/-- A chosen name is a name that can be used, made free. -/
theorem exists_of_choose {suffix : String} (hs : IsDisarming suffix) {used : List Json}
    {candidate : String} {name : Json} (h : choose (.str suffix) used candidate = .ok name) :
    ∃ start, IsUsable start ∧ Identifier.fresh (.str suffix) used start = .ok name := by
  obtain ⟨start, hstart, h⟩ := Outcome.bind_eq_ok.1 h
  refine ⟨start, Identifier.isUsable_safeWith hs ?_ hstart, h⟩
  intro word hword
  exact Identifier.mem_asSet.2 (List.mem_append_left used hword)

theorem isUsable_choose {suffix : String} (hs : IsDisarming suffix) {used : List Json}
    {candidate : String} {name : Json} (h : choose (.str suffix) used candidate = .ok name) :
    IsUsable name := by
  obtain ⟨start, hstart, h⟩ := exists_of_choose hs h
  exact Identifier.isUsable_freshWithin hs hstart h

end Naming

end ClientGen
