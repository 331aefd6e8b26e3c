import Mathlib.Data.List.Forall2
import ClientGen.Proofs.Naming.Initials

/-!
# Joined words, character by character

The words of a name are found by their letter case, capitalised and joined
(`ClientGen.Identifier.pascal`). What comes out can be told without the words, one character at a
time and with a look at the one before it (`ClientGen.Identifier.cased`): letters and digits stay,
in order, and a lower-case letter that comes first or after anything but a letter becomes a capital.

A lower-case letter that is left stands after a letter, and it still does in the result. So joining
the words of joined words changes nothing (`ClientGen.Identifier.pascal_casing`).
-/

namespace ClientGen.Identifier

/-! ### The rule for one character -/

/-- The characters of a text, each with the one before it. -/
def withBefore (before : Option Char) (cs : List Char) : List (Option Char × Char) :=
  (before :: cs.map some).zip cs

/-- A character after another: a lower-case letter that no letter precedes becomes a capital. -/
def capital (p : Option Char × Char) : Char :=
  if p.2.isLower && !p.1.any Char.isAlpha then p.2.toUpper else p.2

/-- **The letters and digits of a text**, those that start a word as capitals. -/
def cased (before : Option Char) (cs : List Char) : List Char :=
  ((withBefore before cs).filter fun p => p.2.isAlphanum).map capital

variable {before : Option Char} {c : Char} {cs : List Char}

theorem cased_cons_of_isAlphanum (hc : c.isAlphanum = true) :
    cased before (c :: cs) = capital (before, c) :: cased (some c) cs := by
  change List.map capital (List.filter _ ((before, c) :: withBefore (some c) cs)) = _
  rw [List.filter_cons_of_pos (by exact hc), List.map_cons, ← cased]

theorem cased_cons_of_not_isAlphanum (hc : ¬c.isAlphanum = true) :
    cased before (c :: cs) = cased (some c) cs := by
  change List.map capital (List.filter _ ((before, c) :: withBefore (some c) cs)) = _
  rw [List.filter_cons_of_neg (by exact hc), ← cased]

theorem toUpper_of_not_isLower (hc : ¬c.isLower = true) : c.toUpper = c := by
  refine dif_neg fun h => hc ?_
  exact (Bool.and_eq_true _ _).mpr ⟨decide_eq_true h.1, decide_eq_true h.2⟩

/-- Without a letter before it, a character gets its upper-case form. -/
theorem capital_of_no_letter (before : Option Char) (hbefore : ¬before.any Char.isAlpha = true) :
    capital (before, c) = c.toUpper := by
  rw [capital, Bool.eq_false_iff.2 hbefore, Bool.not_false, Bool.and_true]
  split
  · rfl
  · rename_i hc
    exact (toUpper_of_not_isLower hc).symm

theorem capital_none : capital (none, c) = c.toUpper :=
  capital_of_no_letter none Bool.false_ne_true

/-- A character is left as it is after a letter, or if it is no lower-case letter. -/
theorem capital_eq_self (before : Option Char)
    (h : c.isLower = true → before.any Char.isAlpha = true) : capital (before, c) = c := by
  refine if_neg fun hc => ?_
  obtain ⟨hlower, hbefore⟩ := (Bool.and_eq_true _ _).mp hc
  rw [h hlower] at hbefore
  cases hbefore

/-- What comes before matters only if it is a letter, and only to a lower-case letter. -/
theorem cased_some (h : c.isAlpha = true → ¬cs.head?.any Char.isLower = true) :
    cased (some c) cs = cased none cs := by
  cases cs with
  | nil => rfl
  | cons d cs =>
    by_cases hd : d.isAlphanum = true
    · rw [cased_cons_of_isAlphanum hd, cased_cons_of_isAlphanum hd]
      by_cases hc : c.isAlpha = true
      · rw [capital_eq_self _ fun hlower => absurd hlower (h hc),
          capital_eq_self _ fun hlower => absurd hlower (h hc)]
      · rw [capital_of_no_letter (some c) hc, capital_none]
    · rw [cased_cons_of_not_isAlphanum hd, cased_cons_of_not_isAlphanum hd]

/-! ### The words, joined -/

theorem not_isLower_of_isDigit (hc : c.isDigit = true) : ¬c.isLower = true := by
  intro hlower
  have hle : c.val ≤ '9'.val := of_decide_eq_true ((Bool.and_eq_true _ _).mp hc).2
  have hge : 'a'.val ≤ c.val := of_decide_eq_true ((Bool.and_eq_true _ _).mp hlower).1
  exact absurd (UInt32.le_trans hge hle) (by decide)

/-- A character that goes on with a word is a letter or a digit, as is the one before it. -/
theorem isAlphanum_of_joins {next : Char}
    (h : (c.isAlpha && next.isLower || c.isDigit && next.isDigit) = true) :
    c.isAlphanum = true ∧ next.isAlphanum = true ∧ (next.isLower = true → c.isAlpha = true) := by
  rcases Bool.or_eq_true_iff.1 h with h | h
  · obtain ⟨hc, hnext⟩ := (Bool.and_eq_true _ _).mp h
    exact ⟨isAlphanum_of_isAlpha hc, isAlphanum_of_isAlpha (isAlpha_of_isLower hnext), fun _ => hc⟩
  · obtain ⟨hc, hnext⟩ := (Bool.and_eq_true _ _).mp h
    refine ⟨?_, ?_, fun hlower => absurd hlower (not_isLower_of_isDigit hnext)⟩
    · rw [Char.isAlphanum, hc, Bool.or_true]
    · rw [Char.isAlphanum, hnext, Bool.or_true]

/-- **Joining the words is the rule for one character**, applied to them all. -/
theorem flatMap_words (cs : List Char) :
    ((words cs).flatMap fun w => w.1.toUpper :: w.2) = cased none cs := by
  fun_induction words cs with
  | case1 => rfl
  | case2 c d ds rest next tail hjoin later hlater ih =>
    obtain ⟨hc, hnext, hlower⟩ := isAlphanum_of_joins hjoin
    have hhead := head?_words (next :: tail)
    rw [show words (next :: tail) = _ from hlater,
      List.filter_cons_of_pos (show isBodyChar next = true from hnext)] at hhead
    obtain rfl : d = next := Option.some.inj hhead
    -- in the words of the rest the next character is a capital, here it goes on with the word
    rw [show words (d :: tail) = _ from hlater, cased_cons_of_isAlphanum hnext] at ih
    rw [cased_cons_of_isAlphanum hc, cased_cons_of_isAlphanum hnext,
      capital_eq_self (some c) hlower, capital_none, ← (List.cons.inj ih).2]
    rfl
  | case3 c d ds rest next tail hjoin hc later hlater ih =>
    rw [Bool.or_eq_true_iff, not_or, Bool.and_eq_true] at hjoin
    have hnone : c.isAlpha = true → ¬(next :: tail).head?.any Char.isLower = true :=
      fun hletter hlower => hjoin.1 ⟨hletter, hlower⟩
    rw [cased_cons_of_isAlphanum hc, capital_none, List.flatMap_cons, ih,
      cased_some hnone]
    rfl
  | case4 c d ds rest next tail hjoin hc later hlater ih =>
    rw [cased_cons_of_not_isAlphanum hc, ih,
      cased_some fun hletter => absurd (isAlphanum_of_isAlpha hletter) hc]
  | case5 c cs later hc hlater ih =>
    -- a lower-case letter would start a word of the rest
    have hnone : ¬cs.head?.any Char.isLower = true := by
      intro hlower
      obtain ⟨next, hnext, hlower⟩ := (Option.any_eq_true _ _).1 hlower
      obtain ⟨tail, rfl⟩ := List.head?_eq_some_iff.1 hnext
      have hhead := head?_words (next :: tail)
      rw [List.filter_cons_of_pos (show isBodyChar next = true from
        isAlphanum_of_isAlpha (isAlpha_of_isLower hlower))] at hhead
      obtain ⟨w, hw, -⟩ := Option.map_eq_some_iff.1 hhead
      obtain ⟨ws, hws⟩ := List.head?_eq_some_iff.1 hw
      exact hlater w.1 w.2 ws next tail hws rfl
    rw [cased_cons_of_isAlphanum hc, capital_none, List.flatMap_cons, ih,
      cased_some fun _ => hnone]
    rfl
  | case6 c cs later hc hlater ih =>
    rw [cased_cons_of_not_isAlphanum hc, ih,
      cased_some fun hletter => absurd (isAlphanum_of_isAlpha hletter) hc]

theorem toList_pascal (name : String) : (pascal name).toList = cased none name.toList := by
  rw [pascal, String.toList_ofList, flatMap_words]

/-! ### Nothing is lost -/

/-- **A character kept**: as it is, or as a capital if it was a lower-case letter. -/
def Keeps (c d : Char) : Prop :=
  d = c ∨ c.isLower = true ∧ d = c.toUpper

theorem keeps_capital (before : Option Char) (c : Char) : Keeps c (capital (before, c)) := by
  rw [capital]
  split
  · rename_i h
    exact .inr ⟨((Bool.and_eq_true _ _).mp h).1, rfl⟩
  · exact .inl rfl

/-- The letters and digits stay, each at its place. -/
theorem forall₂_cased (before : Option Char) (cs : List Char) :
    List.Forall₂ Keeps (cs.filter isBodyChar) (cased before cs) := by
  induction cs generalizing before with
  | nil => exact .nil
  | cons c cs ih =>
    by_cases hc : c.isAlphanum = true
    · rw [cased_cons_of_isAlphanum hc, List.filter_cons_of_pos (show isBodyChar c = true from hc)]
      exact .cons (keeps_capital before c) (ih (some c))
    · rw [cased_cons_of_not_isAlphanum hc,
        List.filter_cons_of_neg (show ¬isBodyChar c = true from hc)]
      exact ih (some c)

/-! ### A second time -/

/-- A letter that is kept is a letter, and a digit is a digit. -/
theorem Keeps.isAlphanum {d : Char} (h : Keeps c d) (hc : c.isAlphanum = true) :
    d.isAlphanum = true ∧ d.isAlpha = c.isAlpha := by
  rcases h with rfl | ⟨-, rfl⟩
  · exact ⟨hc, rfl⟩
  · exact ⟨isAlphanum_toUpper hc, isAlpha_toUpper hc⟩

/-- A lower-case letter is left only after a letter. -/
theorem isAlpha_of_isLower_capital (hc : c.isAlphanum = true)
    (h : (capital (before, c)).isLower = true) : before.any Char.isAlpha = true := by
  by_contra hbefore
  rw [capital_of_no_letter before hbefore] at h
  by_cases hlower : c.isLower = true
  · rw [isLower_of_isUpper (isUpper_toUpper hc (isAlpha_of_isLower hlower))] at h
    cases h
  · rw [toUpper_of_not_isLower hlower] at h
    exact hlower h

/-- **The rule leaves its own results alone.** A lower-case letter in a result stands after the
letter that it stood after before, so it is enough that a letter before the text is still there. -/
theorem cased_cased {before before' : Option Char} (cs : List Char)
    (h : before.any Char.isAlpha = true → before'.any Char.isAlpha = true) :
    cased before' (cased before cs) = cased before cs := by
  induction cs generalizing before before' with
  | nil => rfl
  | cons c cs ih =>
    by_cases hc : c.isAlphanum = true
    · rw [cased_cons_of_isAlphanum hc]
      obtain ⟨hd, halpha⟩ := (keeps_capital before c).isAlphanum hc
      have hletter : (some c).any Char.isAlpha = true →
          (some (capital (before, c))).any Char.isAlpha = true := halpha.trans
      rw [cased_cons_of_isAlphanum hd, ih hletter]
      congr 1
      exact capital_eq_self before' fun hlower => h (isAlpha_of_isLower_capital hc hlower)
    · rw [cased_cons_of_not_isAlphanum hc]
      exact ih fun hletter => absurd (isAlphanum_of_isAlpha hletter) hc

/-- **Joining words loses nothing and is stable.** -/
theorem pascal_casing (name : String) :
    (pascal name).toList = cased none name.toList ∧
      List.Forall₂ Keeps (kept name) (pascal name).toList ∧
      pascal (pascal name) = pascal name := by
  refine ⟨toList_pascal name, ?_, ?_⟩
  · rw [toList_pascal]
    exact forall₂_cased none name.toList
  · rw [← String.toList_inj, toList_pascal, toList_pascal]
    exact cased_cased _ id

end ClientGen.Identifier
