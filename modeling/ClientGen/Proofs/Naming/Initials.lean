import ClientGen.Proofs.Naming.Usable

/-!
# How names begin

The name of a property and the name of a local variable are made from the same text. The words of
the text are joined, each with a capital first letter (`ClientGen.Identifier.pascal`), and a local
name has its first letter in lower case (`ClientGen.Identifier.localName`). The letter case of the
first character should tell the two apart, and it does if the text is **lettered**
(`ClientGen.isLettered`): if the first of its ASCII letters and digits is a letter.

The names made from another text start with a digit or are empty. They have no case, and the suffix
in front of them is written the same way in both: the two names are the suffix, the joined words,
and the suffix any number of times (`ClientGen.Identifier.exists_lengthened_of_localName`).
-/

namespace ClientGen

/-! ### First characters -/

/-- **A name begins** with a character of a kind. -/
def Begins (P : Char → Bool) (v : Json) : Prop :=
  ∃ (s : String) (c : Char), v = .str s ∧ s.toList.head? = some c ∧ P c = true

theorem Begins.append {P : Char → Bool} {s : String} (h : Begins P (.str s)) (t : String) :
    Begins P (.str (s ++ t)) := by
  obtain ⟨_, c, ⟨⟩, hc, hP⟩ := h
  refine ⟨s ++ t, c, rfl, ?_, hP⟩
  rw [String.toList_append, List.head?_append, hc]
  rfl

theorem Begins.startsWithLetter {s : String} (h : Begins Char.isLower (.str s)) :
    startsWithLetter s = true := by
  obtain ⟨_, c, ⟨⟩, hc, hlower⟩ := h
  rw [ClientGen.startsWithLetter, hc]
  change (c.isUpper || c.isLower) = true
  rw [hlower, Bool.or_true]

/-- A name with a suffix behind it, some number of times. -/
def lengthened (suffix name : String) : Nat → String
  | 0 => name
  | k + 1 => lengthened suffix name k ++ suffix

theorem Begins.lengthened {P : Char → Bool} {name : String} (h : Begins P (.str name))
    (suffix : String) (k : Nat) : Begins P (.str (lengthened suffix name k)) := by
  induction k with
  | zero => exact h
  | succ k ih => exact ih.append suffix

/-- **A lettered text**: the first of its ASCII letters and digits is a letter. -/
def isLettered (name : String) : Bool :=
  (Identifier.kept name).head?.any Char.isAlpha

namespace Identifier

/-! ### Letters and digits -/

/-- **The laws of letter case**, for one character. -/
def LawfulCase (c : Char) : Prop :=
  (c.isUpper = true → c.isLower = false) ∧
    (c.isAlpha = true → c.toUpper.isUpper = true ∧ c.toLower.isLower = true) ∧
    (c.isAlpha = false → c.toLower = c) ∧
    c.toUpper.isAlpha = c.isAlpha ∧
    (c.isAlphanum = true → c.toLower.isAlphanum = true)

theorem lawfulCase_of_isAlphanum {c : Char} (hc : c.isAlphanum = true) : LawfulCase c := by
  -- the laws are checked together, in one evaluation over the ASCII characters
  have hascii : ∀ n < 128, LawfulCase (Char.ofNat n) := by
    unfold LawfulCase
    decide +kernel
  have hlaws := hascii c.toNat (toNat_lt_of_isAlphanum hc)
  rwa [Char.ofNat_toNat] at hlaws

theorem isLower_of_isUpper {c : Char} (hc : c.isUpper = true) : c.isLower = false := by
  have halphanum : c.isAlphanum = true := by
    change (c.isUpper || c.isLower || c.isDigit) = true
    rw [hc]
    rfl
  exact (lawfulCase_of_isAlphanum halphanum).1 hc

theorem isUpper_toUpper {c : Char} (hc : c.isAlphanum = true) (halpha : c.isAlpha = true) :
    c.toUpper.isUpper = true :=
  ((lawfulCase_of_isAlphanum hc).2.1 halpha).1

theorem isLower_toLower {c : Char} (hc : c.isAlphanum = true) (halpha : c.isAlpha = true) :
    c.toLower.isLower = true :=
  ((lawfulCase_of_isAlphanum hc).2.1 halpha).2

theorem toLower_eq_self {c : Char} (hc : c.isAlphanum = true) (halpha : c.isAlpha = false) :
    c.toLower = c :=
  (lawfulCase_of_isAlphanum hc).2.2.1 halpha

theorem isAlpha_toUpper {c : Char} (hc : c.isAlphanum = true) : c.toUpper.isAlpha = c.isAlpha :=
  (lawfulCase_of_isAlphanum hc).2.2.2.1

theorem isAlphanum_toLower {c : Char} (hc : c.isAlphanum = true) : c.toLower.isAlphanum = true :=
  (lawfulCase_of_isAlphanum hc).2.2.2.2 hc

/-- No name begins with both a capital and a lower-case letter. -/
theorem not_begins_isLower {v : Json} (h : Begins Char.isUpper v) : ¬Begins Char.isLower v := by
  rintro ⟨s, c, rfl, hc, hlower⟩
  obtain ⟨_, d, ⟨⟩, hd, hupper⟩ := h
  rw [hd] at hc
  obtain rfl := Option.some.inj hc
  rw [isLower_of_isUpper hupper] at hlower
  cases hlower

/-! ### Joined words -/

/-- The first word starts with the first letter or digit. -/
theorem head?_words (cs : List Char) :
    (words cs).head?.map Prod.fst = (cs.filter isBodyChar).head? := by
  fun_induction words cs with
  | case1 => rfl
  | case2 c d ds rest next tail hjoin later hlater ih =>
    -- the character is put in front of the first word of the rest, so it is a letter or a digit
    have hc : isBodyChar c = true := by
      rw [Bool.or_eq_true, Bool.and_eq_true, Bool.and_eq_true] at hjoin
      rw [isBodyChar, Char.isAlphanum, Bool.or_eq_true]
      exact hjoin.imp And.left And.left
    rw [List.filter_cons_of_pos hc]
    rfl
  | case3 c d ds rest next tail hjoin hc later hlater ih =>
    rw [List.filter_cons_of_pos (show isBodyChar c = true from hc)]
    rfl
  | case4 c d ds rest next tail hjoin hc later hlater ih =>
    rw [List.filter_cons_of_neg (show ¬isBodyChar c = true from hc)]
    exact ih
  | case5 c cs later hc hlater ih =>
    rw [List.filter_cons_of_pos (show isBodyChar c = true from hc)]
    rfl
  | case6 c cs later hc hlater ih =>
    rw [List.filter_cons_of_neg (show ¬isBodyChar c = true from hc)]
    exact ih

theorem head?_pascal (name : String) :
    (pascal name).toList.head? = (kept name).head?.map Char.toUpper := by
  rw [pascal, String.toList_ofList, kept, ← head?_words]
  cases words name.toList with
  | nil => rfl
  | cons w ws => rfl

theorem isAlphanum_of_head?_kept {name : String} {c : Char} (h : (kept name).head? = some c) :
    c.isAlphanum = true :=
  (List.mem_filter.1 (List.mem_of_head? h)).2

/-- The joined words start with a letter exactly if the text is lettered. -/
theorem startsWithLetter_pascal (name : String) :
    startsWithLetter (pascal name) = isLettered name := by
  rw [startsWithLetter, isLettered, head?_pascal]
  cases hc : (kept name).head? with
  | none => rfl
  | some c => exact isAlpha_toUpper (isAlphanum_of_head?_kept hc)

/-- The first letter is a capital. -/
theorem begins_isUpper_pascal {name : String} (h : isLettered name = true) :
    Begins Char.isUpper (.str (pascal name)) := by
  rw [isLettered, Option.any_eq_true] at h
  obtain ⟨c, hc, halpha⟩ := h
  refine ⟨_, c.toUpper, rfl, ?_, isUpper_toUpper (isAlphanum_of_head?_kept hc) halpha⟩
  rw [head?_pascal, hc]
  rfl

/-! ### The first character in lower case -/

theorem lowerFirst_of_toList {s : String} {c : Char} {cs : List Char} (hs : s.toList = c :: cs)
    (hc : c.isAlphanum = true) : (lowerFirst s).toList = c.toLower :: cs := by
  rw [lowerFirst, String.toList_ofList, hs, Text.lowerFirst, Text.lowerChar,
    if_pos (toNat_lt_of_isAlphanum hc)]
  rfl

theorem isWord_lowerFirst {s : String} (h : IsWord (.str s)) : IsWord (.str (lowerFirst s)) := by
  obtain ⟨_, ⟨⟩, h⟩ := h
  refine ⟨_, rfl, ?_⟩
  cases hs : s.toList with
  | nil =>
    rw [lowerFirst, String.toList_ofList, hs]
    exact nofun
  | cons c cs =>
    rw [hs, List.forall_mem_cons] at h
    rw [lowerFirst_of_toList hs h.1, List.forall_mem_cons]
    exact ⟨isAlphanum_toLower h.1, h.2⟩

theorem begins_isLower_lowerFirst {s : String} (h : IsWord (.str s))
    (hletter : startsWithLetter s = true) : Begins Char.isLower (.str (lowerFirst s)) := by
  obtain ⟨_, ⟨⟩, h⟩ := h
  rw [startsWithLetter, Option.any_eq_true] at hletter
  obtain ⟨c, hc, halpha⟩ := hletter
  obtain ⟨cs, hs⟩ := List.head?_eq_some_iff.1 hc
  have halphanum : c.isAlphanum = true := h c (List.mem_of_head? hc)
  refine ⟨_, c.toLower, rfl, ?_, isLower_toLower halphanum halpha⟩
  rw [lowerFirst_of_toList hs halphanum]
  rfl

/-- A word that does not start with a letter has no case to change. -/
theorem lowerFirst_eq_self {s : String} (h : IsWord (.str s))
    (hletter : startsWithLetter s = false) : lowerFirst s = s := by
  obtain ⟨_, ⟨⟩, h⟩ := h
  rw [← String.toList_inj]
  cases hs : s.toList with
  | nil =>
    rw [lowerFirst, String.toList_ofList, hs]
    rfl
  | cons c cs =>
    rw [hs] at h
    rw [startsWithLetter, hs] at hletter
    rw [lowerFirst_of_toList hs (h c List.mem_cons_self),
      toLower_eq_self (h c List.mem_cons_self) hletter]

/-! ### Safe and free names -/

/-- A name with the suffix in front of it, unless it starts with a letter. -/
def fronted (suffix name : String) : String :=
  if startsWithLetter name then name else suffix ++ name

variable {suffix : String} {reserved : List Json} {name : Json}

theorem exists_lengthened_of_spared {text : String}
    (h : spared text (.str suffix) reserved = .ok name) :
    ∃ k, name = .str (lengthened suffix text k) := by
  obtain ⟨back, rfl, hback⟩ := exists_of_spared h
  rcases hback with rfl | hback
  · exact ⟨0, by rw [String.append_empty]; rfl⟩
  · cases hback
    exact ⟨1, rfl⟩

/-- **A safe name for a word** is the word, with the suffix in front if it starts with no letter and
behind if the result is reserved. -/
theorem exists_lengthened_of_safeWith {word : String} (hword : IsWord (.str word))
    (h : safeWith (.str word) (.str suffix) reserved = .ok name) :
    ∃ k, name = .str (lengthened suffix (fronted suffix word) k) := by
  obtain ⟨_, ⟨⟩, hword⟩ := hword
  have hkept : kept word = word.toList := List.filter_eq_self.2 hword
  obtain ⟨chars, hchars, h⟩ := Outcome.bind_eq_ok.1 h
  cases hchars
  rw [hkept] at h
  cases hw : word.toList with
  | nil =>
    -- nothing is kept, and the suffix stands for the name
    obtain rfl := String.toList_eq_nil_iff.1 hw
    cases h
    exact ⟨0, by simp [lengthened, fronted, startsWithLetter]⟩
  | cons c cs =>
    rw [hw] at h
    have hbody : String.ofList (c :: cs) = word := by rw [← hw, String.ofList_toList]
    have hfirst : startsWithLetter word = isFirstChar c := by rw [startsWithLetter, hw]; rfl
    rw [fronted, hfirst]
    dsimp only at h
    split at h
    · rename_i hc
      rw [if_pos hc, ← hbody]
      exact exists_lengthened_of_spared h
    · rename_i hc
      obtain ⟨front, hfront, h⟩ := Outcome.bind_eq_ok.1 h
      cases hfront
      rw [if_neg hc, ← hbody]
      exact exists_lengthened_of_spared h

theorem exists_lengthened_of_freshWithin {used : List Json} {fuel : Nat} {text : String}
    {k : Nat} {free : Json}
    (h : freshWithin (.str suffix) used fuel (.str (lengthened suffix text k)) = .ok free) :
    ∃ k, free = .str (lengthened suffix text k) := by
  induction fuel generalizing k with
  | zero => cases h
  | succ fuel ih =>
    obtain ⟨key, -, h⟩ := Outcome.bind_eq_ok.1 h
    split at h
    · obtain ⟨longer, hlonger, h⟩ := Outcome.bind_eq_ok.1 h
      cases hlonger
      exact ih (k := k + 1) h
    · cases h
      exact ⟨k, rfl⟩

/-- **The name of a property begins with a capital.** -/
theorem begins_isUpper_of_safeWith {wanted : String} (hsuffix : Begins Char.isUpper (.str suffix))
    (h : safeWith (.str (pascal wanted)) (.str suffix) reserved = .ok name) :
    Begins Char.isUpper name := by
  obtain ⟨k, rfl⟩ := exists_lengthened_of_safeWith (isWord_pascal wanted) h
  refine Begins.lengthened ?_ suffix k
  rw [fronted, startsWithLetter_pascal]
  split
  · rename_i hlettered
    exact begins_isUpper_pascal hlettered
  · exact hsuffix.append _

variable {used : List Json} {start free : Json} {wanted : String}

/-- **A local name made from a lettered text begins with a lower-case letter.** -/
theorem begins_isLower_of_localName (hlettered : isLettered wanted = true)
    (hstart : localName wanted (.str suffix) reserved = .ok start)
    (hfree : fresh (.str suffix) used start = .ok free) : Begins Char.isLower free := by
  have hword := isWord_pascal wanted
  have hletter : startsWithLetter (pascal wanted) = true := by
    rw [startsWithLetter_pascal, hlettered]
  have hlower := begins_isLower_lowerFirst hword hletter
  obtain ⟨k, rfl⟩ := exists_lengthened_of_safeWith (isWord_lowerFirst hword) hstart
  obtain ⟨k', rfl⟩ := exists_lengthened_of_freshWithin hfree
  rw [fronted, if_pos hlower.startsWithLetter]
  exact hlower.lengthened suffix k'

/-- **A local name made from any other text** is the suffix, the joined words, and the suffix any
number of times. -/
theorem exists_lengthened_of_localName (hlettered : isLettered wanted = false)
    (hstart : localName wanted (.str suffix) reserved = .ok start)
    (hfree : fresh (.str suffix) used start = .ok free) :
    ∃ k, free = .str (lengthened suffix (suffix ++ pascal wanted) k) := by
  have hword := isWord_pascal wanted
  have hletter : startsWithLetter (pascal wanted) = false := by
    rw [startsWithLetter_pascal, hlettered]
  rw [localName, lowerFirst_eq_self hword hletter] at hstart
  obtain ⟨k, rfl⟩ := exists_lengthened_of_safeWith hword hstart
  rw [fronted, hletter] at hfree
  exact exists_lengthened_of_freshWithin hfree

end Identifier

end ClientGen
