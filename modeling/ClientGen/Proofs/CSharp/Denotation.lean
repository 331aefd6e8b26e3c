import ClientGen.CSharp.Literal
import ClientGen.Proofs.Session
import Mathlib.Algebra.Group.Int.Defs
import Mathlib.Tactic.SplitIfs

/-!
# Literals denote the values they were made from

The literal of a text is read back by a reader that follows the rules of C# alone
(`ClientGen.CSharp.readText?`). It knows the escapes of C# that a literal may have, wants
exactly four digits after `\u`, refuses a line terminator and a backslash that starts no
escape, and stops at the first quote that stands for itself. What it gives back is the text
that was written and whatever stood behind the literal
(`ClientGen.CSharp.readText?_escape`): no character of a text can end its literal early, join
the escape before it, or be taken for another one.

Together with the readings of `null`, the two booleans and the integers this makes `literal`
injective: a value can be told from its literal (`ClientGen.CSharp.denoted?_literal`).
-/

namespace ClientGen.CSharp

/-! ### A reader of literals -/

/-- Whether a character ends a line of C#. -/
def isLineEnd (c : Char) : Bool :=
  [0x0A, 0x0D, 0x85, 0x2028, 0x2029].contains c.toNat

/-- The value of a hexadecimal digit. -/
def hexValue? (c : Char) : Option Nat :=
  if c.isDigit then some (c.toNat - 48)
  else if 97 ≤ c.toNat ∧ c.toNat ≤ 102 then some (c.toNat - 87)
  else if 65 ≤ c.toNat ∧ c.toNat ≤ 70 then some (c.toNat - 55)
  else none

/-- The value of a row of hexadecimal digits, behind digits of a given value. -/
def readHex? (front : Nat) : List Char → Option Nat
  | [] => some front
  | c :: cs => (hexValue? c).bind fun digit => readHex? (16 * front + digit) cs

/-- The character of a code. The half of a surrogate pair is none. -/
def charOf? (code : Nat) : Option Char :=
  if code.isValidChar then some (Char.ofNat code) else none

/-- The character that a letter stands for after a backslash. -/
def simpleEscape? : Char → Option Char
  | '\\' => some '\\'
  | '"' => some '"'
  | '0' => some '\x00'
  | 'n' => some '\n'
  | 'r' => some '\r'
  | 't' => some '\t'
  | _ => none

/-- Read a text literal from behind its first quote: the characters that it denotes, and
what follows its last quote. -/
def readInside? : List Char → Option (List Char × List Char)
  | [] => none
  | '"' :: rest => some ([], rest)
  | '\\' :: 'u' :: a :: b :: c :: d :: rest =>
    ((readHex? 0 [a, b, c, d]).bind charOf?).bind fun char =>
      (readInside? rest).map (Prod.map (char :: ·) id)
  | '\\' :: e :: rest =>
    (simpleEscape? e).bind fun char => (readInside? rest).map (Prod.map (char :: ·) id)
  | c :: rest =>
    if c = '\\' || isLineEnd c then none else (readInside? rest).map (Prod.map (c :: ·) id)

/-- **Read a text literal**: the text that it denotes, and what follows it. -/
def readText? : List Char → Option (String × List Char)
  | '"' :: rest => (readInside? rest).map (Prod.map String.ofList id)
  | _ => none

/-- Read a row of decimal digits. -/
def readNat? (ds : List Char) : Option Nat :=
  if ds ≠ [] ∧ ds.all Char.isDigit then some (Nat.ofDigitChars 10 ds 0) else none

/-- Read an integer: decimal digits, with a minus sign in front of them or not. -/
def readInteger? : List Char → Option Int
  | '-' :: ds => (readNat? ds).map fun n : Nat => -Int.ofNat n
  | ds => (readNat? ds).map Int.ofNat

/-- **The value that a literal denotes**, if it is `null`, a boolean, a text or an integer. -/
def denoted? (text : String) : Option Json :=
  if text = "null" then some .null
  else if text = "true" then some (.bool true)
  else if text = "false" then some (.bool false)
  else
    match readText? text.toList with
    | some (s, []) => some (.str s)
    | some (_, _ :: _) => none
    | none => (readInteger? text.toList).map .int

/-! ### Numeric escapes -/

theorem hexValue?_digitChar : ∀ n < 16, hexValue? n.digitChar = some n := by
  decide

theorem readHex?_append (front : Nat) (cs ds : List Char) :
    readHex? front (cs ++ ds) = (readHex? front cs).bind fun value => readHex? value ds := by
  induction cs generalizing front with
  | nil => rfl
  | cons c cs ih =>
    rw [List.cons_append, readHex?, readHex?, Option.bind_assoc]
    simp only [ih]

theorem readHex?_zeros (width : Nat) : readHex? 0 (List.replicate width '0') = some 0 := by
  induction width with
  | zero => rfl
  | succ width ih => exact ih

theorem readHex?_toDigits (n : Nat) : readHex? 0 (Nat.toDigits 16 n) = some n := by
  induction n using Nat.strongRecOn with
  | ind n ih =>
    rw [Nat.toDigits_eq_if (by decide)]
    split
    · rename_i h
      rw [readHex?, hexValue?_digitChar n h, Option.bind_some, readHex?]
      simp
    · rename_i h
      rw [readHex?_append, ih (n / 16) (by omega), Option.bind_some, readHex?,
        hexValue?_digitChar _ (Nat.mod_lt n (by decide)), Option.bind_some, readHex?]
      congr 1
      omega

theorem readHex?_hexDigits (width n : Nat) : readHex? 0 (Text.hexDigits width n) = some n := by
  rw [Text.hexDigits, readHex?_append, readHex?_zeros, Option.bind_some, readHex?_toDigits]

/-- A code below `0x10000` has exactly four digits. -/
theorem exists_hexDigits {n : Nat} (h : n < 0x10000) :
    ∃ a b c d, Text.hexDigits 4 n = [a, b, c, d] := by
  have hle : (Nat.toDigits 16 n).length ≤ 4 :=
    (Nat.length_toDigits_le_iff (by decide) (by decide)).2 h
  have hlength : (Text.hexDigits 4 n).length = 4 := by
    rw [Text.hexDigits, List.length_append, List.length_replicate]
    omega
  match Text.hexDigits 4 n, hlength with
  | [a, b, c, d], _ => exact ⟨a, b, c, d, rfl⟩

theorem charOf?_toNat (c : Char) : charOf? c.toNat = some c := by
  have hvalid : c.toNat.isValidChar := c.valid
  rw [charOf?, if_pos hvalid, Char.ofNat_toNat]

theorem readInside?_unicodeEscape {c : Char} (h : c.toNat < 0x10000) (rest : List Char) :
    readInside? (unicodeEscape c ++ rest) = (readInside? rest).map (Prod.map (c :: ·) id) := by
  obtain ⟨d₁, d₂, d₃, d₄, hdigits⟩ := exists_hexDigits h
  have hvalue : readHex? 0 [d₁, d₂, d₃, d₄] = some c.toNat := by
    rw [← hdigits, readHex?_hexDigits]
  rw [unicodeEscape, hdigits, List.cons_append, List.cons_append, List.cons_append,
    List.cons_append, List.cons_append, List.cons_append, List.nil_append, readInside?, hvalue,
    Option.bind_some, charOf?_toNat, Option.bind_some]

/-! ### Texts -/

/-- A character that has no escape is read as itself. -/
theorem readInside?_raw {c : Char} (hquote : c ≠ '"') (hback : c ≠ '\\')
    (hend : isLineEnd c = false) (rest : List Char) :
    readInside? (c :: rest) = (readInside? rest).map (Prod.map (c :: ·) id) := by
  rw [readInside?.eq_5 _ _ hquote (fun _ _ _ _ _ h => absurd h hback)
    (fun _ _ h => absurd h hback), if_neg]
  simp [hback, hend]

/-- **A written character is read as itself**, whatever follows it. -/
theorem readInside?_escapeChar (c : Char) (rest : List Char) :
    readInside? (escapeChar c ++ rest) = (readInside? rest).map (Prod.map (c :: ·) id) := by
  unfold escapeChar
  split_ifs with hback hquote hzero hline hreturn htab hcontrol
  · subst hback
    rfl
  · subst hquote
    rfl
  · subst hzero
    rfl
  · subst hline
    rfl
  · subst hreturn
    rfl
  · subst htab
    rfl
  · refine readInside?_unicodeEscape ?_ rest
    simp only [Bool.or_eq_true, decide_eq_true_eq] at hcontrol
    omega
  · refine readInside?_raw hquote hback ?_ rest
    simp only [Bool.or_eq_true, decide_eq_true_eq, not_or] at hcontrol
    rw [isLineEnd]
    simp only [List.contains_eq_mem, decide_eq_false_iff_not, List.mem_cons, List.not_mem_nil,
      or_false, not_or]
    omega

theorem readInside?_escape (s : String) (rest : List Char) :
    readInside? ((escape s).toList ++ '"' :: rest) = some (s.toList, rest) := by
  rw [escape, String.toList_ofList]
  induction s.toList with
  | nil => rfl
  | cons c cs ih =>
    rw [List.flatMap_cons, List.append_assoc, readInside?_escapeChar, ih]
    rfl

/-- **The literal of a text is read as the text**, and the reading ends at its last quote. -/
theorem readText?_escape (s : String) (rest : List Char) :
    readText? ('"' :: (escape s).toList ++ '"' :: rest) = some (s, rest) := by
  rw [List.cons_append, readText?, readInside?_escape]
  simp

/-! ### Values -/

/-- A value that has a literal of its own: `null`, a boolean, a text, or an integer that one
of the two types of 64 bits has. -/
inductive HasOwnLiteral : Json → Prop
  | null : HasOwnLiteral .null
  | bool (b : Bool) : HasOwnLiteral (.bool b)
  | int (n : Int) (hmin : -2 ^ 63 ≤ n) (hmax : n ≤ 2 ^ 64 - 1) : HasOwnLiteral (.int n)
  | str (s : String) : HasOwnLiteral (.str s)

theorem readNat?_toDigits (n : Nat) : readNat? (Nat.toDigits 10 n) = some n := by
  have hdigits : (Nat.toDigits 10 n).all Char.isDigit = true :=
    List.all_eq_true.2 fun c hc => Nat.isDigit_of_mem_toDigits (by decide) (by decide) hc
  rw [readNat?, if_pos ⟨Nat.toDigits_ne_nil, hdigits⟩, Nat.ofDigitChars_ten_toDigits]

/-- An integer is written with its digits, behind a minus sign if it is negative. -/
theorem toList_toString (n : Int) :
    (toString n).toList = if 0 ≤ n then Nat.toDigits 10 n.toNat
      else '-' :: Nat.toDigits 10 (-n).toNat := by
  rw [Int.toString_eq_repr, Int.repr_eq_if]
  split
  · rw [Nat.repr_eq_ofList_toDigits, String.toList_ofList]
  · simp [Nat.repr_eq_ofList_toDigits]

theorem of_mem_toString {n : Int} {c : Char} (h : c ∈ (toString n).toList) :
    c = '-' ∨ c.isDigit = true := by
  rw [toList_toString] at h
  split at h
  · exact .inr (Nat.isDigit_of_mem_toDigits (by decide) (by decide) h)
  · refine (List.mem_cons.1 h).imp_right fun h => ?_
    exact Nat.isDigit_of_mem_toDigits (by decide) (by decide) h

theorem toString_ne {n : Int} {text : String} {c : Char} (hmem : c ∈ text.toList)
    (hc : ¬(c = '-' ∨ c.isDigit = true)) : toString n ≠ text := by
  rintro rfl
  exact hc (of_mem_toString hmem)

theorem readText?_toString (n : Int) : readText? (toString n).toList = none := by
  unfold readText?
  split
  · rename_i rest heq
    have hmem : '"' ∈ (toString n).toList := by
      rw [heq]
      exact List.mem_cons_self
    exact absurd (of_mem_toString hmem) (by decide)
  · rfl

theorem readInteger?_toString (n : Int) : readInteger? (toString n).toList = some n := by
  rw [toList_toString]
  split
  · rename_i hn
    unfold readInteger?
    split
    · -- the first digit is no minus sign
      rename_i ds heq
      have hmem : '-' ∈ Nat.toDigits 10 n.toNat := by
        rw [heq]
        exact List.mem_cons_self
      exact absurd (Nat.isDigit_of_mem_toDigits (by decide) (by decide) hmem) (by decide)
    · rw [readNat?_toDigits, Option.map_some, Int.ofNat_eq_natCast, Int.toNat_of_nonneg hn]
  · rename_i hn
    rw [readInteger?, readNat?_toDigits, Option.map_some, Int.ofNat_eq_natCast,
      Int.toNat_of_nonneg (by omega), Int.neg_neg]

theorem denoted?_toString (n : Int) : denoted? (toString n) = some (.int n) := by
  rw [denoted?, if_neg (toString_ne (c := 'n') (by decide) (by decide)),
    if_neg (toString_ne (c := 't') (by decide) (by decide)),
    if_neg (toString_ne (c := 'f') (by decide) (by decide)), readText?_toString]
  simp only
  rw [readInteger?_toString, Option.map_some]

theorem denoted?_escape (s : String) : denoted? ("\"" ++ escape s ++ "\"") = some (.str s) := by
  have hlist : ("\"" ++ escape s ++ "\"").toList = '"' :: (escape s).toList ++ '"' :: [] := by
    simp
  have hne : ∀ text : String, text.toList.head? ≠ some '"' → "\"" ++ escape s ++ "\"" ≠ text := by
    rintro text hhead rfl
    exact hhead (by rw [hlist]; rfl)
  rw [denoted?, if_neg (hne "null" (by decide)), if_neg (hne "true" (by decide)),
    if_neg (hne "false" (by decide)), hlist, readText?_escape]

/-- **A value with a literal of its own is the one that its literal denotes.** -/
theorem denoted?_literal {v : Json} (h : HasOwnLiteral v) (location : Json) :
    ∃ text, literal v location = .ok text ∧ denoted? text = some v := by
  cases h with
  | null => exact ⟨"null", rfl, rfl⟩
  | bool b =>
    cases b with
    | false => exact ⟨"false", rfl, rfl⟩
    | true => exact ⟨"true", rfl, rfl⟩
  | int n hmin hmax =>
    refine ⟨toString n, ?_, denoted?_toString n⟩
    rw [literal, if_pos ⟨hmin, hmax⟩]
  | str s => exact ⟨_, rfl, denoted?_escape s⟩

/-- **Literals denote the values they were made from.** Reading the literal of a text gives
the text and ends at the last quote, whatever follows; a value with a literal of its own is
the one that its literal denotes; and no two of these values have the same literal, whatever
the locations that errors would have named. -/
theorem literals_denote :
    (∀ (s : String) (rest : List Char),
      readText? ('"' :: (escape s).toList ++ '"' :: rest) = some (s, rest)) ∧
    (∀ v : Json, HasOwnLiteral v → ∀ location : Json,
      ∃ text, literal v location = .ok text ∧ denoted? text = some v) ∧
    (∀ v w : Json, HasOwnLiteral v → HasOwnLiteral w → ∀ location location' : Json,
      literal v location = literal w location' → v = w) := by
  refine ⟨readText?_escape, fun v hv location => denoted?_literal hv location, ?_⟩
  intro v w hv hw location location' heq
  obtain ⟨text, htext, hv⟩ := denoted?_literal hv location
  obtain ⟨text', htext', hw⟩ := denoted?_literal hw location'
  rw [htext, htext', Except.ok.injEq] at heq
  rw [heq, hw] at hv
  exact (Option.some.inj hv).symm

/-- A text of a backslash, a quote, a digit behind a character that has a numeric escape,
and a line separator is read back, also before the quote of another literal; and the text
`null` and the value `null` have different literals. -/
theorem literals_denote_hard :
    readText? ('"' :: (escape "\\\"\x000\x1fA\u2028").toList ++ '"' :: ['"', 'x'])
      = some ("\\\"\x000\x1fA\u2028", ['"', 'x']) ∧
    (∃ text, literal (.int (-2 ^ 63)) .null = .ok text ∧
      denoted? text = some (.int (-2 ^ 63))) ∧
    (literal (.str "null") .null = literal .null .null → Json.str "null" = .null) :=
  ⟨literals_denote.1 _ _,
    literals_denote.2.1 _ (.int _ (by decide) (by decide)) _,
    literals_denote.2.2 _ _ (.str _) .null _ _⟩

end ClientGen.CSharp
