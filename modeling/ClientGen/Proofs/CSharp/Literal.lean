import ClientGen.Proofs.Output.Braces
import ClientGen.Proofs.Session

/-!
# Literals open and close nothing

The literal of a value reads as no braces, whatever follows it
(`ClientGen.CSharp.reads_literal`): a number is written with digits, signs, a point and an
exponent only, and a text between quotes is taken out as a whole.
-/

namespace ClientGen.Output

/-! ### Letters and digits -/

theorem isInert_of_isAlphanum {c : Char} (h : c.isAlphanum = true) : isInert c = true := by
  simp only [isInert, isCodeChar, isBrace, Bool.and_eq_true, bne_iff_ne, Bool.not_eq_true',
    Bool.or_eq_false_iff, beq_eq_false_iff_ne]
  refine ⟨⟨?_, ?_⟩, ?_, ?_⟩
  all_goals
    rintro rfl
    cases h

theorem isInert_of_mem_toDigits {n : Nat} {c : Char} (h : c ∈ Nat.toDigits 10 n) :
    isInert c = true := by
  have hdigit : c.isDigit = true := Nat.isDigit_of_mem_toDigits (by decide) (by decide) h
  exact isInert_of_isAlphanum (by rw [Char.isAlphanum, hdigit, Bool.or_true])

theorem inert_toString (n : Int) : Inert (toString n) := by
  have hnat : ∀ n : Nat, Inert (toString n) := by
    intro n c hc
    rw [Nat.toString_eq_ofList_toDigits, String.toList_ofList] at hc
    exact isInert_of_mem_toDigits hc
  cases n with
  | ofNat n => exact hnat n
  | negSucc n => exact Inert.append (a := "-") (by decide) (hnat (n + 1))

/-! ### Numbers in double precision -/

theorem isInert_write (l : Binary64.Layout) {ds : List Char} (hds : ∀ c ∈ ds, isInert c = true)
    (lead : Int) : ∀ c ∈ l.write ds lead, isInert c = true := by
  have hzeros : ∀ k, ∀ c ∈ List.replicate k '0', isInert c = true := by
    intro k c hc
    rw [List.eq_of_mem_replicate hc]
    decide
  have hpoint : isInert '.' = true := by decide
  unfold Binary64.Layout.write
  dsimp only
  split
  · split
    · simp only [List.forall_mem_append, List.forall_mem_cons]
      exact ⟨⟨by decide, hpoint, hzeros _⟩, hds⟩
    · split
      · simp only [List.forall_mem_append, List.forall_mem_cons]
        exact ⟨⟨hds, hzeros _⟩, hpoint, by decide, nofun⟩
      · simp only [List.forall_mem_append, List.forall_mem_cons]
        exact ⟨fun c hc => hds c (List.mem_of_mem_take hc), hpoint,
          fun c hc => hds c (List.mem_of_mem_drop hc)⟩
  · simp only [List.forall_mem_append, List.forall_mem_cons]
    refine ⟨⟨?_, by decide, ?_, hzeros _⟩, fun c hc => isInert_of_mem_toDigits hc⟩
    · split
      · exact nofun
      · exact hds
      · rw [List.forall_mem_cons] at hds ⊢
        exact ⟨hds.1, List.forall_mem_cons.2 ⟨hpoint, hds.2⟩⟩
    · split <;> decide

theorem inert_text (x : Binary64) : Inert x.text := by
  cases x with
  | nan => decide
  | infinite s => cases s <;> decide
  | finite s m q =>
    rw [Binary64.text]
    dsimp only
    generalize hbody : (if m = 0 then _ else _ : List Char) = body
    have hinert : ∀ c ∈ body, isInert c = true := by
      rw [← hbody]
      split
      · exact List.all_eq_true.1 (by decide)
      · exact isInert_write _ (fun c hc => isInert_of_mem_toDigits hc) _
    intro c hc
    rw [String.toList_ofList] at hc
    split at hc
    · rcases List.mem_cons.1 hc with rfl | hc
      · decide
      · exact hinert c hc
    · exact hinert c hc

end ClientGen.Output

namespace ClientGen.CSharp

open Output

/-- **The literal of a value reads as no braces.** -/
theorem reads_literal {value location : Json} {text : String}
    (h : literal value location = .ok text) : Reads text [] := by
  cases value with
  | null =>
    cases h
    exact Inert.reads (by decide)
  | bool b =>
    cases h
    exact Inert.reads (by cases b <;> decide)
  | int n =>
    rw [literal] at h
    split at h
    · cases h
      exact (inert_toString n).reads
    · obtain ⟨_, -, h⟩ := Outcome.bind_eq_ok.1 h
      cases h
  | float x =>
    rw [literal] at h
    split at h
    · cases h
      exact (inert_text x).reads
    · cases h
  | str s =>
    cases h
    exact .literal s
  | list _ => cases h
  | object _ => cases h

end ClientGen.CSharp
