import ClientGen.Issue
import ClientGen.Text.Blank

/-!
# Checking source texts

The structural check of a source text before it is written: it has a namespace (where one
is required), a class, as many closing as opening braces, and a using directive. Braces
inside text literals and line comments do not count, so these are taken out first.
-/

namespace ClientGen.Output

/-- What follows the closing quote of a text literal whose inside a text starts with.
A literal ends at the first quote that is not escaped, and does not span lines. -/
def afterLiteral? : List Char → Option (List Char)
  | [] => none
  | c :: cs =>
    if c = '"' then some cs
    else if c = '\n' then none
    else if c = '\\' then
      match cs with
      | [] => none
      | d :: ds => if d = '\n' then none else afterLiteral? ds
    else afterLiteral? cs

theorem length_lt_of_afterLiteral? {s rest : List Char} (h : afterLiteral? s = some rest) :
    rest.length < s.length := by
  fun_induction afterLiteral? s with
  | case2 cs =>
    cases h
    simp
  | case6 d ds _ _ _ ih =>
    have := ih h
    simp only [List.length_cons]
    omega
  | case7 c cs _ _ _ ih =>
    have := ih h
    simp only [List.length_cons]
    omega
  | _ => cases h

/-- **A text without its text literals and line comments.** -/
def stripLiterals (s : List Char) : List Char :=
  match s with
  | [] => []
  | c :: cs =>
    if c = '"' then
      match _h : afterLiteral? cs with
      | some rest => stripLiterals rest
      | none => c :: stripLiterals cs
    else if c = '/' ∧ cs.head? = some '/' then stripLiterals (cs.dropWhile (· != '\n'))
    else c :: stripLiterals cs
termination_by s.length
decreasing_by
  · have := length_lt_of_afterLiteral? _h
    simp only [List.length_cons]
    omega
  · simp
  · have := (List.dropWhile_suffix (· != '\n') (l := cs)).length_le
    simp only [List.length_cons]
    omega
  · simp

/-- What is wrong with a source text, if anything. -/
def fault? (content : String) (requireNamespace : Bool) : Option Cause :=
  let code := stripLiterals content.toList
  let opening := code.count '\x7b'
  let closing := code.count '\x7d'
  if requireNamespace && !Text.contains content "namespace " then some .noNamespace
  else if !Text.contains content "class " then some .noTypes
  else if opening ≠ closing then some (.unbalancedBraces opening closing)
  else if !Text.contains content "using " then some .noUsings
  else none

/-- **Check a source text.** -/
def check (content : String) (requireNamespace : Bool) : Except Issue Unit :=
  match fault? content requireNamespace with
  | some cause => .error ⟨cause, ""⟩
  | none => .ok ()

end ClientGen.Output
