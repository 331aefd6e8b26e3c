import ClientGen.Generation
import ClientGen.Proofs.Naming.Casing
import ClientGen.Proofs.Text.Lines

/-!
# Derived namespaces

Without a configured namespace, that of the generated code is derived from the service: the root,
the joined words of its name, and its version (`ClientGen.Context.namespaceName`). A namespace is
**well formed** (`ClientGen.IsNamespace`) if each of its parts between dots is an identifier of C#:
letters, digits and underscores, no digit in front, and no keyword.

The parts never have other characters, and the version never starts with a digit. But the name of
the service may, and the version may be a keyword; apart from these the namespace is well formed
(`ClientGen.Context.isNamespace_namespaceName_iff`).
-/

namespace ClientGen

open Identifier

/-! ### Well-formed namespaces -/

/-- A letter or an underscore. -/
def isPartStart (c : Char) : Bool :=
  c.isAlpha || c == '_'

/-- A letter, a digit or an underscore. -/
def isPartChar (c : Char) : Bool :=
  c.isAlphanum || c == '_'

/-- **A part of a namespace**: an identifier that is no keyword. -/
structure IsPart (part : String) : Prop where
  start : part.toList.head?.any isPartStart = true
  body : ∀ c ∈ part.toList, isPartChar c = true
  noKeyword : part ∉ keywords

instance (part : String) : Decidable (IsPart part) :=
  decidable_of_iff (part.toList.head?.any isPartStart = true ∧
      part.toList.all isPartChar = true ∧ part ∉ keywords)
    ⟨fun h => ⟨h.1, List.all_eq_true.1 h.2.1, h.2.2⟩,
      fun h => ⟨h.start, List.all_eq_true.2 h.body, h.noKeyword⟩⟩

/-- **A well-formed namespace**: parts with dots between them. -/
def IsNamespace (name : String) : Prop :=
  ∀ part ∈ Text.splitOnChar '.' name.toList, IsPart (String.ofList part)

instance (name : String) : Decidable (IsNamespace name) :=
  inferInstanceAs (Decidable (∀ part ∈ _, IsPart (String.ofList part)))

/-- Texts without dots are the parts of the namespace that they are joined to. -/
theorem isNamespace_intercalate {parts : List String} (hne : parts ≠ [])
    (h : ∀ part ∈ parts, '.' ∉ part.toList) :
    IsNamespace (".".intercalate parts) ↔ ∀ part ∈ parts, IsPart part := by
  have hparts : Text.splitOnChar '.' (".".intercalate parts).toList = parts.map String.toList := by
    rw [String.toList_intercalate]
    refine Text.splitOnChar_intercalate (by simpa using hne) ?_
    simpa using h
  rw [IsNamespace, hparts, List.forall_mem_map]
  simp only [String.ofList_toList]

theorem dot_notMem {part : String} (h : ∀ c ∈ part.toList, isPartChar c = true) :
    '.' ∉ part.toList :=
  fun hdot => absurd (h '.' hdot) (by decide)

/-! ### The name of the service -/

theorem isPartChar_of_isAlphanum {c : Char} (h : c.isAlphanum = true) : isPartChar c = true := by
  rw [isPartChar, h, Bool.true_or]

/-- The joined words are a part, or nothing, if the first of the letters and digits is a letter. -/
theorem isPart_pascal_iff (name : String) :
    (pascal name ≠ "" → IsPart (pascal name)) ↔ (kept name).head?.all Char.isAlpha = true := by
  have hhead := head?_pascal name
  cases hkept : (kept name).head? with
  | none =>
    rw [hkept, Option.map_none, List.head?_eq_none_iff, String.toList_eq_nil_iff] at hhead
    exact iff_of_true (absurd hhead) rfl
  | some d =>
    rw [hkept] at hhead
    have hd := isAlphanum_of_head?_kept hkept
    constructor
    · intro h
      have hstart := (h fun hempty => by rw [hempty] at hhead; cases hhead).start
      rw [hhead] at hstart
      -- a letter or an underscore, and not the latter
      rcases Bool.or_eq_true_iff.1 hstart with halpha | hunder
      · rwa [isAlpha_toUpper hd] at halpha
      · have hupper := isAlphanum_toUpper hd
        rw [eq_of_beq hunder] at hupper
        cases hupper
    · intro halpha _
      obtain ⟨_, ⟨⟩, hbody⟩ := isWord_pascal name
      have hupper : d.toUpper.isUpper = true := isUpper_toUpper hd halpha
      refine ⟨?_, fun c hc => isPartChar_of_isAlphanum (hbody c hc), fun hkeyword => ?_⟩
      · rw [hhead]
        exact Bool.or_eq_true_iff.2 (.inl ((isAlpha_toUpper hd).trans halpha))
      · have hlower := isLower_of_mem_keywords _ hkeyword _ (List.mem_of_head? hhead)
        rw [isLower_of_isUpper hupper] at hlower
        cases hlower

/-! ### The version -/

namespace Context

/-- A character of a version, as one of a namespace. -/
def versionChar (c : Char) : Char :=
  if c.isAlphanum || c == '_' then c else '_'

theorem isPartChar_versionChar (c : Char) : isPartChar (versionChar c) = true := by
  rw [versionChar]
  split
  · assumption
  · rfl

theorem versionChar_of_isLower {c : Char} (h : c.isLower = true) : versionChar c = c := by
  rw [versionChar, isAlphanum_of_isAlpha (isAlpha_of_isLower h), Bool.true_or, if_pos rfl]

theorem versionChar_of_isLower_versionChar {c : Char} (h : (versionChar c).isLower = true) :
    versionChar c = c := by
  rw [versionChar] at h
  split at h
  · exact if_pos ‹_›
  · cases h

theorem toList_versionPart {version : String} {c : Char} {cs : List Char}
    (h : version.toList = c :: cs) : (versionPart version).toList =
      if (versionChar c).isDigit then 'v' :: (c :: cs).map versionChar
      else (c :: cs).map versionChar := by
  rw [versionPart, h]
  exact String.toList_ofList

theorem isPartChar_versionPart (version : String) :
    ∀ c ∈ (versionPart version).toList, isPartChar c = true := by
  cases h : version.toList with
  | nil =>
    rw [versionPart, h]
    exact nofun
  | cons c cs =>
    have hchars : ∀ d ∈ (c :: cs).map versionChar, isPartChar d = true :=
      List.forall_mem_map.2 fun d _ => isPartChar_versionChar d
    rw [toList_versionPart h]
    split
    · exact List.forall_mem_cons.2 ⟨rfl, hchars⟩
    · exact hchars

/-- A version becomes a keyword only if it is one. -/
theorem versionPart_mem_keywords_iff (version : String) :
    versionPart version ∈ keywords ↔ version ∈ keywords := by
  cases h : version.toList with
  | nil =>
    obtain rfl := String.toList_eq_nil_iff.1 h
    rfl
  | cons c cs =>
    have hpart := toList_versionPart h
    have hsame (hkept : ∀ d ∈ c :: cs, versionChar d = d)
        (hdigit : ¬(versionChar c).isDigit = true) : versionPart version = version := by
      rw [← String.toList_inj, hpart, if_neg hdigit, List.map_congr_left hkept, List.map_id', h]
    constructor
    · intro hkeyword
      have hlower := isLower_of_mem_keywords _ hkeyword
      by_cases hdigit : (versionChar c).isDigit = true
      · rw [hpart, if_pos hdigit] at hlower
        exact absurd (hlower (versionChar c) (by simp)) (not_isLower_of_isDigit hdigit)
      · -- the underscore is no letter, so all characters are as they were
        rw [hpart, if_neg hdigit] at hlower
        rwa [hsame (fun d hd => versionChar_of_isLower_versionChar
          (hlower _ (List.mem_map_of_mem hd))) hdigit] at hkeyword
    · intro hkeyword
      have hlower := isLower_of_mem_keywords _ hkeyword
      rw [h] at hlower
      have hkept : ∀ d ∈ c :: cs, versionChar d = d :=
        fun d hd => versionChar_of_isLower (hlower d hd)
      rwa [hsame hkept fun hdigit => not_isLower_of_isDigit
        (hkept c List.mem_cons_self ▸ hdigit) (hlower c List.mem_cons_self)]

theorem isPart_versionPart_iff (version : String) :
    (versionPart version ≠ "" → IsPart (versionPart version)) ↔ version ∉ keywords := by
  rw [← versionPart_mem_keywords_iff]
  refine ⟨fun h hkeyword => (h ?_).noKeyword hkeyword, fun hkeyword hne => ?_⟩
  · rintro hempty
    rw [hempty] at hkeyword
    exact absurd hkeyword (by decide)
  · refine ⟨?_, isPartChar_versionPart version, hkeyword⟩
    cases h : version.toList with
    | nil => exact absurd (by rw [versionPart, h]; rfl) hne
    | cons c cs =>
      rw [toList_versionPart h]
      split
      · rfl
      · rename_i hdigit
        -- a letter, a digit or an underscore, and no digit
        have hchar := isPartChar_versionChar c
        rw [isPartChar, Char.isAlphanum, Bool.eq_false_iff.2 hdigit, Bool.or_false] at hchar
        exact hchar

/-! ### The namespace -/

variable {c : Context}

/-- The namespace of a service with a name and a version, which are left out if nothing of them is
kept. -/
def derivedNamespace (name version : String) : String :=
  ".".intercalate ("Google.Apis" :: [pascal name, versionPart version].filter fun s => !s.isEmpty)

theorem namespaceName_eq (hconfigured : c.config.configuredNamespace = .str "")
    (hroot : c.config.rootNamespace = .str "Google.Apis") :
    c.namespaceName = .ok (.str (derivedNamespace c.service.name c.service.version)) := by
  have hparts : List.filter Json.truthy [.str "Google.Apis", .str (pascal c.service.name),
      .str (versionPart c.service.version)] = ("Google.Apis" :: [pascal c.service.name,
        versionPart c.service.version].filter fun s => !s.isEmpty).map .str := by
    change Json.str "Google.Apis" :: List.filter Json.truthy ([_, _].map Json.str) = _
    rw [List.filter_map]
    rfl
  rw [namespaceName, hconfigured, hroot, if_neg nofun]
  dsimp only
  rw [hparts, Outcome.mapM_map (g := Json.str) fun _ => rfl]
  rfl

theorem intercalate_root (more : List String) :
    ".".intercalate ("Google.Apis" :: more) = ".".intercalate (["Google", "Apis"] ++ more) := by
  cases more with
  | nil => rfl
  | cons part more =>
    rw [List.cons_append, List.cons_append, List.nil_append, String.intercalate_cons_cons,
      String.intercalate_cons_cons, String.intercalate_cons_cons, ← String.append_assoc,
      ← String.append_assoc]
    rfl

theorem forall_mem_filter_pair {P : String → Prop} {s t : String} :
    (∀ part ∈ [s, t].filter fun s => !s.isEmpty, P part) ↔ (s ≠ "" → P s) ∧ (t ≠ "" → P t) := by
  simp [List.mem_filter]

/-- The root is well formed, so only the name and the version count. -/
theorem isNamespace_derivedNamespace_iff (name version : String) :
    IsNamespace (derivedNamespace name version) ↔
      (pascal name ≠ "" → IsPart (pascal name)) ∧
        (versionPart version ≠ "" → IsPart (versionPart version)) := by
  have hroot : ∀ part ∈ ["Google", "Apis"], IsPart part := by decide
  have hdots : ∀ part ∈ ["Google", "Apis"] ++ [pascal name, versionPart version].filter
      (fun s => !s.isEmpty), '.' ∉ part.toList := by
    refine List.forall_mem_append.2 ⟨by decide, forall_mem_filter_pair.2 ⟨fun _ => ?_, fun _ => ?_⟩⟩
    · obtain ⟨_, ⟨⟩, hbody⟩ := isWord_pascal name
      exact dot_notMem fun d hd => isPartChar_of_isAlphanum (hbody d hd)
    · exact dot_notMem (isPartChar_versionPart version)
  rw [derivedNamespace, intercalate_root, isNamespace_intercalate (by simp) hdots,
    List.forall_mem_append, forall_mem_filter_pair]
  exact and_iff_right hroot

/-- **When the derived namespace is well formed**: the first of the letters and digits in the name
of the service, if there are any, is a letter, and the version is no keyword. -/
theorem isNamespace_namespaceName_iff (hconfigured : c.config.configuredNamespace = .str "")
    (hroot : c.config.rootNamespace = .str "Google.Apis") :
    ∃ name, c.namespaceName = .ok (.str name) ∧
      (IsNamespace name ↔
        (kept c.service.name).head?.all Char.isAlpha = true ∧ c.service.version ∉ keywords) := by
  refine ⟨_, namespaceName_eq hconfigured hroot, ?_⟩
  rw [isNamespace_derivedNamespace_iff, isPart_pascal_iff, isPart_versionPart_iff]

/-- The context for a service whose version is made usable: the digit is put after a letter, and
what is neither a letter nor a digit becomes an underscore. -/
def betaContext : Context where
  service :=
    { name := "été-2", version := "2.0-bêta", title := .null, description := .null
      baseUri := .null, scopes := [], schemas := [], resources := [] }
  config := {}
  naming := ⟨"TService", [], []⟩

/-- The namespace of the service above. -/
theorem isNamespace_betaContext :
    betaContext.config.configuredNamespace = .str "" ∧
      betaContext.config.rootNamespace = .str "Google.Apis" ∧
      ∃ name, betaContext.namespaceName = .ok (.str name) ∧
        (IsNamespace name ↔
          (kept betaContext.service.name).head?.all Char.isAlpha = true ∧
            betaContext.service.version ∉ keywords) :=
  ⟨rfl, rfl, isNamespace_namespaceName_iff rfl rfl⟩

end Context

/-- A document whose name starts with a digit. -/
def numberedDocument : Json :=
  .object [("name", "1abc")]

/-- A document whose version is a keyword. -/
def keywordDocument : Json :=
  .object [("name", "x"), ("version", "class")]

/-- **A namespace that is not well formed**: the document is read, and with the default settings a
part of the namespace is no identifier or is a keyword. -/
def SpoilsNamespace (document : Json) (namespaceName : String) : Prop :=
  ∃ service l, Document.read document {} = .ok service l ∧
    (∀ naming, (⟨service, {}, naming⟩ : Context).namespaceName = .ok (.str namespaceName)) ∧
    ¬IsNamespace namespaceName

theorem spoilsNamespace_of_read {document : Json} (name version : String)
    (h : Session.passes (fun (s : Service) _ => s.name == name && s.version == version)
      (Document.read document {}) = true)
    (hspoilt : ¬IsNamespace (Context.derivedNamespace name version)) :
    SpoilsNamespace document (Context.derivedNamespace name version) := by
  obtain ⟨service, l, hread, hservice⟩ := Session.exists_of_passes h
  obtain ⟨hname, hversion⟩ := (Bool.and_eq_true _ _).mp hservice
  refine ⟨service, l, hread, fun naming => ?_, hspoilt⟩
  rw [Context.namespaceName_eq rfl rfl, eq_of_beq hname, eq_of_beq hversion]

/-- The name of a service may start with a digit, and its version may be a keyword. -/
theorem spoilsNamespace_numbered_and_keyword :
    SpoilsNamespace numberedDocument "Google.Apis.1Abc" ∧
      SpoilsNamespace keywordDocument "Google.Apis.X.class" :=
  ⟨spoilsNamespace_of_read "1abc" "" (by decide +kernel) (by decide),
    spoilsNamespace_of_read "x" "class" (by decide +kernel) (by decide)⟩

end ClientGen
