import ClientGen.Proofs.Code.Walk

/-!
# A code model as a forest

The members of a class are places in the model, and so are the members of those. Seen from
the top level, a model is a **forest** (`ClientGen.CodeModel.forest`): every declaration with
the declarations inside it, in order. What a model says about the target language, such as
which classes are nested where, is said on its forest, where no places occur.

A building adds declarations class by class, each followed at once by what is inside it. A
forest that is added in this way is **laid out** (`ClientGen.layout`): the entries stand in
the order of a depth-first walk. The main statement is that a forest that was laid out can be
read back from the model (`ClientGen.CodeModel.treesAt_layout`), even when further entries
stand before and after it, as long as these belong to other classes.
-/

namespace ClientGen

/-- A declaration with the declarations inside it. -/
inductive Tree
  | node (decl : Declaration) (members : List Tree) : Tree

namespace Tree

/-- The declaration itself. -/
def decl : Tree → Declaration
  | .node d _ => d

/-- The declarations right inside it. -/
def members : Tree → List Tree
  | .node _ ms => ms

/-- A declaration with nothing inside it. -/
def leaf (d : Declaration) : Tree :=
  .node d []

/-- The name of the declaration. -/
def name (t : Tree) : Json :=
  t.decl.name

/-- Whether the declaration is a class. -/
def isClass (t : Tree) : Bool :=
  t.decl.isClass

@[simp] theorem decl_node (d : Declaration) (ms : List Tree) : (node d ms).decl = d := rfl

@[simp] theorem members_node (d : Declaration) (ms : List Tree) : (node d ms).members = ms := rfl

@[simp] theorem decl_leaf (d : Declaration) : (leaf d).decl = d := rfl

@[simp] theorem members_leaf (d : Declaration) : (leaf d).members = [] := rfl

@[simp] theorem name_node (d : Declaration) (ms : List Tree) : (node d ms).name = d.name := rfl

mutual

/-- The number of declarations in a tree. -/
def count : Tree → Nat
  | .node _ ms => 1 + size ms

/-- The number of declarations in a forest. -/
def size : List Tree → Nat
  | [] => 0
  | t :: rest => t.count + size rest

end

theorem size_cons (d : Declaration) (ms rest : List Tree) :
    size (.node d ms :: rest) = 1 + size ms + size rest := rfl

@[simp] theorem size_leaf (d : Declaration) : size [leaf d] = 1 := rfl

end Tree

open ClientGen.Tree

/-! ### Reading a forest -/

/-- A declaration by itself: without its owner and without the places of its members. -/
def Declaration.detached (d : Declaration) : Declaration :=
  { d.mapMembers (fun _ => []) with parent := none }

namespace CodeModel

/-- The trees of the declarations at some places, with a bound for the number of levels. -/
def treesAt (m : CodeModel) : Nat → List Nat → List Tree
  | 0, _ => []
  | fuel + 1, places => places.filterMap fun i =>
    m.nodes[i]?.map fun d => .node d.detached (m.treesAt fuel (m.memberPlaces i))

/-- **The forest of a model.** No chain of members is longer than the number of
declarations. -/
def forest (m : CodeModel) : List Tree :=
  m.treesAt m.size m.topLevel

theorem treesAt_append (m : CodeModel) (fuel : Nat) (ps qs : List Nat) :
    m.treesAt fuel (ps ++ qs) = m.treesAt fuel ps ++ m.treesAt fuel qs := by
  cases fuel with
  | zero => rfl
  | succ fuel => exact List.filterMap_append

end CodeModel

/-! ### Laying a forest out -/

mutual

/-- The entries of a tree under an owner, the first of them at a given place. -/
def layoutTree (owner : Option Int) (start : Nat) : Tree → List Declaration
  | .node d ms => d.under owner :: layout (some start) (start + 1) ms

/-- **The entries of a forest under an owner**, the first of them at a given place: each
declaration is followed by what is inside it. -/
def layout (owner : Option Int) (start : Nat) : List Tree → List Declaration
  | [] => []
  | t :: rest => layoutTree owner start t ++ layout owner (start + t.count) rest

end

theorem layout_cons (owner : Option Int) (start : Nat) (d : Declaration) (ms rest : List Tree) :
    layout owner start (.node d ms :: rest) = d.under owner ::
      (layout (some start) (start + 1) ms ++ layout owner (start + 1 + size ms) rest) := by
  rw [layout, layoutTree, count, List.cons_append, Nat.add_assoc]

/-- The places of the outermost declarations of a forest that is laid out. -/
def roots (start : Nat) : List Tree → List Nat
  | [] => []
  | t :: rest => start :: roots (start + t.count) rest

theorem roots_cons (start : Nat) (d : Declaration) (ms rest : List Tree) :
    roots start (.node d ms :: rest) = start :: roots (start + 1 + size ms) rest := by
  rw [roots, count, Nat.add_assoc]

/-- Every declaration of a forest stands by itself. -/
inductive Detached : List Tree → Prop
  | nil : Detached []
  | cons {d : Declaration} {ms rest : List Tree} : d.detached = d → Detached ms →
    Detached rest → Detached (.node d ms :: rest)

theorem Detached.append {f g : List Tree} (hf : Detached f) (hg : Detached g) :
    Detached (f ++ g) := by
  induction hf with
  | nil => exact hg
  | cons hd hms _ _ ih => exact .cons hd hms ih

@[simp] theorem length_layout :
    ∀ (owner : Option Int) (start : Nat) (f : List Tree),
      (layout owner start f).length = size f
  | _, _, [] => rfl
  | owner, start, .node d ms :: rest => by
    rw [layout_cons, size_cons, List.length_cons, List.length_append,
      length_layout (some (start : Int)) (start + 1) ms, length_layout owner _ rest]
    omega

theorem layout_append (owner : Option Int) :
    ∀ (start : Nat) (f g : List Tree),
      layout owner start (f ++ g) = layout owner start f ++ layout owner (start + size f) g
  | start, [], g => by simp [layout, size]
  | start, .node d ms :: rest, g => by
    rw [List.cons_append, layout_cons, layout_cons, layout_append owner _ rest g, size_cons]
    simp [Nat.add_assoc]

/-- A tree at the end of a forest, as entries: what is inside it comes last. -/
theorem layout_snoc (owner : Option Int) (start : Nat) (f : List Tree) (d : Declaration)
    (ms : List Tree) :
    layout owner start (f ++ [.node d ms]) = layout owner start f ++ d.under owner ::
      layout (some ((start + size f : Nat) : Int)) (start + size f + 1) ms := by
  rw [layout_append, layout_cons, layout, List.append_nil]

/-- The owner of an entry of a forest is the owner of the forest or stands in it. -/
theorem parent_of_mem_layout {e : Declaration} :
    ∀ {owner : Option Int} {start : Nat} {f : List Tree}, e ∈ layout owner start f →
      e.parent = owner ∨ ∃ q : Nat, e.parent = some (q : Int) ∧ start ≤ q ∧ q < start + size f
  | _, _, [], he => by cases he
  | owner, start, .node d ms :: rest, he => by
    rw [layout_cons, List.mem_cons, List.mem_append] at he
    rw [size_cons]
    rcases he with rfl | he | he
    · exact .inl rfl
    · rcases parent_of_mem_layout he with ho | ⟨q, ho, hle, hlt⟩
      · exact .inr ⟨start, ho, by omega, by omega⟩
      · exact .inr ⟨q, ho, by omega, by omega⟩
    · rcases parent_of_mem_layout he with ho | ⟨q, ho, hle, hlt⟩
      · exact .inl ho
      · exact .inr ⟨q, ho, by omega, by omega⟩

/-! ### Places of entries that are laid out -/

theorem placesOf_append (ds es : List Declaration) (owner : Option Int) :
    placesOf (ds ++ es) owner = placesOf ds owner ++ (placesOf es owner).map (ds.length + ·) := by
  rw [placesOf, List.length_append, List.range_add, List.filter_append, List.filter_map, placesOf,
    placesOf]
  congr 1
  · refine List.filter_congr fun i hi => ?_
    rw [List.getElem?_append_left (List.mem_range.1 hi)]
  · congr 1
    refine List.filter_congr fun i _ => ?_
    simp only [Function.comp_apply]
    rw [List.getElem?_append_right (by omega), Nat.add_sub_cancel_left]

theorem placesOf_eq_nil {ds : List Declaration} {owner : Option Int}
    (h : ∀ e ∈ ds, e.parent ≠ owner) : placesOf ds owner = [] := by
  refine List.eq_nil_iff_forall_not_mem.2 fun i hi => ?_
  obtain ⟨e, he, ho⟩ := mem_placesOf.1 hi
  exact h e (List.mem_of_getElem? he) ho

/-- An owner outside a forest owns nothing in it, unless it owns the whole forest. -/
theorem placesOf_layout_of_ne {owner : Option Int} {start : Nat} {f : List Tree} {p : Nat}
    (ho : owner ≠ some (p : Int)) (hp : p < start ∨ start + size f ≤ p) :
    placesOf (layout owner start f) (some p) = [] := by
  refine placesOf_eq_nil fun e he hparent => ?_
  rcases parent_of_mem_layout he with h | ⟨q, h, hle, hlt⟩
  · exact ho (h.symm.trans hparent)
  · obtain rfl := Int.ofNat.inj (Option.some.inj (h.symm.trans hparent))
    omega

/-- The owner of a forest owns its outermost declarations. -/
theorem placesOf_layout (owner : Option Int) :
    ∀ (start : Nat) (f : List Tree), (∀ q : Int, owner = some q → q < start) →
      (placesOf (layout owner start f) owner).map (start + ·) = roots start f
  | _, [], _ => rfl
  | start, .node d ms :: rest, ho => by
    have hinside : placesOf (layout (some (start : Int)) (start + 1) ms) owner = [] := by
      refine placesOf_eq_nil fun e he hparent => ?_
      rcases parent_of_mem_layout he with h | ⟨q, h, hle, -⟩
      · have := ho start (hparent.symm.trans h)
        omega
      · have := ho q (hparent.symm.trans h)
        omega
    have hrest := placesOf_layout owner (start + 1 + size ms) rest
      fun q hq => by have := ho q hq; omega
    rw [layout_cons, ← List.singleton_append, placesOf_append, placesOf_append, hinside, roots_cons,
      ← hrest]
    have hself : placesOf [d.under owner] owner = [0] := by simp [placesOf]
    simp [hself, Function.comp_def, Nat.add_assoc]

theorem exists_left_of_forall₂ {α β : Type} {R : α → β → Prop} {xs : List α} {ys : List β}
    (h : List.Forall₂ R xs ys) {y : β} (hy : y ∈ ys) : ∃ x ∈ xs, R x y := by
  induction h with
  | nil => cases hy
  | cons hxy _ ih =>
    rcases List.mem_cons.1 hy with rfl | hy
    · exact ⟨_, List.mem_cons_self, hxy⟩
    · obtain ⟨x, hx, hR⟩ := ih hy
      exact ⟨x, List.mem_cons_of_mem _ hx, hR⟩

theorem exists_right_of_forall₂ {α β : Type} {R : α → β → Prop} {xs : List α} {ys : List β}
    (h : List.Forall₂ R xs ys) {x : α} (hx : x ∈ xs) : ∃ y ∈ ys, R x y :=
  exists_left_of_forall₂ h.flip hx

/-- The outermost declarations of a forest stand at its roots. -/
theorem forall₂_roots (owner : Option Int) :
    ∀ (front : List Declaration) (f : List Tree), List.Forall₂ (fun i (t : Tree) =>
      (front ++ layout owner front.length f)[i]? = some (t.decl.under owner))
      (roots front.length f) f
  | _, [] => .nil
  | front, .node d ms :: rest => by
    -- what stands before the rest of the forest
    let before := front ++ d.under owner :: layout (some (front.length : Int)) (front.length + 1) ms
    have hlength : before.length = front.length + 1 + size ms := by
      simp only [before, List.length_append, List.length_cons, length_layout]
      omega
    have hentries : front ++ layout owner front.length (.node d ms :: rest) =
        before ++ layout owner before.length rest := by
      rw [layout_cons, hlength]
      simp [before]
    rw [roots_cons, ← hlength]
    refine .cons (by simp [layout_cons]) ?_
    rw [hentries]
    exact forall₂_roots owner before rest

/-! ### Reading a forest back -/

/-- Entries that stand before a forest have their owners before it. -/
theorem Coherent.parent_lt {front back : List Declaration} (h : Coherent (front ++ back))
    {e : Declaration} (he : e ∈ front) {q : Int} (ho : e.parent = some q) : q < front.length := by
  obtain ⟨i, hi⟩ := List.mem_iff_getElem?.1 he
  have hlt := (List.getElem?_eq_some_iff.1 hi).1
  have hget : (front ++ back)[i]? = some e := by rw [List.getElem?_append_left hlt, hi]
  obtain ⟨p, -, rfl, hp, -⟩ := h.ownerClass hget ho
  omega

theorem Declaration.detached_settle {d : Declaration} (h : d.detached = d) (ds : List Declaration)
    (i : Nat) (owner : Option Int) : (settle ds i (d.under owner)).detached = d := by
  obtain ⟨name, access, modifiers, attributes, comment, parent, body⟩ := d
  cases body <;> exact h

namespace CodeModel

variable {m : CodeModel} {ds : List Declaration}

/-- The members of a declaration that stands in front of its own forest. -/
theorem memberPlaces_layout (front back : List Declaration) (d : Declaration)
    (owner : Option Int) {ms : List Tree} (hds : ds = front ++ d.under owner ::
      (layout (some (front.length : Int)) (front.length + 1) ms ++ back))
    (h : Coherent ds) (ho : ∀ q : Int, owner = some q → q < front.length)
    (hback : ∀ e ∈ back, e.parent ≠ some (front.length : Int)) :
    (m.withEntries ds).memberPlaces front.length = roots (front.length + 1) ms := by
  rw [memberPlaces_withEntries h]
  have hfront : placesOf front (some (front.length : Int)) = [] := by
    refine placesOf_eq_nil fun e he hparent => ?_
    have := (hds ▸ h).parent_lt he hparent
    omega
  have hself : placesOf [d.under owner] (some (front.length : Int)) = [] := by
    refine placesOf_eq_nil fun e he hparent => ?_
    rw [List.mem_singleton.1 he] at hparent
    have := ho _ hparent
    omega
  have hroots : (placesOf (layout (some (front.length : Int)) (front.length + 1) ms)
      (some (front.length : Int))).map (front.length + 1 + ·) = roots (front.length + 1) ms :=
    placesOf_layout _ _ ms fun q hq => by cases hq; omega
  rw [hds, ← List.singleton_append, placesOf_append, placesOf_append, placesOf_append, hfront,
    hself, placesOf_eq_nil hback, ← hroots]
  simp [Function.comp_def, Nat.add_assoc]

/-- **A forest that was laid out is read back from the model**, if what stands after it
belongs to other classes. -/
theorem treesAt_layout :
    ∀ {front back ds : List Declaration} {owner : Option Int} {f : List Tree} (fuel : Nat),
      ds = front ++ layout owner front.length f ++ back → Coherent ds →
      (∀ q : Int, owner = some q → q < front.length) →
      (∀ e ∈ back, ∀ q : Nat, e.parent = some (q : Int) →
        q < front.length ∨ front.length + Tree.size f ≤ q) →
      Detached f → Tree.size f ≤ fuel → (m.withEntries ds).treesAt fuel (roots front.length f) = f
  | _, _, _, _, [], fuel, _, _, _, _, _, _ => by cases fuel <;> rfl
  | _, _, _, _, .node _ _ :: _, 0, _, _, _, _, _, hfuel => by
    rw [Tree.size_cons] at hfuel
    omega
  | front, back, ds, owner, .node d ms :: rest, fuel + 1, hds, h, ho, hback, hf, hfuel => by
    obtain _ | ⟨hd, hms, hrest⟩ := hf
    rw [Tree.size_cons] at hfuel hback
    -- the entries as they look from inside the first tree, and from behind it
    have hinside : ds = (front ++ [d.under owner]) ++
        layout (some (front.length : Int)) (front ++ [d.under owner]).length ms ++
        (layout owner (front.length + 1 + Tree.size ms) rest ++ back) := by
      simp [hds, layout_cons]
    have hbehind : ds = (front ++ d.under owner ::
          layout (some (front.length : Int)) (front.length + 1) ms) ++
        layout owner (front ++ d.under owner ::
          layout (some (front.length : Int)) (front.length + 1) ms).length rest ++ back := by
      simp [hds, layout_cons, Nat.add_assoc, Nat.add_comm]
    have hnode : (m.withEntries ds).nodes[front.length]? =
        some (settle ds front.length (d.under owner)) := by
      rw [withEntries_nodes, hds]
      simp [layout_cons]
    have howners : ∀ e ∈ layout owner (front.length + 1 + Tree.size ms) rest ++ back, ∀ q : Nat,
        e.parent = some (q : Int) → q < front.length ∨ front.length + 1 + Tree.size ms ≤ q := by
      intro e he q hq
      rcases List.mem_append.1 he with he | he
      · rcases parent_of_mem_layout he with hparent | ⟨r, hparent, hle, -⟩
        · have := ho _ (hparent.symm.trans hq)
          omega
        · obtain rfl := Int.ofNat.inj (Option.some.inj (hparent.symm.trans hq))
          omega
      · have := hback e he q hq
        omega
    have hmembers : (m.withEntries ds).memberPlaces front.length = roots (front.length + 1) ms := by
      refine memberPlaces_layout front
        (layout owner (front.length + 1 + Tree.size ms) rest ++ back) d owner ?_ h ho
        fun e he hp => ?_
      · simp [hds, layout_cons]
      · have := howners e he _ hp
        omega
    have hchildren : (m.withEntries ds).treesAt fuel (roots (front.length + 1) ms) = ms := by
      have hread := treesAt_layout fuel hinside h (fun q hq => ?_) (fun e he q hq => ?_) hms
        (by omega)
      · simpa using hread
      · obtain rfl := Option.some.inj hq
        simp only [List.length_append, List.length_singleton]
        omega
      · have := howners e he q hq
        simp only [List.length_append, List.length_singleton]
        omega
    have hlater : (m.withEntries ds).treesAt (fuel + 1)
        (roots (front.length + 1 + Tree.size ms) rest) = rest := by
      have hread := treesAt_layout (fuel + 1) hbehind h
        (fun q hq => by have := ho q hq; simp; omega) (fun e he q hq => ?_) hrest (by omega)
      · simpa [Nat.add_assoc, Nat.add_comm] using hread
      · have := hback e he q hq
        simp only [List.length_append, List.length_cons, length_layout]
        omega
    rw [roots_cons, ← List.singleton_append, treesAt_append, hlater, treesAt, List.filterMap_cons,
      hnode, List.filterMap_nil, hmembers, hchildren]
    simp [Declaration.detached_settle hd]

/-- **The forest of a model whose first class was filled last but one**: after the class come
other trees of the top level, then the members of the class, then more trees of the top
level. -/
theorem forest_layout {d : Declaration} {rs ms ss : List Tree}
    (hds : ds = d.under none :: (layout none 1 rs ++ layout (some 0) (1 + Tree.size rs) ms ++
      layout none (1 + Tree.size rs + Tree.size ms) ss))
    (h : Coherent ds) (hd : d.detached = d) (hrs : Detached rs) (hms : Detached ms)
    (hss : Detached ss) : (m.withEntries ds).forest = .node d ms :: (rs ++ ss) := by
  have hlength : ds.length = 1 + Tree.size rs + Tree.size ms + Tree.size ss := by
    rw [hds]
    simp
    omega
  have hinner : ∀ e ∈ layout (some 0) (1 + Tree.size rs) ms, ∀ q : Nat,
      e.parent = some (q : Int) → q < 1 ∨ 1 + Tree.size rs ≤ q := by
    intro e he q hq
    rcases parent_of_mem_layout he with hparent | ⟨r, hparent, hle, -⟩
    · have := Option.some.inj (hparent.symm.trans hq)
      omega
    · obtain rfl := Int.ofNat.inj (Option.some.inj (hparent.symm.trans hq))
      omega
  have hlast : ∀ e ∈ layout none (1 + Tree.size rs + Tree.size ms) ss, ∀ q : Nat,
      e.parent = some (q : Int) → 1 + Tree.size rs + Tree.size ms ≤ q := by
    intro e he q hq
    rcases parent_of_mem_layout he with hparent | ⟨r, hparent, hle, -⟩
    · cases hparent.symm.trans hq
    · obtain rfl := Int.ofNat.inj (Option.some.inj (hparent.symm.trans hq))
      exact hle
  -- each block as it looks from its own first place
  have hfirst : ds = [d.under none] ++ layout none [d.under none].length rs ++
      (layout (some 0) (1 + Tree.size rs) ms ++
        layout none (1 + Tree.size rs + Tree.size ms) ss) := by
    simp [hds]
  have hfilled : ds = (d.under none :: layout none 1 rs) ++
      layout (some 0) (d.under none :: layout none 1 rs).length ms ++
      layout none (1 + Tree.size rs + Tree.size ms) ss := by
    simp [hds, Nat.add_comm]
  have hrest : ds = (d.under none :: (layout none 1 rs ++ layout (some 0) (1 + Tree.size rs) ms)) ++
      layout none (d.under none ::
        (layout none 1 rs ++ layout (some 0) (1 + Tree.size rs) ms)).length ss ++ [] := by
    simp [hds, Nat.add_comm, Nat.add_assoc]
  have hresources : (m.withEntries ds).treesAt ds.length (roots 1 rs) = rs := by
    refine treesAt_layout _ hfirst h (by simp) (fun e he q hq => ?_) hrs (by omega)
    rcases List.mem_append.1 he with he | he
    · exact hinner e he q hq
    · have := hlast e he q hq
      simp only [List.length_singleton]
      omega
  have hmembers (fuel : Nat) (hfuel : Tree.size ms ≤ fuel) :
      (m.withEntries ds).treesAt fuel (roots (1 + Tree.size rs) ms) = ms := by
    have hread := treesAt_layout (m := m) fuel hfilled h (fun q hq => by cases hq; simp)
      (fun e he q hq => ?_) hms hfuel
    · simpa [Nat.add_comm] using hread
    · have := hlast e he q hq
      simp only [List.length_cons, length_layout]
      omega
  have hschemas : (m.withEntries ds).treesAt ds.length
      (roots (1 + Tree.size rs + Tree.size ms) ss) = ss := by
    have hread := treesAt_layout (m := m) ds.length hrest h (by simp) (by simp) hss (by omega)
    simpa [Nat.add_comm, Nat.add_assoc] using hread
  have hnode : (m.withEntries ds).nodes[0]? = some (settle ds 0 (d.under none)) := by
    rw [withEntries_nodes, hds]
    rfl
  have htop : placesOf ds none =
      0 :: (roots 1 rs ++ roots (1 + Tree.size rs + Tree.size ms) ss) := by
    have hself : placesOf [d.under none] none = [0] := by simp [placesOf]
    have hinside : placesOf (layout (some 0) (1 + Tree.size rs) ms) none = [] := by
      refine placesOf_eq_nil fun e he hparent => ?_
      rcases parent_of_mem_layout he with hparent' | ⟨r, hparent', -⟩
      · cases hparent.symm.trans hparent'
      · cases hparent.symm.trans hparent'
    rw [hds, ← List.singleton_append, placesOf_append, List.append_assoc, placesOf_append,
      placesOf_append, hself, hinside, ← placesOf_layout none 1 rs (by simp),
      ← placesOf_layout none (1 + Tree.size rs + Tree.size ms) ss (by simp)]
    simp [Function.comp_def, Nat.add_assoc]
  have hplaces : (m.withEntries ds).memberPlaces 0 = roots (1 + Tree.size rs) ms := by
    have hself : placesOf [d.under none] (some 0) = [] := by simp [placesOf]
    have hbefore : placesOf (layout none 1 rs) (some (0 : Nat)) = [] :=
      placesOf_layout_of_ne (by simp) (by omega)
    have hafter :
        placesOf (layout none (1 + Tree.size rs + Tree.size ms) ss) (some (0 : Nat)) = [] :=
      placesOf_layout_of_ne (by simp) (by omega)
    rw [memberPlaces_withEntries h, hds, ← List.singleton_append, placesOf_append,
      List.append_assoc, placesOf_append, placesOf_append, hbefore, hafter,
      ← placesOf_layout (some 0) (1 + Tree.size rs) ms fun q hq => by cases hq; omega]
    simp [hself, Function.comp_def, Nat.add_assoc]
  have hsize : ds.length = (1 + Tree.size rs + Tree.size ms + Tree.size ss - 1) + 1 := by omega
  rw [forest, withEntries_size, withEntries_topLevel, htop, ← List.singleton_append,
    treesAt_append, treesAt_append, hresources, hschemas, hsize, treesAt, List.filterMap_cons,
    hnode, List.filterMap_nil, hplaces, hmembers _ (by omega)]
  simp [Declaration.detached_settle hd]

end CodeModel

end ClientGen
