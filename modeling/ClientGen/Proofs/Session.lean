import ClientGen.Ledger
import Mathlib.Data.List.Forall2

/-!
# Running sessions and outcomes

How the parts of a session run on a state. A session is a function from a state to a result
with a state, so each law here is an equation about one application; the laws are simp
lemmas, so that `simp` runs a session as far as its parts are known. They hold of every
computation with a state that a failure keeps, whatever it fails with.

The state in which a session ends, whether it fails or not, is `ClientGen.Session.after`.
-/

namespace ClientGen

namespace Session

variable {ε σ α β : Type}

@[simp] theorem pure_run (a : α) (s : σ) : (pure a : EStateM ε σ α) s = .ok a s := rfl

@[simp] theorem throw_run (e : ε) (s : σ) : (throw e : EStateM ε σ α) s = .error e s := rfl

@[simp] theorem get_run (s : σ) : (MonadState.get : EStateM ε σ σ) s = .ok s s := rfl

@[simp] theorem set_run (t s : σ) : (set t : EStateM ε σ PUnit) s = .ok ⟨⟩ t := rfl

@[simp] theorem modify_run (f : σ → σ) (s : σ) :
    (modify f : EStateM ε σ PUnit) s = .ok ⟨⟩ (f s) := rfl

theorem bind_run (x : EStateM ε σ α) (f : α → EStateM ε σ β) (s : σ) :
    (x >>= f) s = match x s with
      | .ok a t => f a t
      | .error e t => .error e t := by
  simp only [bind, EStateM.bind]
  cases x s <;> rfl

theorem bind_run_of_ok {x : EStateM ε σ α} {s t : σ} {a : α} (h : x s = .ok a t)
    (f : α → EStateM ε σ β) : (x >>= f) s = f a t := by
  rw [bind_run, h]

theorem bind_run_of_error {x : EStateM ε σ α} {s t : σ} {e : ε} (h : x s = .error e t)
    (f : α → EStateM ε σ β) : (x >>= f) s = .error e t := by
  rw [bind_run, h]

@[simp] theorem lift_run (o : Outcome α) (s : σ) :
    (liftM o : Session σ α) s = match o with
      | .ok a => .ok a s
      | .error e => .error e s := by
  cases o <;> rfl

theorem lift_ok_bind (a : α) (f : α → Session σ β) :
    ((liftM (Except.ok a : Outcome α) : Session σ α) >>= f) = f a := rfl

theorem bind_eq_ok {x : EStateM ε σ α} {f : α → EStateM ε σ β} {s t : σ} {b : β} :
    (x >>= f) s = .ok b t ↔ ∃ a s', x s = .ok a s' ∧ f a s' = .ok b t := by
  rw [bind_run]
  cases x s with
  | error e s' => simp
  | ok a s' =>
    constructor
    · exact fun h => ⟨a, s', rfl, h⟩
    · rintro ⟨_, _, ⟨⟩, h⟩
      exact h

theorem bind_eq_error {x : EStateM ε σ α} {f : α → EStateM ε σ β} {s t : σ} {e : ε} :
    (x >>= f) s = .error e t ↔
      x s = .error e t ∨ ∃ a s', x s = .ok a s' ∧ f a s' = .error e t := by
  rw [bind_run]
  cases x s with
  | error e' s' => simp
  | ok a s' =>
    constructor
    · exact fun h => .inr ⟨a, s', rfl, h⟩
    · rintro (h | ⟨_, _, ⟨⟩, h⟩)
      · cases h
      · exact h

theorem lift_eq_ok {o : Outcome α} {s t : σ} {a : α} :
    (liftM o : Session σ α) s = .ok a t ↔ o = .ok a ∧ s = t := by
  rw [lift_run]
  cases o <;> simp

/-- Whether a run succeeds, with a value and a state that pass a test. -/
def passes (test : α → σ → Bool) : EStateM.Result ε σ α → Bool
  | .ok a s => test a s
  | .error _ _ => false

theorem exists_of_passes {test : α → σ → Bool} {r : EStateM.Result ε σ α}
    (h : passes test r = true) : ∃ a s, r = .ok a s ∧ test a s = true := by
  cases r with
  | ok a s => exact ⟨a, s, rfl, h⟩
  | error e s => cases h

/-- The state in which a session ends. -/
def after (x : Session σ α) (s : σ) : σ :=
  match x s with
  | .ok _ t => t
  | .error _ t => t

theorem after_of_ok {x : Session σ α} {s t : σ} {a : α} (h : x s = .ok a t) : x.after s = t := by
  rw [after, h]

theorem after_of_error {x : Session σ α} {s t : σ} {e : Failure} (h : x s = .error e t) :
    x.after s = t := by
  rw [after, h]

section After

variable {s t : σ} {x : Session σ α} {k : α → Session σ β}

theorem after_bind_of_ok {a : α} (h : x s = .ok a t) : (x >>= k).after s = (k a).after t := by
  rw [after, bind_run_of_ok h, after]

theorem after_bind_of_error {e : Failure} (h : x s = .error e t) : (x >>= k).after s = t :=
  after_of_error (bind_run_of_error h k)

variable {P : σ → Prop}

/-- What holds after a step, and from then on after the rest, holds after both. -/
theorem after_bind (hx : P (x.after s))
    (hk : ∀ a t, x s = .ok a t → P t → P ((k a).after t)) : P ((x >>= k).after s) := by
  cases hrun : x s with
  | ok a t =>
    rw [after_of_ok hrun] at hx
    rw [after_bind_of_ok hrun]
    exact hk a t hrun hx
  | error e t =>
    rw [after_of_error hrun] at hx
    rwa [after_bind_of_error hrun]

theorem after_lift_bind {o : Outcome α} (hs : P s) (hk : ∀ a, P ((k a).after s)) :
    P ((liftM o >>= k : Session σ β).after s) := by
  cases o with
  | ok a => exact hk a
  | error e => exact hs

end After

end Session

namespace Outcome

variable {ε α β γ : Type}

theorem bind_eq_ok {x : Except ε α} {f : α → Except ε β} {b : β} :
    (x >>= f) = .ok b ↔ ∃ a, x = .ok a ∧ f a = .ok b := by
  cases x with
  | error e => simp [bind, Except.bind]
  | ok a => simp [bind, Except.bind]

theorem mapM_cons_eq_ok {f : α → Except ε β} {a : α} {as : List α} {bs : List β} :
    (a :: as).mapM f = .ok bs ↔ ∃ c cs, f a = .ok c ∧ as.mapM f = .ok cs ∧ bs = c :: cs := by
  rw [List.mapM_cons, bind_eq_ok]
  refine exists_congr fun c => ?_
  rw [bind_eq_ok]
  constructor
  · rintro ⟨hc, cs, hcs, ⟨⟩⟩
    exact ⟨cs, hc, hcs, rfl⟩
  · rintro ⟨cs, hc, hcs, rfl⟩
    exact ⟨hc, cs, hcs, rfl⟩

theorem mapM_map {f : β → Except ε α} {g : α → β} (h : ∀ a, f (g a) = .ok a) (as : List α) :
    (as.map g).mapM f = .ok as := by
  induction as with
  | nil => rfl
  | cons a as ih => exact mapM_cons_eq_ok.2 ⟨a, as, h a, ih, rfl⟩

theorem exists_mapM {f : α → Except ε β} {as : List α} (h : ∀ a ∈ as, ∃ b, f a = .ok b) :
    ∃ bs, as.mapM f = .ok bs := by
  induction as with
  | nil => exact ⟨[], rfl⟩
  | cons a as ih =>
    obtain ⟨⟨b, hb⟩, hrest⟩ := List.forall_mem_cons.1 h
    obtain ⟨bs, hbs⟩ := ih hrest
    exact ⟨b :: bs, mapM_cons_eq_ok.2 ⟨b, bs, hb, hbs, rfl⟩⟩

theorem length_mapM {f : α → Except ε β} {as : List α} {bs : List β}
    (h : as.mapM f = .ok bs) : bs.length = as.length := by
  induction as generalizing bs with
  | nil =>
    rw [List.mapM_nil] at h
    cases h
    rfl
  | cons a as ih =>
    obtain ⟨c, cs, -, hcs, rfl⟩ := mapM_cons_eq_ok.1 h
    rw [List.length_cons, List.length_cons, ih hcs]

theorem forall₂_of_mapM {f : α → Except ε β} {as : List α} {bs : List β}
    (h : as.mapM f = .ok bs) : List.Forall₂ (fun a b => f a = .ok b) as bs := by
  induction as generalizing bs with
  | nil =>
    rw [List.mapM_nil] at h
    cases h
    exact .nil
  | cons a as ih =>
    obtain ⟨c, cs, hc, hcs, rfl⟩ := mapM_cons_eq_ok.1 h
    exact .cons hc (ih hcs)

/-- Mappings whose values agree in some respect give lists that agree in it. -/
theorem map_eq_of_mapM {f g : α → Except ε β} {k : β → γ} {as : List α} {bs cs : List β}
    (h : ∀ a ∈ as, ∀ b c, f a = .ok b → g a = .ok c → k b = k c)
    (hf : as.mapM f = .ok bs) (hg : as.mapM g = .ok cs) : bs.map k = cs.map k := by
  induction as generalizing bs cs with
  | nil =>
    rw [List.mapM_nil] at hf hg
    cases hf
    cases hg
    rfl
  | cons a as ih =>
    obtain ⟨b, bs, hb, hbs, rfl⟩ := mapM_cons_eq_ok.1 hf
    obtain ⟨c, cs, hc, hcs, rfl⟩ := mapM_cons_eq_ok.1 hg
    rw [List.map_cons, List.map_cons, h a List.mem_cons_self b c hb hc,
      ih (fun a' ha' => h a' (List.mem_cons_of_mem a ha')) hbs hcs]

theorem eq_of_mapM {f g : α → Except ε β} {as : List α} {bs cs : List β}
    (h : ∀ a ∈ as, ∀ b c, f a = .ok b → g a = .ok c → b = c)
    (hf : as.mapM f = .ok bs) (hg : as.mapM g = .ok cs) : bs = cs := by
  have hmap : bs.map id = cs.map id := map_eq_of_mapM h hf hg
  rwa [List.map_id, List.map_id] at hmap

theorem of_mem_mapM {f : α → Except ε β} {as : List α} {bs : List β}
    (h : as.mapM f = .ok bs) {b : β} (hb : b ∈ bs) : ∃ a ∈ as, f a = .ok b := by
  induction as generalizing bs with
  | nil =>
    rw [List.mapM_nil] at h
    cases h
    cases hb
  | cons a as ih =>
    obtain ⟨c, cs, hc, hcs, rfl⟩ := mapM_cons_eq_ok.1 h
    rcases List.mem_cons.1 hb with rfl | hb
    · exact ⟨a, List.mem_cons_self, hc⟩
    · obtain ⟨a', ha', hf⟩ := ih hcs hb
      exact ⟨a', List.mem_cons_of_mem a ha', hf⟩

end Outcome

end ClientGen
