import JniBridge.Proofs.Outcome
/-
Two computations that end together.

`Together R E x y` says that `x` and `y` both have an answer or both fail, with answers related by `R` and
failures by `E`.  As with `Ends`, one statement covers success and failure at once, and the statements
compose along sequencing (`Together.bind`, `Together.logged`) and along lists (`together_mapM`).

What related lists have in common is Mathlib's `List.Forall₂`, and for options `Option.Rel`.
-/

namespace JniBridge

variable {α β γ δ : Type}

/-- Both have answers and these are related, or both fail and the failures are. -/
inductive Together (R : α → β → Prop) (E : LinkError → LinkError → Prop) :
    Except LinkError α → Except LinkError β → Prop
  | ok {a b} (h : R a b) : Together R E (.ok a) (.ok b)
  | error {e e'} (h : E e e') : Together R E (.error e) (.error e')

namespace Together

variable {R R' : α → β → Prop} {S : γ → δ → Prop} {E E' : LinkError → LinkError → Prop}
  {x : Except LinkError α} {y : Except LinkError β}

theorem imp (h : Together R E x y) (hR : ∀ a b, R a b → R' a b) (hE : ∀ e e', E e e' → E' e e') :
    Together R' E' x y := by
  cases h with
  | ok h => exact .ok (hR _ _ h)
  | error h => exact .error (hE _ _ h)

/-- One and the same computation ends with itself. -/
theorem refl {R : α → α → Prop} (x : Except LinkError α) (hR : ∀ a, R a a) (hE : ∀ e, E e e) :
    Together R E x x := by
  cases x with
  | ok a => exact .ok (hR a)
  | error e => exact .error (hE e)

theorem map {f : α → γ} {g : β → δ} (h : Together (fun a b => S (f a) (g b)) E x y) :
    Together S E (x.map f) (y.map g) := by
  cases h with
  | ok h => exact .ok h
  | error h => exact .error h

/-- What goes on together after related answers ends together. -/
theorem bind {f : α → Except LinkError γ} {g : β → Except LinkError δ} (h : Together R E x y)
    (hf : ∀ a b, R a b → Together S E (f a) (g b)) : Together S E (x >>= f) (y >>= g) := by
  cases h with
  | ok h => exact hf _ _ h
  | error h => exact .error h

/-- The same for logged computations; their events may differ. -/
theorem logged {x : Logged α} {y : Logged β} {f : α → Logged γ} {g : β → Logged δ}
    (h : Together R E x.outcome y.outcome)
    (hf : ∀ a b, R a b → Together S E (f a).outcome (g b).outcome) :
    Together S E (x >>= f).outcome (y >>= g).outcome := by
  rw [Logged.outcome_bind, Logged.outcome_bind]
  exact h.bind hf

/-- A computation without events may stand first. -/
theorem lifted {f : α → Logged γ} {g : β → Logged δ} (h : Together R E x y)
    (hf : ∀ a b, R a b → Together S E (f a).outcome (g b).outcome) :
    Together S E (Logged.ofExcept x >>= f).outcome (Logged.ofExcept y >>= g).outcome :=
  logged (x := Logged.ofExcept x) (y := Logged.ofExcept y) h hf

/-- If the left one has an answer, so has the right one. -/
theorem exists_ok (h : Together R E x y) {a : α} (ha : x = .ok a) : ∃ b, y = .ok b ∧ R a b := by
  subst ha
  cases h with
  | ok h => exact ⟨_, rfl, h⟩

end Together

/-- Reported events do not matter. -/
theorem together_tell {S : γ → δ → Prop} {E : LinkError → LinkError → Prop} {event event' : Event}
    {f : Unit → Logged γ} {g : Unit → Logged δ} (h : Together S E (f ()).outcome (g ()).outcome) :
    Together S E (Logged.tell event >>= f).outcome (Logged.tell event' >>= g).outcome := by
  rw [Logged.outcome_bind, Logged.outcome_bind]
  exact h

/-- Lists of computations that end together, one by one. -/
theorem together_mapM {P : α → β → Prop} {R : γ → δ → Prop} {E : LinkError → LinkError → Prop}
    {f : α → Except LinkError γ} {g : β → Except LinkError δ} {xs : List α} {ys : List β}
    (h : List.Forall₂ P xs ys) (hf : ∀ x y, P x y → Together R E (f x) (g y)) :
    Together (List.Forall₂ R) E (xs.mapM f) (ys.mapM g) := by
  induction h with
  | nil => exact .ok .nil
  | cons hxy _ ih =>
    rw [List.mapM_cons, List.mapM_cons]
    refine (hf _ _ hxy).bind fun a b hab => ?_
    exact ih.bind fun as bs habs => .ok (.cons hab habs)

/-! ## Related lists and options -/

section related

variable {R : α → β → Prop} {xs : List α} {ys : List β}

theorem eq_of_rel {a b : Option α} (h : Option.Rel (· = ·) a b) : a = b := by
  cases h with
  | none => rfl
  | some h => rw [h]

theorem isSome_eq_of_rel {a : Option α} {b : Option β} (h : Option.Rel R a b) :
    a.isSome = b.isSome := by
  cases h with
  | none => rfl
  | some _ => rfl

theorem any_eq_of_rel {p : α → Bool} {q : β → Bool} {a : Option α} {b : Option β}
    (h : Option.Rel R a b) (hp : ∀ x y, R x y → p x = q y) : a.any p = b.any q := by
  cases h with
  | none => rfl
  | some h => exact hp _ _ h

theorem rel_map {S : γ → δ → Prop} {f : α → γ} {g : β → δ} {a : Option α} {b : Option β}
    (h : Option.Rel R a b) (hf : ∀ x y, R x y → S (f x) (g y)) :
    Option.Rel S (a.map f) (b.map g) := by
  cases h with
  | none => exact .none
  | some h => exact .some (hf _ _ h)

theorem rel_getElem? (h : List.Forall₂ R xs ys) (i : Nat) : Option.Rel R xs[i]? ys[i]? := by
  induction h generalizing i with
  | nil => exact .none
  | cons hxy _ ih =>
    cases i with
    | zero => exact .some hxy
    | succ i => exact ih i

theorem rel_getLast? (h : List.Forall₂ R xs ys) : Option.Rel R xs.getLast? ys.getLast? := by
  rw [List.getLast?_eq_getElem?, List.getLast?_eq_getElem?, h.length_eq]
  exact rel_getElem? h _

theorem forall₂_dropLast (h : List.Forall₂ R xs ys) :
    List.Forall₂ R xs.dropLast ys.dropLast := by
  rw [List.dropLast_eq_take, List.dropLast_eq_take, h.length_eq]
  exact List.forall₂_take _ h

theorem forall₂_mapIdx {S : γ → δ → Prop} {f : Nat → α → γ} {g : Nat → β → δ}
    (h : List.Forall₂ R xs ys) (hf : ∀ i x y, R x y → S (f i x) (g i y)) :
    List.Forall₂ S (xs.mapIdx f) (ys.mapIdx g) := by
  induction h generalizing f g with
  | nil => exact .nil
  | cons hxy _ ih =>
    rw [List.mapIdx_cons, List.mapIdx_cons]
    exact .cons (hf 0 _ _ hxy) (ih fun i x y hR => hf (i + 1) x y hR)

/-- A search finds related members, if the tests agree on them. -/
theorem rel_find? {p : α → Bool} {q : β → Bool} (h : List.Forall₂ R xs ys)
    (hp : ∀ x y, R x y → p x = q y) : Option.Rel R (xs.find? p) (ys.find? q) := by
  induction h with
  | nil => exact .none
  | @cons x y xs ys hxy _ ih =>
    rw [List.find?_cons, List.find?_cons, ← hp x y hxy]
    cases p x with
    | true => exact .some hxy
    | false => exact ih

theorem forall₂_filter {p : α → Bool} {q : β → Bool} (h : List.Forall₂ R xs ys)
    (hp : ∀ x y, R x y → p x = q y) : List.Forall₂ R (xs.filter p) (ys.filter q) := by
  refine List.rel_filter (fun x y hxy => ?_) h
  show p x = true ↔ q y = true
  rw [hp x y hxy]

/-- What is read off related lists in the same way is the same. -/
theorem filterMap_eq_of_forall₂ {f : α → Option γ} {g : β → Option γ} (h : List.Forall₂ R xs ys)
    (hf : ∀ x y, R x y → f x = g y) : xs.filterMap f = ys.filterMap g := by
  induction h with
  | nil => rfl
  | cons hxy _ ih => rw [List.filterMap_cons, List.filterMap_cons, hf _ _ hxy, ih]

end related

end JniBridge
