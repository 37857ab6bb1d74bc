import Mathlib.Data.List.Forall2
import JniBridge.Log
/-
How computations end.

`Ends x Q E` says of an outcome all there is to say: if it is an answer, `Q` holds of it, and if it is
a failure, `E` does.  One such statement for each function covers its success and its failures at
once, and the statements compose along sequencing (`Ends.bind`, `Ends.logged`) and along lists
(`ends_mapM`).  With an `E` that nothing satisfies it is a statement of totality (`Ends.exists_ok`).
-/

namespace JniBridge

variable {α β : Type}

/-- An answer satisfies `Q`, a failure satisfies `E`. -/
def Ends (x : Except LinkError α) (Q : α → Prop) (E : LinkError → Prop) : Prop :=
  match x with
  | .ok a => Q a
  | .error e => E e

@[simp]
theorem ends_ok (a : α) (Q : α → Prop) (E : LinkError → Prop) : Ends (.ok a) Q E ↔ Q a := Iff.rfl

@[simp]
theorem ends_error (e : LinkError) (Q : α → Prop) (E : LinkError → Prop) :
    Ends (.error e) Q E ↔ E e := Iff.rfl

namespace Ends

variable {x : Except LinkError α} {Q Q' : α → Prop} {R : β → Prop} {E E' : LinkError → Prop}

/-! ## Reading a statement back -/

theorem of_ok (h : Ends x Q E) {a : α} (ha : x = .ok a) : Q a := by
  subst ha
  exact h

theorem of_error (h : Ends x Q E) {e : LinkError} (he : x = .error e) : E e := by
  subst he
  exact h

/-- Without failures there is an answer. -/
theorem exists_ok (h : Ends x Q fun _ => False) : ∃ a, x = .ok a ∧ Q a := by
  cases x with
  | ok a => exact ⟨a, rfl, h⟩
  | error e => exact h.elim

theorem imp (h : Ends x Q E) (hQ : ∀ a, x = .ok a → Q a → Q' a)
    (hE : ∀ e, x = .error e → E e → E' e) : Ends x Q' E' := by
  cases x with
  | ok a => exact hQ a rfl h
  | error e => exact hE e rfl h

/-- The answer may be replaced by what follows from it. -/
theorem mono (h : Ends x Q E) (hQ : ∀ a, x = .ok a → Q a → Q' a) : Ends x Q' E :=
  h.imp hQ fun _ _ he => he

/-- The failures may be replaced by what follows from them. -/
theorem failing (h : Ends x Q E) (hE : ∀ e, x = .error e → E e → E' e) : Ends x Q E' :=
  h.imp (fun _ _ ha => ha) hE

/-! ## Composition -/

theorem bind (h : Ends x Q E) {f : α → Except LinkError β}
    (hf : ∀ a, x = .ok a → Q a → Ends (f a) R E) : Ends (x.bind f) R E := by
  cases x with
  | ok a => exact hf a rfl h
  | error e => exact h

theorem map {f : α → β} (h : Ends x (fun a => R (f a)) E) : Ends (x.map f) R E := by
  cases x with
  | ok a => exact h
  | error e => exact h

end Ends

/-- What has an answer had one at its first step, and from there on. -/
theorem exists_of_except_bind {ε : Type} {x : Except ε α} {f : α → Except ε β} {b : β}
    (h : x >>= f = .ok b) : ∃ a, x = .ok a ∧ f a = .ok b := by
  cases x with
  | ok a => exact ⟨a, rfl, h⟩
  | error e => exact nomatch h

/-- A list without a log: every member has its answer, or the first one that has none ends it. -/
theorem ends_mapM_first {P : α → β → Prop} {E : α → LinkError → Prop} {f : α → Except LinkError β}
    {xs : List α} (h : ∀ x ∈ xs, Ends (f x) (P x) (E x)) :
    Ends (xs.mapM f) (List.Forall₂ P xs) fun e => ∃ before x after, xs = before ++ x :: after ∧
      (∀ y ∈ before, ∃ z, P y z) ∧ E x e := by
  induction xs with
  | nil => exact List.Forall₂.nil
  | cons x xs ih =>
    obtain ⟨hx, hxs⟩ := List.forall_mem_cons.1 h
    rw [List.mapM_cons]
    refine (hx.failing fun e _ he => ?_).bind fun y _ hy => ?_
    · exact ⟨[], x, xs, rfl, List.forall_mem_nil _, he⟩
    · refine ((ih hxs).failing fun e _ he => ?_).bind fun ys _ hys => List.Forall₂.cons hy hys
      obtain ⟨before, x', after, rfl, hbefore, he⟩ := he
      exact ⟨x :: before, x', after, rfl, List.forall_mem_cons.2 ⟨⟨y, hy⟩, hbefore⟩, he⟩

/-- If it does not matter which one it is, its failure ends the list. -/
theorem ends_mapM_except {E : LinkError → Prop} {f : α → Except LinkError β} {xs : List α}
    (h : ∀ x ∈ xs, Ends (f x) (fun _ => True) E) :
    Ends (xs.mapM f) (fun _ => True) E := by
  refine (ends_mapM_first h).imp (fun _ _ _ => trivial) fun e _ he => ?_
  obtain ⟨_, _, _, -, -, he⟩ := he
  exact he

/-- What answers wherever another does, and in the same way, does so for lists. -/
theorem mapM_eq_ok_of_imp {f g : α → Except LinkError β}
    (h : ∀ x y, f x = .ok y → g x = .ok y) {xs : List α} {ys : List β} (hxs : xs.mapM f = .ok ys) :
    xs.mapM g = .ok ys := by
  induction xs generalizing ys with
  | nil => exact hxs
  | cons x xs ih =>
    rw [List.mapM_cons] at hxs ⊢
    obtain ⟨y, hx, hxs⟩ := exists_of_except_bind hxs
    obtain ⟨rest, hrest, hxs⟩ := exists_of_except_bind hxs
    rw [h x y hx, ih hrest]
    exact hxs

/-- Each member of a list has an answer, if the list has. -/
theorem exists_of_mapM_eq_ok {f : α → Except LinkError β} {xs : List α} {ys : List β}
    (h : xs.mapM f = .ok ys) : ∀ x ∈ xs, ∃ y, f x = .ok y := by
  induction xs generalizing ys with
  | nil => exact List.forall_mem_nil _
  | cons x xs ih =>
    rw [List.mapM_cons] at h
    obtain ⟨y, hx, h⟩ := exists_of_except_bind h
    obtain ⟨rest, hrest, -⟩ := exists_of_except_bind h
    exact List.forall_mem_cons.2 ⟨⟨y, hx⟩, ih hrest⟩

/-! ## Related lists -/

/-- Lists whose elements look the same from either side look the same. -/
theorem map_eq_map_of_forall₂ {γ : Type} {P : α → β → Prop} {f : α → γ} {g : β → γ} {xs : List α}
    {ys : List β} (h : List.Forall₂ P xs ys) (hP : ∀ x y, P x y → f x = g y) :
    xs.map f = ys.map g := by
  have heq : List.Forall₂ (· = ·) (xs.map f) (ys.map g) :=
    List.forall₂_map_left_iff.2 (List.forall₂_map_right_iff.2 (h.imp hP))
  rwa [List.forall₂_eq_eq_eq] at heq

/-- A selection that selects everything is a map. -/
theorem map_filterMap_of_forall {γ : Type} {f : α → Option β} {g : β → γ} {k : α → γ} {xs : List α}
    (h : ∀ x ∈ xs, ∃ y, f x = some y ∧ g y = k x) : (xs.filterMap f).map g = xs.map k := by
  induction xs with
  | nil => rfl
  | cons x xs ih =>
    obtain ⟨⟨y, hy, hk⟩, hxs⟩ := List.forall_mem_cons.1 h
    rw [List.filterMap_cons_some hy, List.map_cons, List.map_cons, ih hxs, hk]

/-- Whoever is in the second list is related to someone in the first. -/
theorem exists_mem_of_forall₂ {P : α → β → Prop} {xs : List α} {ys : List β}
    (h : List.Forall₂ P xs ys) : ∀ y ∈ ys, ∃ x ∈ xs, P x y := by
  induction h with
  | nil => exact List.forall_mem_nil _
  | cons hxy _ ih =>
    refine List.forall_mem_cons.2 ⟨⟨_, List.mem_cons_self, hxy⟩, fun y hy => ?_⟩
    obtain ⟨x, hx, hP⟩ := ih y hy
    exact ⟨x, List.mem_cons_of_mem _ hx, hP⟩

theorem forall_mem_of_forall₂ {P : α → β → Prop} {Q : β → Prop} {xs : List α} {ys : List β}
    (h : List.Forall₂ P xs ys) (hP : ∀ x y, P x y → Q y) : ∀ y ∈ ys, Q y := by
  induction h with
  | nil => exact List.forall_mem_nil _
  | cons hxy _ ih => exact List.forall_mem_cons.2 ⟨hP _ _ hxy, ih⟩

/-- Whoever is somewhere in the first list is related to who is there in the second. -/
theorem getElem?_of_forall₂ {P : α → β → Prop} {xs : List α} {ys : List β}
    (h : List.Forall₂ P xs ys) {i : Nat} {x : α} (hx : xs[i]? = some x) :
    ∃ y, ys[i]? = some y ∧ P x y := by
  obtain ⟨hi, rfl⟩ := List.getElem?_eq_some_iff.1 hx
  have hi' : i < ys.length := h.length_eq ▸ hi
  exact ⟨ys[i], List.getElem?_eq_getElem hi', h.get hi hi'⟩

/-- What is related to two lists in a row is two lists in a row. -/
theorem exists_append_of_forall₂ {P : α → β → Prop} {xs xs' : List α} {zs : List β}
    (h : List.Forall₂ P (xs ++ xs') zs) :
    ∃ ys ys', zs = ys ++ ys' ∧ List.Forall₂ P xs ys ∧ List.Forall₂ P xs' ys' := by
  induction xs generalizing zs with
  | nil => exact ⟨[], zs, rfl, .nil, h⟩
  | cons x xs ih =>
    obtain ⟨z, zs, hz, hzs, rfl⟩ := List.forall₂_cons_left_iff.1 h
    obtain ⟨ys, ys', rfl, hys, hys'⟩ := ih hzs
    exact ⟨z :: ys, ys', rfl, .cons hz hys, hys'⟩

/-! ## Logged computations -/

section Logged

variable {Q : α → Prop} {R : β → Prop} {E : LinkError → Prop}

/-- Forgetting the events respects sequencing, so a logged computation is stepped through as one
without a log. -/
theorem Ends.logged {x : Logged α} {f : α → Logged β} (h : Ends x.outcome Q E)
    (hf : ∀ a, x.outcome = .ok a → Q a → Ends (f a).outcome R E) : Ends (x >>= f).outcome R E := by
  rw [Logged.outcome_bind]
  exact h.bind hf

/-- A reported event changes nothing. -/
theorem ends_tell {event : Event} {f : Unit → Logged β} (hf : Ends (f ()).outcome R E) :
    Ends (Logged.tell event >>= f).outcome R E := by
  rw [Logged.outcome_bind]
  exact hf

/-- A list of computations, each of which ends as it should. -/
theorem ends_mapM {P : α → β → Prop} {f : α → Logged β} {xs : List α}
    (h : ∀ x ∈ xs, Ends (f x).outcome (P x) E) :
    Ends (xs.mapM f).outcome (List.Forall₂ P xs) E := by
  induction xs with
  | nil => exact List.Forall₂.nil
  | cons x xs ih =>
    rw [List.mapM_cons]
    refine (h x List.mem_cons_self).logged fun y _ hy => ?_
    refine (ih fun x' hx' => h x' (List.mem_cons_of_mem x hx')).logged fun ys _ hys => ?_
    exact List.Forall₂.cons hy hys

/-- With a log it is the same. -/
theorem exists_of_bind_eq_ok {x : Logged α} {f : α → Logged β} {b : β}
    (h : (x >>= f).outcome = .ok b) : ∃ a, x.outcome = .ok a ∧ (f a).outcome = .ok b := by
  rw [Logged.outcome_bind] at h
  cases hx : x.outcome with
  | ok a =>
    rw [hx] at h
    exact ⟨a, rfl, h⟩
  | error e =>
    rw [hx] at h
    exact nomatch h

/-- Turned into an answer, an outcome is still the same. -/
theorem outcome_of_attempt {x : Logged α} {r : Except LinkError α}
    (h : x.attempt.outcome = .ok r) : x.outcome = r := by
  rw [Logged.outcome_attempt] at h
  cases hx : x.outcome with
  | ok a =>
    rw [hx] at h
    exact Except.ok.inj h
  | error e =>
    rw [hx] at h
    dsimp only at h
    split at h
    · exact nomatch h
    · exact Except.ok.inj h

/-- The answers of a list of computations are those of its members, in order. -/
theorem forall₂_of_mapM_eq_ok {f : α → Logged β} {xs : List α} {ys : List β}
    (h : (xs.mapM f).outcome = .ok ys) :
    List.Forall₂ (fun x y => (f x).outcome = .ok y) xs ys := by
  have hends : ∀ x ∈ xs, Ends (f x).outcome (fun y => (f x).outcome = .ok y) fun _ => True := by
    intro x _
    cases hx : (f x).outcome with
    | ok y => exact rfl
    | error e => trivial
  exact (ends_mapM hends).of_ok h

/-- Running computations for their events alone. -/
theorem ends_forM {f : α → Logged Unit} {xs : List α}
    (h : ∀ x ∈ xs, Ends (f x).outcome (fun _ => True) E) :
    Ends (xs.forM f).outcome (fun _ => True) E := by
  induction xs with
  | nil => trivial
  | cons x xs ih =>
    show Ends ((f x >>= fun _ => xs.forM f)).outcome _ _
    refine (h x List.mem_cons_self).logged fun _ _ _ => ?_
    exact ih fun x' hx' => h x' (List.mem_cons_of_mem x hx')

/-- Failures that are not fatal can all be turned into answers. -/
theorem ends_attempt {x : Logged α} (h : Ends x.outcome Q E)
    (hE : ∀ e, x.outcome = .error e → E e → e.isFatal = false) :
    Ends x.attempt.outcome (fun r => Ends r Q E ∧ x.outcome = r) fun _ => False := by
  rw [Logged.outcome_attempt]
  cases hx : x.outcome with
  | ok a =>
    rw [hx] at h
    exact ⟨h, rfl⟩
  | error e =>
    rw [hx] at h
    simp only [hE e hx h, Bool.false_eq_true, if_false]
    exact ⟨h, rfl⟩

end Logged

end JniBridge
