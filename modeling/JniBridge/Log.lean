import JniBridge.LinkError
/-
The log of a run, and computations that keep one.

A `Logged` computation ends with an answer or a cause of failure, and in both cases with the events
that happened on the way.  Forgetting the events is a map to `Except` that respects sequencing
(`outcome_bind`), so whoever cares only for answers can drop the log at every step.
-/

namespace JniBridge

/-! ## Events -/

inductive Level where
  | trace | debug | info | warn
deriving DecidableEq, Repr

/-- What a declaration declares. -/
inductive DeclKind where
  | enumeration | record | field | function
deriving DecidableEq, Repr

def DeclKind.display : DeclKind → String
  | enumeration => "enum"
  | record => "struct"
  | field => "field"
  | function => "function"

/-- What a run reports. -/
inductive Event where
  | parameterClassified (param type action : String)
  | contextBound (param callback : String)
  | enumLinked (name : String) (constants : Nat)
  | structExcluded (name : String)
  | fieldSkipped (name : String) (reason : LinkError)
  | declarationSkipped (kind : DeclKind) (name : String) (reason : LinkError)
  | structLinked (name : String) (accessors : Nat)
  | functionExcluded (name : String)
  | functionLinked (name javaName : String) (params callbacks : Nat)
  | generationComplete (enums structs functions callbacks skipped : Nat)
  | linkingStarted (package container : String) (functions structs enums : Nat)
deriving DecidableEq, Repr

namespace Event

def level : Event → Level
  | parameterClassified .. | contextBound .. => .trace
  | enumLinked .. | structExcluded _ | structLinked .. | functionExcluded _
  | functionLinked .. => .debug
  | fieldSkipped .. | declarationSkipped .. => .warn
  | generationComplete .. | linkingStarted .. => .info

def message : Event → String
  | parameterClassified .. => "classified parameter"
  | contextBound .. => "bound callback context"
  | enumLinked .. => "linked enum"
  | structExcluded _ => "struct excluded by rule"
  | fieldSkipped .. => "skipping field"
  | declarationSkipped .. => "skipping declaration"
  | structLinked .. => "linked struct"
  | functionExcluded _ => "function excluded by rule"
  | functionLinked .. => "linked function"
  | generationComplete .. => "generation complete"
  | linkingStarted .. => "linking declarations"

/-- The event's particulars, named. -/
def fields : Event → List (String × String)
  | parameterClassified param type action => [("param", param), ("ty", type), ("action", action)]
  | contextBound param callback => [("param", param), ("callback", callback)]
  | enumLinked name constants => [("name", name), ("constants", toString constants)]
  | structExcluded name | functionExcluded name => [("name", name)]
  | fieldSkipped name reason => [("name", name), ("err", reason.message)]
  | declarationSkipped kind name reason =>
    [("kind", kind.display), ("name", name), ("err", reason.message)]
  | structLinked name accessors => [("name", name), ("accessors", toString accessors)]
  | functionLinked name javaName params callbacks =>
    [("name", name), ("java", javaName), ("params", toString params),
     ("callbacks", toString callbacks)]
  | generationComplete enums structs functions callbacks skipped =>
    [("enums", toString enums), ("structs", toString structs), ("functions", toString functions),
     ("callbacks", toString callbacks), ("skipped", toString skipped)]
  | linkingStarted package container functions structs enums =>
    [("package", package), ("container", container), ("functions", toString functions),
     ("structs", toString structs), ("enums", toString enums)]

end Event

/-! ## Logged computations -/

/-- An answer or a failure, and what happened before it. -/
structure Logged (α : Type) where
  outcome : Except LinkError α
  events : List Event

namespace Logged

variable {α β : Type}

/-- A computation without events. -/
def ofExcept (outcome : Except LinkError α) : Logged α := ⟨outcome, []⟩

def fail (e : LinkError) : Logged α := ofExcept (.error e)

/-- Reports an event. -/
def tell (event : Event) : Logged Unit := ⟨.ok (), [event]⟩

/-- Runs the second computation on the first one's answer, unless the first fails. -/
def andThen (x : Logged α) (f : α → Logged β) : Logged β :=
  match x.outcome with
  | .ok a => ⟨(f a).outcome, x.events ++ (f a).events⟩
  | .error e => ⟨.error e, x.events⟩

instance : Monad Logged where
  pure a := ofExcept (.ok a)
  bind := andThen

instance : MonadLift (Except LinkError) Logged := ⟨ofExcept⟩

/-- Turns a failure that is not fatal into an answer. -/
def attempt (x : Logged α) : Logged (Except LinkError α) :=
  match x.outcome with
  | .ok a => ⟨.ok (.ok a), x.events⟩
  | .error e => ⟨if e.isFatal then .error e else .ok (.error e), x.events⟩

/-! ## Forgetting the events -/

@[simp]
theorem outcome_pure (a : α) : (pure a : Logged α).outcome = .ok a := rfl

@[simp]
theorem outcome_ofExcept (x : Except LinkError α) : (ofExcept x).outcome = x := rfl

@[simp]
theorem outcome_fail (e : LinkError) : (fail e : Logged α).outcome = .error e := rfl

@[simp]
theorem outcome_tell (event : Event) : (tell event).outcome = .ok () := rfl

@[simp]
theorem outcome_bind (x : Logged α) (f : α → Logged β) :
    (x >>= f).outcome = x.outcome.bind fun a => (f a).outcome := by
  show (andThen x f).outcome = _
  unfold andThen
  cases x.outcome <;> rfl

@[simp]
theorem outcome_attempt (x : Logged α) :
    x.attempt.outcome =
      match x.outcome with
      | .ok a => .ok (.ok a)
      | .error e => if e.isFatal then .error e else .ok (.error e) := by
  unfold attempt
  cases x.outcome <;> rfl

/-! ## Laws -/

theorem id_map (x : Logged α) : id <$> x = x := by
  show andThen x _ = x
  unfold andThen
  obtain ⟨outcome, events⟩ := x
  cases outcome <;> simp [ofExcept]

theorem pure_bind (a : α) (f : α → Logged β) : (pure a >>= f) = f a := by
  show andThen (ofExcept (.ok a)) f = f a
  simp [andThen, ofExcept]

theorem bind_assoc {γ : Type} (x : Logged α) (f : α → Logged β) (g : β → Logged γ) :
    (x >>= f >>= g) = x >>= fun a => f a >>= g := by
  show andThen (andThen x f) g = andThen x fun a => andThen (f a) g
  obtain ⟨outcome, events⟩ := x
  cases outcome with
  | error e => rfl
  | ok a =>
    simp only [andThen]
    cases (f a).outcome <;> simp

/-- Events are only ever appended, so sequencing is associative. -/
instance : LawfulMonad Logged := .mk' Logged id_map pure_bind bind_assoc

end Logged

end JniBridge
