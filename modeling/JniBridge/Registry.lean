/-
A registry: what is known under a name.

It is a list of pairs of which only the first with a name counts, so that its whole content is seen
through `get?`: registering changes one name, unregistering removes one, and nothing else moves.
-/

namespace JniBridge

/-- Values under names; the first entry of a name is the one that counts. -/
structure Registry (α : Type) where
  entries : List (String × α)

namespace Registry

variable {α : Type}

def empty : Registry α := ⟨[]⟩

/-- What is registered under a name. -/
def get? (r : Registry α) (name : String) : Option α :=
  (r.entries.find? fun entry => entry.1 == name).map Prod.snd

/-- Registers a value, in place of the one the name had. -/
def insert (r : Registry α) (name : String) (value : α) : Registry α :=
  ⟨(name, value) :: r.entries.filter fun entry => entry.1 != name⟩

/-- Forgets a name. -/
def erase (r : Registry α) (name : String) : Registry α :=
  ⟨r.entries.filter fun entry => entry.1 != name⟩

@[simp]
theorem get?_empty (name : String) : (empty : Registry α).get? name = none := rfl

theorem find?_filter_ne (entries : List (String × α)) (name other : String) :
    (entries.filter fun entry => entry.1 != name).find? (fun entry => entry.1 == other) =
      if other = name then none else entries.find? fun entry => entry.1 == other := by
  rw [List.find?_filter]
  split
  · next h => subst h; simp
  · next h =>
    congr 1
    funext entry
    by_cases he : entry.1 = other <;> simp_all

@[simp]
theorem get?_insert (r : Registry α) (name other : String) (value : α) :
    (r.insert name value).get? other = if other = name then some value else r.get? other := by
  by_cases h : other = name
  · subst h
    simp [insert, get?]
  · rw [get?, insert, List.find?_cons_of_neg (by simpa using fun e => h e.symm),
      find?_filter_ne, if_neg h, if_neg h, get?]

@[simp]
theorem get?_erase (r : Registry α) (name other : String) :
    (r.erase name).get? other = if other = name then none else r.get? other := by
  rw [get?, erase, find?_filter_ne]
  split <;> rfl

end Registry

end JniBridge
