import Mathlib.Data.List.Induction
import JniBridge.NamePattern
/-
Rules laid over each other: of the values that are set, the last wins.

A rule applies to a name or not; which, is of no concern here.  The fused rule for a name has, field by
field, what the last rule sets that applies to the name and sets the field at all
(`GuardedRule.lastSet_fusedFor`).

How that comes about does not depend on how the rules are grouped: laying over is associative, and the rule
that leaves everything open changes nothing (`Rule.laidOver_assoc`, `Rule.blank_laidOver`).  So two lists of
rules, one after the other, can be fused one by one (`GuardedRule.fusedFor_append`), and it is seen from the
place alone what a rule contributes that is put in, left out or moved.

`RuleBook.last_set_wins` says all this of the rules for functions and of those for structs.
-/

namespace JniBridge

/-! ## Fields -/

namespace Rule

/-- The fields of a rule. -/
inductive Field : Type → Type
  | pattern : Field String
  | nameOverride : Field String
  | exclude : Field Bool
  | option : Field Bool

/-- What a rule sets a field to. -/
def Field.get {α : Type} : Field α → Rule → Option α
  | .pattern, r => r.pattern
  | .nameOverride, r => r.nameOverride
  | .exclude, r => r.exclude
  | .option, r => r.option

/-- No field is set by both rules. -/
def Disjoint (r s : Rule) : Prop := ∀ {α : Type} (f : Field α), f.get r = none ∨ f.get s = none

/-- A rule is what it sets its fields to. -/
theorem eq_of_fields {r s : Rule} (h : ∀ {α : Type} (f : Field α), f.get r = f.get s) : r = s := by
  obtain ⟨pattern, nameOverride, exclude, option⟩ := r
  obtain ⟨pattern', nameOverride', exclude', option'⟩ := s
  obtain rfl : pattern = pattern' := h .pattern
  obtain rfl : nameOverride = nameOverride' := h .nameOverride
  obtain rfl : exclude = exclude' := h .exclude
  obtain rfl : option = option' := h .option
  rfl

@[simp]
theorem get_laidOver {α : Type} (f : Field α) (upper lower : Rule) :
    f.get (upper.laidOver lower) = (f.get upper).or (f.get lower) := by cases f <;> rfl

@[simp]
theorem get_blank {α : Type} (f : Field α) : f.get blank = none := by cases f <;> rfl

/-! ## Laying over -/

theorem laidOver_assoc (r s t : Rule) : (r.laidOver s).laidOver t = r.laidOver (s.laidOver t) := by
  refine eq_of_fields fun f => ?_
  simp only [get_laidOver, Option.or_assoc]

theorem laidOver_blank (r : Rule) : r.laidOver blank = r := by
  refine eq_of_fields fun f => ?_
  simp only [get_laidOver, get_blank, Option.or_none]

theorem blank_laidOver (r : Rule) : blank.laidOver r = r := by
  refine eq_of_fields fun f => ?_
  simp only [get_laidOver, get_blank, Option.none_or]

/-- Rules that set different fields may be laid over each other in either order. -/
theorem Disjoint.laidOver_comm {r s : Rule} (h : r.Disjoint s) : r.laidOver s = s.laidOver r := by
  refine eq_of_fields fun f => ?_
  rw [get_laidOver, get_laidOver]
  rcases h f with hnone | hnone
  · rw [hnone, Option.none_or, Option.or_none]
  · rw [hnone, Option.none_or, Option.or_none]

theorem fuse_concat (rules : List Rule) (r : Rule) :
    fuse (rules ++ [r]) = r.laidOver (fuse rules) := by
  rw [fuse, List.foldl_append]
  rfl

/-- What comes later is laid over what comes before. -/
theorem fuse_append (rules later : List Rule) :
    fuse (rules ++ later) = (fuse later).laidOver (fuse rules) := by
  induction later using List.reverseRecOn with
  | nil =>
    rw [List.append_nil]
    exact (blank_laidOver _).symm
  | append_singleton later r ih =>
    rw [← List.append_assoc, fuse_concat, fuse_concat, ih, laidOver_assoc]

end Rule

/-! ## Lists of rules -/

namespace GuardedRule

@[simp]
theorem fusedFor_nil (name : String) : fusedFor [] name = Rule.blank := rfl

/-- The value is set by the last rule that applies to the name and sets the field; nothing is, if there is
no such rule. -/
def LastSet {α : Type} (f : Rule.Field α) (rules : List GuardedRule) (name : String) :
    Option α → Prop
  | none => ∀ g ∈ rules, g.applies name → f.get g.rule = none
  | some v => ∃ before g after, rules = before ++ g :: after ∧ g.applies name ∧
      f.get g.rule = some v ∧ ∀ later ∈ after, later.applies name → f.get later.rule = none

variable {α : Type} {f : Rule.Field α} {rules : List GuardedRule} {name : String}

/-- A rule more that has nothing to say changes nothing. -/
theorem LastSet.concat_idle {value : Option α} (h : LastSet f rules name value) {g : GuardedRule}
    (hidle : g.applies name → f.get g.rule = none) : LastSet f (rules ++ [g]) name value := by
  cases value with
  | none =>
    intro r hr
    rcases List.mem_append.1 hr with hr | hr
    · exact h r hr
    · obtain rfl := List.mem_singleton.1 hr
      exact hidle
  | some v =>
    obtain ⟨before, r, after, rfl, happlies, hset, hafter⟩ := h
    refine ⟨before, r, after ++ [g], by simp, happlies, hset, fun later hlater => ?_⟩
    rcases List.mem_append.1 hlater with hlater | hlater
    · exact hafter later hlater
    · obtain rfl := List.mem_singleton.1 hlater
      exact hidle

theorem fusedFor_concat (rules : List GuardedRule) (g : GuardedRule) (name : String) :
    fusedFor (rules ++ [g]) name =
      if g.applies name then g.rule.laidOver (fusedFor rules name) else fusedFor rules name := by
  unfold fusedFor
  rw [List.filter_append, List.map_append]
  by_cases happlies : g.applies name
  · have hkept : [g].filter (fun g => g.applies name) = [g] :=
      List.filter_eq_self.2 (List.forall_mem_singleton.2 happlies)
    rw [if_pos happlies, hkept]
    exact Rule.fuse_concat _ _
  · have hleft : [g].filter (fun g => g.applies name) = [] :=
      List.filter_eq_nil_iff.2 (List.forall_mem_singleton.2 happlies)
    rw [if_neg happlies, hleft]
    exact congrArg Rule.fuse (List.append_nil _)

/-- Every field of the fused rule is what the last rule sets it to that applies and sets it. -/
theorem lastSet_fusedFor (f : Rule.Field α) (rules : List GuardedRule) (name : String) :
    LastSet f rules name (f.get (fusedFor rules name)) := by
  -- rules are laid on top, so the induction takes the last one off
  induction rules using List.reverseRecOn with
  | nil =>
    rw [fusedFor_nil, Rule.get_blank]
    exact List.forall_mem_nil _
  | append_singleton rules g ih =>
    rw [fusedFor_concat]
    by_cases happlies : g.applies name
    · rw [if_pos happlies, Rule.get_laidOver]
      cases hset : f.get g.rule with
      | some v => exact ⟨rules, g, [], rfl, happlies, hset, List.forall_mem_nil _⟩
      | none =>
        rw [Option.none_or]
        exact ih.concat_idle fun _ => hset
    · rw [if_neg happlies]
      exact ih.concat_idle fun h => absurd h happlies

/-- Two lists of rules, one after the other, are fused one by one. -/
theorem fusedFor_append (rules later : List GuardedRule) (name : String) :
    fusedFor (rules ++ later) name = (fusedFor later name).laidOver (fusedFor rules name) := by
  unfold fusedFor
  rw [List.filter_append, List.map_append, Rule.fuse_append]

/-- What some rules contribute among others is told by their fused rule alone. -/
theorem fusedFor_congr {some other : List GuardedRule} (h : fusedFor some name = fusedFor other name)
    (before after : List GuardedRule) :
    fusedFor (before ++ some ++ after) name = fusedFor (before ++ other ++ after) name := by
  simp only [fusedFor_append, h]

theorem fusedFor_singleton (g : GuardedRule) (name : String) :
    fusedFor [g] name = if g.applies name then g.rule else Rule.blank := by
  have h := fusedFor_concat [] g name
  rw [fusedFor_nil, Rule.laidOver_blank] at h
  exact h

/-- A rule that does not apply, or that sets nothing, is as good as none. -/
theorem fusedFor_idle {g : GuardedRule} (h : g.applies name = false ∨ g.rule = Rule.blank) :
    fusedFor [g] name = fusedFor [] name := by
  rw [fusedFor_singleton]
  rcases h with happlies | hblank
  · rw [happlies]
    rfl
  · rw [hblank]
    exact ite_self _

/-- Two rules that set different fields may change places. -/
theorem fusedFor_swap {g h : GuardedRule} (hdisjoint : g.rule.Disjoint h.rule) (name : String) :
    fusedFor [g, h] name = fusedFor [h, g] name := by
  have hgh := fusedFor_append [g] [h] name
  have hhg := fusedFor_append [h] [g] name
  rw [fusedFor_singleton, fusedFor_singleton] at hgh hhg
  rw [List.singleton_append] at hgh hhg
  rw [hgh, hhg]
  cases g.applies name <;> cases h.applies name
  · rfl
  · exact (Rule.laidOver_blank _).trans (Rule.blank_laidOver _).symm
  · exact (Rule.blank_laidOver _).trans (Rule.laidOver_blank _).symm
  · exact hdisjoint.laidOver_comm.symm

end GuardedRule

/-! ## Books of rules -/

/-- How rules come together: of the values that are set the last wins, so that it only matters which rules
apply, what they set, and in which order. -/
structure LastSetWins (fused : List GuardedRule → String → Rule) : Prop where
  field : ∀ rules name {α : Type} (f : Rule.Field α),
    GuardedRule.LastSet f rules name (f.get (fused rules name))
  append : ∀ rules later name,
    fused (rules ++ later) name = (fused later name).laidOver (fused rules name)
  idle : ∀ before (g : GuardedRule) after name, g.applies name = false ∨ g.rule = Rule.blank →
    fused (before ++ g :: after) name = fused (before ++ after) name
  swap : ∀ before (g h : GuardedRule) after name, g.rule.Disjoint h.rule →
    fused (before ++ g :: h :: after) name = fused (before ++ h :: g :: after) name

theorem GuardedRule.lastSetWins_fusedFor : LastSetWins GuardedRule.fusedFor where
  field rules name _ f := lastSet_fusedFor f rules name
  append := fusedFor_append
  idle before g after name hidle := by
    have h := fusedFor_congr (fusedFor_idle hidle) before after
    simpa using h
  swap before g h after name hdisjoint := by
    have h := fusedFor_congr (fusedFor_swap hdisjoint name) before after
    simpa using h

/-- A pattern that is left open, or that is blank, matches every name. -/
theorem namePattern?_of_blank {pattern : Option String}
    (h : ∀ text, pattern = some text → Text.trimmed text = "") :
    namePattern? pattern = some fun _ => true := by
  cases pattern with
  | none => rfl
  | some text =>
    unfold namePattern?
    have hblank : (Text.trimmed text).isEmpty = true := by rw [h text rfl]; rfl
    dsimp only
    rw [if_pos hblank]

/-- The rules for functions and the rules for structs come together in the same way, whatever their
patterns are taken to match, and laying one rule over another is associative and has the blank rule for
its identity.  A rule whose pattern is open or blank applies to every name. -/
theorem RuleBook.last_set_wins (book : RuleBook) :
    LastSetWins (fun rules name => { book with methods := rules }.methodRule name) ∧
      LastSetWins (fun rules name => { book with structs := rules }.structRule name) ∧
      (∀ r s t : Rule, (r.laidOver s).laidOver t = r.laidOver (s.laidOver t)) ∧
      (∀ r : Rule, r.laidOver Rule.blank = r ∧ Rule.blank.laidOver r = r) ∧
      ∀ r : Rule, (∀ text, r.pattern = some text → Text.trimmed text = "") →
        r.guarded? = some ⟨fun _ => true, r⟩ := by
  refine ⟨GuardedRule.lastSetWins_fusedFor, GuardedRule.lastSetWins_fusedFor, Rule.laidOver_assoc,
    fun r => ⟨r.laidOver_blank, r.blank_laidOver⟩, fun r hblank => ?_⟩
  rw [Rule.guarded?, namePattern?_of_blank hblank]
  rfl

end JniBridge
