import JniBridge.Pattern.Syntax
import JniBridge.Rule
/-
Which names a rule applies to.

The pattern of a rule is a regular expression that has to match some part of a name.  A rule without a
pattern, or with a blank one, applies to every name.  One pattern that is not well formed spoils all
rules of a configuration.
-/

namespace JniBridge

/-- The test on names that a pattern stands for. -/
def namePattern? : Option String → Option (String → Bool)
  | none => some fun _ => true
  | some pattern =>
    let bare := Text.trimmed pattern
    if bare.isEmpty then some fun _ => true
    else (Pattern.Regex.ofPattern? bare).map fun regex name => regex.matches? name.toList

/-- A rule together with the names it applies to. -/
def Rule.guarded? (rule : Rule) : Option GuardedRule :=
  (namePattern? rule.pattern).map (⟨·, rule⟩)

/-- The rules for functions and for structs, if all patterns are well formed. -/
def RuleBook.compile (methods structs : List Rule) : Option RuleBook := do
  return ⟨← methods.mapM Rule.guarded?, ← structs.mapM Rule.guarded?⟩

theorem namePattern?_none : namePattern? none = some fun _ => true := rfl

/-- A guarded rule is the rule itself. -/
theorem Rule.rule_of_guarded? {rule : Rule} {g : GuardedRule} (h : rule.guarded? = some g) :
    g.rule = rule := by
  obtain ⟨applies, _, rfl⟩ := Option.map_eq_some_iff.1 h
  rfl

end JniBridge
