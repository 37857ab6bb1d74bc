/-
Rules: what a configuration asks for the functions and the structs whose names match a pattern.

A rule may leave any field open.  Rules that apply to one name are laid over each other in the order
of the configuration, and of the values that are set the last wins, field by field.
-/

namespace JniBridge

/-- A rule for functions or for structs.  `option` is what is asked beyond the name: of a function,
that its raw method be public; of a struct, that its layout be written out. -/
structure Rule where
  /-- A regular expression for the names; blank or open, it matches every name. -/
  pattern : Option String := none
  /-- The Java name to use. -/
  nameOverride : Option String := none
  exclude : Option Bool := none
  option : Option Bool := none
deriving DecidableEq, Repr, Inhabited

namespace Rule

/-- The rule that leaves everything open. -/
def blank : Rule := {}

/-- One rule laid over another: what the upper one sets wins. -/
def laidOver (upper lower : Rule) : Rule where
  pattern := upper.pattern.or lower.pattern
  nameOverride := upper.nameOverride.or lower.nameOverride
  exclude := upper.exclude.or lower.exclude
  option := upper.option.or lower.option

/-- Rules laid over each other in order, on top of the blank rule. -/
def fuse (rules : List Rule) : Rule := rules.foldl (fun lower upper => upper.laidOver lower) blank

/-- The declaration is not left out. -/
def generates (r : Rule) : Bool := !r.exclude.getD false

/-- What `option` says, if it is set: otherwise no. -/
def asks (r : Rule) : Bool := r.option.getD false

end Rule

/-- A rule and the names it applies to. -/
structure GuardedRule where
  applies : String → Bool
  rule : Rule

/-- The rules of a configuration. -/
structure RuleBook where
  methods : List GuardedRule := []
  structs : List GuardedRule := []

/-- The fused rule for a name. -/
def GuardedRule.fusedFor (rules : List GuardedRule) (name : String) : Rule :=
  Rule.fuse ((rules.filter fun g => g.applies name).map GuardedRule.rule)

namespace RuleBook

/-- The rule for a function. -/
def methodRule (book : RuleBook) (name : String) : Rule := GuardedRule.fusedFor book.methods name

/-- The rule for a struct. -/
def structRule (book : RuleBook) (name : String) : Rule := GuardedRule.fusedFor book.structs name

end RuleBook

end JniBridge
