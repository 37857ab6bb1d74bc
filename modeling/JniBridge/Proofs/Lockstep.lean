import Mathlib.Data.Option.NAry
import JniBridge.Proofs.Canonical
/-
Pairing a tree with another one, whatever the two are.

`CType.pairWith` walks both trees in step.  Of the second it looks through typedefs before every descent,
and it stops where the two are built differently.  Neither has to come from the other, and the first may
have been paired before; so what comes of it is said position by position.  `CType.at?` is the tree at a
position, and `CType.meet?` are the two trees that the walk comes to there.

1. At a position that the walk comes to, the paired tree holds what is met there, paired; at any other it
   holds what the first tree does (`at?_pairWith`).
2. Apart from what its nodes remember, it is the first tree (`unpaired_pairWith`).
3. Pairing it once more with the second tree changes nothing (`pairWith_pairWith`).

`pairing_annotates` puts this together.
-/

namespace JniBridge

namespace CType

/-! ## Trees and lists of trees -/

/-- Induction on a tree, at once for all parameters of a prototype.  What a node remembers is no part of
the tree. -/
theorem induct {P : CType → Prop} (scalar : ∀ k s p, P (.scalar k s p))
    (pointer : ∀ pointee s p, P pointee → P (.pointer pointee s p))
    (record : ∀ s p, P (.record s p)) (enumeration : ∀ s p, P (.enumeration s p))
    (prototype : ∀ returns params s p, P returns → (∀ t ∈ params, P t) →
      P (.prototype returns params s p))
    (typedef : ∀ name defined p, P defined → P (.typedef name defined p))
    (array : ∀ element n s p, P element → P (.array element n s p)) (t : CType) : P t :=
  @CType.rec P (fun _ => True) (fun ts => ∀ t ∈ ts, P t)
    (fun k s p _ => scalar k s p) (fun pointee s p h _ => pointer pointee s p h)
    (fun s p _ => record s p) (fun s p _ => enumeration s p)
    (fun returns params s p hreturns hparams _ => prototype returns params s p hreturns hparams)
    (fun name defined p h _ => typedef name defined p h)
    (fun element n s p h _ => array element n s p h)
    trivial trivial (fun _ _ => trivial)
    (List.forall_mem_nil _) (fun _ _ ht hts => List.forall_mem_cons.2 ⟨ht, hts⟩) t

/-- A member is paired with the member at its place in the other list, if there is one. -/
theorem getElem?_pairAll (ts trees : List CType) (i : Nat) :
    (pairAll ts trees)[i]? = (Option.map₂ pairWith ts[i]? trees[i]?).or ts[i]? := by
  induction ts generalizing trees i with
  | nil => rfl
  | cons t ts ih =>
    cases trees with
    | nil =>
      rw [List.getElem?_nil, Option.map₂_none_right]
      rfl
    | cons tree trees =>
      cases i with
      | zero => rfl
      | succ i => exact ih trees i

theorem length_pairAll (ts trees : List CType) : (pairAll ts trees).length = ts.length := by
  induction ts generalizing trees with
  | nil => rfl
  | cons t ts ih =>
    cases trees with
    | nil => rfl
    | cons tree trees => rw [pairAll, List.length_cons, List.length_cons, ih]

/-- What pairing does not change of the members, it does not change of the list. -/
theorem map_pairAll {β : Type} {f : CType → β} {ts : List CType}
    (h : ∀ t ∈ ts, ∀ tree, f (t.pairWith tree) = f t) (trees : List CType) :
    (pairAll ts trees).map f = ts.map f := by
  induction ts generalizing trees with
  | nil => rfl
  | cons t ts ih =>
    obtain ⟨ht, hts⟩ := List.forall_mem_cons.1 h
    cases trees with
    | nil => rfl
    | cons tree trees => rw [pairAll, List.map_cons, List.map_cons, ht, ih hts]

/-! ## Without what the nodes remember -/

mutual
/-- The tree as it was before anything was paired. -/
def unpaired : CType → CType
  | scalar k s _ => scalar k s .unpaired
  | pointer p s _ => pointer p.unpaired s .unpaired
  | record s _ => record s .unpaired
  | enumeration s _ => enumeration s .unpaired
  | prototype r ps s _ => prototype r.unpaired (unpairedAll ps) s .unpaired
  | typedef name d _ => typedef name d.unpaired .unpaired
  | array e n s _ => array e.unpaired n s .unpaired

def unpairedAll : List CType → List CType
  | [] => []
  | t :: ts => t.unpaired :: unpairedAll ts
end

theorem unpairedAll_eq_map (ts : List CType) : unpairedAll ts = ts.map unpaired := by
  induction ts with
  | nil => rfl
  | cons t ts ih => rw [unpairedAll, ih, List.map_cons]

/-- Pairing only changes what the nodes remember. -/
theorem unpaired_pairWith (t tree : CType) : (t.pairWith tree).unpaired = t.unpaired := by
  induction t using induct generalizing tree with
  | scalar | record | enumeration | typedef => rfl
  | pointer pointee s p ih | array pointee n s p ih =>
    rw [pairWith]
    split
    · rw [unpaired, unpaired, ih]
    · rfl
  | prototype returns params s p ihreturns ihparams =>
    rw [pairWith]
    split
    · split
      · rw [unpaired, unpaired, unpairedAll_eq_map, unpairedAll_eq_map, ihreturns,
          map_pairAll ihparams]
      · rfl
    · rfl

/-! ## Positions -/

/-- A way from a node to one right below it. -/
inductive Branch where
  | pointee | result
  | param (index : Nat)
  | defined | element
deriving DecidableEq, Repr

/-- What is right below the node, along a branch. -/
def below? : CType → Branch → Option CType
  | pointer p _ _, .pointee => some p
  | prototype r _ _ _, .result => some r
  | prototype _ ps _ _, .param i => ps[i]?
  | typedef _ d _, .defined => some d
  | array e _ _ _, .element => some e
  | _, _ => none

/-- The tree at a position, which is given by the branches that lead to it. -/
def at? : CType → List Branch → Option CType
  | t, [] => some t
  | t, b :: bs => (t.below? b).bind fun u => u.at? bs

/-- The nodes are built alike, down to the number of parameters. -/
def builtLike : CType → CType → Bool
  | pointer .., pointer .. => true
  | prototype _ ps _ _, prototype _ ps' _ _ => ps.length == ps'.length
  | array .., array .. => true
  | _, _ => false

/-- Where a walk down two trees in step gets along a branch.  Typedefs of the second tree are looked
through, and nodes that are not built alike end the walk. -/
def descend? (t tree : CType) (b : Branch) : Option (CType × CType) :=
  if t.builtLike tree.desugared then
    Option.map₂ Prod.mk (t.below? b) (tree.desugared.below? b)
  else none

/-- What a walk down two trees in step comes to at a position: a part of the first tree and its
counterpart in the second. -/
def meet? : CType → CType → List Branch → Option (CType × CType)
  | t, tree, [] => some (t, tree)
  | t, tree, b :: bs => (descend? t tree b).bind fun met => meet? met.1 met.2 bs

section positions

variable {t tree : CType}

/-- The walk goes down the first tree. -/
theorem below?_of_descend? {b : Branch} {met : CType × CType} (h : descend? t tree b = some met) :
    t.below? b = some met.1 := by
  unfold descend? at h
  split at h
  · obtain ⟨u, v, hu, -, rfl⟩ := Option.map₂_eq_some_iff.1 h
    exact hu
  · exact nomatch h

theorem at?_of_meet? {path : List Branch} {met : CType × CType} (h : meet? t tree path = some met) :
    t.at? path = some met.1 := by
  induction path generalizing t tree with
  | nil =>
    obtain rfl := Option.some.inj h
    rfl
  | cons b bs ih =>
    obtain ⟨next, hnext, hmet⟩ := Option.bind_eq_some_iff.1 h
    rw [at?, below?_of_descend? hnext]
    exact ih hmet

/-- What is below a paired node is paired if the walk gets there, and unchanged otherwise. -/
theorem below?_pairWith (t tree : CType) (b : Branch) :
    (t.pairWith tree).below? b =
      ((descend? t tree b).map fun met => met.1.pairWith met.2).or (t.below? b) := by
  unfold descend?
  cases t with
  -- where the nodes are not built alike, nothing below has changed
  | scalar | record | enumeration | typedef => cases b <;> rfl
  | pointer pointee s p =>
    rw [pairWith]
    generalize tree.desugared = d
    cases d <;> cases b <;> rfl
  | prototype returns params s p =>
    rw [pairWith]
    generalize tree.desugared = d
    cases d with
    | prototype returns' params' s' p' =>
      dsimp only
      have hlike : builtLike (.prototype returns params s p) (.prototype returns' params' s' p') ↔
          params.length = params'.length := beq_iff_eq
      by_cases hlength : params.length = params'.length
      · rw [if_pos hlength, if_pos (hlike.2 hlength)]
        cases b with
        | param i =>
          show (pairAll params params')[i]? = (Option.map _ (Option.map₂ _ params[i]? _)).or params[i]?
          rw [getElem?_pairAll, Option.map_map₂]
          rfl
        | _ => rfl
      · rw [if_neg hlength, if_neg fun h => hlength (hlike.1 h)]
        cases b <;> rfl
    | _ => cases b <;> rfl
  | array element n s p =>
    rw [pairWith]
    generalize tree.desugared = d
    cases d <;> cases b <;> rfl

/-- What is at a position of the paired tree is what the walk meets there, paired; where the walk does not
get to, nothing has changed. -/
theorem at?_pairWith (t tree : CType) (path : List Branch) :
    (t.pairWith tree).at? path =
      ((meet? t tree path).map fun met => met.1.pairWith met.2).or (t.at? path) := by
  induction path generalizing t tree with
  | nil => rfl
  | cons b bs ih =>
    rw [at?, at?, meet?, below?_pairWith]
    cases hnext : descend? t tree b with
    | none => rfl
    | some next =>
      rw [below?_of_descend? hnext]
      exact ih next.1 next.2

/-- A handle written as a typedef: its pointee is met behind the name. -/
example : ((pointerTo (ofRecord "struct Foo")).pairWith (typedefOf "FooHandle"
    (pointerTo (typedefOf "Foo" (ofRecord "struct Foo"))))).at? [.pointee] =
      some (.record "struct Foo" (.written (typedefOf "Foo" (ofRecord "struct Foo")))) := rfl

/-- The walk goes on from where it got to. -/
theorem meet?_append (t tree : CType) (path rest : List Branch) :
    meet? t tree (path ++ rest) = (meet? t tree path).bind fun met => meet? met.1 met.2 rest := by
  induction path generalizing t tree with
  | nil => rfl
  | cons b bs ih =>
    rw [List.cons_append, meet?, meet?, Option.bind_assoc]
    exact congrArg _ (funext fun next => ih next.1 next.2)

/-- It does not get past nodes that are not built alike. -/
theorem meet?_of_not_builtLike {path rest : List Branch} {met : CType × CType}
    (h : meet? t tree path = some met) (hlike : met.1.builtLike met.2.desugared = false)
    (hrest : rest ≠ []) : meet? t tree (path ++ rest) = none := by
  rw [meet?_append, h]
  cases rest with
  | nil => exact absurd rfl hrest
  | cons b bs =>
    have hnext : descend? met.1 met.2 b = none := if_neg (ne_true_of_eq_false hlike)
    show (descend? met.1 met.2 b).bind _ = none
    rw [hnext]
    rfl

end positions

/-! ## Pairing once more -/

theorem pairAll_pairAll {ts : List CType}
    (h : ∀ t ∈ ts, ∀ tree, (t.pairWith tree).pairWith tree = t.pairWith tree) (trees : List CType) :
    pairAll (pairAll ts trees) trees = pairAll ts trees := by
  induction ts generalizing trees with
  | nil => rfl
  | cons t ts ih =>
    obtain ⟨ht, hts⟩ := List.forall_mem_cons.1 h
    cases trees with
    | nil => rfl
    | cons tree trees => rw [pairAll, pairAll, ht, ih hts]

/-- Pairing a tree again with the one it is paired with changes nothing. -/
theorem pairWith_pairWith (t tree : CType) : (t.pairWith tree).pairWith tree = t.pairWith tree := by
  -- spellings and numbers of parameters are kept, so the walk takes the same way again
  induction t using induct generalizing tree with
  | scalar | record | enumeration | typedef => rfl
  | pointer pointee s p ih =>
    cases hd : tree.desugared with
    | pointer => simp only [pairWith, hd, ih]
    | _ => simp only [pairWith, hd]
  | prototype returns params s p ihreturns ihparams =>
    cases hd : tree.desugared with
    | prototype returns' params' s' p' =>
      by_cases hlength : params.length = params'.length
      · have hagain : (pairAll params params').length = params'.length :=
          (length_pairAll params params').trans hlength
        simp only [pairWith, hd, if_pos hlength, if_pos hagain, ihreturns, pairAll_pairAll ihparams]
      · simp only [pairWith, hd, if_neg hlength]
    | _ => simp only [pairWith, hd]
  | array element n s p ih =>
    cases hd : tree.desugared with
    | array => simp only [pairWith, hd, ih]
    | _ => simp only [pairWith, hd]

/-! ## Annotations -/

/-- The node remembers its counterpart: by itself if the two are spelled alike, as a tree otherwise. -/
structure Remembers (node counterpart : CType) : Prop where
  sourceSpelling : node.sourceSpelling = counterpart.spelling
  same : node.spelling = counterpart.spelling → node.source = .same
  written : node.spelling ≠ counterpart.spelling → node.source = .written counterpart
  known : node.source ≠ .unpaired

theorem remembers_pairWith (t tree : CType) : (t.pairWith tree).Remembers tree := by
  obtain ⟨hspelling, hsource⟩ := root_pairWith t tree
  rw [pairing, ← hspelling] at hsource
  refine ⟨sourceSpelling_pairWith t tree, fun h => ?_, fun h => ?_, ?_⟩
  · rw [hsource, if_pos h]
  · rw [hsource, if_neg h]
  · rw [hsource]
    split
    · intro h
      cases h
    · intro h
      cases h

/-- A tree annotated with what another one says about its nodes. -/
structure Annotates (annotated t tree : CType) : Prop where
  /-- It is still the same tree. -/
  same : annotated.unpaired = t.unpaired
  spelled : annotated.sourceSpelling = tree.spelling
  /-- Every node that the walk comes to remembers its counterpart. -/
  met : ∀ path part counterpart, meet? t tree path = some (part, counterpart) →
    t.at? path = some part ∧ ∃ node, annotated.at? path = some node ∧
      node.unpaired = part.unpaired ∧ node.Remembers counterpart
  /-- Below nodes that are not built alike nothing is changed. -/
  parted : ∀ path part counterpart rest, meet? t tree path = some (part, counterpart) →
    part.builtLike counterpart.desugared = false → rest ≠ [] →
    annotated.at? (path ++ rest) = t.at? (path ++ rest)
  /-- Nor is it anywhere else where the walk does not come to. -/
  unmet : ∀ path, meet? t tree path = none → annotated.at? path = t.at? path
  /-- There is nothing to add. -/
  complete : annotated.pairWith tree = annotated

/-- Pairing annotates, whatever the trees are. -/
theorem pairing_annotates (t tree : CType) : (t.pairWith tree).Annotates t tree := by
  have hunmet : ∀ path, meet? t tree path = none → (t.pairWith tree).at? path = t.at? path := by
    intro path h
    rw [at?_pairWith, h]
    rfl
  refine
    { same := unpaired_pairWith t tree
      spelled := sourceSpelling_pairWith t tree
      met := fun path part counterpart h => ⟨at?_of_meet? h, part.pairWith counterpart, ?_,
        unpaired_pairWith part counterpart, remembers_pairWith part counterpart⟩
      parted := fun path part counterpart rest h hlike hrest =>
        hunmet _ (meet?_of_not_builtLike h hlike hrest)
      unmet := hunmet
      complete := pairWith_pairWith t tree }
  rw [at?_pairWith, h]
  rfl

end CType

end JniBridge
