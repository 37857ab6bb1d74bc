import Mathlib.Data.List.Nodup
import JniBridge.Naming
/-
Numbering names that are asked for again.

Names are given out in a row, each for a base, and a base that has been asked for before gets its number
appended (`Naming.numberRow`).  Every base is counted for itself, so a number tells the requests for one
base apart (`numbered_injective`) and nothing more: a numbered name may be another base, or a numbered
name of another base.

Two questions are settled for every row.  The names are different exactly if no name is given out for two
bases (`map_snd_nodup_iff`), which is so if no base is another one followed by digits
(`keptApart_of_unextended`).  And some requests can be left out without changing the names of the others
exactly if no later one shares its base with them (`numberRow_filter_iff`).
-/

namespace JniBridge.Naming

/-! ## One name -/

/-- What is appended for the `n`-th request. -/
def suffix (n : Nat) : String := if n = 1 then "" else toString n

theorem numbered_eq (base : String) (n : Nat) : numbered base n = base ++ suffix n := by
  unfold numbered suffix
  split
  · exact String.append_empty.symm
  · rfl

theorem isDigit_of_mem_suffix {n : Nat} {c : Char} (h : c ∈ (suffix n).toList) :
    c.isDigit = true := by
  unfold suffix at h
  split at h
  · exact nomatch h
  · rw [Nat.toString_eq_repr, Nat.toList_repr] at h
    exact Nat.isDigit_of_mem_toDigits (by decide) (by decide) h

theorem toString_ne_empty (n : Nat) : toString n ≠ "" := by
  intro h
  have hvalue := congrArg (fun s => Nat.ofDigitChars 10 s.toList 0) h
  simp only [Nat.toString_eq_repr, Nat.toList_repr,
    Nat.ofDigitChars_toDigits (by decide : 1 < 10) (by decide)] at hvalue
  subst hvalue
  exact absurd h (by decide)

/-- Digits tell numbers apart. -/
theorem toString_injective {m n : Nat} (h : toString m = toString n) : m = n := by
  have hvalue := congrArg (fun s => Nat.ofDigitChars 10 s.toList 0) h
  simp only [Nat.toString_eq_repr, Nat.toList_repr,
    Nat.ofDigitChars_toDigits (by decide : 1 < 10) (by decide)] at hvalue
  exact hvalue

/-- A base is never given the same name twice. -/
theorem numbered_injective {base : String} {m n : Nat} (h : numbered base m = numbered base n) :
    m = n := by
  rw [numbered_eq, numbered_eq, String.append_right_inj] at h
  unfold suffix at h
  split at h
  · next hm =>
    split at h
    · next hn => rw [hm, hn]
    · exact absurd h.symm (toString_ne_empty n)
  · split at h
    · exact absurd h (toString_ne_empty m)
    · exact toString_injective h

/-- Names of two bases are equal only if one of these is the other one followed by digits. -/
theorem exists_digits_of_numbered_eq {a b : String} {m n : Nat}
    (h : numbered a m = numbered b n) :
    ∃ digits : List Char, (∀ c ∈ digits, c.isDigit = true) ∧
      (b.toList = a.toList ++ digits ∨ a.toList = b.toList ++ digits) := by
  have hlists := congrArg String.toList h
  rw [numbered_eq, numbered_eq, String.toList_append, String.toList_append] at hlists
  rcases List.append_eq_append_iff.1 hlists with ⟨digits, hb, hm⟩ | ⟨digits, ha, hn⟩
  · refine ⟨digits, fun c hc => isDigit_of_mem_suffix (n := m) ?_, Or.inl hb⟩
    rw [hm]
    exact List.mem_append_left _ hc
  · refine ⟨digits, fun c hc => isDigit_of_mem_suffix (n := n) ?_, Or.inr ha⟩
    rw [hn]
    exact List.mem_append_left _ hc

/-! ## A row of names -/

section row

variable {α : Type} (base : α → String)

/-- Gives out names for the bases of the members, after others have been asked for. -/
def numberRow (asked : List String) : List α → List (α × String)
  | [] => []
  | x :: xs =>
    (x, numbered (base x) (asked.count (base x) + 1)) :: numberRow (base x :: asked) xs

/-- Every member gets a name. -/
theorem map_fst_numberRow (asked : List String) (xs : List α) :
    (numberRow base asked xs).map Prod.fst = xs := by
  induction xs generalizing asked with
  | nil => rfl
  | cons x xs ih => rw [numberRow, List.map_cons, ih]

/-- What is filtered by its members has the members that are filtered. -/
theorem map_fst_filter_numberRow (p : α → Bool) (asked : List String) (xs : List α) :
    ((numberRow base asked xs).filter fun named => p named.1).map Prod.fst = xs.filter p := by
  have hfilter := List.filter_map (f := Prod.fst) (p := p) (l := numberRow base asked xs)
  rw [map_fst_numberRow] at hfilter
  exact hfilter.symm

end row

/-! ## When all names are different -/

section distinct

variable {α : Type} {base : α → String} {asked : List String} {xs : List α}

/-- No name is given out for two bases. -/
def KeptApart (base : α → String) (row : List (α × String)) : Prop :=
  ∀ x ∈ row, ∀ y ∈ row, x.2 = y.2 → base x.1 = base y.1

/-- A name in the row counts more requests for its base than there were before. -/
theorem exists_number_of_mem {named : α × String} (h : named ∈ numberRow base asked xs) :
    ∃ n, asked.count (base named.1) < n ∧ named.2 = numbered (base named.1) n := by
  induction xs generalizing asked with
  | nil => exact absurd h List.not_mem_nil
  | cons x xs ih =>
    rcases List.mem_cons.1 h with rfl | hrest
    · exact ⟨_, Nat.lt_succ_self _, rfl⟩
    · obtain ⟨n, hn, hname⟩ := ih hrest
      exact ⟨n, Nat.lt_of_le_of_lt List.count_le_count_cons hn, hname⟩

/-- For one base, every name in the row is new. -/
theorem numberRow_nodup :
    ((numberRow base asked xs).map fun named => (base named.1, named.2)).Nodup := by
  induction xs generalizing asked with
  | nil => exact List.nodup_nil
  | cons x xs ih =>
    rw [numberRow, List.map_cons, List.nodup_cons]
    refine ⟨fun hmem => ?_, ih⟩
    obtain ⟨named, hnamed, hpair⟩ := List.mem_map.1 hmem
    obtain ⟨n, hn, hname⟩ := exists_number_of_mem hnamed
    obtain ⟨hbase, hsame⟩ := Prod.mk.inj hpair
    -- the later one has the higher number
    rw [hbase] at hname hn
    rw [List.count_cons_self] at hn
    obtain rfl := numbered_injective (hname.symm.trans hsame)
    exact Nat.lt_irrefl _ hn

/-- Names from a row are different exactly if none of them is given out for two bases. -/
theorem map_snd_nodup_iff {row : List (α × String)} (h : row.Sublist (numberRow base asked xs)) :
    (row.map Prod.snd).Nodup ↔ KeptApart base row := by
  have hpairs : (row.map fun named => (base named.1, named.2)).Nodup :=
    numberRow_nodup.sublist (h.map _)
  constructor
  · intro hnames x hx y hy heq
    rw [List.inj_on_of_nodup_map hnames hx hy heq]
  · intro hapart
    refine List.Nodup.map_on (fun x hx y hy heq => ?_) (hpairs.of_map _)
    exact List.inj_on_of_nodup_map hpairs hx hy (Prod.ext (hapart x hx y hy heq) heq)

/-- No base is another one followed by digits. -/
def Unextended (base : α → String) (xs : List α) : Prop :=
  ∀ x ∈ xs, ∀ y ∈ xs, ∀ digits : List Char, (∀ c ∈ digits, c.isDigit = true) →
    (base y).toList = (base x).toList ++ digits → digits = []

/-- If no base is another one followed by digits, no name is given out for two of them. -/
theorem keptApart_of_unextended {row : List (α × String)}
    (h : row.Sublist (numberRow base asked xs)) (hbases : Unextended base xs) :
    KeptApart base row := by
  have hmember : ∀ named ∈ row, named.1 ∈ xs := by
    intro named hnamed
    rw [← map_fst_numberRow base asked xs]
    exact List.mem_map_of_mem (h.subset hnamed)
  intro x hx y hy heq
  obtain ⟨m, -, hm⟩ := exists_number_of_mem (h.subset hx)
  obtain ⟨n, -, hn⟩ := exists_number_of_mem (h.subset hy)
  rw [hm, hn] at heq
  obtain ⟨digits, hdigits, hextends⟩ := exists_digits_of_numbered_eq heq
  rcases hextends with hyx | hxy
  · obtain rfl := hbases x.1 (hmember x hx) y.1 (hmember y hy) digits hdigits hyx
    rw [List.append_nil] at hyx
    exact (String.toList_inj.1 hyx).symm
  · obtain rfl := hbases y.1 (hmember y hy) x.1 (hmember x hx) digits hdigits hxy
    rw [List.append_nil] at hxy
    exact String.toList_inj.1 hxy

end distinct

/-! ## When some are left out -/

section filter

variable {α : Type} (base : α → String) (keep : α → Bool) {asked fewer : List String}

theorem count_eq_count_cons_iff {a b : String} (hfewer : ∀ b, fewer.count b ≤ asked.count b) :
    fewer.count b = (a :: asked).count b ↔ fewer.count b = asked.count b ∧ a ≠ b := by
  have hle := hfewer b
  by_cases hab : a = b
  · subst hab
    rw [List.count_cons_self]
    exact iff_of_false (by omega) fun h => h.2 rfl
  · rw [List.count_cons_of_ne hab]
    exact (and_iff_left hab).symm

/-- The names of the others stay if as much has been asked for as before, and nothing is left out that
comes before another one of its base. -/
theorem numberRow_filter_iff_of_fewer (hfewer : ∀ b, fewer.count b ≤ asked.count b) (xs : List α) :
    numberRow base fewer (xs.filter keep) =
        (numberRow base asked xs).filter (fun named => keep named.1) ↔
      (∀ x ∈ xs, keep x = true → fewer.count (base x) = asked.count (base x)) ∧
        xs.Pairwise fun x y => keep x = false → keep y = true → base x ≠ base y := by
  induction xs generalizing asked fewer with
  | nil => exact iff_of_true rfl ⟨List.forall_mem_nil _, .nil⟩
  | cons x xs ih =>
    rw [numberRow, List.pairwise_cons, List.forall_mem_cons]
    cases hkeep : keep x with
    | true =>
      -- asked for in both rows
      have hboth : ∀ b, (base x :: fewer).count b ≤ (base x :: asked).count b := by
        intro b
        rw [List.count_cons, List.count_cons]
        exact Nat.add_le_add_right (hfewer b) _
      have hname : numbered (base x) (fewer.count (base x) + 1) =
          numbered (base x) (asked.count (base x) + 1) ↔
            fewer.count (base x) = asked.count (base x) :=
        ⟨fun h => Nat.succ.inj (numbered_injective h), fun h => by rw [h]⟩
      rw [List.filter_cons_of_pos hkeep, List.filter_cons_of_pos (by exact hkeep), numberRow,
        List.cons_eq_cons, Prod.mk.injEq, hname, ih hboth]
      simp only [List.count_cons, Nat.add_right_cancel_iff, true_and, eq_self, true_implies,
        reduceCtorEq, false_implies, implies_true, and_assoc]
    | false =>
      -- asked for in one row only, and so by nobody who stays and comes later
      have hone : ∀ b, fewer.count b ≤ (base x :: asked).count b := by
        intro b
        rw [List.count_cons]
        exact Nat.le_add_right_of_le (hfewer b)
      rw [List.filter_cons_of_neg (by rw [hkeep]; exact Bool.false_ne_true),
        List.filter_cons_of_neg (by simp [hkeep]), ih hone]
      simp only [count_eq_count_cons_iff hfewer, reduceCtorEq, false_implies, true_and,
        true_implies]
      constructor
      · rintro ⟨hcounts, hpairs⟩
        exact ⟨fun y hy hky => (hcounts y hy hky).1, fun y hy hky => (hcounts y hy hky).2, hpairs⟩
      · rintro ⟨hcounts, hbases, hpairs⟩
        exact ⟨fun y hy hky => ⟨hcounts y hy hky, hbases y hy hky⟩, hpairs⟩

/-- Leaving members out of a row keeps the names of the others exactly if none that is left out comes
before another one of its base. -/
theorem numberRow_filter_iff (asked : List String) (xs : List α) :
    numberRow base asked (xs.filter keep) =
        (numberRow base asked xs).filter (fun named => keep named.1) ↔
      xs.Pairwise fun x y => keep x = false → keep y = true → base x ≠ base y := by
  rw [numberRow_filter_iff_of_fewer base keep fun _ => Nat.le_refl _]
  exact and_iff_right fun _ _ _ => rfl

end filter

end JniBridge.Naming
