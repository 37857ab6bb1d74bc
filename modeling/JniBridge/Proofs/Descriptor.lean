import Mathlib.Data.Bool.AllAny
import Mathlib.Data.List.Forall2
import JniBridge.Signature
/-
Reading a descriptor back.

A descriptor is written without separators, and the codes of types vary in length.  It can be read all the
same, since the first letter of a code tells how it goes on (`JavaType.SameForm`) and a class's name ends at
the first semicolon, so no code is the beginning of another (`JavaType.descriptor_append_inj`).  What is read
is the type up to annotations and type arguments (`JavaType.erase`), which no descriptor knows.
-/

namespace JniBridge

/-! ## Erasure -/

namespace JavaType

/-- The type without annotations and type arguments, at any array depth. -/
def erase : JavaType → JavaType
  | void _ => void []
  | scalar kind _ => scalar kind []
  | object package name _ _ => object package name [] []
  | array element _ => array element.erase []

@[simp]
theorem descriptor_erase (t : JavaType) : t.erase.descriptor = t.descriptor := by
  induction t using erase.induct with
  | case4 element _ ih => rw [erase, descriptor, descriptor, ih]
  | _ => rfl

end JavaType

/-- The method with all its types erased. -/
def JavaMethod.erase (m : JavaMethod) : JavaMethod :=
  { m with returns := m.returns.erase, params := m.params.map fun p => ⟨p.type.erase, p.name⟩ }

theorem JavaMethod.descriptor_erase (m : JavaMethod) : m.erase.descriptor = m.descriptor := by
  simp [JavaMethod.descriptor, JavaMethod.erase, Function.comp_def]

/-! ## Letters -/

namespace JavaScalar

/-- The descriptor is a single letter. -/
def letter : JavaScalar → Char
  | boolean => 'Z'
  | byte => 'B'
  | char => 'C'
  | short => 'S'
  | int => 'I'
  | long => 'J'
  | float => 'F'
  | double => 'D'

theorem letter_injective {k l : JavaScalar} (h : k.letter = l.letter) : k = l := by
  cases k <;> cases l <;> first | rfl | exact absurd h (by decide)

/-- The letters of `void`, of classes and arrays, and what ends the parameters, are no scalar's. -/
theorem letter_ne (k : JavaScalar) {c : Char} (hc : c ∈ ['V', 'L', '[', ')']) : k.letter ≠ c := by
  have hall : ∀ c ∈ ['V', 'L', '[', ')'], k.letter ≠ c := by
    cases k <;> exact List.all_iff_forall_prop.1 rfl
  exact hall c hc

end JavaScalar

/-! ## Class names -/

/-- The name holds nothing that descriptors put between names or behind them. -/
def PlainName (name : String) : Prop := ∀ c ∈ name.toList, c ≠ ';' ∧ c ≠ '/' ∧ c ≠ '$'

section lists

variable {α : Type} {a : α} {x y s t : List α}

/-- Two texts are cut alike at their first mark. -/
theorem eq_of_append_cons (hx : a ∉ x) (hy : a ∉ y) (h : x ++ a :: s = y ++ a :: t) :
    x = y ∧ s = t := by
  induction x generalizing y with
  | nil =>
    cases y with
    | nil => exact ⟨rfl, (List.cons.inj h).2⟩
    | cons b y => exact absurd ((List.cons.inj h).1 ▸ List.mem_cons_self) hy
  | cons b x ih =>
    cases y with
    | nil => exact absurd ((List.cons.inj h).1 ▸ List.mem_cons_self) hx
    | cons c y =>
      obtain ⟨rfl, hrest⟩ := List.cons.inj h
      obtain ⟨rfl, hs⟩ := ih (fun hmem => hx (List.mem_cons_of_mem _ hmem))
        (fun hmem => hy (List.mem_cons_of_mem _ hmem)) hrest
      exact ⟨rfl, hs⟩

/-- And at their last. -/
theorem eq_of_append_cons_last (hs : a ∉ s) (ht : a ∉ t) (h : x ++ a :: s = y ++ a :: t) :
    x = y ∧ s = t := by
  have hreverse : s.reverse ++ a :: x.reverse = t.reverse ++ a :: y.reverse := by
    simpa using congrArg List.reverse h
  obtain ⟨hst, hxy⟩ := eq_of_append_cons (by simpa using hs) (by simpa using ht) hreverse
  exact ⟨List.reverse_inj.1 hxy, List.reverse_inj.1 hst⟩

end lists

namespace JavaType

/-- A replacement is undone, if the new character was not there before. -/
theorem replaceChar_inj {new : Char} {a b : String} (ha : new ∉ a.toList) (hb : new ∉ b.toList)
    (h : Text.replaceChar '.' new a = Text.replaceChar '.' new b) : a = b := by
  have hback : ∀ s : String, new ∉ s.toList →
      ((Text.replaceChar '.' new s).toList.map fun c => if c = new then '.' else c) = s.toList := by
    intro s hs
    rw [Text.replaceChar, String.toList_ofList, List.map_map]
    refine (List.map_congr_left fun c hc => ?_).trans (List.map_id _)
    show (if (if c = '.' then new else c) = new then '.' else if c = '.' then new else c) = c
    by_cases hdot : c = '.'
    · simp [hdot]
    · have hne : c ≠ new := fun hnew => hs (hnew ▸ hc)
      rw [if_neg hdot, if_neg hne]
  rw [← String.toList_inj, ← hback a ha, ← hback b hb, h]

theorem not_mem_replaceChar {new c : Char} {s : String} (hnew : c ≠ new) (hs : c ∉ s.toList) :
    c ∉ (Text.replaceChar '.' new s).toList := by
  rw [Text.replaceChar, String.toList_ofList]
  intro hmem
  obtain ⟨d, hd, hc⟩ := List.mem_map.1 hmem
  split at hc
  · exact hnew hc.symm
  · exact hs (hc ▸ hd)

variable {p q m n : String}

/-- A class's name ends where its descriptor puts a semicolon. -/
theorem semicolon_not_mem_binaryName (hp : PlainName p) (hn : PlainName n) :
    ';' ∉ (binaryName p n).toList := by
  have hnested : ';' ∉ (Text.replaceChar '.' '$' n).toList :=
    not_mem_replaceChar (by decide) fun h => (hn _ h).1 rfl
  have hfolders : ';' ∉ (Text.replaceChar '.' '/' p).toList :=
    not_mem_replaceChar (by decide) fun h => (hp _ h).1 rfl
  unfold binaryName
  dsimp only
  split
  · exact hnested
  · simp [String.toList_append, hnested, hfolders]

/-- Package and name can be told from the binary name. -/
theorem binaryName_inj (hp : PlainName p) (hq : PlainName q) (hm : PlainName m) (hn : PlainName n)
    (h : binaryName p m = binaryName q n) : p = q ∧ m = n := by
  have hslash : ∀ {n}, PlainName n → '/' ∉ (Text.replaceChar '.' '$' n).toList := fun hn =>
    not_mem_replaceChar (by decide) fun h => (hn _ h).2.1 rfl
  have hnames : Text.replaceChar '.' '$' m = Text.replaceChar '.' '$' n → m = n :=
    replaceChar_inj (fun h => (hm _ h).2.2 rfl) fun h => (hn _ h).2.2 rfl
  have hpackages : Text.replaceChar '.' '/' p = Text.replaceChar '.' '/' q → p = q :=
    replaceChar_inj (fun h => (hp _ h).2.1 rfl) fun h => (hq _ h).2.1 rfl
  unfold binaryName at h
  dsimp only at h
  split at h
  · next hempty =>
    split at h
    · next hempty' =>
      rw [String.isEmpty_iff] at hempty hempty'
      exact ⟨hempty.trans hempty'.symm, hnames h⟩
    · exact absurd (by rw [h]; simp) (hslash hm)
  · split at h
    · exact absurd (by rw [← h]; simp) (hslash hn)
    · have hlists := congrArg String.toList h
      simp only [String.toList_append, List.append_assoc] at hlists
      obtain ⟨hfolders, hnested⟩ := eq_of_append_cons_last (hslash hm) (hslash hn) hlists
      exact ⟨hpackages (String.toList_inj.1 hfolders), hnames (String.toList_inj.1 hnested)⟩

/-! ## One type -/

/-- The class that the type is, or is an array of, is named without marks. -/
def Readable : JavaType → Prop
  | object package name _ _ => PlainName package ∧ PlainName name
  | array element _ => element.Readable
  | void _ | scalar _ _ => True

/-- The letter that a descriptor starts with. -/
def initial : JavaType → Char
  | void _ => 'V'
  | scalar kind _ => kind.letter
  | object .. => 'L'
  | array .. => '['

/-- What follows the first letter. -/
def rest : JavaType → List Char
  | void _ | scalar _ _ => []
  | object package name _ _ => (binaryName package name).toList ++ [';']
  | array element _ => element.descriptor.toList

theorem descriptor_toList (t : JavaType) : t.descriptor.toList = t.initial :: t.rest := by
  cases t with
  | void => simp [descriptor, initial, rest]
  | scalar kind => cases kind <;> simp [descriptor, JavaScalar.descriptor, initial, rest,
      JavaScalar.letter]
  | object p n => simp [descriptor, initial, rest, String.toList_append]
  | array e => simp [descriptor, initial, rest, String.toList_append]

/-- The types are built alike. -/
inductive SameForm : JavaType → JavaType → Prop
  | void (as bs) : SameForm (.void as) (.void bs)
  | scalar (kind as bs) : SameForm (.scalar kind as) (.scalar kind bs)
  | object (p m gs as q n hs bs) : SameForm (.object p m gs as) (.object q n hs bs)
  | array (e as f bs) : SameForm (.array e as) (.array f bs)

/-- The first letter tells how a type is built. -/
theorem sameForm_of_initial {s t : JavaType} (h : s.initial = t.initial) : s.SameForm t := by
  cases s with
  | void as =>
    cases t with
    | void bs => exact .void as bs
    | scalar l => exact absurd h.symm (l.letter_ne (by simp [initial]))
    | object | array => exact absurd h (by simp [initial])
  | scalar k as =>
    cases t with
    | scalar l bs =>
      obtain rfl := JavaScalar.letter_injective h
      exact .scalar k as bs
    | void | object | array => exact absurd h (k.letter_ne (by simp [initial]))
  | object p m gs as =>
    cases t with
    | object q n hs bs => exact .object ..
    | scalar l => exact absurd h.symm (l.letter_ne (by simp [initial]))
    | void | array => exact absurd h (by simp [initial])
  | array e as =>
    cases t with
    | array f bs => exact .array ..
    | scalar l => exact absurd h.symm (l.letter_ne (by simp [initial]))
    | void | object => exact absurd h (by simp [initial])

/-- No type is as good as the end of the parameters. -/
theorem initial_ne_parenthesis (t : JavaType) : t.initial ≠ ')' := by
  cases t with
  | scalar k => exact k.letter_ne (by simp)
  | void | object | array => simp [initial]

/-- No descriptor is the beginning of another: what a text starts with tells the type up to erasure. -/
theorem descriptor_append_inj {s t : JavaType} {x y : List Char} (hs : s.Readable) (ht : t.Readable)
    (h : s.descriptor.toList ++ x = t.descriptor.toList ++ y) : s.erase = t.erase ∧ x = y := by
  induction s using erase.induct generalizing t with
  | case1 | case2 =>
    rw [descriptor_toList, descriptor_toList] at h
    obtain ⟨hinitial, hrest⟩ := List.cons.inj h
    cases sameForm_of_initial hinitial
    exact ⟨rfl, hrest⟩
  | case3 p m gs as =>
    rw [descriptor_toList, descriptor_toList] at h
    obtain ⟨hinitial, hrest⟩ := List.cons.inj h
    cases sameForm_of_initial hinitial with
    | object _ _ _ _ q n hs' bs =>
      -- the name ends at the semicolon
      obtain ⟨hp, hm⟩ := hs
      obtain ⟨hq, hn⟩ := ht
      have hcut : (binaryName p m).toList ++ ';' :: x = (binaryName q n).toList ++ ';' :: y := by
        simpa [rest] using hrest
      obtain ⟨hname, hxy⟩ := eq_of_append_cons (semicolon_not_mem_binaryName hp hm)
        (semicolon_not_mem_binaryName hq hn) hcut
      obtain ⟨rfl, rfl⟩ := binaryName_inj hp hq hm hn (String.toList_inj.1 hname)
      exact ⟨rfl, hxy⟩
  | case4 e as ih =>
    rw [descriptor_toList, descriptor_toList] at h
    obtain ⟨hinitial, hrest⟩ := List.cons.inj h
    cases sameForm_of_initial hinitial with
    | array _ _ f bs =>
      have hf : f.Readable := ht
      obtain ⟨helement, hxy⟩ := ih hs hf hrest
      exact ⟨by rw [erase, erase, helement], hxy⟩

/-- Only the type of nothing has the descriptor of nothing. -/
theorem descriptor_ne {t : JavaType} (ht : t.isVoid = false) : t.descriptor ≠ "V" := by
  intro h
  have hinitial : t.initial = (void []).initial := by
    have hlists := congrArg String.toList h
    rw [t.descriptor_toList] at hlists
    exact (List.cons.inj hlists).1
  cases sameForm_of_initial hinitial
  exact nomatch ht

end JavaType

/-! ## Methods -/

/-- The descriptors of parameters can be told apart, and where they end. -/
theorem erase_eq_of_params {ps qs : List (Param JavaType)} {x y : List Char}
    (hps : ∀ p ∈ ps, p.type.Readable) (hqs : ∀ q ∈ qs, q.type.Readable)
    (h : (String.join (ps.map fun p => p.type.descriptor)).toList ++ ')' :: x =
      (String.join (qs.map fun q => q.type.descriptor)).toList ++ ')' :: y) :
    List.Forall₂ (fun p q => p.type.erase = q.type.erase) ps qs ∧ x = y := by
  induction ps generalizing qs with
  | nil =>
    cases qs with
    | nil => exact ⟨.nil, by simpa using h⟩
    | cons q qs =>
      rw [List.map_cons, String.join_cons, String.toList_append, q.type.descriptor_toList] at h
      exact absurd (List.cons.inj h).1.symm q.type.initial_ne_parenthesis
  | cons p ps ih =>
    obtain ⟨hp, hps⟩ := List.forall_mem_cons.1 hps
    cases qs with
    | nil =>
      rw [List.map_cons, String.join_cons, String.toList_append, p.type.descriptor_toList] at h
      exact absurd (List.cons.inj h).1 p.type.initial_ne_parenthesis
    | cons q qs =>
      obtain ⟨hq, hqs⟩ := List.forall_mem_cons.1 hqs
      rw [List.map_cons, List.map_cons, String.join_cons, String.join_cons, String.toList_append,
        String.toList_append, List.append_assoc, List.append_assoc] at h
      obtain ⟨hfirst, hbehind⟩ := JavaType.descriptor_append_inj hp hq h
      obtain ⟨hothers, hxy⟩ := ih hps hqs hbehind
      exact ⟨.cons hfirst hothers, hxy⟩

/-- All types of the method are readable. -/
structure JavaMethod.Readable (m : JavaMethod) : Prop where
  params : ∀ p ∈ m.params, p.type.Readable
  returns : m.returns.Readable

/-- A descriptor tells the types of a method up to erasure. -/
theorem JavaMethod.erase_eq_of_descriptor {m n : JavaMethod} (hm : m.Readable) (hn : n.Readable)
    (h : m.descriptor = n.descriptor) :
    List.Forall₂ (fun p q => p.type.erase = q.type.erase) m.params n.params ∧
      m.returns.erase = n.returns.erase := by
  have hlists := congrArg String.toList h
  simp only [descriptor, String.toList_append, List.append_assoc] at hlists
  obtain ⟨hparams, hreturns⟩ := erase_eq_of_params hm.params hn.params (List.append_cancel_left hlists)
  refine ⟨hparams, (JavaType.descriptor_append_inj (x := []) (y := []) hm.returns hn.returns ?_).1⟩
  rw [List.append_nil, List.append_nil]
  exact hreturns

end JniBridge
