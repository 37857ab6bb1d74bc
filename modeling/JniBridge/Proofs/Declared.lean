import JniBridge.Proofs.Crossing
/-
What the Java body of a function takes its arguments from.

The public method declares a parameter under its escaped name (`Parameter.javaParam?`), the body converts
it from the name as it stands in the header (`Parameter.on`).  The converted text tells what it was
converted from (`Action.transit?_injective`), so the body mentions what the method declares exactly for
those names that escaping leaves alone (`Naming.escape_eq_self_iff`).
-/

namespace JniBridge

open Linking

/-! ## Names that Java takes as they are -/

namespace Naming

/-- Java has no objection to the name. -/
def Unescaped (name : String) : Prop := name ∉ reserved ∧ name.toList.head? ≠ some '@'

instance (name : String) : Decidable (Unescaped name) :=
  inferInstanceAs (Decidable (_ ∧ _))

theorem dropAt_of_head {name : String} (h : name.toList.head? ≠ some '@') : dropAt name = name := by
  unfold dropAt
  split
  · next rest hname =>
    rw [hname] at h
    exact absurd rfl h
  · rfl

/-- Only the sign itself is dropped. -/
theorem toList_dropAt {name : String} {rest : List Char} (h : name.toList = '@' :: rest) :
    (dropAt name).toList = rest := by
  unfold dropAt
  rw [h]
  exact String.toList_ofList

/-- Escaping leaves alone what Java has no objection to, and nothing else. -/
theorem escape_eq_self_iff (name : String) : escape name = name ↔ Unescaped name := by
  have htoList : (dropAt name ++ "_").toList = (dropAt name).toList ++ ['_'] := String.toList_append
  constructor
  · intro h
    have hhead : name.toList.head? ≠ some '@' := by
      intro hat
      obtain ⟨rest, hname⟩ := List.head?_eq_some_iff.1 hat
      have hdrop := toList_dropAt hname
      unfold escape at h
      dsimp only at h
      split at h
      · -- an underscore at the end does not make up for the sign
        have hcount := congrArg (fun s => s.toList.count '@') h
        simp only [htoList, hdrop, hname, List.count_append, List.count_cons_self] at hcount
        have hunderscore : List.count '@' ['_'] = 0 := by decide
        omega
      · have hlength := congrArg (fun s => s.toList.length) h
        simp only [hdrop, hname, List.length_cons] at hlength
        omega
    refine ⟨fun hreserved => ?_, hhead⟩
    unfold escape at h
    rw [dropAt_of_head hhead] at h htoList
    dsimp only at h
    rw [if_pos (List.contains_iff_mem.2 hreserved)] at h
    have hlength := congrArg (fun s => s.toList.length) h
    simp only [htoList, List.length_append, List.length_singleton] at hlength
    omega
  · rintro ⟨hreserved, hhead⟩
    unfold escape
    rw [dropAt_of_head hhead]
    dsimp only
    rw [if_neg fun h => hreserved (List.contains_iff_mem.1 h)]

end Naming

/-! ## Converted texts -/

/-- A text written twice can be told from what is written between and behind. -/
theorem eq_of_written_twice {x y : String} (between behind : String)
    (h : x ++ between ++ x ++ behind = y ++ between ++ y ++ behind) : x = y := by
  have hlists := congrArg String.toList h
  simp only [String.toList_append, List.append_assoc] at hlists
  have hlength := congrArg List.length hlists
  simp only [List.length_append] at hlength
  exact String.toList_inj.1 (List.append_inj_left hlists (by omega))

namespace Action

/-- What goes from Java to the native interface shows what it was converted from. -/
theorem transit?_injective {a : Action} {x y text : String} {d : Direction}
    (hx : a.transit? x .javaToJni d = some text) (hy : a.transit? y .javaToJni d = some text) :
    x = y := by
  have hxy : a.transit? x .javaToJni d = a.transit? y .javaToJni d := hx.trans hy.symm
  cases a with
  | primitive native jni => exact Option.some.inj hxy
  | pointer pointee => exact Option.some.inj hxy
  | enumeration native => exact Option.some.inj hxy
  | nativeString deletion => exact eq_of_written_twice _ _ (Option.some.inj hxy)
  | deletionFlag => exact (String.append_left_inj _).1 (Option.some.inj hxy)
  | structCopy native javaClass | nestedStruct native javaClass =>
    -- a wrapper is asked for its handle, a bare number is passed on
    cases javaClass with
    | none => exact Option.some.inj hxy
    | some javaClass => exact (String.append_left_inj _).1 (Option.some.inj hxy)
  | callbackObject =>
    cases d with
    | downcall => exact (String.append_left_inj _).1 (Option.some.inj hxy)
    | upcall => exact nomatch hx
  | callbackLambda callback code => exact nomatch hx
  | structHandle native => exact nomatch hx

end Action

/-! ## The Java body -/

/-- The variable is the parameter as it is converted from the incoming expression. -/
def Binding.ConvertsFrom (b : Binding Expression) (p : Parameter) (e : Edge) (incoming : String) :
    Prop :=
  p.action.transit incoming e p.direction = .ok b.value

/-- A converted parameter is converted from its name. -/
theorem Binding.Holds.convertsFrom {b : Binding Expression} {p : Parameter} {e : Edge}
    (h : b.Holds p e) (htransit : p.behaviors.get e = .transit) : b.ConvertsFrom p e p.name := by
  have hvalue := h.value
  rw [Parameter.on, htransit] at hvalue
  unfold ConvertsFrom
  cases ht : p.action.transit p.name e p.direction with
  | error reason =>
    rw [ht] at hvalue
    cases hvalue
  | ok x =>
    rw [ht] at hvalue
    rw [Option.some.inj (Except.ok.inj hvalue)]

/-- What it is converted to is a text. -/
theorem Binding.ConvertsFrom.text {b : Binding Expression} {p : Parameter} {e : Edge} {x : String}
    (h : b.ConvertsFrom p e x) :
    ∃ text, p.action.transit? x e p.direction = some text ∧ b.value = .literal text := by
  unfold ConvertsFrom Action.transit at h
  cases htext : p.action.transit? x e p.direction with
  | none =>
    rw [htext] at h
    exact nomatch h
  | some text =>
    rw [htext] at h
    exact ⟨text, rfl, (Except.ok.inj h).symm⟩

/-- In Java there is no other expression that it could be converted from. -/
theorem Binding.ConvertsFrom.eq {b : Binding Expression} {p : Parameter} {x y : String}
    (hx : b.ConvertsFrom p .javaToJni x) (hy : b.ConvertsFrom p .javaToJni y) : x = y := by
  obtain ⟨text, htext, hvalue⟩ := hx.text
  obtain ⟨text', htext', hvalue'⟩ := hy.text
  obtain rfl := Expression.literal.inj (hvalue.symm.trans hvalue')
  exact Action.transit?_injective htext htext'

namespace DowncallUnit

variable {decl : FunctionDecl} {spec : DowncallSpec} {ctx : Context} {u : DowncallUnit}

/-- What is converted in Java is declared by the public method, under its escaped name. -/
theorem declared_of_transit (h : (link (.callNative decl) spec ctx).outcome = .ok u) {p : Parameter}
    (hp : p ∈ u.linkage.allParameters) (htransit : p.behaviors.get .javaToJni = .transit) :
    ∃ declared ∈ u.javaMethod.params, p.javaParam? = some declared ∧
      declared.name = Naming.escape p.name := by
  obtain ⟨hlinked, haround⟩ := around_of_link h
  obtain ⟨⟨name, seen⟩, -, hshows⟩ := exists_mem_of_forall₂ hlinked.shows p hp
  have htaken := hshows.taken
  have hjava := hshows.java
  rw [htransit] at htaken
  cases seen with
  | false => exact nomatch htaken
  | true =>
    obtain ⟨type, htype⟩ := Option.isSome_iff_exists.1 hjava
    have hparam : p.javaParam? = some ⟨type, Naming.escape p.name⟩ := by
      rw [Parameter.javaParam?, htype]
      rfl
    refine ⟨_, ?_, hparam, rfl⟩
    rw [haround.javaMethod]
    exact List.mem_filterMap.2 ⟨p, hp, hparam⟩

/-- Each variable of the Java body is converted from its parameter's name in the header and from nothing
else.  That is the name under which the public method declares the parameter exactly if Java has no
objection to it. -/
def ConvertsByName (u : DowncallUnit) : Prop :=
  List.Forall₂
    (fun p b => b.Holds p .javaToJni ∧
      (∀ incoming, b.ConvertsFrom p .javaToJni incoming ↔ incoming = p.name) ∧
      ∃ declared ∈ u.javaMethod.params, p.javaParam? = some declared ∧
        (b.ConvertsFrom p .javaToJni declared.name ↔ Naming.Unescaped p.name))
    (u.linkage.allParameters.filter fun p => p.behaviors.get .javaToJni = .transit)
    u.javaBody.bindings

/-- So it is for every function that links. -/
theorem converts_declared (decl : FunctionDecl) (spec : DowncallSpec) (ctx : Context)
    {u : DowncallUnit} (h : (link (.callNative decl) spec ctx).outcome = .ok u) :
    u.ConvertsByName := by
  obtain ⟨hlinked, haround⟩ := around_of_link h
  have htaken : (u.linkage.allParameters.filter fun p => p.behaviors.supports .javaToJni) =
      u.linkage.allParameters.filter fun p => p.behaviors.get .javaToJni = .transit := by
    refine List.filter_congr fun p hp => ?_
    obtain ⟨⟨name, seen⟩, -, hshows⟩ := exists_mem_of_forall₂ hlinked.shows p hp
    rw [Behaviors.supports, hshows.taken]
    cases seen <;> rfl
  have hjava := haround.java_variables hlinked
  have hmem : ∀ p ∈ u.linkage.allParameters.filter fun p => p.behaviors.get .javaToJni = .transit,
      p ∈ u.linkage.allParameters ∧ p.behaviors.get .javaToJni = .transit := by
    intro p hp
    obtain ⟨hp, htransit⟩ := List.mem_filter.1 hp
    exact ⟨hp, of_decide_eq_true htransit⟩
  have hboth := (List.forall₂_and_left _ _).2 ⟨hmem, htaken ▸ hjava⟩
  refine hboth.imp fun p b hpb => ?_
  obtain ⟨⟨hp, htransit⟩, hb⟩ := hpb
  have hconverts := hb.convertsFrom htransit
  have hunique : ∀ incoming, b.ConvertsFrom p .javaToJni incoming ↔ incoming = p.name :=
    fun incoming => ⟨fun hx => hx.eq hconverts, fun hx => hx ▸ hconverts⟩
  obtain ⟨declared, hdeclared, hparam, hname⟩ := declared_of_transit h hp htransit
  refine ⟨hb, hunique, declared, hdeclared, hparam, ?_⟩
  rw [hunique, hname, Naming.escape_eq_self_iff]

/-- Of two parameters Java takes one as it is. -/
theorem converts_declared_class :
    ∃ u, (link (.callNative ⟨"f", .void,
        [⟨"class", .ofScalar .int "int"⟩, ⟨"count", .ofScalar .int "int"⟩]⟩)
        (.ofName "f" (.ofClass "geo" "Native"))
        { package := "geo", container := "Native" }).outcome = .ok u ∧
      u.javaMethod.params.map Param.name = ["class_", "count"] ∧
      u.javaBody.bindings.map (fun b => b.value.literal?) = [some "class", some "count"] ∧
      u.ConvertsByName :=
  ⟨_, rfl, rfl, rfl, converts_declared ⟨"f", .void,
    [⟨"class", .ofScalar .int "int"⟩, ⟨"count", .ofScalar .int "int"⟩]⟩
    (.ofName "f" (.ofClass "geo" "Native")) { package := "geo", container := "Native" } rfl⟩

/-- The other one is converted from a name that the method does not declare. -/
theorem converts_undeclared :
    ∃ u, (link (.callNative ⟨"f", .void, [⟨"class", .ofScalar .int "int"⟩]⟩)
        (.ofName "f" (.ofClass "geo" "Native"))
        { package := "geo", container := "Native" }).outcome = .ok u ∧
      ∃ p ∈ u.linkage.allParameters, p.behaviors.get .javaToJni = .transit ∧
        ∃ b ∈ u.javaBody.bindings, b.Holds p .javaToJni ∧
          ∀ declared ∈ u.javaMethod.params, ¬ b.ConvertsFrom p .javaToJni declared.name := by
  refine ⟨_, rfl, _, List.mem_singleton_self _, rfl, _, List.mem_singleton_self _,
    ⟨rfl, rfl, rfl⟩, fun declared hdeclared hconverts => ?_⟩
  obtain rfl := List.mem_singleton.1 hdeclared
  have hvalues := Expression.literal.inj (Except.ok.inj hconverts)
  exact absurd hvalues (by decide)

end DowncallUnit

end JniBridge
