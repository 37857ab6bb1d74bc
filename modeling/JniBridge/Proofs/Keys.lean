import JniBridge.Linking
import JniBridge.Proofs.Outcome
/-
The keys by which a closure looks up its dispatcher.

A string is spelled as a list of character literals, with a comma and a blank between two of them.  All
these signs can be characters of the string, and quotes inside a literal are told from those around it by
nothing but a backslash.  Still there is only one way to read such a list from left to right
(`Naming.readTemplate_append`), because a literal shows with its second sign where it ends.  So whatever
comes behind a spelled string, the string can be split off (`Naming.templateString_append_inj`).

A look-up has one such key or a row of them.  `UpcallUnit.lookups_tell` says when those of two closures are
the same.
-/

namespace JniBridge

/-! ## Spelled strings, read back -/

namespace Naming

/-- Reads literals, each behind its separator, up to the bracket that closes the list; what comes behind
that is left over. -/
def readLiterals : List Char → Option (List Char × List Char)
  | '>' :: rest => some ([], rest)
  | ',' :: ' ' :: '\'' :: '\\' :: c :: '\'' :: rest =>
    (readLiterals rest).map fun (cs, left) => (c :: cs, left)
  | ',' :: ' ' :: '\'' :: c :: '\'' :: rest =>
    (readLiterals rest).map fun (cs, left) => (c :: cs, left)
  | _ => none

/-- Reads a list of literals, the first of which has no separator before it. -/
def readList : List Char → Option (List Char × List Char)
  | '>' :: rest => some ([], rest)
  | text => readLiterals (", ".toList ++ text)

/-- What a spelled string starts with. -/
def templateHead : List Char := (Vocabulary.helper "TemplateString" ++ "<").toList

/-- Reads a spelled string, and leaves what comes behind it. -/
def readTemplate (text : List Char) : Option (String × List Char) :=
  if templateHead.isPrefixOf text then
    (readList (text.drop templateHead.length)).map fun (cs, left) => (String.ofList cs, left)
  else none

/-- A literal is read as its character. -/
theorem readLiterals_quotedChar (c : Char) (rest : List Char) :
    readLiterals (", ".toList ++ (quotedChar c).toList ++ rest) =
      (readLiterals rest).map fun (cs, left) => (c :: cs, left) := by
  unfold quotedChar
  split
  · rfl
  · rfl
  · next hquote hbackslash =>
    -- without a backslash the literal ends right behind its character
    have htext : ", ".toList ++ ("'" ++ c.toString ++ "'").toList ++ rest =
        ',' :: ' ' :: '\'' :: c :: '\'' :: rest := by
      simp
    rw [htext, readLiterals.eq_3]
    intro _ hc _
    exact hbackslash hc

/-- A literal starts with a quote. -/
theorem exists_toList_quotedChar (c : Char) : ∃ more, (quotedChar c).toList = '\'' :: more := by
  unfold quotedChar
  split
  · exact ⟨_, rfl⟩
  · exact ⟨_, rfl⟩
  · exact ⟨[c, '\''], by simp⟩

/-- Literals, each behind its separator. -/
def separated (cs : List Char) : List Char := cs.flatMap fun c => ", ".toList ++ (quotedChar c).toList

theorem readLiterals_separated (cs rest : List Char) :
    readLiterals (separated cs ++ '>' :: rest) = some (cs, rest) := by
  induction cs with
  | nil => rfl
  | cons c cs ih =>
    have hfirst : separated (c :: cs) = ", ".toList ++ (quotedChar c).toList ++ separated cs :=
      List.flatMap_cons
    rw [hfirst, List.append_assoc, readLiterals_quotedChar, ih]
    rfl

/-- The first literal has no separator before it, and all others have. -/
theorem toList_literals (c : Char) (cs : List Char) :
    (", ".intercalate ((c :: cs).map quotedChar)).toList = (quotedChar c).toList ++ separated cs := by
  induction cs generalizing c with
  | nil => simp [separated]
  | cons d cs ih =>
    have hne : (d :: cs).map quotedChar ≠ [] := List.cons_ne_nil _ _
    have hfirst : separated (d :: cs) = ", ".toList ++ (quotedChar d).toList ++ separated cs :=
      List.flatMap_cons
    rw [List.map_cons, String.intercalate_cons_of_ne_nil hne, String.toList_append,
      String.toList_append, ih, hfirst, List.append_assoc, List.append_assoc]

theorem readList_literals (cs rest : List Char) :
    readList ((", ".intercalate (cs.map quotedChar)).toList ++ '>' :: rest) = some (cs, rest) := by
  cases cs with
  | nil => rfl
  | cons c cs =>
    -- the list starts with a quote, so it is not at its end
    obtain ⟨more, hmore⟩ := exists_toList_quotedChar c
    have hlist : readList ((quotedChar c).toList ++ (separated cs ++ '>' :: rest)) =
        readLiterals (", ".toList ++ (quotedChar c).toList ++ (separated cs ++ '>' :: rest)) := by
      rw [hmore, List.append_assoc]
      rfl
    rw [toList_literals, List.append_assoc, hlist, readLiterals_quotedChar, readLiterals_separated]
    rfl

theorem toList_templateString (value : String) :
    (templateString value).toList =
      templateHead ++ ((", ".intercalate (value.toList.map quotedChar)).toList ++ ['>']) := by
  unfold templateString
  rw [String.toList_append, String.toList_append, List.append_assoc]
  rfl

/-- A spelled string is read as the string, whatever comes behind it. -/
theorem readTemplate_append (value : String) (rest : List Char) :
    readTemplate ((templateString value).toList ++ rest) = some (value, rest) := by
  have htext : (templateString value).toList ++ rest =
      templateHead ++
        ((", ".intercalate (value.toList.map quotedChar)).toList ++ '>' :: rest) := by
    rw [toList_templateString, List.append_assoc, List.append_assoc]
    rfl
  have hhead : templateHead.isPrefixOf (templateHead ++
      ((", ".intercalate (value.toList.map quotedChar)).toList ++ '>' :: rest)) := by
    rw [List.isPrefixOf_iff_prefix]
    exact List.prefix_append _ _
  rw [htext, readTemplate, if_pos hhead, List.drop_left, readList_literals]
  exact congrArg (fun s => some (s, rest)) String.ofList_toList

/-- A spelled string can be split off from what comes behind it. -/
theorem templateString_append_inj {value value' : String} {rest rest' : List Char}
    (h : (templateString value).toList ++ rest = (templateString value').toList ++ rest') :
    value = value' ∧ rest = rest' := by
  have hread := congrArg readTemplate h
  rw [readTemplate_append, readTemplate_append] at hread
  exact Prod.mk.inj (Option.some.inj hread)

theorem templateString_injective : Function.Injective templateString := by
  intro value value' h
  have htext : (templateString value).toList ++ [] = (templateString value').toList ++ [] := by
    rw [h]
  exact (templateString_append_inj htext).1

/-- A comma in the string, and one between two characters. -/
example : readTemplate (templateString "','").toList = some ("','", []) := by decide

end Naming

/-! ## Look-ups -/

namespace UpcallUnit

/-- The binary name of the interface that a closure calls into. -/
def className (u : UpcallUnit) : String := u.callbackType.className?.getD ""

/-- The look-up of a class by its name. -/
def classLookup (name : String) : String :=
  Vocabulary.helper "getCachedClass" ++ "<" ++ Naming.templateString name ++ ">(" ++
    Vocabulary.environment .upcall ++ ")"

/-- The look-up of a method by the name of its class, its own and its descriptor. -/
def methodLookup (name method descriptor : String) : String :=
  Vocabulary.helper "getCachedStaticMethod" ++ "<" ++ Naming.templateString name ++ ", " ++
    Naming.templateString method ++ ", " ++ Naming.templateString descriptor ++ ">(" ++
    Vocabulary.environment .upcall ++ ")"

/-- The last things that a closure declares before it calls are the class and the method that it has
looked up. -/
def LooksUp (u : UpcallUnit) (classKey methodKey : String) : Prop :=
  ∃ before, u.nativeBody.bindings = before ++
    [⟨none, "func$$classId", .literal classKey⟩, ⟨none, "func$$methodId", .literal methodKey⟩]

theorem classLookup_injective : Function.Injective classLookup := by
  intro a b h
  simp only [classLookup, String.append_left_inj, String.append_right_inj] at h
  exact Naming.templateString_injective h

/-- The keys in the look-up of a method are told apart one after the other. -/
theorem methodLookup_inj {a b a' b' : String} {m m' : String}
    (h : methodLookup a m b = methodLookup a' m' b') : a = a' ∧ m = m' ∧ b = b' := by
  have htext := congrArg String.toList h
  simp only [methodLookup, String.toList_append, List.append_assoc, List.append_cancel_left_eq] at htext
  obtain ⟨hclass, hrest⟩ := Naming.templateString_append_inj htext
  obtain ⟨hmethod, hrest⟩ := Naming.templateString_append_inj (List.append_cancel_left hrest)
  obtain ⟨hdescriptor, -⟩ := Naming.templateString_append_inj (List.append_cancel_left hrest)
  exact ⟨hclass, hmethod, hdescriptor⟩

/-- What the closure of a unit looks up is its own dispatcher, in the class of its own interface. -/
theorem looksUp_of_ofLinkage {l : Linkage} {callbackType : JavaType} {names : MemberNames}
    {u : UpcallUnit} (h : ofLinkage l callbackType names = .ok u) :
    u.LooksUp (classLookup u.className)
      (methodLookup u.className u.caller.name u.caller.descriptor) := by
  unfold ofLinkage at h
  dsimp only at h
  split at h
  · exact nomatch h
  · obtain ⟨javaBody, -, h⟩ := exists_of_except_bind h
    obtain ⟨run, -, h⟩ := exists_of_except_bind h
    obtain ⟨nativeBody, hnative, h⟩ := exists_of_except_bind h
    obtain rfl := Except.ok.inj h
    -- the body ends with the look-ups that it is given
    obtain ⟨bound, -, hnative⟩ := exists_of_except_bind hnative
    obtain ⟨completion, -, hnative⟩ := exists_of_except_bind hnative
    obtain rfl := Except.ok.inj hnative
    exact ⟨_, rfl⟩

/-- A spelled string is read back from left to right, so different strings are spelled differently.  Hence
two closures look up the same class exactly if the classes have one name, and the same method exactly if,
besides, the dispatchers have one name and one descriptor. -/
theorem lookups_tell :
    (∀ value rest, Naming.readTemplate ((Naming.templateString value).toList ++ rest) =
      some (value, rest)) ∧
    Function.Injective Naming.templateString ∧
    ∀ (l l' : Linkage) (interface interface' : JavaType) (names names' : MemberNames)
      (u u' : UpcallUnit), ofLinkage l interface names = .ok u →
      ofLinkage l' interface' names' = .ok u' →
      ∃ classKey methodKey classKey' methodKey', u.LooksUp classKey methodKey ∧
        u'.LooksUp classKey' methodKey' ∧ (classKey = classKey' ↔ u.className = u'.className) ∧
        (methodKey = methodKey' ↔ u.className = u'.className ∧ u.caller.name = u'.caller.name ∧
          u.caller.descriptor = u'.caller.descriptor) := by
  refine ⟨Naming.readTemplate_append, Naming.templateString_injective,
    fun l l' interface interface' names names' u u' hu hu' => ?_⟩
  refine ⟨_, _, _, _, looksUp_of_ofLinkage hu, looksUp_of_ofLinkage hu',
    classLookup_injective.eq_iff, methodLookup_inj, ?_⟩
  rintro ⟨hclass, hmethod, hdescriptor⟩
  rw [hclass, hmethod, hdescriptor]

/-- Two callbacks of one interface that take numbers of different width: they share the class, and no
method. -/
theorem lookups_tell_widths :
    ∃ op op' linked linked' u u' classKey methodKey classKey' methodKey',
      Operation.runCallback "tick" (.function .void [.ofScalar .int "int", .voidPointer])
        (.ofClass "geo" "Native.Tick") = .ok op ∧
      Operation.runCallback "tick" (.function .void [.ofScalar .long "long", .voidPointer])
        (.ofClass "geo" "Native.Tick") = .ok op' ∧
      (op.link { package := "geo", container := "Native" } .upcall).outcome = .ok linked ∧
      (op'.link { package := "geo", container := "Native" } .upcall).outcome = .ok linked' ∧
      ofLinkage linked.linkage (.ofClass "geo" "Native.Tick") {} = .ok u ∧
      ofLinkage linked'.linkage (.ofClass "geo" "Native.Tick") {} = .ok u' ∧
      u.LooksUp classKey methodKey ∧ u'.LooksUp classKey' methodKey' ∧ classKey = classKey' ∧
      methodKey ≠ methodKey' := by
  have hlinked : ∃ op linked u,
      Operation.runCallback "tick" (.function .void [.ofScalar .int "int", .voidPointer])
        (.ofClass "geo" "Native.Tick") = .ok op ∧
      (op.link { package := "geo", container := "Native" } .upcall).outcome = .ok linked ∧
      ofLinkage linked.linkage (.ofClass "geo" "Native.Tick") {} = .ok u ∧
      u.className = "geo/Native$Tick" ∧ u.caller.descriptor = "(ILgeo/Native$Tick;)V" :=
    ⟨_, _, _, rfl, rfl, rfl, rfl, rfl⟩
  have hlinked' : ∃ op linked u,
      Operation.runCallback "tick" (.function .void [.ofScalar .long "long", .voidPointer])
        (.ofClass "geo" "Native.Tick") = .ok op ∧
      (op.link { package := "geo", container := "Native" } .upcall).outcome = .ok linked ∧
      ofLinkage linked.linkage (.ofClass "geo" "Native.Tick") {} = .ok u ∧
      u.className = "geo/Native$Tick" ∧ u.caller.descriptor = "(JLgeo/Native$Tick;)V" :=
    ⟨_, _, _, rfl, rfl, rfl, rfl, rfl⟩
  obtain ⟨op, linked, u, hop, hl, hu, hname, hdescriptor⟩ := hlinked
  obtain ⟨op', linked', u', hop', hl', hu', hname', hdescriptor'⟩ := hlinked'
  obtain ⟨classKey, methodKey, classKey', methodKey', hlooks, hlooks', hclass, hmethod⟩ :=
    lookups_tell.2.2 _ _ _ _ _ _ u u' hu hu'
  refine ⟨op, op', linked, linked', u, u', classKey, methodKey, classKey', methodKey', hop, hop', hl,
    hl', hu, hu', hlooks, hlooks', hclass.2 (hname.trans hname'.symm), fun hsame => ?_⟩
  have hdescriptors := (hmethod.1 hsame).2.2
  rw [hdescriptor, hdescriptor'] at hdescriptors
  revert hdescriptors
  decide

end UpcallUnit

end JniBridge
