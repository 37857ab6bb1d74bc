import JniBridge.Proofs.Lookalike
/-
The native half of a call does not depend on what is registered.

Wrappers and enums show in Java only.  Registering a struct or dropping it changes the types and bodies
of public methods, but never the raw method that the virtual machine binds, nor what native code
executes, down to the closures of callbacks (`DowncallUnit.same_native_half`).  Nor does it decide
whether something links: the failures are the same, too.
-/

namespace JniBridge

/-- Everything is the same but for Java's half. -/
def Likeness.nativeHalf : Likeness where
  java := False
  exact := True

/-- The interfaces are the same on the native side. -/
structure CallbackInterface.SameNativeHalf (cb cb' : CallbackInterface) : Prop where
  operation : cb.operation = cb'.operation
  parameter : cb.parameter = cb'.parameter
  name : cb.name = cb'.name
  type : cb.type = cb'.type
  lambda : cb.method.lambda = cb'.method.lambda
  caller : cb.method.caller = cb'.method.caller
  run : cb.method.run = cb'.method.run
  nativeBody : cb.method.nativeBody = cb'.method.nativeBody

/-- The units are the same on the native side, up to the raw method that Java calls. -/
structure DowncallUnit.SameNativeHalf (u u' : DowncallUnit) : Prop where
  rawMethod : u.rawMethod = u'.rawMethod
  descriptor : u.rawMethod.descriptor = u'.rawMethod.descriptor
  glueMethod : u.glueMethod = u'.glueMethod
  nativeMethod : u.nativeMethod = u'.nativeMethod
  run : u.run = u'.run
  glueBody : u.glueBody = u'.glueBody
  callbacks : List.Forall₂ CallbackInterface.SameNativeHalf u.linked.callbacks u'.linked.callbacks

/-- Where native types are equal outright, so are native signatures. -/
theorem NativeMethod.Alike.eq {m m' : NativeMethod} (h : m.Alike .nativeHalf m') : m = m' := by
  obtain ⟨name, returns, params⟩ := m
  obtain ⟨name', returns', params'⟩ := m'
  obtain rfl : name = name' := h.name
  obtain rfl : returns = returns' := h.returns.exact trivial
  have hparams : params = params' := by
    rw [← List.forall₂_eq_eq_eq]
    refine h.params.imp fun p p' hp => ?_
    obtain ⟨type, name⟩ := p
    obtain ⟨type', name'⟩ := p'
    obtain rfl : type = type' := hp.1.exact trivial
    obtain rfl : name = name' := hp.2
    rfl
  rw [hparams]

theorem CallbackInterface.Alike.sameNativeHalf {cb cb' : CallbackInterface}
    (h : cb.Alike .nativeHalf cb') : cb.SameNativeHalf cb' where
  operation := h.operation
  parameter := h.parameter
  name := h.name
  type := h.type
  lambda := h.method.lambda.eq
  caller := h.method.caller
  run := h.method.run
  nativeBody := h.method.nativeBody

namespace DowncallUnit

theorem Alike.sameNativeHalf {u u' : DowncallUnit} (h : u.Alike .nativeHalf u') :
    u.SameNativeHalf u' where
  rawMethod := h.rawMethod
  descriptor := congrArg JavaMethod.descriptor h.rawMethod
  glueMethod := h.glueMethod
  nativeMethod := h.nativeMethod.eq
  run := h.run
  glueBody := h.glueBody
  callbacks := h.linked.callbacks.imp fun _ _ hcb => hcb.sameNativeHalf

/-- Under contexts that put classes in the same place under the same names, whatever is registered and
whatever the rules are, an operation has the same native half, or fails with the same cause. -/
theorem same_native_half {c c' : Context} (hpackage : c.package = c'.package)
    (hcontainer : c.container = c'.container) (hnames : c.names = c'.names) (op : Operation)
    (spec : DowncallSpec) :
    Together SameNativeHalf (· = ·) (link op spec c).outcome (link op spec c').outcome := by
  have hcontexts : c.Alike .nativeHalf c' := ⟨hpackage, hcontainer, hnames, False.elim⟩
  have hlooks : ∀ t, CType.Looks .nativeHalf (CType.Signature .nativeHalf) t t :=
    CType.Looks.refl CType.Signature.refl
  have hop : op.Looks .nativeHalf (CType.Signature .nativeHalf) op :=
    ⟨rfl, rfl, hlooks op.returns, List.forall₂_same.2 fun p _ =>
      ⟨rfl, rfl, hlooks p.type, fun _ => rfl⟩⟩
  exact (link_alike hop hcontexts spec).imp (fun _ _ hu => hu.sameNativeHalf) fun _ _ he =>
    he trivial

/-- With a wrapper for its points a function takes objects, and without one it takes numbers; the raw
method is the same. -/
theorem same_native_half_point :
    ∃ u u',
      (link (.callNative ⟨"norm", .ofScalar .double "double", [⟨"p", .ofRecord "struct Point"⟩]⟩)
        (.ofName "norm" (.ofClass "geo" "Native"))
        (Context.registerStruct { package := "geo", container := "Native" } "Point"
          ⟨.ofClass "geo" "Native.Point", false⟩)).outcome = .ok u ∧
      (link (.callNative ⟨"norm", .ofScalar .double "double", [⟨"p", .ofRecord "struct Point"⟩]⟩)
        (.ofName "norm" (.ofClass "geo" "Native"))
        { package := "geo", container := "Native" }).outcome = .ok u' ∧
      u.javaMethod.display = "public static double norm(geo.Native.Point p)" ∧
      u'.javaMethod.display = "public static double norm(" ++
        Vocabulary.pointerAnnotation "Point*" ++ " long p)" ∧
      u.SameNativeHalf u' := by
  have htogether : Together SameNativeHalf (· = ·)
      (link (.callNative ⟨"norm", .ofScalar .double "double", [⟨"p", .ofRecord "struct Point"⟩]⟩)
        (.ofName "norm" (.ofClass "geo" "Native"))
        (Context.registerStruct { package := "geo", container := "Native" } "Point"
          ⟨.ofClass "geo" "Native.Point", false⟩)).outcome
      (link (.callNative ⟨"norm", .ofScalar .double "double", [⟨"p", .ofRecord "struct Point"⟩]⟩)
        (.ofName "norm" (.ofClass "geo" "Native"))
        { package := "geo", container := "Native" }).outcome :=
    same_native_half (by rfl) (by rfl) (by rfl) _ _
  obtain ⟨u', hu', hsame⟩ := htogether.exists_ok rfl
  obtain rfl := Except.ok.inj hu'
  exact ⟨_, _, rfl, rfl, rfl, rfl, hsame⟩

end DowncallUnit

end JniBridge
