import JniBridge.Unit.Enum
import JniBridge.Unit.Struct
/-
A run over all declarations.

Enums come first.  Then every struct that no rule excludes gets its wrapper registered, before any field
is linked, so that a field may refer to a struct declared later.  A struct fails only with its layout;
when one does, its wrapper is withdrawn, which may break the layout of a struct that contains it, so the
remaining ones are linked again (`settle`).  Functions come last.

A declaration that cannot be linked is skipped and reported.
-/

namespace JniBridge

/-- What a run generates. -/
structure Generation where
  enums : List EnumUnit
  structs : List StructUnit
  functions : List FunctionUnit
  skipped : List Skipped

namespace Generation

/-- The callback interfaces that functions need, then those that accessors need. -/
def callbacks (g : Generation) : List CallbackInterface :=
  let accessors := g.structs.flatMap fun s => s.accessors.flatMap fun a => [a.getter, a.setter]
  (g.functions.map FunctionUnit.method ++ accessors).flatMap fun u => u.linked.callbacks

def function? (g : Generation) (name : String) : Option FunctionUnit :=
  g.functions.find? fun f => f.nativeName == name

def struct? (g : Generation) (name : String) : Option StructUnit :=
  g.structs.find? fun s => s.nativeName == name

def enum? (g : Generation) (name : String) : Option EnumUnit :=
  g.enums.find? fun e => e.nativeName == name

/-! ## Skipping -/

/-- Reports that a declaration is skipped. -/
def skip (kind : DeclKind) (name : String) (reason : LinkError) : Logged Skipped := do
  Logged.tell (.declarationSkipped kind name reason)
  return ⟨kind, name, reason⟩

/-! ## Enums -/

def linkEnum (decl : EnumDecl) : Logged (Except Skipped EnumUnit) := do
  match ← (Logged.ofExcept (EnumUnit.ofDecl decl)).attempt with
  | .ok enumUnit =>
    Logged.tell (.enumLinked decl.name enumUnit.fields.length)
    return .ok enumUnit
  | .error e => return .error (← skip .enumeration decl.name e)

/-- Registers the enums that have a class. -/
def registerEnums (ctx : Context) (units : List EnumUnit) : Context :=
  units.foldl (fun c e => c.registerEnum e.nativeName) ctx

/-! ## Structs -/

/-- The structs that no rule excludes. -/
def candidates (ctx : Context) (decls : List StructDecl) : List StructDecl :=
  decls.filter fun d => (ctx.rules.structRule d.name).generates

/-- The wrapper that the rules give a struct. -/
def wrapperFor (ctx : Context) (name : String) : Wrapper :=
  let rule := ctx.rules.structRule name
  ⟨ctx.nestedType (rule.nameOverride.getD (Naming.escape name)), rule.asks⟩

/-- Registers the wrappers of structs. -/
def registerStructs (ctx : Context) (decls : List StructDecl) : Context :=
  decls.foldl (fun c d => c.registerStruct d.name (wrapperFor ctx d.name)) ctx

/-- Reports the structs that a rule excludes. -/
def reportExcluded (ctx : Context) (decls : List StructDecl) : Logged Unit :=
  (decls.filter fun d => !(ctx.rules.structRule d.name).generates).forM fun d =>
    Logged.tell (.structExcluded d.name)

/-- A struct that fails, and why. -/
structure FailedStruct where
  name : String
  reason : LinkError

/-- Links a struct under the wrappers that are registered now. -/
def tryStruct (ctx : Context) (decl : StructDecl) :
    Logged (Except FailedStruct (StructUnit × List Skipped)) := do
  match ← (StructUnit.link decl ctx).attempt with
  | .ok linked => return .ok linked
  | .error e => return .error ⟨decl.name, e⟩

/-- The structs that are left when nothing fails any more. -/
structure Settled where
  units : List StructUnit
  /-- The structs that failed, round by round. -/
  failed : List Skipped
  /-- The fields that the remaining structs skip. -/
  fields : List Skipped
  ctx : Context

/-- The declarations of structs other than the failed ones. -/
def survivors (decls : List StructDecl) (failed : List FailedStruct) : List StructDecl :=
  decls.filter fun d => !(failed.map FailedStruct.name).contains d.name

/-- Withdraws the wrappers of failed structs. -/
def withdraw (ctx : Context) (failed : List FailedStruct) : Context :=
  failed.foldl (fun c f => c.unregisterStruct f.name) ctx

/-- Links the structs, withdraws those that fail, and starts again until none does. -/
def settle (ctx : Context) (decls : List StructDecl) : Logged Settled := do
  let results ← decls.mapM (tryStruct ctx)
  let failed := failures results
  let left := survivors decls failed
  if _h : left.length < decls.length then
    let skipped ← failed.mapM fun f => skip .record f.name f.reason
    let rest ← settle (withdraw ctx failed) left
    return { rest with failed := skipped ++ rest.failed }
  else
    let linked := successes results
    return ⟨linked.map Prod.fst, [], linked.flatMap Prod.snd, ctx⟩
termination_by decls.length

/-! ## Functions -/

/-- Links a function under its Java name, or reports that it is skipped. -/
def linkFunction (ctx : Context) (decl : FunctionDecl) (javaName : String) (exposeRaw : Bool) :
    Logged (Except Skipped FunctionUnit) := do
  match ← (FunctionUnit.link decl javaName exposeRaw ctx).attempt with
  | .ok f =>
    Logged.tell <| .functionLinked decl.name f.method.javaMethod.name
      f.method.linkage.params.length f.method.linked.callbacks.length
    return .ok f
  | .error e => return .error (← skip .function decl.name e)

/-- Links functions in order; a name is asked for even if the function is then skipped. -/
def linkFunctions (ctx : Context) :
    List FunctionDecl → Logged (List (Except Skipped FunctionUnit) × Context)
  | [] => pure ([], ctx)
  | decl :: decls => do
    let rule := ctx.rules.methodRule decl.name
    if rule.generates then
      let (javaName, ctx') :=
        ctx.requestName ctx.containerType.plain (rule.nameOverride.getD (Naming.escape decl.name))
      let result ← linkFunction ctx' decl javaName rule.asks
      let (rest, final) ← linkFunctions ctx' decls
      return (result :: rest, final)
    else
      Logged.tell (.functionExcluded decl.name)
      linkFunctions ctx decls

/-! ## The run -/

/-- Links every declaration; the context comes back with everything that is registered. -/
def run (decls : Declarations) (ctx : Context) : Logged (Generation × Context) := do
  let enums ← decls.enums.mapM linkEnum
  let ctx := registerEnums ctx (successes enums)
  reportExcluded ctx decls.structs
  let chosen := candidates ctx decls.structs
  let settled ← settle (registerStructs ctx chosen) chosen
  settled.units.forM fun s => Logged.tell (.structLinked s.nativeName s.accessors.length)
  let (functions, ctx) ← linkFunctions settled.ctx decls.functions
  let g : Generation :=
    ⟨successes enums, settled.units, successes functions,
      failures enums ++ settled.failed ++ settled.fields ++ failures functions⟩
  Logged.tell <| .generationComplete g.enums.length g.structs.length g.functions.length
    g.callbacks.length g.skipped.length
  return (g, ctx)

end Generation

end JniBridge
