import JniBridge.Plan
/-
How deep the lines of the plan stand.

The plan has two ways to move code to the right.  A body is written at a depth, which grows by one inside
each closure (`Plan.steps`); the members of a struct are written flush and then indented line by line
(`Plan.indented`), without a look at what the lines hold.  The two agree as long as nothing that is written
has a line feed of its own.

The proof goes through the rows of a body (`Plan.rows`), which know their levels as numbers and nothing of
blanks.  A body is its rows, written below each other (`Plan.steps_eq_written`); to write rows one level
deeper is to indent what was written (`Plan.indented_written`).
-/

namespace JniBridge.Plan

/-! ## Rows -/

/-- A line of code, and how many levels below the first level of its text it stands. -/
structure Row where
  depth : Nat
  text : String

/-- The row, some levels deeper. -/
def Row.deeper (levels : Nat) (r : Row) : Row := { r with depth := r.depth + levels }

/-- Rows below each other, the first level of which is at a depth. -/
def written (depth : Nat) (rs : List Row) : String :=
  String.join (rs.map fun r => line (indent (depth + r.depth) ++ r.text))

/-- What stands on the first line of a closure. -/
def closureOpening (params : List (String × String)) (returns : String) : String :=
  "[&](" ++ ", ".intercalate (params.map fun (type, name) => type ++ " " ++ name) ++ ") -> " ++
    returns ++ " \x7b"

mutual
/-- The rows of a statement that starts with a text and ends with an expression. -/
def expressionRows (before : String) : Expression → List Row
  | .literal s => [⟨0, before ++ s ++ ";"⟩]
  | .closure ⟨params, returns, body⟩ =>
    ⟨0, before ++ closureOpening params returns⟩ :: ((rows body).map (Row.deeper 1) ++ [⟨0, "\x7d;"⟩])

def rows : Steps Expression → List Row
  | ⟨bound, ending⟩ => bindingsRows bound ++ completionRows ending

def bindingsRows : List (Binding Expression) → List Row
  | [] => []
  | b :: bs => bindingRows b ++ bindingsRows bs

def bindingRows : Binding Expression → List Row
  | ⟨type, name, value⟩ => expressionRows (declared type name) value

def completionRows : Completion Expression → List Row
  | .statement run => [⟨0, run ++ ";"⟩]
  | .answer capture value => capturedRows capture ++ expressionRows "return " value

def capturedRows : Option (Binding Expression) → List Row
  | none => []
  | some b => bindingRows b
end

theorem written_cons (depth : Nat) (r : Row) (rs : List Row) :
    written depth (r :: rs) = line (indent (depth + r.depth) ++ r.text) ++ written depth rs := by
  rw [written, List.map_cons, String.join_cons]
  rfl

theorem written_append (depth : Nat) (rs rs' : List Row) :
    written depth (rs ++ rs') = written depth rs ++ written depth rs' := by
  rw [written, List.map_append, String.join_append]
  rfl

theorem written_singleton (depth : Nat) (r : Row) :
    written depth [r] = line (indent (depth + r.depth) ++ r.text) := by
  rw [written_cons]
  exact String.append_empty

theorem written_deeper (depth levels : Nat) (rs : List Row) :
    written depth (rs.map (Row.deeper levels)) = written (depth + levels) rs := by
  unfold written
  rw [List.map_map]
  refine congrArg String.join (List.map_congr_left fun r _ => ?_)
  show line (indent (depth + (r.depth + levels)) ++ r.text) = _
  rw [Nat.add_right_comm, Nat.add_assoc]

-- a statement is written as a whole, since an expression alone starts and ends within a line
mutual
theorem expression_eq_written (depth : Nat) (before : String) : (e : Expression) →
    indent depth ++ before ++ expression depth e ++ ";\n" = written depth (expressionRows before e)
  | .literal s => by
    rw [expression, expressionRows, written_singleton]
    simp only [line, Nat.add_zero, String.append_assoc]
    rfl
  | .closure ⟨params, returns, body⟩ => by
    rw [expression, expressionRows, written_cons, written_append, written_deeper, written_singleton,
      ← steps_eq_written (depth + 1) body]
    simp only [line, closureHead, closureOpening, Nat.add_zero, String.append_assoc]
    rfl

/-- A body is its rows. -/
theorem steps_eq_written (depth : Nat) : (b : Steps Expression) →
    steps depth b = written depth (rows b)
  | ⟨bound, ending⟩ => by
    rw [steps, rows, written_append, bindings_eq_written depth bound,
      completion_eq_written depth ending]

theorem bindings_eq_written (depth : Nat) : (bs : List (Binding Expression)) →
    bindings depth bs = written depth (bindingsRows bs)
  | [] => rfl
  | b :: bs => by
    rw [bindings, bindingsRows, written_append, binding_eq_written depth b,
      bindings_eq_written depth bs]

theorem binding_eq_written (depth : Nat) : (b : Binding Expression) →
    binding depth b = written depth (bindingRows b)
  | ⟨type, name, value⟩ => by
    rw [binding, bindingRows, expression_eq_written depth (declared type name) value]

theorem completion_eq_written (depth : Nat) : (c : Completion Expression) →
    completion depth c = written depth (completionRows c)
  | .statement run => by
    rw [completion, completionRows, written_singleton]
    simp only [Nat.add_zero, String.append_assoc]
  | .answer capture value => by
    rw [completion, completionRows, written_append, ← captured_eq_written depth capture,
      ← expression_eq_written depth "return " value]
    simp only [String.append_assoc]

theorem captured_eq_written (depth : Nat) : (capture : Option (Binding Expression)) →
    captured depth capture = written depth (capturedRows capture)
  | none => rfl
  | some b => by rw [captured, capturedRows, binding_eq_written depth b]
end

/-! ## Counting lines -/

mutual
/-- The lines of an expression, besides the one that it starts on: those of the closure's body, and one
that closes it. -/
def expressionLines : Expression → Nat
  | .literal _ => 0
  | .closure ⟨_, _, body⟩ => lineCount body + 1

/-- One line for each binding, capture and completion, and those that their closures take. -/
def lineCount : Steps Expression → Nat
  | ⟨bound, ending⟩ => bindingsLines bound + completionLines ending

def bindingsLines : List (Binding Expression) → Nat
  | [] => 0
  | b :: bs => bindingLines b + bindingsLines bs

def bindingLines : Binding Expression → Nat
  | ⟨_, _, value⟩ => 1 + expressionLines value

def completionLines : Completion Expression → Nat
  | .statement _ => 1
  | .answer capture value => capturedLines capture + (1 + expressionLines value)

def capturedLines : Option (Binding Expression) → Nat
  | none => 0
  | some b => bindingLines b
end

mutual
theorem length_expressionRows (before : String) : (e : Expression) →
    (expressionRows before e).length = 1 + expressionLines e
  | .literal _ => rfl
  | .closure ⟨params, returns, body⟩ => by
    rw [expressionRows, expressionLines, List.length_cons, List.length_append, List.length_map,
      length_rows body, List.length_singleton]
    exact Nat.add_comm _ 1

theorem length_rows : (b : Steps Expression) → (rows b).length = lineCount b
  | ⟨bound, ending⟩ => by
    rw [rows, lineCount, List.length_append, length_bindingsRows bound, length_completionRows ending]

theorem length_bindingsRows : (bs : List (Binding Expression)) →
    (bindingsRows bs).length = bindingsLines bs
  | [] => rfl
  | b :: bs => by
    rw [bindingsRows, bindingsLines, List.length_append, length_bindingRows b,
      length_bindingsRows bs]

theorem length_bindingRows : (b : Binding Expression) → (bindingRows b).length = bindingLines b
  | ⟨type, name, value⟩ => by
    rw [bindingRows, bindingLines, length_expressionRows (declared type name) value]

theorem length_completionRows : (c : Completion Expression) →
    (completionRows c).length = completionLines c
  | .statement _ => rfl
  | .answer capture value => by
    rw [completionRows, completionLines, List.length_append, length_capturedRows capture,
      length_expressionRows "return " value]

theorem length_capturedRows : (capture : Option (Binding Expression)) →
    (capturedRows capture).length = capturedLines capture
  | none => rfl
  | some b => by rw [capturedRows, capturedLines, length_bindingRows b]
end

/-! ## Texts without line feeds -/

/-- A text without a line feed. -/
def OneLine (s : String) : Prop := '\n' ∉ s.toList

instance : DecidablePred OneLine := fun s => inferInstanceAs (Decidable ('\n' ∉ s.toList))

mutual
/-- The literals, types and names in an expression. -/
def expressionTexts : Expression → List String
  | .literal s => [s]
  | .closure ⟨params, returns, body⟩ =>
    params.flatMap (fun (type, name) => [type, name]) ++ returns :: texts body

/-- All literals, types and names in a body, those in its closures included. -/
def texts : Steps Expression → List String
  | ⟨bound, ending⟩ => bindingsTexts bound ++ completionTexts ending

def bindingsTexts : List (Binding Expression) → List String
  | [] => []
  | b :: bs => bindingTexts b ++ bindingsTexts bs

def bindingTexts : Binding Expression → List String
  | ⟨type, name, value⟩ => (type.map JavaType.display).toList ++ name :: expressionTexts value

def completionTexts : Completion Expression → List String
  | .statement run => [run]
  | .answer capture value => capturedTexts capture ++ expressionTexts value

def capturedTexts : Option (Binding Expression) → List String
  | none => []
  | some b => bindingTexts b
end

theorem oneLine_append {s s' : String} (h : OneLine s) (h' : OneLine s') : OneLine (s ++ s') := by
  intro hmem
  rw [String.toList_append] at hmem
  exact (List.mem_append.1 hmem).elim h h'

theorem oneLine_join {between : String} {parts : List String} (h : OneLine between)
    (hparts : ∀ part ∈ parts, OneLine part) : OneLine (between.intercalate parts) := by
  induction parts with
  | nil => exact (by decide : OneLine "")
  | cons part parts ih =>
    have hrest := ih fun p hp => hparts p (List.mem_cons_of_mem _ hp)
    cases parts with
    | nil => exact hparts part List.mem_cons_self
    | cons next more =>
      rw [String.intercalate_cons_cons]
      exact oneLine_append (oneLine_append (hparts part List.mem_cons_self) h) hrest

theorem oneLine_indent (depth : Nat) : OneLine (indent depth) := by
  induction depth with
  | zero => exact (by decide : OneLine "")
  | succ depth ih => exact oneLine_append (by decide) ih

/-- A line that is read back as it was written: besides, it ends, and not in a carriage return. -/
def Whole (s : String) : Prop := OneLine s ∧ ∃ c, s.toList.getLast? = some c ∧ c ≠ '\r'

/-- A line is whole if what ends it is. -/
theorem whole_append {s s' : String} (h : OneLine s) (h' : Whole s') : Whole (s ++ s') := by
  obtain ⟨hfeed, c, hlast, hc⟩ := h'
  refine ⟨oneLine_append h hfeed, c, ?_, hc⟩
  rw [String.toList_append, List.getLast?_append, hlast]
  rfl

theorem whole_semicolon : Whole ";" := ⟨by decide, ';', rfl, by decide⟩

/-- All rows are whole. -/
def WholeRows (rs : List Row) : Prop := ∀ r ∈ rs, Whole r.text

theorem wholeRows_append {rs rs' : List Row} (h : WholeRows rs) (h' : WholeRows rs') :
    WholeRows (rs ++ rs') :=
  List.forall_mem_append.2 ⟨h, h'⟩

theorem wholeRows_statement {s : String} (h : OneLine s) : WholeRows [⟨0, s ++ ";"⟩] := by
  rintro r hr
  obtain rfl := List.mem_singleton.1 hr
  exact whole_append h whole_semicolon

theorem oneLine_declared {type : Option JavaType} {name : String}
    (htype : ∀ t ∈ type.map JavaType.display, OneLine t) (hname : OneLine name) :
    OneLine (declared type name) := by
  unfold declared
  split
  · next t =>
    exact oneLine_append (oneLine_append (oneLine_append (htype _ rfl) (by decide)) hname) (by decide)
  · exact oneLine_append (oneLine_append (by decide) hname) (by decide)

theorem whole_closureOpening {before : String} {params : List (String × String)} {returns : String}
    (hbefore : OneLine before) (hparams : ∀ p ∈ params, OneLine p.1 ∧ OneLine p.2)
    (hreturns : OneLine returns) : Whole (before ++ closureOpening params returns) := by
  have hlist : OneLine (", ".intercalate (params.map fun (type, name) => type ++ " " ++ name)) := by
    refine oneLine_join (by decide) fun part hpart => ?_
    obtain ⟨p, hp, rfl⟩ := List.mem_map.1 hpart
    exact oneLine_append (oneLine_append (hparams p hp).1 (by decide)) (hparams p hp).2
  unfold closureOpening
  rw [← String.append_assoc]
  refine whole_append (oneLine_append hbefore ?_) ⟨by decide, '\x7b', rfl, by decide⟩
  exact oneLine_append (oneLine_append (oneLine_append (by decide) hlist) (by decide)) hreturns

mutual
theorem wholeRows_expression (before : String) (hbefore : OneLine before) : (e : Expression) →
    (∀ s ∈ expressionTexts e, OneLine s) → WholeRows (expressionRows before e)
  | .literal s, h => wholeRows_statement (oneLine_append hbefore (h s (List.mem_singleton.2 rfl)))
  | .closure ⟨params, returns, body⟩, h => by
    obtain ⟨hparams, h⟩ := List.forall_mem_append.1 h
    obtain ⟨hreturns, hbody⟩ := List.forall_mem_cons.1 h
    have hopening : Whole (before ++ closureOpening params returns) := by
      refine whole_closureOpening hbefore (fun p hp => ⟨?_, ?_⟩) hreturns
      · exact hparams p.1 (List.mem_flatMap.2 ⟨p, hp, List.mem_cons_self⟩)
      · exact hparams p.2 (List.mem_flatMap.2 ⟨p, hp, List.mem_cons_of_mem _ List.mem_cons_self⟩)
    refine List.forall_mem_cons.2 ⟨hopening, wholeRows_append ?_ (@wholeRows_statement "\x7d" (by decide))⟩
    intro r hr
    obtain ⟨inner, hinner, rfl⟩ := List.mem_map.1 hr
    exact wholeRows body hbody inner hinner

theorem wholeRows : (b : Steps Expression) → (∀ s ∈ texts b, OneLine s) → WholeRows (rows b)
  | ⟨bound, ending⟩, h => by
    obtain ⟨hbound, hending⟩ := List.forall_mem_append.1 h
    exact wholeRows_append (wholeRows_bindings bound hbound) (wholeRows_completion ending hending)

theorem wholeRows_bindings : (bs : List (Binding Expression)) →
    (∀ s ∈ bindingsTexts bs, OneLine s) → WholeRows (bindingsRows bs)
  | [], _ => fun _ hr => nomatch hr
  | b :: bs, h => by
    obtain ⟨hfirst, hrest⟩ := List.forall_mem_append.1 h
    exact wholeRows_append (wholeRows_binding b hfirst) (wholeRows_bindings bs hrest)

theorem wholeRows_binding : (b : Binding Expression) → (∀ s ∈ bindingTexts b, OneLine s) →
    WholeRows (bindingRows b)
  | ⟨type, name, value⟩, h => by
    obtain ⟨htype, h⟩ := List.forall_mem_append.1 h
    obtain ⟨hname, hvalue⟩ := List.forall_mem_cons.1 h
    have hdeclared : OneLine (declared type name) :=
      oneLine_declared (fun t ht => htype t (Option.mem_toList.2 ht)) hname
    exact wholeRows_expression (declared type name) hdeclared value hvalue

theorem wholeRows_completion : (c : Completion Expression) → (∀ s ∈ completionTexts c, OneLine s) →
    WholeRows (completionRows c)
  | .statement run, h => wholeRows_statement (h run (List.mem_singleton.2 rfl))
  | .answer capture value, h => by
    obtain ⟨hcapture, hvalue⟩ := List.forall_mem_append.1 h
    exact wholeRows_append (wholeRows_captured capture hcapture)
      (wholeRows_expression "return " (by decide) value hvalue)

theorem wholeRows_captured : (capture : Option (Binding Expression)) →
    (∀ s ∈ capturedTexts capture, OneLine s) → WholeRows (capturedRows capture)
  | none, _ => fun _ hr => nomatch hr
  | some b, h => wholeRows_binding b h
end

/-! ## Lines, read back -/

/-- A line that was written is the next one that is read. -/
theorem lines_line_append {s : String} (h : Whole s) (rest : String) :
    Text.lines (line s ++ rest) = s :: Text.lines rest := by
  have htext : (line s ++ rest).toList = s.toList ++ '\n' :: rest.toList := by
    simp [line]
  have hplain : ∀ c ∈ s.toList, (c == '\n') = false := by
    intro c hc
    exact beq_false_of_ne fun hfeed => h.1 (hfeed ▸ hc)
  have hreturn : s.toList.getLast? ≠ some '\r' := by
    obtain ⟨-, c, hlast, hc⟩ := h
    exact fun hr => hc (Option.some.inj (hlast.symm.trans hr))
  obtain ⟨p, ps, hrest⟩ := List.exists_cons_of_ne_nil (Text.pieces_ne_nil (· == '\n') rest.toList)
  unfold Text.lines
  rw [htext, Text.pieces_append_cut _ hplain (by decide), hrest, Text.endedLines, Text.dropReturn,
    if_neg hreturn, List.map_cons, String.ofList_toList]
  exact List.cons_ne_nil p ps

/-- What was written is read back row by row. -/
theorem lines_written (depth : Nat) {rs : List Row} (h : WholeRows rs) :
    Text.lines (written depth rs) = rs.map fun r => indent (depth + r.depth) ++ r.text := by
  induction rs with
  | nil => rfl
  | cons r rs ih =>
    rw [written_cons, lines_line_append (whole_append (oneLine_indent _) (h r List.mem_cons_self)),
      ih fun r hr => h r (List.mem_cons_of_mem _ hr), List.map_cons]

theorem lines_steps (depth : Nat) {b : Body} (h : WholeRows (rows b)) :
    Text.lines (steps depth b) = (rows b).map fun r => indent (depth + r.depth) ++ r.text := by
  rw [steps_eq_written, lines_written depth h]

theorem indent_succ (depth : Nat) : indent (depth + 1) = indent 1 ++ indent depth := by
  show "    " ++ indent depth = "    " ++ "" ++ indent depth
  rw [String.append_empty]

/-- Rows that are written and then indented are written one level deeper. -/
theorem indented_written (depth : Nat) {rs : List Row} (h : WholeRows rs) :
    indented (written depth rs) = written (depth + 1) rs := by
  unfold indented
  rw [lines_written depth h, List.map_map]
  refine congrArg String.join (List.map_congr_left fun r _ => ?_)
  show line (indent 1 ++ (indent (depth + r.depth) ++ r.text)) = _
  rw [← String.append_assoc, ← indent_succ, Nat.add_right_comm]

/-! ## Closures in closures -/

/-- The statement that binds a variable: what stands before the value, and the value. -/
def boundStatement (b : Binding Expression) : String × Expression := (declared b.type b.name, b.value)

/-- The statements of a body that hold a value. -/
def statements (b : Body) : List (String × Expression) :=
  b.bindings.map boundStatement ++
    match b.completion with
    | .statement _ => []
    | .answer capture value => capture.toList.map boundStatement ++ [("return ", value)]

/-- A closure that is the value of a statement, this many closures inside a body. -/
inductive Nests : Body → Nat → String → Closure Expression → Prop
  | here {b : Body} {start : String} {c : Closure Expression} :
      (start, .closure c) ∈ statements b → Nests b 0 start c
  | inside {b : Body} {outside start : String} {outer c : Closure Expression} {levels : Nat} :
      (outside, .closure outer) ∈ statements b → Nests outer.body levels start c →
      Nests b (levels + 1) start c

theorem bindingRows_eq (b : Binding Expression) :
    bindingRows b = expressionRows (boundStatement b).1 (boundStatement b).2 := by
  obtain ⟨type, name, value⟩ := b
  rw [bindingRows]
  rfl

theorem exists_bindingsRows {start : String} {e : Expression} {bs : List (Binding Expression)}
    (h : (start, e) ∈ bs.map boundStatement) :
    ∃ before after, bindingsRows bs = before ++ expressionRows start e ++ after := by
  induction bs with
  | nil => exact nomatch h
  | cons b bs ih =>
    rcases List.mem_cons.1 h with hfirst | hrest
    · refine ⟨[], bindingsRows bs, ?_⟩
      rw [bindingsRows, bindingRows_eq, ← hfirst, List.nil_append]
    · obtain ⟨before, after, hrows⟩ := ih hrest
      refine ⟨bindingRows b ++ before, after, ?_⟩
      rw [bindingsRows, hrows]
      simp only [List.append_assoc]

/-- The rows of a statement stand together in those of its body. -/
theorem exists_rows_of_mem {b : Body} {start : String} {e : Expression}
    (h : (start, e) ∈ statements b) :
    ∃ before after, rows b = before ++ expressionRows start e ++ after := by
  obtain ⟨bound, ending⟩ := b
  rcases List.mem_append.1 h with hbound | hending
  · obtain ⟨before, after, hrows⟩ := exists_bindingsRows hbound
    refine ⟨before, after ++ completionRows ending, ?_⟩
    rw [rows, hrows, List.append_assoc]
  · cases ending with
    | statement run => exact nomatch hending
    | answer capture value =>
      rcases List.mem_append.1 hending with hcapture | hvalue
      · obtain _ | b := capture
        · exact nomatch hcapture
        · refine ⟨bindingsRows bound, expressionRows "return " value, ?_⟩
          rw [rows, completionRows, capturedRows, bindingRows_eq, ← List.mem_singleton.1 hcapture,
            List.append_assoc]
      · obtain ⟨rfl, rfl⟩ := Prod.mk.inj (List.mem_singleton.1 hvalue)
        refine ⟨bindingsRows bound ++ capturedRows capture, [], ?_⟩
        rw [rows, completionRows, List.append_nil, List.append_assoc]

/-- The rows of a closure stand together, a level deeper for each closure around it. -/
theorem Nests.exists_rows {b : Body} {levels : Nat} {start : String} {c : Closure Expression}
    (h : Nests b levels start c) : ∃ before after, rows b =
      before ++ (expressionRows start (.closure c)).map (Row.deeper levels) ++ after := by
  induction h with
  | here hmem =>
    obtain ⟨before, after, hrows⟩ := exists_rows_of_mem hmem
    have hsame : Row.deeper 0 = id := rfl
    exact ⟨before, after, by rw [hsame, List.map_id, hrows]⟩
  | @inside b outside start outer c levels hmem _ ih =>
    obtain ⟨before, after, hrows⟩ := exists_rows_of_mem hmem
    obtain ⟨before', after', hbody⟩ := ih
    have hdeeper : Row.deeper 1 ∘ Row.deeper levels = Row.deeper (levels + 1) := rfl
    obtain ⟨params, returns, body⟩ := outer
    refine ⟨before ++ ⟨0, outside ++ closureOpening params returns⟩ :: before'.map (Row.deeper 1),
      after'.map (Row.deeper 1) ++ ⟨0, "\x7d;"⟩ :: after, ?_⟩
    rw [hrows, expressionRows, hbody]
    simp only [List.map_append, List.map_map, hdeeper, List.append_assoc, List.cons_append,
      List.nil_append]

/-- The lines of a closure stand together: it opens at the depth of its statement, its body is written one
level deeper than that, and it closes where it opened. -/
theorem Nests.exists_lines {b : Body} {levels : Nat} {start : String} {c : Closure Expression}
    (h : Nests b levels start c) (hwhole : WholeRows (rows b)) (depth : Nat) :
    ∃ before after, Text.lines (steps depth b) = before ++
      (indent (depth + levels) ++ (start ++ closureOpening c.params c.returns)) ::
        (Text.lines (steps (depth + levels + 1) c.body) ++
          (indent (depth + levels) ++ "\x7d;") :: after) := by
  obtain ⟨before, after, hrows⟩ := h.exists_rows
  obtain ⟨params, returns, body⟩ := c
  have hbody : WholeRows (rows body) := by
    intro r hr
    have hinner : r.deeper 1 ∈ expressionRows start (.closure ⟨params, returns, body⟩) := by
      rw [expressionRows]
      exact List.mem_cons_of_mem _ (List.mem_append_left _ (List.mem_map_of_mem hr))
    refine hwhole ((r.deeper 1).deeper levels) ?_
    rw [hrows]
    exact List.mem_append_left _ (List.mem_append_right _ (List.mem_map_of_mem hinner))
  refine ⟨before.map fun r => indent (depth + r.depth) ++ r.text,
    after.map fun r => indent (depth + r.depth) ++ r.text, ?_⟩
  rw [lines_steps depth hwhole, lines_steps _ hbody, hrows, expressionRows]
  simp only [List.map_append, List.map_cons, List.map_map, List.append_assoc, List.cons_append,
    List.map_nil, List.nil_append, Row.deeper, Nat.zero_add, Function.comp_def]
  have hdepth : ∀ r : Row, depth + (r.depth + 1 + levels) = depth + levels + 1 + r.depth := by
    intro r
    omega
  simp only [hdepth]

/-! ## Members of a struct -/

def methodRows (signature : String) (b : Body) : List Row :=
  ⟨0, signature ++ " \x7b"⟩ :: ((rows b).map (Row.deeper 1) ++ [⟨0, "\x7d"⟩])

def downcallRows (u : DowncallUnit) : List Row :=
  methodRows u.javaMethod.display u.javaBody ++ ⟨0, u.rawMethod.display ++ ";"⟩ ::
    methodRows u.glueMethod.display u.glueBody

/-- A method with its body, at a depth. -/
def methodAt (depth : Nat) (signature : String) (b : Body) : String :=
  line (indent depth ++ (signature ++ " \x7b")) ++ steps (depth + 1) b ++ line (indent depth ++ "\x7d")

/-- The methods of a downcall, at a depth. -/
def downcallAt (depth : Nat) (u : DowncallUnit) : String :=
  methodAt depth u.javaMethod.display u.javaBody ++
    line (indent depth ++ (u.rawMethod.display ++ ";")) ++
    methodAt depth u.glueMethod.display u.glueBody

/-- The signatures of a downcall, and the texts in its bodies. -/
def downcallTexts (u : DowncallUnit) : List String :=
  u.javaMethod.display :: u.rawMethod.display :: u.glueMethod.display ::
    (texts u.javaBody ++ texts u.glueBody)

theorem methodAt_eq_written (depth : Nat) (signature : String) (b : Body) :
    methodAt depth signature b = written depth (methodRows signature b) := by
  rw [methodAt, methodRows, written_cons, written_append, written_deeper, written_singleton,
    steps_eq_written, String.append_assoc]
  rfl

theorem downcallAt_eq_written (depth : Nat) (u : DowncallUnit) :
    downcallAt depth u = written depth (downcallRows u) := by
  rw [downcallAt, downcallRows, written_append, written_cons, methodAt_eq_written, methodAt_eq_written,
    String.append_assoc]
  rfl

/-- The methods of a downcall by itself are written flush. -/
theorem downcall_eq (u : DowncallUnit) : downcall u = downcallAt 0 u := by
  simp only [downcall, downcallAt, method, methodAt, body, indent, String.empty_append]

theorem wholeRows_method {signature : String} {b : Body} (h : OneLine signature)
    (hb : ∀ s ∈ texts b, OneLine s) : WholeRows (methodRows signature b) := by
  have hopening : Whole (signature ++ " \x7b") := whole_append h ⟨by decide, '\x7b', rfl, by decide⟩
  have hclosing : Whole "\x7d" := ⟨by decide, '\x7d', rfl, by decide⟩
  refine List.forall_mem_cons.2 ⟨hopening, wholeRows_append ?_ (List.forall_mem_singleton.2 hclosing)⟩
  intro r hr
  obtain ⟨inner, hinner, rfl⟩ := List.mem_map.1 hr
  exact wholeRows b hb inner hinner

theorem wholeRows_downcall {u : DowncallUnit} (h : ∀ s ∈ downcallTexts u, OneLine s) :
    WholeRows (downcallRows u) := by
  obtain ⟨hjava, h⟩ := List.forall_mem_cons.1 h
  obtain ⟨hraw, h⟩ := List.forall_mem_cons.1 h
  obtain ⟨hglue, h⟩ := List.forall_mem_cons.1 h
  obtain ⟨hjavaBody, hglueBody⟩ := List.forall_mem_append.1 h
  exact wholeRows_append (wholeRows_method hjava hjavaBody)
    (List.forall_mem_cons.2 ⟨whole_append hraw whole_semicolon, wholeRows_method hglue hglueBody⟩)

/-- The two methods of an accessor are indented to where they would have been written one level deeper. -/
theorem indented_accessor {getter setter : DowncallUnit}
    (h : ∀ s ∈ downcallTexts getter ++ downcallTexts setter, OneLine s) :
    indented (downcall getter ++ downcall setter) = downcallAt 1 getter ++ downcallAt 1 setter := by
  obtain ⟨hgetter, hsetter⟩ := List.forall_mem_append.1 h
  have hrows := wholeRows_append (wholeRows_downcall hgetter) (wholeRows_downcall hsetter)
  rw [downcall_eq, downcall_eq, downcallAt_eq_written, downcallAt_eq_written, ← written_append,
    indented_written 0 hrows, written_append, downcallAt_eq_written, downcallAt_eq_written]

/-- A body without line feeds of its own is the same text a level deeper as it is when indented line by
line; it has one line for each binding, capture and completion, and for each closure the lines of its body
and one to close it; and the body of a closure, however many closures it is in, is written one level
deeper than the statement that it belongs to.  So the members of a struct, which are indented, stand as if
they had been written inside of it. -/
theorem depths_agree :
    (∀ (b : Body) (depth : Nat), (∀ s ∈ texts b, OneLine s) →
      steps (depth + 1) b = indented (steps depth b) ∧
      Text.lines (steps (depth + 1) b) = (Text.lines (steps depth b)).map (indent 1 ++ ·) ∧
      (Text.lines (steps depth b)).length = lineCount b ∧
      ∀ levels start c, Nests b levels start c →
        ∃ before after, Text.lines (steps depth b) = before ++
          (indent (depth + levels) ++ (start ++ closureOpening c.params c.returns)) ::
            (Text.lines (steps (depth + levels + 1) c.body) ++
              (indent (depth + levels) ++ "\x7d;") :: after)) ∧
    ∀ s : StructUnit,
      (∀ a ∈ s.accessors, ∀ t ∈ downcallTexts a.getter ++ downcallTexts a.setter, OneLine t) →
      structUnit s = classHead s.javaType.display s.nativeName ++ (s.layout.map layout).getD "" ++
        String.join (s.accessors.map fun a => downcallAt 1 a.getter ++ downcallAt 1 a.setter) ++
        line "\x7d" := by
  refine ⟨fun b depth h => ?_, fun s h => ?_⟩
  · have hwhole := wholeRows b h
    refine ⟨?_, ?_, ?_, fun levels start c hnests => hnests.exists_lines hwhole depth⟩
    · rw [steps_eq_written depth, indented_written depth hwhole, ← steps_eq_written]
    · rw [lines_steps _ hwhole, lines_steps _ hwhole, List.map_map]
      refine List.map_congr_left fun r _ => ?_
      show _ = indent 1 ++ (indent (depth + r.depth) ++ r.text)
      rw [← String.append_assoc, ← indent_succ, Nat.add_right_comm]
    · rw [lines_steps depth hwhole, List.length_map, length_rows]
  · unfold structUnit
    rw [List.map_congr_left fun a ha => indented_accessor (h a ha)]

/-- A closure in a closure, and the wrapper of a struct with one field. -/
theorem depths_agree_nested :
    (∃ (b : Body) (inner : Closure Expression), Nests b 1 "auto&& twice = " inner ∧ lineCount b = 7 ∧
      Text.lines (steps 1 b) = [
        "    auto&& run = [&](jint x) -> void \x7b",
        "        auto&& twice = [&]() -> jint \x7b",
        "            return x + x;",
        "        \x7d;",
        "        tick(twice);",
        "    \x7d;",
        "    start(run);"] ∧
      steps 2 b = indented (steps 1 b) ∧ (Text.lines (steps 1 b)).length = 7) ∧
    ∃ u, (StructUnit.link ⟨"S", [⟨"x", .ofScalar .int "int"⟩]⟩
        (Context.registerStruct { package := "geo", container := "Native" } "S"
          ⟨.ofClass "geo" "Native.S", false⟩)).outcome = .ok (u, []) ∧ u.accessors ≠ [] ∧
      structUnit u = classHead "geo.Native.S" "S" ++
        String.join (u.accessors.map fun a => downcallAt 1 a.getter ++ downcallAt 1 a.setter) ++
        line "\x7d" := by
  let twice : Closure Expression := ⟨[], "jint", ⟨[], .answer none (.literal "x + x")⟩⟩
  let run : Closure Expression :=
    ⟨[("jint", "x")], "void", ⟨[⟨none, "twice", .closure twice⟩], .statement "tick(twice)"⟩⟩
  let b : Body := ⟨[⟨none, "run", .closure run⟩], .statement "start(run)"⟩
  have hb : ∀ s ∈ texts b, OneLine s := by decide
  have hnests : Nests b 1 "auto&& twice = " twice :=
    .inside List.mem_cons_self (.here List.mem_cons_self)
  have hseven : lineCount b = 7 := rfl
  obtain ⟨hdeeper, -, hcount, -⟩ := depths_agree.1 b 1 hb
  rw [hseven] at hcount
  have hlines : Text.lines (steps 1 b) = [
      "    auto&& run = [&](jint x) -> void \x7b",
      "        auto&& twice = [&]() -> jint \x7b",
      "            return x + x;",
      "        \x7d;",
      "        tick(twice);",
      "    \x7d;",
      "    start(run);"] := by
    rw [lines_steps 1 (wholeRows b hb)]
    decide +kernel
  refine ⟨⟨b, twice, hnests, hseven, hlines, hdeeper, hcount⟩, ?_⟩
  have hlinked : ∃ u, (StructUnit.link ⟨"S", [⟨"x", .ofScalar .int "int"⟩]⟩
      (Context.registerStruct { package := "geo", container := "Native" } "S"
        ⟨.ofClass "geo" "Native.S", false⟩)).outcome = .ok (u, []) ∧ u.accessors ≠ [] ∧
      u.javaType.display = "geo.Native.S" ∧ u.nativeName = "S" ∧ u.layout = none ∧
      (u.accessors.all fun a => (downcallTexts a.getter ++ downcallTexts a.setter).all
        fun t => decide (OneLine t)) = true :=
    ⟨_, rfl, List.cons_ne_nil _ _, rfl, rfl, rfl, by decide +kernel⟩
  obtain ⟨u, hu, hsome, hclass, hname, hlayout, htexts⟩ := hlinked
  have hflat : ∀ a ∈ u.accessors, ∀ t ∈ downcallTexts a.getter ++ downcallTexts a.setter, OneLine t := by
    simpa only [List.all_eq_true, decide_eq_true_eq] using htexts
  have htext := depths_agree.2 u hflat
  rw [hclass, hname, hlayout] at htext
  exact ⟨u, hu, hsome, htext⟩

end JniBridge.Plan
