import Scaffold.Proofs.Interface.Validation
import Scaffold.Proofs.Script.Push
import Scaffold.Proofs.Template.Parts

/-!
# The checks of a validator

A validator makes the checks of the plan that it is made from, in the order of the plan: it collects the
messages of the required fields, then those of the kinds, then those of addresses, each under the
condition of its check.
-/

namespace Scaffold

open Template
open Script (Push IsFree IsPiece Silent Puts)

/-! ## Texts of checks -/

theorem isFree_of_isName {s : String} (h : Script.IsName s.toList) : IsFree s :=
  ⟨h.not_mem (by decide), h.not_mem (by decide)⟩

theorem isFree_of_isWord {s : String} (h : Name.IsWord s.toList) : IsFree s :=
  ⟨h.not_mem (by decide), h.not_mem (by decide)⟩

theorem isFree_of_isTypeTag {s : String} (h : Intake.isTypeTag s = true) : IsFree s :=
  ⟨not_mem_of_isTypeTag h rfl rfl, not_mem_of_isTypeTag h rfl rfl⟩

theorem isFree_requiredMessage {field : String} (h : IsFree field) : IsFree (requiredMessage field) :=
  h.append (Script.isFree_ofList rfl)

theorem isFree_inUseMessage {field : String} (h : IsFree field) : IsFree (inUseMessage field) :=
  ((Script.isFree_ofList rfl).append h).append (Script.isFree_ofList rfl)

theorem Kind.isFree_requirement (k : Kind) : IsFree k.requirement := by
  cases k <;> exact Script.isFree_ofList rfl

theorem Kind.isFree_tag (k : Kind) : IsFree k.tag := by cases k <;> exact Script.isFree_ofList rfl

theorem TypeCheck.isFree_message {t : TypeCheck} (h : IsFree t.field) : IsFree t.message :=
  ((h.append (Script.isFree_ofList rfl)).append t.kind.isFree_requirement).append
    (Script.isFree_ofList rfl)

theorem TypeCheck.isFree_remark {f : Field} (hd : IsFree f.declared) :
    IsFree (TypeCheck.ofField f).remark := by
  unfold TypeCheck.ofField
  dsimp only
  split
  · exact (((Script.isFree_ofList rfl).append hd).append (Script.isFree_ofList rfl)).append
      f.kind.isFree_tag
  · exact Script.isFree_ofList rfl

/-- A condition has no call in it, and none begins where it stands in a line. -/
theorem Kind.exists_pieces (k : Kind) : ∃ first pieces,
    Text.Spells k.condition.pieces (first :: pieces)
      ∧ IsPiece (") && (".toList ++ first) ∧ ∀ cs ∈ pieces, IsPiece cs := by
  cases k
  all_goals
    apply Exists.intro
    apply Exists.intro
    apply And.intro
    · repeat constructor
    · decide

theorem Kind.silent_condition (k : Kind) {reference : String} (h : IsFree reference)
    {rest : List Char} (hr : Silent rest) :
    Silent (") && (".toList ++ ((k.condition.render reference).toList ++ rest)) := by
  obtain ⟨first, pieces, hp, hf, hps⟩ := k.exists_pieces
  rw [Condition.render, String.toList_intercalate, hp.map_toList]
  exact .intercalate h hf hps hr

/-! ## Parts of a validator -/

namespace Template

/-- A template has a text in a scope, and the text puts these messages on the list of errors. -/
def Collects (scope : Scope) (t : Template) (ps : List Push) : Prop :=
  ∃ s, t.render scope = .ok s ∧ Puts s ps

variable {scope : Scope}

theorem collects_nil (scope : Scope) : Collects scope (sequence []) [] := ⟨"", rfl, Script.puts_empty⟩

theorem Collects.cons {t : Template} {ts : List Template} {ps qs : List Push}
    (h : Collects scope t ps) (hr : Collects scope (sequence ts) qs) :
    Collects scope (sequence (t :: ts)) (ps ++ qs) := by
  obtain ⟨x, hx, hp⟩ := h
  obtain ⟨y, hy, hq⟩ := hr
  exact ⟨x ++ y, by rw [render_sequence_cons, hx, hy, appendText_ok], hp.append hq⟩

/-- A part that collects nothing stands in front. -/
theorem Collects.after {t : Template} {ts : List Template} {ps : List Push} (h : Collects scope t [])
    (hr : Collects scope (sequence ts) ps) : Collects scope (sequence (t :: ts)) ps := h.cons hr

/-- Parts that collect nothing follow. -/
theorem Collects.before {t : Template} {ts : List Template} {ps : List Push}
    (h : Collects scope t ps) (hr : Collects scope (sequence ts) []) :
    Collects scope (sequence (t :: ts)) ps := List.append_nil ps ▸ h.cons hr

theorem collects_lines {ls : List String} {css : List (List Char)} (h : Text.Spells ls css)
    (hc : ∀ cs ∈ css, Script.IsIdle cs) : Collects scope (lines ls) [] := by
  obtain ⟨s, hr, hl⟩ := render_lines scope ls
  exact ⟨s, hr, Script.puts_idle (hl.trans h.flatMap_eq) hc⟩

theorem collects_row {ts : List Template} {cs : List Char} (h : Row scope ts cs)
    (hc : Script.IsIdle cs) :
    Collects scope (row ts) [] := by
  obtain ⟨s, hr, hs⟩ := h.isLine
  have hline : s.toList = Script.joinLines [cs] := hs.trans (List.flatMap_singleton _ _).symm
  refine ⟨s, hr, Script.puts_idle hline fun ds hd => ?_⟩
  rw [List.mem_singleton.1 hd]
  exact hc

/-- A row of fixed pieces and free texts. -/
theorem collects_silent {ts : List Template} {cs : List Char} (h : Row scope ts cs) (hc : Silent cs) :
    Collects scope (row ts) [] := collects_row h hc.isIdle

/-- The line that puts a message on the list. -/
theorem row_push (m : Nat) {e : Expr} {message : String} (he : e.Gives scope (.text message)) :
    Row scope [text (String.ofList (List.replicate m ' ' ++ Script.pushWord)), hole (.script e),
        text (String.ofList [')', ';'])]
      (List.replicate m ' ' ++ (Script.pushWord ++ ((Script.quote message).toList ++ [')', ';']))) := by
  rw [← List.append_assoc]
  exact .text (.hole he.quoted (.text .nil))

/-- A line that opens a block with a condition, with the line in it that puts a message on the list. -/
theorem collects_guarded {guard : Template} {push ts : List Template} {line : List Char} {n m : Nat}
    {condition message : String} {ps : List Push} (hg : IsLine scope guard line)
    (hline : line
      = List.replicate n ' ' ++ ("if (".toList ++ (condition.toList ++ ") \x7b".toList)))
    (hi : Script.IsIdle line) (hp : Row scope push (List.replicate m ' '
      ++ (Script.pushWord ++ ((Script.quote message).toList ++ [')', ';']))))
    (hm : IsFree message) (hr : Collects scope (sequence ts) ps) :
    Collects scope (sequence (guard :: row push :: ts)) (⟨some condition, some message⟩ :: ps) := by
  obtain ⟨x, hx, hxs⟩ := hg
  obtain ⟨y, hy, hys⟩ := hp.isLine
  obtain ⟨z, hz, hps⟩ := hr
  refine ⟨(x ++ y) ++ z, ?_, ?_⟩
  · rw [render_sequence_cons, render_sequence_cons, hx, hy, hz, appendText_ok, appendText_ok,
      String.append_assoc]
  · refine Script.Puts.append (Script.puts_guarded (m := m) hline hi hm ?_) hps
    rw [String.toList_append, hxs, hys, Script.joinLines, List.flatMap_cons, List.flatMap_singleton]

/-- Parts that are there only if a value counts as true. -/
theorem collects_when {test : Expr} {v : Value} {parts : List Template} {ps : List Push}
    (hg : test.Gives scope v) (h : Collects scope (sequence parts) ps)
    (hn : v.truthy = false → ps = []) : Collects scope (when test parts) ps := by
  refine exists_render_when hg (fun _ => h) fun hv => ?_
  rw [hn hv]
  exact collects_nil scope

end Template

/-! ## The parts -/

namespace Validation

-- the lines of a validator are read letter by letter
set_option maxRecDepth 1000

/-- The message of a required field, under the condition that the field is blank. -/
def requiredPush (r : RequiredCheck) : Push :=
  ⟨some ("isBlank(record." ++ (r.field ++ ")")), some r.message⟩

/-- The message of a kind, under the condition that the field is filled in and of another kind. -/
def typePush (t : TypeCheck) : Push :=
  ⟨some ("!missing.has(" ++ (Script.quote t.field ++ (") && (" ++ (t.scriptCondition ++ ")")))),
    some t.message⟩

/-- The message of an address, under the condition that someone signs in with it. -/
def addressPush (field : String) : Push :=
  ⟨some "methods && methods.length > 0", some (inUseMessage field)⟩

variable {c : Collection} {o : Options}

theorem collects_required {scope : Scope} {r : RequiredCheck} (hf : IsFree r.field)
    (hm : IsFree r.message) (i : Nat) :
    Collects (itemScope scope "req" i (Plan.requiredValue r)) (sequence [
      lines [""],
      row [text "  if (isBlank(record.", value ["req", "field"], text ")) \x7b"],
      row [text "    errors.push(", script ["req", "message"], text ");"],
      row [text "    missing.add(", script ["req", "field"], text ");"],
      lines ["  \x7d"]]) [requiredPush r] := by
  have hfield : (Expr.path ["req", "field"]).Gives (itemScope scope "req" i (Plan.requiredValue r))
      (.text r.field) := Expr.Gives.of_record (e := .name "req") rfl rfl
  have hmessage : (Expr.path ["req", "message"]).Gives
      (itemScope scope "req" i (Plan.requiredValue r)) (.text r.message) :=
    Expr.Gives.of_record (e := .name "req") rfl rfl
  refine .after ?space (collects_guarded (n := 2) (m := 4)
    (Row.isLine (.text (.hole hfield (.text .nil)))) ?blank
    (Silent.isIdle (.fixed ?_ (.free hf (.fixed ?_ .nil)))) (row_push 4 hmessage) hm
    (.after ?missing ?closing))
  case blank =>
    rw [String.toList_append, String.toList_append, String.toList_ofList, String.toList_ofList]
    simp only [List.append_assoc, List.cons_append, List.nil_append]
    rfl
  case missing =>
    refine collects_silent (.text (.hole hfield.quoted (.text .nil)))
      (.fixed ?_ (.free hf.quote (.fixed ?_ .nil)))
    all_goals decide
  case space | closing => exact collects_lines (by repeat constructor) (by decide)
  all_goals decide

theorem collects_typeCheck {scope : Scope} {t : TypeCheck} {i : Nat} (hf : IsFree t.field)
    (hr : IsFree t.remark) (hc : (Expr.element (.path ["conditions"]) (.path ["loop", "index0"])).Gives
      (itemScope scope "type_check" i t.toValue) (.text t.scriptCondition)) :
    Collects (itemScope scope "type_check" i t.toValue) (sequence [
      lines [""],
      when (.path ["type_check", "annotation"]) [
        row [text "  // ", value ["type_check", "annotation"]]],
      row [text "  if (!missing.has(", script ["type_check", "field"], text ") && (",
        hole (.element (.path ["conditions"]) (.path ["loop", "index0"])), text ")) \x7b"],
      row [text "    errors.push(", script ["type_check", "fragment", "message"], text ");"],
      lines ["  \x7d"]]) [typePush t] := by
  have hremark : (Expr.path ["type_check", "annotation"]).Gives
      (itemScope scope "type_check" i t.toValue) (.text t.remark) :=
    Expr.Gives.of_record (e := .name "type_check") rfl rfl
  have hfield : (Expr.path ["type_check", "field"]).Gives (itemScope scope "type_check" i t.toValue)
      (.text t.field) := Expr.Gives.of_record (e := .name "type_check") rfl rfl
  have hfragment : (Expr.path ["type_check", "fragment"]).Gives
      (itemScope scope "type_check" i t.toValue) (Value.record [("message", .text t.message)]) :=
    Expr.Gives.of_record (e := .name "type_check") rfl rfl
  have hmessage : (Expr.path ["type_check", "fragment", "message"]).Gives
      (itemScope scope "type_check" i t.toValue) (.text t.message) := hfragment.of_record rfl
  -- the remark is a comment of the script and may be left out; the condition guards the push
  refine .after ?space (.after (collects_when hremark ?remark fun _ => rfl)
    (collects_guarded (n := 2) (m := 4)
    (Row.isLine (.text (.hole hfield.quoted (.text (.hole hc (.text .nil)))))) ?mistyped
    (Silent.isIdle (.fixed ?_ (.free hf.quote (t.kind.silent_condition ?reference (.fixed ?_ .nil)))))
    (row_push 4 hmessage) (TypeCheck.isFree_message hf) ?closing))
  case remark =>
    refine collects_silent (.text (.hole hremark .nil)) (.fixed ?_ (.free hr .nil))
    decide
  case mistyped =>
    rw [String.toList_append, String.toList_append, String.toList_append, String.toList_append,
      String.toList_ofList, String.toList_ofList, String.toList_ofList]
    simp only [List.append_assoc, List.cons_append, List.nil_append]
    rfl
  case reference => exact (Script.isFree_ofList rfl).append hf
  case space | closing => exact collects_lines (by repeat constructor) (by decide)
  all_goals decide

theorem collects_address {scope : Scope} {field function : String} {i : Nat} (hf : IsFree field)
    (hn : IsFree function)
    (hfunction : (Expr.path ["names", "validator_function"]).Gives
      (itemScope scope "field" i (.text field)) (.text function))
    (hmessage : (Expr.element (.path ["email_in_use"]) (.path ["field"])).Gives
      (itemScope scope "field" i (.text field)) (.text (inUseMessage field))) :
    Collects (itemScope scope "field" i (.text field)) (sequence [
      row [text "    if (!missing.has(", script ["field"], text ") && typeof record.",
        value ["field"], text " === 'string' && EMAIL_PATTERN.test(record.", value ["field"],
        text ")) \x7b"],
      lines ["      try \x7b"],
      row [text "        const methods = await fetchSignInMethodsForEmail(getAuth(), record.",
        value ["field"], text ");"],
      lines ["        if (methods && methods.length > 0) \x7b"],
      row [text "          errors.push(",
        hole (.script (.element (.path ["email_in_use"]) (.path ["field"]))), text ");"],
      lines [
        "        \x7d",
        "      \x7d catch (error) \x7b"],
      row [text "        console.warn('[", value ["names", "validator_function"],
        text "] email existence check failed for ", value ["field"], text ":', error);"],
      lines [
        "      \x7d",
        "    \x7d"]]) [addressPush field] := by
  have hfield : (Expr.path ["field"]).Gives (itemScope scope "field" i (.text field)) (.text field) :=
    rfl
  -- of all the rows only the one that pushes the message is read as a push; the others are silent
  refine .after ?test (.after ?attempt (.after ?lookup (collects_guarded (n := 8) (m := 10)
    (isLine_lines _ _) ?taken ?idle (row_push 10 hmessage) (isFree_inUseMessage hf)
    (.after ?failure (.after ?warning ?closing)))))
  case test =>
    refine collects_silent
      (.text (.hole hfield.quoted (.text (.hole hfield (.text (.hole hfield (.text .nil)))))))
      (.fixed ?_ (.free hf.quote (.fixed ?_ (.free hf (.fixed ?_ (.free hf (.fixed ?_ .nil)))))))
    all_goals decide
  case lookup =>
    refine collects_silent (.text (.hole hfield (.text .nil)))
      (.fixed ?_ (.free hf (.fixed ?_ .nil)))
    all_goals decide
  case taken =>
    rw [String.toList_ofList]
    rfl
  case idle => decide
  case warning =>
    refine collects_silent (.text (.hole hfunction (.text (.hole hfield (.text .nil)))))
      (.fixed ?_ (.free hn (.fixed ?_ (.free hf (.fixed ?_ .nil)))))
    all_goals decide
  all_goals exact collects_lines (by repeat constructor) (by decide)

/-! ## The module -/

/-- The scope of a validator. -/
abbrev scopeOf (c : Collection) (o : Options) : Scope := Scope.ofValues (values c o)

theorem gives_emailFields (c : Collection) (o : Options) :
    (Expr.path ["plan", "email_fields"]).Gives (scopeOf c o)
      (Value.texts (Plan.ofCollection c).emailFields) :=
  Expr.Gives.of_record (e := .name "plan") rfl rfl

theorem collects_opening (h : c.IsNormal) (o : Options) :
    Collects (scopeOf c o) ValidatorModule.opening [] := by
  have hpattern : (Expr.path ["email_pattern"]).Gives (scopeOf c o) (.text emailPattern) := rfl
  have hname : (Expr.path ["names", "canonical"]).Gives (scopeOf c o) (.text c.camelName) :=
    Expr.Gives.of_record (e := .name "names") rfl rfl
  have himport : Collects (scopeOf c o) (sequence [
      lines ["import \x7b getAuth, fetchSignInMethodsForEmail \x7d from 'firebase/auth';", ""],
      row [text "const EMAIL_PATTERN = ", value ["email_pattern"], text ";"]]) [] := by
    refine .after (collects_lines (by repeat constructor) (by decide))
      (collects_silent (.text (.hole hpattern (.text .nil)))
        (.fixed ?_ (.free (Script.isFree_ofList rfl) (.fixed ?_ .nil))))
    all_goals decide
  refine .after (collects_when (gives_emailFields c o) himport fun _ => rfl) (.after ?blank
    (.after ?name (.after ?order (.after
    (collects_when (gives_emailFields c o) ?option fun _ => rfl) ?closing))))
  case name =>
    refine collects_silent (.text (.hole hname (.text .nil)))
      (.fixed ?_ (.free (isFree_of_isWord h.isWord_camelName) (.fixed ?_ .nil)))
    all_goals decide
  all_goals exact collects_lines (by repeat constructor) (by decide)

/-- The condition of a check stands at the place of the check. -/
theorem gives_condition {i : Nat} {t : TypeCheck} (hi : (Plan.ofCollection c).typeChecks[i]? = some t) :
    (Expr.element (.path ["conditions"]) (.path ["loop", "index0"])).Gives
      (itemScope (scopeOf c o) "type_check" i t.toValue) (.text t.scriptCondition) := by
  have hconditions : (Expr.path ["conditions"]).Gives (itemScope (scopeOf c o) "type_check" i t.toValue)
      (Value.texts ((Plan.ofCollection c).typeChecks.map TypeCheck.scriptCondition)) := rfl
  have hplace : (Expr.path ["loop", "index0"]).Gives (itemScope (scopeOf c o) "type_check" i t.toValue)
      (.int i) := Expr.Gives.of_record (e := .name "loop") rfl rfl
  refine hconditions.of_lookup hplace ?_
  unfold Value.texts
  obtain ⟨hlt, rfl⟩ := List.getElem?_eq_some_iff.1 hi
  rw [Expr.lookup?_index (by rw [List.length_map, List.length_map]; exact hlt), List.getElem_map,
    List.getElem_map]

theorem collects_checks (h : c.IsNormal) (o : Options) :
    Collects (scopeOf c o) ValidatorModule.checks
      ((Plan.ofCollection c).required.map requiredPush
        ++ (Plan.ofCollection c).typeChecks.map typePush) := by
  have hfunction : (Expr.path ["names", "validator_function"]).Gives (scopeOf c o)
      (.text (CollectionNames.ofCollection c o).validatorFunction) :=
    Expr.Gives.of_record (e := .name "names") rfl rfl
  have hrequired : (Expr.path ["plan", "required"]).Gives (scopeOf c o)
      (.list ((Plan.ofCollection c).required.map Plan.requiredValue)) :=
    Expr.Gives.of_record (e := .name "plan") rfl rfl
  have htypes : (Expr.path ["plan", "type_checks"]).Gives (scopeOf c o)
      (.list ((Plan.ofCollection c).typeChecks.map TypeCheck.toValue)) :=
    Expr.Gives.of_record (e := .name "plan") rfl rfl
  have required : Collects (scopeOf c o) (forEach "req" (.path ["plan", "required"]) _)
      ((Plan.ofCollection c).required.flatMap fun r => [requiredPush r]) :=
    render_forEach (P := Puts) Script.puts_empty Script.Puts.append hrequired fun r hr i => by
      obtain ⟨f, hf, rfl⟩ := List.mem_map.1 hr
      have hname : IsFree f.name := isFree_of_isName (h.isName_field hf)
      exact collects_required (r := ⟨f.name, requiredMessage f.name⟩) hname
        (isFree_requiredMessage hname) i
  have types : Collects (scopeOf c o) (forEach "type_check" (.path ["plan", "type_checks"]) _)
      ((Plan.ofCollection c).typeChecks.flatMap fun t => [typePush t]) :=
    render_forEach_at (P := Puts) Script.puts_empty Script.Puts.append htypes fun i t hi => by
      obtain ⟨f, hf, rfl⟩ := List.mem_map.1 (List.mem_of_getElem? hi)
      exact collects_typeCheck (isFree_of_isName (h.isName_field hf))
        (TypeCheck.isFree_remark (isFree_of_isTypeTag (h.fields_plain f hf).2)) (gives_condition hi)
  rw [List.map_eq_flatMap, List.map_eq_flatMap]
  refine .after (collects_row (.text (.hole hfunction (.text .nil))) ?_) (.after
    (collects_lines (by repeat constructor) (by decide)) (required.cons types))
  have hname := h.isName_validatorFunction o
  -- the row that opens the function has no call of its own, whatever the name of the function is
  have hout {d : Char} (hd : Intake.isIdentifierChar d = false) {before after : List Char}
      (hb : d ∉ before) (ha : d ∉ after) :
      d ∉ before ++ ((CollectionNames.ofCollection c o).validatorFunction.toList ++ (after ++ [])) := by
    rw [List.append_nil, List.mem_append, List.mem_append, not_or, not_or]
    exact ⟨hb, hname.not_mem hd, ha⟩
  exact Script.isIdle_of_not_mem (hout (by decide) (by decide) (by decide))
    (hout (by decide) (by decide) (by decide))

theorem collects_addresses (h : c.IsNormal) (o : Options) :
    Collects (scopeOf c o) ValidatorModule.addresses
      ((Plan.ofCollection c).emailFields.map addressPush) := by
  have haddresses : Collects (scopeOf c o) (forEach "field" (.path ["plan", "email_fields"]) _)
      ((Plan.ofCollection c).emailFields.flatMap fun e => [addressPush e]) :=
    render_forEach (P := Puts) Script.puts_empty Script.Puts.append (gives_emailFields c o)
      fun e he i => by
        have hname : IsFree e := by
          obtain ⟨f, hf, rfl⟩ := List.mem_map.1 he
          exact isFree_of_isName (h.isName_field (List.mem_filter.1 hf).1)
        have hfunction : (Expr.path ["names", "validator_function"]).Gives
            (itemScope (scopeOf c o) "field" i (.text e))
            (.text (CollectionNames.ofCollection c o).validatorFunction) :=
          Expr.Gives.of_record (e := .name "names") rfl rfl
        have hmessages : (Expr.path ["email_in_use"]).Gives
            (itemScope (scopeOf c o) "field" i (.text e)) (Plan.ofCollection c).inUseMessages := rfl
        have hfield : (Expr.path ["field"]).Gives (itemScope (scopeOf c o) "field" i (.text e))
            (.text e) := rfl
        exact collects_address hname (isFree_of_isName (h.isName_validatorFunction o)) hfunction
          (hmessages.of_lookup hfield (lookup?_inUseMessages he))
  rw [List.map_eq_flatMap]
  have hnone : (Value.texts (Plan.ofCollection c).emailFields).truthy = false →
      ((Plan.ofCollection c).emailFields.flatMap fun e => [addressPush e]) = [] := by
    intro hfalse
    have hempty : (!((Plan.ofCollection c).emailFields.map Value.text).isEmpty) = false := hfalse
    rw [Bool.not_eq_false', List.isEmpty_map, List.isEmpty_iff] at hempty
    rw [hempty, List.flatMap_nil]
  refine .before (collects_when (gives_emailFields c o) (.after ?_ (haddresses.before ?_)) hnone) ?_
  all_goals exact collects_lines (by repeat constructor) (by decide)

theorem collects_template (h : c.IsNormal) (o : Options) :
    Collects (scopeOf c o) ValidatorModule.template
      ((Plan.ofCollection c).required.map requiredPush
        ++ (Plan.ofCollection c).typeChecks.map typePush
        ++ (Plan.ofCollection c).emailFields.map addressPush) :=
  (collects_opening h o).after ((collects_checks h o).cons (collects_addresses h o))

/-- The validator of every collection that is read, under all options, collects the messages of its plan in
the order of the plan: those of the required fields, those of the kinds, and those of addresses. Each
stands under the condition of its check. -/
theorem pushes_of_read {identity : List String} {raw : Value} {notes : List Note}
    {all : List Collection} (h : Intake.read identity raw = (notes, .ok all)) (hc : c ∈ all)
    (o : Options) :
    ∃ f, validatorFile c o = .ok f
      ∧ Script.pushes f.content
        = (Plan.ofCollection c).required.map requiredPush
          ++ (Plan.ofCollection c).typeChecks.map typePush
          ++ (Plan.ofCollection c).emailFields.map addressPush := by
  obtain ⟨s, hr, hp⟩ := collects_template ((Intake.areNormal_of_read h).each c hc) o
  refine ⟨⟨(CollectionNames.ofCollection c o).validatorPath, s⟩, ?_, hp.pushes_eq⟩
  unfold validatorFile Artifact.ofTemplate
  rw [hr]
  rfl

/-- The validator of a collection with an address and a field of an unknown type. -/
theorem pushes_of_members :
    let raw : Value := .list [Intake.declaration "member" [("email", "email"), ("hue", "color")]]
    let c : Collection := {
      name := "member", camelName := "member", pascalName := "Member",
      fields := [⟨"email", .email, "email"⟩, ⟨"hue", .text, "color"⟩] }
    (∃ notes, Intake.read [] raw = (notes, .ok [c]))
      ∧ ∃ f, validatorFile c {} = .ok f ∧ Script.pushes f.content = [
        ⟨some "isBlank(record.email)", some "email is required."⟩,
        ⟨some "isBlank(record.hue)", some "hue is required."⟩,
        ⟨some ("!missing.has('email') && (typeof record.email !== 'string' || "
          ++ "!EMAIL_PATTERN.test(record.email))"), some "email must be a valid email address."⟩,
        ⟨some "!missing.has('hue') && (typeof record.hue !== 'string')", some "hue must be text."⟩,
        ⟨some "methods && methods.length > 0",
          some "The email address in email is already in use."⟩] := by
  intro raw c
  have h : Intake.read [] raw = (_, .ok [c]) := Intake.read_eq_of_toOption (by with_unfolding_all decide)
  obtain ⟨f, hf, hp⟩ := pushes_of_read h List.mem_cons_self {}
  exact ⟨⟨_, h⟩, f, hf, hp.trans (by decide)⟩

end Validation

end Scaffold
