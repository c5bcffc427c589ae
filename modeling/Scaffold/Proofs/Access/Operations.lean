import Scaffold.Access.Stage
import Scaffold.Proofs.Collection.Invariants
import Scaffold.Proofs.Interface.Actions
import Scaffold.Proofs.Script.Operation

/-!
# Operations of data access

What the modules of data access do with the records of a collection: which operations there are, which of them
ask for a role first, and which properties the stamps of records are. Adding and changing a record take its id out
and stamp it with the time and, where the collection holds users, with the user who acts. A declared field that
has the name of a stamp is overwritten each time, and intake keeps only the name of the id away from fields.
-/

namespace Scaffold

open Template
open Script (ActionLine StampLine Operation Stamp)

namespace Access

/-! ## Modules of actions -/

/-- The values that the text of a module of actions depends on. -/
def actionsScope (c : Collection) (o : Options) : Scope := Scope.ofValues (actionsValues c o)

/-- What the lines do that record an activity. -/
def recordLines (o : Options) : List ActionLine :=
  if o.activityLogging then [.awaits "recordActivity"] else []

/-- What the lines do that ask for the role of those who may delete and give roles. -/
def roleLines (c : Collection) (o : Options) : List ActionLine :=
  if c.isRoleGated o then [.asks "admin"] else []

/-- What the lines do that give and take roles. -/
def roleOperationLines (c : Collection) (o : Options) : List ActionLine :=
  if c.isRoleGated o then [.opens "assignRoles", .asks "admin", .awaits "getDoc", .awaits "updateDoc",
    .opens "revokeRoles", .asks "admin", .awaits "getDoc", .awaits "updateDoc"] else []

section

variable {c : Collection} (h : c.IsNormal) (o : Options)

theorem gives_actionsNames (c : Collection) (o : Options) {n s : String}
    (hn : ((CollectionNames.ofCollection c o).entries.map fun e => (e.1, Value.text e.2)).lookup n
      = some (.text s)) : (Expr.path ["names", n]).Gives (actionsScope c o) (.text s) :=
  Expr.Gives.of_record (e := .name "names") rfl hn

theorem gives_roleGated (c : Collection) :
    (Expr.path ["role_gated"]).Gives (actionsScope c o) (.bool (c.isRoleGated o)) := rfl

theorem gives_activityLogging (c : Collection) :
    (Expr.path ["activity_logging"]).Gives (actionsScope c o) (.bool o.activityLogging) := rfl

/-- The record of an activity, after an operation has gone well. -/
theorem says_recording (c : Collection) {activity : List Char} {ls : List String} {css : List (List Char)}
    (hactivity : '\n' ∉ activity) (hs : Text.Spells ls css) (hn : ∀ cs ∈ css, '\n' ∉ cs)
    (he : css.filterMap Script.actionLine? = []) :
    Says Script.actionLine? (actionsScope c o) (when (.path ["activity_logging"]) [
      lines ["        await recordActivity(session, \x7b"],
      row [text "          type: '", value ["names", "constant"], text (String.ofList activity)],
      lines ls]) (recordLines o) := by
  have hconstant : (Expr.path ["names", "constant"]).Gives (actionsScope c o)
      (.text (CollectionNames.ofCollection c o).constant) := gives_actionsNames c o rfl
  have hinline : '\n' ∉ (CollectionNames.ofCollection c o).constant.toList := inline_constant _
  have hparts : Says Script.actionLine? (actionsScope c o) (sequence [
      lines ["        await recordActivity(session, \x7b"],
      row [text "          type: '", value ["names", "constant"], text (String.ofList activity)],
      lines ls]) [.awaits "recordActivity"] := by
    refine .before (says_lines (by repeat constructor) (by decide) rfl)
      (.after (Row.reads (.text (.hole hconstant (.text .nil))) ?_ rfl) (.after (says_lines hs hn he) says_nil))
    simp [hinline, hactivity]
  exact says_when_flag (gives_activityLogging o c) hparts

/-! ### Parts of the module -/

theorem says_imports (h : c.IsNormal) :
    Says Script.actionLine? (actionsScope c o) ActionsModule.imports [] := by
  have hname : (Expr.path ["names", "canonical"]).Gives (actionsScope c o) (.text c.camelName) :=
    gives_actionsNames c o rfl
  have hsummary : (Expr.path ["field_summary"]).Gives (actionsScope c o) (.text c.summary) := rfl
  have hinline : '\n' ∉ c.camelName.toList := h.inline_camelName
  have hline : '\n' ∉ c.summary.toList := h.inline_summary
  refine .after (Row.reads (.text (.hole hname (.text .nil))) ?_ rfl)
    (.after (says_when_nothing hsummary (.after (Row.reads (.text (.hole hsummary .nil)) ?_ rfl) says_nil))
    (.after ?_ (.after (says_when_nothing (gives_roleGated o c) (.after ?_ says_nil))
    (.after (says_when_nothing (gives_activityLogging o c) (.after ?_ says_nil)) (.after ?_ says_nil)))))
  · simp [hinline]
  · simp [hline]
  all_goals exact says_lines (by repeat constructor) (by decide) (by decide)

theorem says_constants (c : Collection) :
    Says Script.actionLine? (actionsScope c o) ActionsModule.constants [.strips "id"] := by
  have hname : (Expr.path ["names", "canonical"]).Gives (actionsScope c o) (.text c.camelName) :=
    gives_actionsNames c o rfl
  have hfield : (Expr.path ["search_field"]).Gives (actionsScope c o) (.text c.searchField) := rfl
  have hsize : (Expr.path ["page_size"]).Gives (actionsScope c o) (.int defaultPageSize) := rfl
  have hsentinel : (Expr.path ["sentinel_escape"]).Gives (actionsScope c o) (.text sentinelEscape) := rfl
  have hquoted : '\n' ∉ (Script.quote c.camelName).toList := Script.inline_quote c.camelName
  have hsearched : '\n' ∉ (Script.quote c.searchField).toList := Script.inline_quote c.searchField
  refine .after ?gap (.after (Row.reads (.text (.hole hname.quoted (.text .nil))) ?_ ?constant)
    (.after (Row.reads (.text (.shown hsize (.text .nil))) ?_ rfl)
    (.after (Row.reads (.text (.hole hfield.quoted (.text .nil))) ?_ rfl)
    (.after (Row.reads (.text (.hole hsentinel (.text .nil))) ?_ rfl) (.before ?functions says_nil)))))
  case constant =>
    rw [Script.toList_quote]
    rfl
  case gap | functions => exact says_lines (by repeat constructor) (by decide) (by decide)
  · simp [hquoted]
  · decide
  · simp [hsearched]
  · decide

theorem says_opening (h : c.IsNormal) :
    Says Script.actionLine? (actionsScope c o) ActionsModule.opening [] := by
  have hfactory : (Expr.path ["names", "actions_factory"]).Gives (actionsScope c o)
      (.text (CollectionNames.ofCollection c o).actionsFactory) := gives_actionsNames c o rfl
  have hinline : '\n' ∉ (CollectionNames.ofCollection c o).actionsFactory.toList :=
    inline_of_isName (h.isName_actionsFactory o)
  refine .after (Row.reads (.text (.hole hfactory (.text .nil))) ?_ rfl) (.after ?_ says_nil)
  · simp [hinline]
  · exact says_lines (by repeat constructor) (by decide) (by decide)

theorem says_reading (c : Collection) :
    Says Script.actionLine? (actionsScope c o) ActionsModule.reading
      ([ActionLine.opens "fetchInitialPage", .awaits "getDocs"]
        ++ ([ActionLine.opens "fetchNextPage", .awaits "getDocs"]
          ++ [ActionLine.opens "get", .awaits "getDoc"])) := by
  have hmore : (Expr.path ["has_more"]).Gives (actionsScope c o)
      (.text (Paging.hasMoreExpression Paging.returnedName Paging.pageSizeName)) := rfl
  have hinline : '\n' ∉ (Paging.hasMoreExpression Paging.returnedName Paging.pageSizeName).toList := by decide
  refine .cons ?_ (.after (Row.reads (.text (.hole hmore (.text .nil))) ?_ rfl) (.cons ?_
    (.after (Row.reads (.text (.hole hmore (.text .nil))) ?_ rfl) (.before ?_ says_nil))))
  case refine_2 | refine_4 => simp [hinline]
  all_goals exact says_lines (by repeat constructor) (by decide) (by decide)

theorem says_adding (c : Collection) :
    Says Script.actionLine? (actionsScope c o) ActionsModule.adding
      ([ActionLine.opens "add"] ++ ([ActionLine.stamps "stampCreated" (c.isIdentity o.identityNames)]
        ++ ([ActionLine.awaits "setDoc", .awaits "addDoc"] ++ recordLines o))) := by
  have hidentity : (Expr.path ["identity"]).Gives (actionsScope c o)
      (.bool (c.isIdentity o.identityNames)) := rfl
  refine .cons ?_ (.cons (says_row_when hidentity ?row) (.cons ?_ (.before ?recording (.after ?_ says_nil))))
  case row =>
    -- who acts is tracked where the collection holds users; the line differs in one of its parts
    cases c.isIdentity o.identityNames with
    | true => exact Row.reads (.text (.text (.text .nil))) (by decide) rfl
    | false => exact Row.reads (.text (.text .nil)) (by decide) rfl
  case recording => exact says_recording o c (by decide) (by repeat constructor) (by decide) (by decide)
  all_goals exact says_lines (by repeat constructor) (by decide) (by decide)

theorem says_changing (c : Collection) :
    Says Script.actionLine? (actionsScope c o) ActionsModule.changing
      ([ActionLine.opens "update", .awaits "updateDoc"]
        ++ ([ActionLine.stamps "stampUpdated" (c.isIdentity o.identityNames)] ++ recordLines o)) := by
  have hidentity : (Expr.path ["identity"]).Gives (actionsScope c o)
      (.bool (c.isIdentity o.identityNames)) := rfl
  refine .cons ?_ (.cons (says_row_when hidentity ?row) (.after ?_ (.before ?recording (.after ?_ says_nil))))
  case row =>
    cases c.isIdentity o.identityNames with
    | true => exact Row.reads (.text (.text (.text .nil))) (by decide) rfl
    | false => exact Row.reads (.text (.text .nil)) (by decide) rfl
  case recording => exact says_recording o c (by decide) (by repeat constructor) (by decide) (by decide)
  all_goals exact says_lines (by repeat constructor) (by decide) (by decide)

theorem says_deleting (c : Collection) :
    Says Script.actionLine? (actionsScope c o) ActionsModule.deleting
      ([ActionLine.opens "remove"] ++ (roleLines c o ++ ([ActionLine.awaits "deleteDoc"] ++ recordLines o))) := by
  have hrole : Says Script.actionLine? (actionsScope c o)
      (sequence [lines ["        requireRole(session, 'admin');"]]) [.asks "admin"] :=
    .before (says_lines (by repeat constructor) (by decide) (by decide)) says_nil
  refine .cons ?_ (.cons (says_when_flag (gives_roleGated o c) hrole)
    (.cons ?_ (.before ?recording (.after ?_ says_nil))))
  case recording => exact says_recording o c (by decide) (by repeat constructor) (by decide) (by decide)
  all_goals exact says_lines (by repeat constructor) (by decide) (by decide)

theorem says_searching (c : Collection) :
    Says Script.actionLine? (actionsScope c o) ActionsModule.searching
      [.opens "search", .awaits "getDocs", .opens "count", .awaits "getCountFromServer"] :=
  .before (says_lines (by repeat constructor) (by decide) (by decide)) says_nil

theorem says_roles (c : Collection) :
    Says Script.actionLine? (actionsScope c o) ActionsModule.roles (roleOperationLines c o) := by
  refine .before ?gated says_nil
  unfold roleOperationLines
  exact says_when_flag (gives_roleGated o c)
    (.before (says_lines (by repeat constructor) (by decide) (by decide)) says_nil)

theorem says_closing (c : Collection) : Says Script.actionLine? (actionsScope c o) ActionsModule.closing [] :=
  .after (says_lines (by repeat constructor) (by decide) (by decide)) says_nil

/-! ### The module -/

/-- The operations of a collection: with roles on a collection that holds users, only those with the role of
an administrator may delete, and give and take roles. -/
def actionOperations (c : Collection) (o : Options) : List Operation :=
  [⟨"fetchInitialPage", [.awaits "getDocs"]⟩,
    ⟨"fetchNextPage", [.awaits "getDocs"]⟩,
    ⟨"get", [.awaits "getDoc"]⟩,
    ⟨"add", [.stamps "stampCreated" (c.isIdentity o.identityNames), .awaits "setDoc", .awaits "addDoc"]
      ++ recordLines o⟩,
    ⟨"update", [.awaits "updateDoc", .stamps "stampUpdated" (c.isIdentity o.identityNames)] ++ recordLines o⟩,
    ⟨"remove", roleLines c o ++ [.awaits "deleteDoc"] ++ recordLines o⟩,
    ⟨"search", [.awaits "getDocs"]⟩,
    ⟨"count", [.awaits "getCountFromServer"]⟩]
  ++ if c.isRoleGated o then [
    ⟨"assignRoles", [.asks "admin", .awaits "getDoc", .awaits "updateDoc"]⟩,
    ⟨"revokeRoles", [.asks "admin", .awaits "getDoc", .awaits "updateDoc"]⟩] else []

theorem operations_actionsFile (h : c.IsNormal) :
    ∃ f, actionsFile c o = .ok f ∧ Script.operations f.content = actionOperations c o
      ∧ Script.stripped f.content = ["id"] := by
  have hmodule := Says.after (says_imports o h) (.cons (says_constants o c) (.after (says_opening o h)
    (.cons (says_reading o c) (.cons (says_adding o c) (.cons (says_changing o c) (.cons (says_deleting o c)
      (.cons (says_searching o c) (.before (says_roles o c) (.after (says_closing o c) says_nil)))))))))
  obtain ⟨f, hf, hsaid⟩ := Says.ofTemplate rfl hmodule
  -- what the lines say is known up to two flags, which decide where operations end and begin
  refine ⟨f, hf, ?_, ?_⟩
  · rw [Script.operations, hsaid]
    unfold actionOperations roleOperationLines roleLines recordLines
    cases o.activityLogging <;> cases c.isRoleGated o <;> rfl
  · rw [Script.stripped, hsaid]
    unfold roleOperationLines roleLines recordLines
    cases o.activityLogging <;> cases c.isRoleGated o <;> rfl

end

/-! ## The module of stamps -/

section

variable (o : Options)

/-- The values that the text of the module of stamps depends on. -/
def supportScope : Scope := Scope.ofValues [
  ("activity_logging", .bool o.activityLogging),
  ("roles", Value.texts o.roles),
  ("filter_operators", Value.texts filterOperators)]

theorem says_kinds : Says Script.stampLine? (supportScope o) SupportModule.kinds [] := by
  have hactivity : (Expr.path ["activity_logging"]).Gives (supportScope o) (.bool o.activityLogging) := rfl
  have hroles : (Expr.path ["roles"]).Gives (supportScope o) (Value.texts o.roles) := rfl
  obtain ⟨s, hliteral, hline⟩ := hroles.exists_literal
  unfold Inline at hline
  refine .after ?_ (.after (says_when_nothing hactivity (.after ?_ says_nil)) (.after ?_
    (.after (says_when_nothing hroles (.after ?_ (.after (Row.reads (.text (.hole hliteral (.text .nil))) ?row rfl)
      says_nil))) (.after ?_ says_nil))))
  case row => simp [hline]
  all_goals exact says_lines (by repeat constructor) (by decide) (by decide)

theorem says_results :
    Says Script.stampLine? (supportScope o) SupportModule.results [.closes, .opens "ok", .opens "fail"] :=
  .before (says_lines (by repeat constructor) (by decide) (by decide)) says_nil

theorem says_constraints : Says Script.stampLine? (supportScope o) SupportModule.constraints
    [.opens "buildFilterConstraints", .closes, .opens "buildSortConstraints"] := by
  have hoperators : (Expr.path ["filter_operators"]).Gives (supportScope o) (Value.texts filterOperators) := rfl
  obtain ⟨s, hliteral, hline⟩ := hoperators.exists_literal
  unfold Inline at hline
  refine .after (Row.reads (.text (.hole hliteral (.text .nil))) ?row rfl) (.before ?_ says_nil)
  case row => simp [hline]
  exact says_lines (by repeat constructor) (by decide) (by decide)

theorem says_roleCheck : Says Script.stampLine? (supportScope o) SupportModule.roles
    [.opens "currentUserOf", .opens "requireRole", .closes, .closes] :=
  .before (says_lines (by repeat constructor) (by decide) (by decide)) says_nil

theorem says_stamps : Says Script.stampLine? (supportScope o) SupportModule.stamps
    ([StampLine.opens "stampCreated", .copies ["createdAt", "updatedAt"], .tracks, .puts "createdBy",
      .puts "updatedBy", .closes, .opens "stampUpdated", .copies ["updatedAt"], .tracks, .puts "updatedBy",
      .closes] ++ if o.activityLogging then [StampLine.closes] else []) := by
  have hactivity : (Expr.path ["activity_logging"]).Gives (supportScope o) (.bool o.activityLogging) := rfl
  refine .cons ?_ (.before (says_when_flag hactivity (.before ?_ says_nil)) says_nil)
  all_goals exact says_lines (by repeat constructor) (by decide) (by decide)

/-- The functions of the module: records are stamped with the times, and with who acts if that is tracked. -/
def supportStamps : List Stamp := [
  ⟨"ok", [], []⟩, ⟨"fail", [], []⟩, ⟨"buildFilterConstraints", [], []⟩, ⟨"buildSortConstraints", [], []⟩,
  ⟨"currentUserOf", [], []⟩, ⟨"requireRole", [], []⟩,
  ⟨"stampCreated", ["createdAt", "updatedAt"], ["createdBy", "updatedBy"]⟩,
  ⟨"stampUpdated", ["updatedAt"], ["updatedBy"]⟩]

theorem stamps_supportFile : ∃ f, supportFile o = .ok f ∧ Script.stamps f.content = supportStamps := by
  have hmodule := (says_kinds o).after (.cons (says_results o) (.cons (says_constraints o)
    (.cons (says_roleCheck o) (.before (says_stamps o) says_nil))))
  obtain ⟨f, hf, hsaid⟩ := Says.ofTemplate rfl hmodule
  refine ⟨f, hf, ?_⟩
  rw [Script.stamps, hsaid]
  cases o.activityLogging <;> rfl

end

/-! ## Properties that are managed -/

section

open Script (managed)

variable {c : Collection}

/-- The properties of records that are not written as they are given, in the order in which they are taken out
or put in: first by adding, then by changing. -/
def managedNames (identity : Bool) : List String :=
  ["id"] ++ (["createdAt", "updatedAt"] ++ (if identity then ["createdBy", "updatedBy"] else []))
    ++ (["updatedAt"] ++ (if identity then ["updatedBy"] else []))

theorem managed_of_files (h : c.IsNormal) (o : Options) :
    ∃ actions support, actionsFile c o = .ok actions ∧ supportFile o = .ok support
      ∧ managed actions.content support.content = managedNames (c.isIdentity o.identityNames) := by
  obtain ⟨actions, ha, hoperations, hstripped⟩ := operations_actionsFile o h
  obtain ⟨support, hs, hstamps⟩ := stamps_supportFile o
  refine ⟨actions, support, ha, hs, ?_⟩
  -- the stamps that an operation calls for are looked up by the name of their function
  rw [managed, hstripped, hoperations, hstamps]
  unfold actionOperations recordLines roleLines
  cases o.activityLogging <;> cases c.isRoleGated o <;> cases c.isIdentity o.identityNames <;> rfl

theorem mem_managedNames_iff {identity : Bool} {name : String} :
    name ∈ managedNames identity ↔ name = "id" ∨ name ∈ ["createdAt", "updatedAt"]
      ∨ identity = true ∧ name ∈ ["createdBy", "updatedBy"] := by
  unfold managedNames
  cases identity
  · simp
  · simp only [if_pos, List.mem_append, List.mem_cons, List.not_mem_nil, or_false, true_and]
    tauto

/-- A field of an accepted collection is kept when a record is added or changed, unless it has the name of one
of the two times or, on a collection that holds users, that of one of the two users. It never has the name of
the id. -/
theorem managed_fields_iff {identity : List String} {raw : Value} {notes : List Note} {all : List Collection}
    (h : Intake.read identity raw = (notes, .ok all)) (o : Options) (hc : c ∈ all) :
    ∃ actions support, actionsFile c o = .ok actions ∧ supportFile o = .ok support
      ∧ ∀ f ∈ c.fields, f.name ∈ managed actions.content support.content
        ↔ f.name ∈ ["createdAt", "updatedAt"]
          ∨ c.isIdentity o.identityNames = true ∧ f.name ∈ ["createdBy", "updatedBy"] := by
  obtain ⟨actions, support, ha, hs, hmanaged⟩ := managed_of_files ((Intake.areNormal_of_read h).each c hc) o
  refine ⟨actions, support, ha, hs, fun f hf => ?_⟩
  have hid : f.name ≠ "id" := ((Intake.isAccepted_of_read h c hc).fields f hf).name_ne
  rw [hmanaged, mem_managedNames_iff, or_iff_right hid]

/-- Users with a field for who made them and one for their names: the first one is overwritten. -/
theorem managed_fields_of_users :
    let raw : Value := .list [Intake.declaration "users" [("createdBy", "string"), ("nick", "string")]]
    let users : Collection := ⟨"users", "users", "Users",
      [⟨"createdBy", .text, "string"⟩, ⟨"nick", .text, "string"⟩], "object"⟩
    (Intake.read [] raw).2 = .ok [users]
      ∧ ∃ actions support, actionsFile users {} = .ok actions ∧ supportFile {} = .ok support
        ∧ "createdBy" ∈ managed actions.content support.content
        ∧ "nick" ∉ managed actions.content support.content := by
  intro raw users
  have h : Intake.read [] raw = (_, .ok [users]) := Intake.read_eq_of_toOption (by decide +kernel)
  obtain ⟨actions, support, ha, hs, hfields⟩ := managed_fields_iff h {} (List.mem_singleton_self users)
  have hcreated := hfields ⟨"createdBy", .text, "string"⟩ (by decide)
  have hnick := hfields ⟨"nick", .text, "string"⟩ (by decide)
  exact ⟨congrArg Prod.snd h, actions, support, ha, hs, hcreated.2 (by decide), fun hm =>
    absurd (hnick.1 hm) (by decide)⟩

/-- Notes may declare the time at which they were made, and lose it. -/
theorem managed_field_of_notes :
    let raw : Value := .list [Intake.declaration "note" [("createdAt", "timestamp")]]
    let f : Field := ⟨"createdAt", .timestamp, "timestamp"⟩
    ∃ c, (Intake.read [] raw).2 = .ok [c] ∧ f ∈ c.fields
      ∧ ∃ actions support, actionsFile c {} = .ok actions ∧ supportFile {} = .ok support
        ∧ f.name ∈ managed actions.content support.content := by
  intro raw f
  let c : Collection := ⟨"note", "note", "Note", [f], "object"⟩
  have h : Intake.read [] raw = (_, .ok [c]) := Intake.read_eq_of_toOption (by decide +kernel)
  have hnormal := (Intake.areNormal_of_read h).each c (List.mem_singleton_self c)
  obtain ⟨actions, support, ha, hs, hmanaged⟩ := managed_of_files hnormal {}
  refine ⟨c, congrArg Prod.snd h, List.mem_singleton_self f, actions, support, ha, hs, ?_⟩
  rw [hmanaged, mem_managedNames_iff]
  exact .inr (.inl List.mem_cons_self)

end

end Access

end Scaffold
