import Scaffold.Proofs.Interface.Names
import Scaffold.Access.Stage

/-!
# Modules of data access

What the modules of data access declare, under all options and for every normal collection.
-/

namespace Scaffold.Access

open Template
open Script (Declaration)

/-! ## The database -/

/-- The declarations of the database module. -/
def databaseDeclarations (o : Options) : List Declaration :=
  [Declaration.imports ["initializeApp"] "firebase/app", Declaration.imports ["getFirestore"] "firebase/firestore"]
    ++ (if o.auth then [Declaration.imports ["getAuth"] "firebase/auth"] else [])
    ++ [Declaration.exports "app", Declaration.exports "db"]
    ++ if o.auth then [Declaration.exports "auth"] else []

theorem isMade_databaseFile (o : Options) :
    Artifact.IsMade (databaseFile o) Layout.databaseModule (databaseDeclarations o) := by
  have hs : Context.Fits [("auth_enabled", .flag o.auth)]
      (Scope.ofValues [("auth_enabled", .bool o.auth)]) :=
    Context.fits_cons rfl .nil Context.fits_nil
  have ht : Expr.Has [("auth_enabled", .flag o.auth)] (.path ["auth_enabled"]) (.flag o.auth) :=
    .name .here
  apply Artifact.isMade_ofTemplate
  unfold DatabaseModule.template databaseDeclarations
  rw [List.append_assoc, List.append_assoc]
  refine .cons (b := true) ?_ (.cons (b := true) (.when hs ht .flag ?_)
    (.cons (b := true) ?_ (.when hs ht .flag ?_)))
  all_goals
    apply declares_lines
    · repeat constructor
    · repeat first
        | exact .nil
        | refine .quiet (by decide) ?_
        | refine .declared rfl (by repeat constructor) (by decide) ?_

/-! ## What all data access shares -/

/-- The declarations of the support module. -/
def supportDeclarations (o : Options) : List Declaration :=
  [Declaration.imports ["where", "orderBy", "serverTimestamp"] "firebase/firestore"]
    ++ (if o.activityLogging then [Declaration.imports ["logActivity"] "./activityLogger.js"] else [])
    ++ [Declaration.exports "ErrorKind"]
    ++ (if o.hasRoles then [Declaration.exports "ROLES"] else [])
    ++ [Declaration.exports "AuthorizationError", Declaration.exports "ok", Declaration.exports "fail",
      Declaration.exports "buildFilterConstraints", Declaration.exports "buildSortConstraints",
      Declaration.exports "currentUserOf", Declaration.exports "requireRole", Declaration.exports "stampCreated",
      Declaration.exports "stampUpdated"]
    ++ if o.activityLogging then [Declaration.exports "recordActivity"] else []

/-- The shapes that the support module counts on. -/
def supportContext (o : Options) : Context := [
  ("activity_logging", .flag o.activityLogging),
  ("roles", .texts o.roles),
  ("filter_operators", .texts filterOperators)]

variable {scope : Scope} {o : Options}

theorem declares_kinds (hs : (supportContext o).Fits scope) :
    Declares scope SupportModule.kinds true true
      ([Declaration.imports ["where", "orderBy", "serverTimestamp"] "firebase/firestore"]
        ++ ((if o.activityLogging then [Declaration.imports ["logActivity"] "./activityLogger.js"] else [])
        ++ ([Declaration.exports "ErrorKind"]
        ++ ((if o.hasRoles then [Declaration.exports "ROLES"] else []) ++ [])))) := by
  have ha : Expr.Has (supportContext o) (.path ["activity_logging"]) (.flag o.activityLogging) :=
    .name .here
  have hr : Expr.Has (supportContext o) (.path ["roles"]) (.texts o.roles) := .name (.later .here)
  have hrow : Declares scope
      (row [text "export const ROLES = Object.freeze(", Template.script ["roles"], text ");"])
      true true [Declaration.exports "ROLES"] := by
    refine declares_row 1 hs (.cons (.text rfl) .nil) (fun rest => ?_) (b := false) ?_
    · rw [String.toList_append, String.toList_ofList]
      rfl
    · exact .cons (.hole (.script hr .texts) .line) (.cons (.text rfl) .nil)
  refine .cons (b := true) ?_ (.cons (b := true) (.when hs ha .flag ?_) (.cons (b := true) ?_
    (.cons (b := true) (.when hs hr .texts (Quiet.before (.lines (.cons (by decide) .nil)) hs hrow)) ?_)))
  all_goals
    apply declares_lines
    · repeat constructor
    · repeat first
        | exact .nil
        | refine .quiet (by decide) ?_
        | refine .declared rfl (by repeat constructor) (by decide) ?_

theorem fits_supportContext (o : Options) :
    (supportContext o).Fits (Scope.ofValues [
      ("activity_logging", .bool o.activityLogging),
      ("roles", Value.texts o.roles),
      ("filter_operators", Value.texts filterOperators)]) := by
  refine Context.fits_cons rfl ?_ (Context.fits_cons rfl ?_ (Context.fits_cons rfl .nil
    Context.fits_nil))
  all_goals
    repeat' constructor

theorem declares_results : Declares scope SupportModule.results true true
    [Declaration.exports "AuthorizationError", Declaration.exports "ok", Declaration.exports "fail"] := by
  apply declares_lines
  · repeat constructor
  · repeat first
      | exact .nil
      | refine .quiet (by decide) ?_
      | refine .declared rfl (by repeat constructor) (by decide) ?_

theorem declares_constraints (hs : (supportContext o).Fits scope) :
    Declares scope SupportModule.constraints true true
      ([] ++ [Declaration.exports "buildFilterConstraints", Declaration.exports "buildSortConstraints"]) := by
  have hf : Quiet (supportContext o)
      (row [text "const FILTER_OPERATORS = ", Template.script ["filter_operators"], text ";"])
      true true := by
    repeat' constructor
  refine .cons (hf.declares hs) ?_
  apply declares_lines
  · repeat constructor
  · repeat first
      | exact .nil
      | refine .quiet (by decide) ?_
      | refine .declared rfl (by repeat constructor) (by decide) ?_

theorem declares_roles : Declares scope SupportModule.roles true true
    [Declaration.exports "currentUserOf", Declaration.exports "requireRole"] := by
  apply declares_lines
  · repeat constructor
  · repeat first
      | exact .nil
      | refine .quiet (by decide) ?_
      | refine .declared rfl (by repeat constructor) (by decide) ?_

theorem declares_stamps (hs : (supportContext o).Fits scope) :
    Declares scope SupportModule.stamps true true
      ([Declaration.exports "stampCreated", Declaration.exports "stampUpdated"]
        ++ if o.activityLogging then [Declaration.exports "recordActivity"] else []) := by
  have ha : Expr.Has (supportContext o) (.path ["activity_logging"]) (.flag o.activityLogging) :=
    .name .here
  refine .cons (b := true) ?_ (.when hs ha .flag ?_)
  all_goals
    apply declares_lines
    · repeat constructor
    · repeat first
        | exact .nil
        | refine .quiet (by decide) ?_
        | refine .declared rfl (by repeat constructor) (by decide) ?_

theorem isMade_supportFile (o : Options) :
    Artifact.IsMade (supportFile o) (StoreNames.ofOptions o).supportPath (supportDeclarations o) := by
  have hs := fits_supportContext o
  have h : Declares _ SupportModule.template true true _ :=
    (declares_kinds hs).cons (declares_results.cons ((declares_constraints hs).cons
      (declares_roles.cons (declares_stamps hs))))
  apply Artifact.isMade_ofTemplate (b := true)
  unfold supportDeclarations
  simp only [List.append_assoc, List.nil_append, List.append_nil, List.cons_append] at h ⊢
  exact h

/-! ## The record of activity -/

/-- The declarations of the activity module. -/
def activityDeclarations : List Declaration := [
  Declaration.imports ["addDoc", "collection", "limit", "onSnapshot", "orderBy", "query", "Timestamp", "where"]
    "firebase/firestore",
  Declaration.imports ["db"] "@/firebase",
  Declaration.exports "ACTIVITY_COLLECTION", Declaration.exports "logActivity",
  Declaration.exports "initRecentActivityListener", Declaration.exports "cleanupActivityListener"]

/-- The shapes that the activity module counts on. -/
def activityContext : Context := [("activity_collection", .line), ("recent_limit", .inline)]

theorem fits_activityContext : activityContext.Fits (Scope.ofValues [
    ("activity_collection", .text activityCollection),
    ("recent_limit", .int recentLimit)]) := by
  refine Context.fits_cons (Shape.fits_line (inline_ofList rfl)) (.cons (by decide) .nil)
    (Context.fits_cons ?_ .nil Context.fits_nil)
  rw [Shape.Fits]
  unfold Inline
  decide

theorem declares_actors (hs : activityContext.Fits scope) :
    Declares scope ActivityModule.actors true true
      ([Declaration.imports ["addDoc", "collection", "limit", "onSnapshot", "orderBy", "query", "Timestamp",
        "where"] "firebase/firestore", Declaration.imports ["db"] "@/firebase"]
        ++ ([Declaration.exports "ACTIVITY_COLLECTION"] ++ [])) := by
  refine .cons (b := true) ?_ (.cons (b := true) ?_ ?_)
  · apply declares_lines
    · repeat constructor
    · repeat first
        | exact .nil
        | refine .quiet (by decide) ?_
        | refine .declared rfl (by repeat constructor) (by decide) ?_
  · refine declares_row 1 hs (.cons (.text rfl) .nil) (fun rest => ?_) (b := false) ?_
    · rw [String.toList_append, String.toList_ofList]
      rfl
    · exact .cons (.hole (.script (.name .here) .line) .line) (.cons (.text rfl) .nil)
  · refine Quiet.declares ?_ hs
    repeat' constructor

theorem declares_recording :
    Declares scope ActivityModule.recording true true [Declaration.exports "logActivity"] := by
  apply declares_lines
  · repeat constructor
  · repeat first
      | exact .nil
      | refine .quiet (by decide) ?_
      | refine .declared rfl (by repeat constructor) (by decide) ?_

theorem declares_listening (hs : activityContext.Fits scope) :
    Declares scope ActivityModule.listening true true
      ([Declaration.exports "initRecentActivityListener"]
        ++ ([] ++ [Declaration.exports "cleanupActivityListener"])) := by
  have hmax : Quiet activityContext (row [text "  const \x7b max = ", value ["recent_limit"],
      text ", userId = null, types = null, onError = null \x7d = options;"]) true true := by
    repeat' constructor
  refine .cons (b := true) ?_ (.cons (hmax.declares hs) ?_)
  all_goals
    apply declares_lines
    · repeat constructor
    · repeat first
        | exact .nil
        | refine .quiet (by decide) ?_
        | refine .declared rfl (by repeat constructor) (by decide) ?_

theorem isMade_activityFile (o : Options) :
    Artifact.IsMade (activityFile o) (StoreNames.ofOptions o).activityPath activityDeclarations := by
  have hs := fits_activityContext
  exact Artifact.isMade_ofTemplate
    ((declares_actors hs).cons (declares_recording.cons (declares_listening hs)))

end Scaffold.Access
