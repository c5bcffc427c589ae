import Scaffold.Access.Stage
import Scaffold.Proofs.Interface.Names

/-!
# Modules of actions

What the module of actions of a normal collection declares, under all options.
-/

namespace Scaffold

open Template
open Script (Declaration)

/-! ## Values -/

theorem Collection.IsNormal.inline_summary {c : Collection} (h : c.IsNormal) : Inline c.summary := by
  apply inline_commaList
  intro s hs
  obtain ⟨f, hf, rfl⟩ := List.mem_map.1 hs
  have hdeclared : Inline (if f.isFallback then ", declared '" ++ f.declared ++ "'" else "") := by
    split
    · exact inline_append (inline_append (inline_ofList rfl) (h.inline_declared hf)) (inline_ofList rfl)
    · exact inline_ofList rfl
  exact inline_append (inline_append (inline_append (inline_append (h.inline_field hf)
    (inline_ofList rfl)) f.kind.inline_tag) hdeclared) (inline_ofList rfl)

theorem Collection.IsNormal.inline_searchField {c : Collection} (h : c.IsNormal) :
    Inline c.searchField := by
  unfold Collection.searchField
  split
  next f rest hf =>
    have hm : f ∈ c.fieldsOf [.text, .email] := hf ▸ List.mem_cons_self
    exact h.inline_field (List.mem_filter.1 hm).1
  next => exact inline_ofList rfl

namespace Access

/-- The shapes that a module of actions counts on. -/
def actionsContext (c : Collection) (o : Options) : Context := [
  ("names", .record (Shape.exactParts (CollectionNames.ofCollection c o).entries)),
  ("field_summary", .line),
  ("identity", .any),
  ("role_gated", .flag (c.isRoleGated o)),
  ("activity_logging", .flag o.activityLogging),
  ("page_size", .inline),
  ("search_field", .line),
  ("sentinel_escape", .line),
  ("has_more", .line)]

/-- The declarations of a module of actions. -/
def actionsDeclarations (c : Collection) (o : Options) : List Declaration := [
  Declaration.imports ["addDoc", "collection", "deleteDoc", "doc", "getCountFromServer", "getDoc", "getDocs",
    "limit", "query", "setDoc", "startAfter", "updateDoc", "where"] "firebase/firestore",
  Declaration.imports ["db"] "@/firebase",
  Declaration.imports (["ok", "fail", "buildFilterConstraints", "buildSortConstraints"]
      ++ (if c.isRoleGated o then ["requireRole"] else [])
      ++ (if o.activityLogging then ["recordActivity"] else [])
      ++ ["stampCreated", "stampUpdated"])
    "../collectionSupport.js",
  Declaration.exports "DEFAULT_PAGE_SIZE", Declaration.exports "DEFAULT_SEARCH_FIELD",
  Declaration.exports (CollectionNames.ofCollection c o).actionsFactory]

variable {scope : Scope} {c : Collection} {o : Options}

theorem declares_actionsImports (hs : (actionsContext c o).Fits scope) :
    Declares scope ActionsModule.imports true true ([] ++ ([] ++ [
      Declaration.imports ["addDoc", "collection", "deleteDoc", "doc", "getCountFromServer", "getDoc", "getDocs",
        "limit", "query", "setDoc", "startAfter", "updateDoc", "where"] "firebase/firestore",
      Declaration.imports ["db"] "@/firebase",
      Declaration.imports (["ok", "fail", "buildFilterConstraints", "buildSortConstraints"]
          ++ (if c.isRoleGated o then ["requireRole"] else [])
          ++ (if o.activityLogging then ["recordActivity"] else [])
          ++ ["stampCreated", "stampUpdated"])
        "../collectionSupport.js"])) := by
  have hg : Expr.Has (actionsContext c o) (.path ["role_gated"]) (.flag (c.isRoleGated o)) := by
    repeat' constructor
  have ha : Expr.Has (actionsContext c o) (.path ["activity_logging"]) (.flag o.activityLogging) := by
    repeat' constructor
  refine .cons (b := true) (Quiet.declares ?_ hs) (.cons (b := true) (Quiet.declares ?_ hs) ?_)
  · repeat' constructor
  · repeat' constructor
  apply declares_fixedLines hs
  · repeat' constructor
  cases c.isRoleGated o <;> cases o.activityLogging
  all_goals
    simp only [Bool.false_eq_true, if_false, if_true, List.cons_append, List.nil_append,
      List.append_nil]
    repeat first
      | exact .nil
      | refine .quiet (by decide) ?_
      | refine .declared rfl (by repeat constructor) (by decide) ?_

theorem declares_actionsConstants (hs : (actionsContext c o).Fits scope) :
    Declares scope ActionsModule.constants true true ([] ++ ([] ++ ([Declaration.exports "DEFAULT_PAGE_SIZE"]
      ++ ([Declaration.exports "DEFAULT_SEARCH_FIELD"] ++ ([] ++ []))))) := by
  refine .cons (b := true) (Quiet.declares ?_ hs) (.cons (b := true) (Quiet.declares ?_ hs)
    (.cons (b := true) ?_ (.cons (b := true) ?_ (.cons (b := true) (Quiet.declares ?_ hs)
      (Quiet.declares ?_ hs)))))
  case' refine_3 | refine_4 =>
    refine declares_row 1 hs (.cons (.text rfl) .nil) (fun rest => ?_) (b := false) ?_
    rw [String.toList_append, String.toList_ofList]
    rfl
  all_goals
    repeat' constructor

theorem declares_actionsOpening (h : c.IsNormal) (hs : (actionsContext c o).Fits scope) :
    Declares scope ActionsModule.opening true true
      ([Declaration.exports (CollectionNames.ofCollection c o).actionsFactory] ++ []) := by
  have hf : Expr.Has (actionsContext c o) (.path ["names", "actions_factory"])
      (.exact (CollectionNames.ofCollection c o).actionsFactory) := by
    repeat' constructor
  have hw : Writes (actionsContext c o) (sequence [text "export function ",
      value ["names", "actions_factory"], text "(session = null) \x7b"]) _ :=
    .cons (.text rfl) (.cons (.hole hf) (.text rfl))
  refine .cons (b := true) ?_ (Quiet.declares (b := true) ?_ hs)
  · refine declares_row 3 hs hw (fun rest => ?_) (b := false) .nil
    exact Script.declarationAt_export (fun rest => by rw [String.toList_ofList]; rfl)
      (h.isName_actionsFactory o) (String.toList_ofList) (by decide) rest
  · repeat' constructor

/-- The actions themselves declare nothing. -/
theorem quiet_actions : Quiet (actionsContext c o)
    (sequence [ActionsModule.reading, ActionsModule.adding, ActionsModule.changing,
      ActionsModule.deleting, ActionsModule.searching, ActionsModule.roles, ActionsModule.closing])
    true true := by
  repeat' constructor

theorem fits_actionsContext (h : c.IsNormal) (o : Options) :
    (actionsContext c o).Fits (Scope.ofValues (actionsValues c o)) := by
  have hmore : Inline (Paging.hasMoreExpression Paging.returnedName Paging.pageSizeName) :=
    inline_append (inline_append (inline_ofList rfl) (inline_ofList rfl)) (inline_ofList rfl)
  have hsize : Shape.inline.Fits (.int defaultPageSize) := by
    rw [Shape.Fits]
    unfold Inline
    decide
  refine Context.fits_cons (h.fits_names o) ?_
    (Context.fits_cons (Shape.fits_line h.inline_summary) ?_
    (Context.fits_cons trivial ?_
    (Context.fits_cons rfl ?_
    (Context.fits_cons rfl ?_
    (Context.fits_cons hsize ?_
    (Context.fits_cons (Shape.fits_line h.inline_searchField) ?_
    (Context.fits_cons (Shape.fits_line (inline_ofList rfl)) ?_
    (Context.fits_cons (Shape.fits_line hmore) ?_ Context.fits_nil))))))))
  all_goals
    repeat' constructor

theorem isMade_actionsFile (h : c.IsNormal) (o : Options) :
    Artifact.IsMade (actionsFile c o) (CollectionNames.ofCollection c o).actionsPath
      (actionsDeclarations c o) := by
  have hs := fits_actionsContext h o
  exact Artifact.isMade_ofTemplate ((declares_actionsImports hs).cons
    ((declares_actionsConstants hs).cons ((declares_actionsOpening h hs).cons
      (quiet_actions.declares hs))))

end Access

end Scaffold
