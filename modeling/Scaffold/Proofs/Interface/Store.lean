import Scaffold.Proofs.Assembly.Catalogue
import Scaffold.Proofs.Interface.Names
import Scaffold.Proofs.Script.Token

/-!
# The store module

What the store module declares, under all options and for all normal collections.
-/

namespace Scaffold

open Template
open Script (Declaration)

/-! ## JSON on one line -/

/-- A value that JSON writes on one line. -/
def Json.StaysInline (v : Value) : Prop := ∃ s, Json.write .line v = .ok s ∧ Inline s

namespace Json

theorem inline_quote (s : String) : Inline (Json.quote s) := by
  refine inline_append (inline_append (inline_ofList rfl) ?_) (inline_ofList rfl)
  unfold Inline
  rw [String.toList_ofList]
  intro hm
  obtain ⟨c, -, hm⟩ := List.mem_flatMap.1 hm
  exact lineFeed_not_mem_escapeChar c hm

theorem staysInline_text (s : String) : StaysInline (.text s) := by
  refine ⟨quote s, ?_, inline_quote s⟩
  rw [write]

theorem inline_enclose {opening closing : String} {items : List String} (ho : Inline opening)
    (hc : Inline closing) (h : ∀ s ∈ items, Inline s) :
    Inline (Layout.line.enclose opening closing items) := by
  unfold Layout.enclose
  split
  · exact inline_append ho hc
  · exact inline_append (inline_append (inline_append (inline_append ho (inline_ofList rfl))
      (inline_commaList h)) (inline_ofList rfl)) hc

/-- A record whose parts are written on one line is written on one line. -/
theorem staysInline_record {α : Type} {parts : List (String × α)} {f : α → Value}
    (h : ∀ e ∈ parts, StaysInline (f e.2)) :
    StaysInline (Value.record (parts.map fun e => (e.1, f e.2))) := by
  obtain ⟨items, hw, hp⟩ := write_record (l := .line) (P := fun _ s => Inline s) h
  refine ⟨_, hw, inline_enclose (inline_ofList rfl) (inline_ofList rfl) ?_⟩
  clear hw
  induction hp with
  | nil => exact fun s hs => absurd hs List.not_mem_nil
  | @cons e _ _ _ hfirst _ ih =>
    obtain ⟨s, rfl, hs⟩ := hfirst
    have hitem : Inline (quote e.1 ++ ": " ++ s) :=
      inline_append (inline_append (inline_quote e.1) (inline_ofList rfl)) hs
    exact List.forall_mem_cons.2 ⟨hitem, ih fun e' he => h e' (List.mem_cons_of_mem e he)⟩

end Json

theorem Registry.fits_messagesValue : Shape.literal.Fits messagesValue := by
  rw [Shape.Fits]
  have hl : Script.literal messagesValue = Json.write .line messagesValue := rfl
  rw [hl]
  have hmessages (messages : List (String × String)) :
      Json.StaysInline (Value.record (messages.map fun e => (e.1, .text e.2))) :=
    Json.staysInline_record (f := .text) fun e _ => Json.staysInline_text e.2
  exact Json.staysInline_record (f := fun messages => Value.record (messages.map fun e => (e.1, .text e.2)))
    fun e _ => hmessages e.2

/-! ## The module -/

namespace Store

/-- The shape of the names of some collection. -/
def namesShape : Shape := 
  .record (Shape.lineParts ((CollectionNames.entries ⟨"", "", ⟨""⟩⟩).map Prod.fst))

/-- The shapes that the store module counts on. -/
def context (all : List Collection) (o : Options) : Context := [
  ("store", .record (Shape.exactParts (StoreNames.ofOptions o).entries)),
  ("bindings", .list all.length (.record [("names", namesShape), ("role_gated", .any)])),
  ("auth_enabled", .flag o.auth),
  ("profile", .optional namesShape),
  ("activity_logging", .flag o.activityLogging),
  ("roles", .texts o.roles),
  ("auth_messages", .literal),
  ("generic_auth_message", .line)]

/-- The import of the actions of a collection. -/
def actionsImport (o : Options) (c : Collection) : Declaration :=
  Declaration.imports [(CollectionNames.ofCollection c o).actionsFactory]
    (CollectionNames.ofCollection c o).actionsImport

/-- The declarations of the store module. -/
def declarations (all : List Collection) (o : Options) : List Declaration :=
  [Declaration.imports ["ref", "computed"] "vue", Declaration.imports ["defineStore"] "pinia"]
    ++ (if o.auth then [
      Declaration.imports ["createUserWithEmailAndPassword", "EmailAuthProvider", "onAuthStateChanged",
        "reauthenticateWithCredential", "sendEmailVerification", "sendPasswordResetEmail",
        "signInWithEmailAndPassword", "signOut", "updatePassword", "updateProfile"] "firebase/auth",
      Declaration.imports ["auth"] "@/firebase"] else [])
    ++ [Declaration.imports ((if o.auth then ["ok"] else []) ++ ["ErrorKind"]
      ++ if o.hasRoles then ["ROLES"] else []) "./collectionSupport.js"]
    ++ (if o.activityLogging then
      [Declaration.imports ["initRecentActivityListener", "cleanupActivityListener"] "./activityLogger.js"]
      else [])
    ++ all.map (actionsImport o)
    ++ [Declaration.exports (StoreNames.ofOptions o).hook]

variable {scope : Scope} {all : List Collection} {o : Options} {c : Collection}

theorem supportImport_eq (auth roles : Bool) (rest : List Char) :
    Script.declarationAt (("import \x7b " ++ ((if auth then "ok, " ++ "" else "") ++ ("ErrorKind"
      ++ ((if roles then ", ROLES" ++ "" else "") ++ " \x7d from './collectionSupport.js';")))).toList
        ++ rest)
      = some (Declaration.imports ((if auth then ["ok"] else []) ++ ["ErrorKind"]
        ++ if roles then ["ROLES"] else []) "./collectionSupport.js") := by
  cases auth <;> cases roles
  all_goals
    simp only [Bool.false_eq_true, if_false, if_true, String.append_empty, String.empty_append]
    repeat rw [String.toList_append]
    repeat rw [String.toList_ofList]
    rfl

theorem declares_supportImport (hs : (context all o).Fits scope) :
    Declares scope
      (row [text "import \x7b ", when (.path ["auth_enabled"]) [text "ok, "], text "ErrorKind",
        when (.path ["roles"]) [text ", ROLES"], text " \x7d from './collectionSupport.js';"])
      true true
      [Declaration.imports ((if o.auth then ["ok"] else []) ++ ["ErrorKind"] ++ if o.hasRoles then ["ROLES"] else [])
        "./collectionSupport.js"] := by
  have ha : Expr.Has (context all o) (.path ["auth_enabled"]) (.flag o.auth) := by
    repeat' constructor
  have hr : Expr.Has (context all o) (.path ["roles"]) (.texts o.roles) := by
    repeat' constructor
  refine declares_row 5 hs (.cons (.text rfl) (.cons (.when ha .flag (.cons (.text rfl) .nil))
    (.cons (.text rfl) (.cons (.when hr .texts (.cons (.text rfl) .nil)) (.text rfl)))))
    (fun rest => ?_) (b := false) .nil
  exact supportImport_eq o.auth o.hasRoles rest

/-- A binding in the scope of its row. -/
theorem fits_binding (h : c.IsNormal) (i : Nat) :
    Context.Fits [("binding", .record [("names",
        .record (Shape.exactParts (CollectionNames.ofCollection c o).entries))])]
      (itemScope scope "binding" i (Binding.ofCollection c o).toValue) := by
  intro b hb
  rw [List.mem_singleton] at hb
  subst hb
  refine ⟨_, List.lookup_cons_self, ?_⟩
  apply Shape.fits_record
  intro p hp
  rw [List.mem_singleton] at hp
  subst hp
  exact ⟨_, List.lookup_cons_self, h.fits_names o⟩

theorem declares_actionsImport (h : c.IsNormal) (i : Nat) :
    Declares (itemScope scope "binding" i (Binding.ofCollection c o).toValue)
      (row [text "import \x7b ", value ["binding", "names", "actions_factory"], text " \x7d from '",
        value ["binding", "names", "actions_import"], text "';"]) true true [actionsImport o c] := by
  have hs : Context.Fits _ (itemScope scope "binding" i (Binding.ofCollection c o).toValue) :=
    fits_binding h i
  have hf : Expr.Has [("binding", .record [("names",
      .record (Shape.exactParts (CollectionNames.ofCollection c o).entries))])]
      (.path ["binding", "names", "actions_factory"])
      (.exact (CollectionNames.ofCollection c o).actionsFactory) := by
    repeat' constructor
  have hi : Expr.Has [("binding", .record [("names",
      .record (Shape.exactParts (CollectionNames.ofCollection c o).entries))])]
      (.path ["binding", "names", "actions_import"])
      (.exact (CollectionNames.ofCollection c o).actionsImport) := by
    repeat' constructor
  refine declares_row 5 hs (.cons (.text rfl) (.cons (.hole hf) (.cons (.text rfl)
    (.cons (.hole hi) (.text rfl))))) (fun rest => ?_) (b := false) .nil
  exact Script.declarationAt_import (List.cons_ne_nil _ [])
    (fun n hn => List.mem_singleton.1 hn ▸ h.isName_actionsFactory o) (h.isUnquoted_actionsImport o) rest

/-! ### Parts of the module -/

theorem declares_imports (hall : ∀ c ∈ all, c.IsNormal) (hs : (context all o).Fits scope)
    (hb : (Expr.path ["bindings"]).Gives scope
      (.list (all.map fun c => (Binding.ofCollection c o).toValue))) :
    Declares scope StoreModule.imports true true
      ([Declaration.imports ["ref", "computed"] "vue", Declaration.imports ["defineStore"] "pinia"]
        ++ ((if o.auth then [
          Declaration.imports ["createUserWithEmailAndPassword", "EmailAuthProvider", "onAuthStateChanged",
            "reauthenticateWithCredential", "sendEmailVerification", "sendPasswordResetEmail",
            "signInWithEmailAndPassword", "signOut", "updatePassword", "updateProfile"] "firebase/auth",
          Declaration.imports ["auth"] "@/firebase"] else [])
        ++ ([Declaration.imports ((if o.auth then ["ok"] else []) ++ ["ErrorKind"]
          ++ if o.hasRoles then ["ROLES"] else []) "./collectionSupport.js"]
        ++ ((if o.activityLogging then
          [Declaration.imports ["initRecentActivityListener", "cleanupActivityListener"] "./activityLogger.js"]
          else [])
        ++ (all.flatMap (fun c => [actionsImport o c]) ++ []))))) := by
  have ha : Expr.Has (context all o) (.path ["auth_enabled"]) (.flag o.auth) := by
    repeat' constructor
  have hl : Expr.Has (context all o) (.path ["activity_logging"]) (.flag o.activityLogging) := by
    repeat' constructor
  -- fixed imports, two with conditions, and one import for each collection
  refine .cons (b := true) ?_ (.cons (b := true) (.when hs ha .flag ?_)
    (.cons (b := true) (declares_supportImport hs) (.cons (b := true) (.when hs hl .flag ?_)
    (.cons (b := true) (declares_forEach hb fun c hc i => declares_actionsImport (hall c hc) i) ?_))))
  all_goals
    apply declares_lines
    · repeat constructor
    · repeat first
        | exact .nil
        | refine .quiet (by decide) ?_
        | refine .declared rfl (by repeat constructor) (by decide) ?_

theorem declares_session (hs : (context all o).Fits scope) :
    Declares scope StoreModule.session true true
      ([] ++ ([Declaration.exports (StoreNames.ofOptions o).hook] ++ [])) := by
  have hh : Expr.Has (context all o) (.path ["store", "hook"]) (.exact (StoreNames.ofOptions o).hook) := by
    repeat' constructor
  have hn : Expr.Has (context all o) (.path ["store", "store_name"])
      (.exact (StoreNames.ofOptions o).storeName) := by
    repeat' constructor
  refine .cons (b := true) (Quiet.declares ?_ hs) (.cons (b := true) ?_ (Quiet.declares ?_ hs))
  · repeat' constructor
  · refine declares_row 3 hs (.cons (.text rfl) (.cons (.hole hh) (.text rfl))) (fun rest => ?_)
      (b := false) ?_
    · exact Script.declarationAt_export (fun rest => by rw [String.toList_ofList]; rfl)
        (StoreNames.isName_hook o) String.toList_ofList (by decide) rest
    · exact .cons (.hole (.script hn .exact) .line) (.cons (.text (by decide)) .nil)
  · repeat' constructor

/-- The messages and the state of authentication declare nothing. -/
theorem quiet_auth : Quiet (context all o)
    (sequence [StoreModule.authHelpers, StoreModule.authState, StoreModule.signing,
      StoreModule.account]) true true := by
  repeat' constructor

theorem quiet_helpers : Quiet (context all o) StoreModule.helpers true true := by
  repeat' constructor

/-- The functions that bind collections declare nothing. -/
theorem quiet_bindings : Quiet (context all o)
    (forEach "binding" (.path ["bindings"]) [bind "n" (.path ["binding", "names"])
      StoreModule.binding]) true true := by
  repeat' constructor

/-- The keys of the store declare nothing. The profile is looked at only if there is one. -/
theorem quiet_keys : Quiet (context all o) StoreModule.keys true true := by
  have hprofile : Quiet (context all o) (when (.path ["profile"])
      [text ", ", value ["profile", "actions_factory"], text "(session)"]) false false := by
    refine .whenSome (.later (.later (.later .here))) ?_
    repeat' constructor
  have hauth : Quiet (context all o) (sequence [row [text "    ...bindAuth(currentUser",
      when (.path ["profile"]) [text ", ", value ["profile", "actions_factory"], text "(session)"],
      text "),"]]) true true := by
    refine .row (b := false) (.cons (b := false) (.text (by decide)) (.cons (b := false) hprofile
      (.text (by decide))))
  have hrest : Quiet (context all o) (sequence [when (.path ["roles"]) [
      lines ["    availableRoles: ROLES,"]],
    when (.path ["activity_logging"]) [
      lines [
        "    recentActivity,",
        "    watchRecentActivity,",
        "    stopRecentActivity,"]],
    forEach "binding" (.path ["bindings"]) [
      row [text "    ...", value ["binding", "names", "binding_function"], text "(session),"]],
    lines [
      "  \x7d;",
      "\x7d);"]]) true true := by
    repeat' constructor
  refine .cons (b := true) ?_ (.cons (b := true) (.when (.name (.later (.later .here))) hauth) hrest)
  repeat' constructor

/-! ### The file -/

theorem fits_names_lineParts (h : c.IsNormal) (o : Options) :
    namesShape.Fits (CollectionNames.ofCollection c o).toValue := by
  unfold namesShape
  rw [CollectionNames.map_fst_entries _ (CollectionNames.ofCollection c o)]
  exact Shape.fits_lineParts (CollectionNames.nodup_keys _) (h.inline_entries o)

theorem fits_bindings (hall : ∀ c ∈ all, c.IsNormal) :
    Shape.Fits (.list all.length (.record [("names", namesShape), ("role_gated", .any)]))
      (.list ((Registry.build all o).bindings.map Binding.toValue)) := by
  have hm : (Registry.build all o).bindings.map Binding.toValue
      = all.map fun c => (Binding.ofCollection c o).toValue := List.map_map
  rw [hm]
  apply Shape.fits_list
  intro c hc
  apply Shape.fits_record
  exact List.forall_mem_cons.2 ⟨⟨_, rfl, fits_names_lineParts (hall c hc) o⟩,
    List.forall_mem_cons.2 ⟨⟨_, rfl, trivial⟩, fun p hp => absurd hp List.not_mem_nil⟩⟩

theorem fits_profile (hall : ∀ c ∈ all, c.IsNormal) :
    Shape.Fits (.optional namesShape)
      (((Registry.build all o).profile.map CollectionNames.toValue).getD .null) := by
  rw [Shape.Fits]
  intro ht
  cases hp : (Registry.build all o).profile with
  | none =>
    rw [hp] at ht
    cases ht
  | some n =>
    rw [Registry.build] at hp
    unfold Registry.profileOf at hp
    split at hp
    · obtain ⟨c, hc, rfl⟩ := Option.map_eq_some_iff.1 hp
      exact fits_names_lineParts (hall c (List.mem_of_find?_eq_some hc)) o
    · cases hp

theorem fits_context (hall : ∀ c ∈ all, c.IsNormal) :
    (context all o).Fits
      (Scope.ofValues ((Registry.build all o).values (o.roles.map .text))) := by
  have hgeneric : Inline AuthMessages.generic := inline_ofList rfl
  refine Context.fits_cons (StoreNames.fits_toValue o) ?_
    (Context.fits_cons (fits_bindings hall) ?_
    (Context.fits_cons rfl ?_
    (Context.fits_cons (fits_profile hall) ?_
    (Context.fits_cons rfl ?_
    (Context.fits_cons rfl ?_
    (Context.fits_cons Registry.fits_messagesValue ?_
    (Context.fits_cons (Shape.fits_line hgeneric) ?_ Context.fits_nil)))))))
  all_goals repeat' constructor

theorem isMade_indexFile (hall : ∀ c ∈ all, c.IsNormal) (o : Options) :
    Artifact.IsMade (indexFile all o) (StoreNames.ofOptions o).indexPath (declarations all o) := by
  have hs := fits_context hall (o := o)
  have hb : (Expr.path ["bindings"]).Gives
      (Scope.ofValues ((Registry.build all o).values (o.roles.map .text)))
      (.list (all.map fun c => (Binding.ofCollection c o).toValue)) := by
    have hm : (Registry.build all o).bindings.map Binding.toValue
        = all.map fun c => (Binding.ofCollection c o).toValue := List.map_map
    rw [← hm]
    rfl
  have ha : Expr.Has (context all o) (.path ["auth_enabled"]) (.flag o.auth) := by
    repeat' constructor
  have h : Declares _ StoreModule.template true true _ :=
    (declares_imports hall hs hb).cons ((quiet_helpers.declares hs).cons
      ((Declares.when hs ha .flag (quiet_auth.declares hs)).cons ((quiet_bindings.declares hs).cons
        ((declares_session hs).cons (quiet_keys.declares hs)))))
  have himports : all.flatMap (fun c => [actionsImport o c]) = all.map (actionsImport o) :=
    List.map_eq_flatMap.symm
  apply Artifact.isMade_ofTemplate (b := true)
  unfold declarations
  rw [himports, ite_self] at h
  simp only [List.append_assoc, List.nil_append, List.append_nil] at h ⊢
  exact h

end Store

end Scaffold
