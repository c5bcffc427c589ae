import Scaffold.Proofs.Interface.Actions
import Scaffold.Proofs.Interface.Form
import Scaffold.Proofs.Interface.Routing
import Scaffold.Proofs.Interface.Store
import Scaffold.Proofs.Interface.Validation
import Scaffold.Proofs.Template.Lines

/-!
# Lines of generated files

Two runs of the same shape: as many collections with fields of the same kinds, under the same decisions,
whatever the names and the texts. Each file of one run has as many lines as the file of the other run
that stands in its place.
-/

namespace Scaffold

open Likeness (holds_inline holds_inlines holds_parts)

/-! ## Runs of the same shape -/

/-- Fields that differ in their texts only. -/
structure Field.SameShape (f g : Field) : Prop where
  kind : f.kind = g.kind
  isFallback : f.isFallback = g.isFallback

/-- Options that differ in their texts only. Both or none of them have roles. -/
structure Options.SameShape (o o' : Options) : Prop where
  activityLogging : o.activityLogging = o'.activityLogging
  auth : o.auth = o'.auth
  authViews : o.authViews = o'.authViews
  admin : o.admin = o'.admin
  landing : o.landing = o'.landing
  hasRoles : o.hasRoles = o'.hasRoles

/-- Collections that differ in their texts only. Both or none of them hold users, each under its own
options. -/
structure Collection.SameShape (o o' : Options) (c d : Collection) : Prop where
  fields : List.Forall₂ Field.SameShape c.fields d.fields
  isIdentity : c.isIdentity o.identityNames = d.isIdentity o'.identityNames

/-! ## Lists side by side -/

section

variable {α β : Type} {R : α → β → Prop} {xs : List α} {ys : List β}

theorem forall₂_mem (h : List.Forall₂ R xs ys) :
    List.Forall₂ (fun x y => x ∈ xs ∧ y ∈ ys ∧ R x y) xs ys := by
  induction h with
  | nil => exact .nil
  | cons hxy _ ih =>
    exact .cons ⟨List.mem_cons_self, List.mem_cons_self, hxy⟩
      (ih.imp fun x y ⟨hx, hy, h⟩ => ⟨List.mem_cons_of_mem _ hx, List.mem_cons_of_mem _ hy, h⟩)

theorem isEmpty_of_forall₂ (h : List.Forall₂ R xs ys) : xs.isEmpty = ys.isEmpty := by
  cases h with
  | nil => rfl
  | cons _ _ => rfl

theorem flatMap_eq_of_forall₂ {γ : Type} {f : α → List γ} {g : β → List γ} (h : List.Forall₂ R xs ys)
    (hfg : ∀ x y, R x y → f x = g y) : xs.flatMap f = ys.flatMap g := by
  induction h with
  | nil => rfl
  | cons hxy _ ih => rw [List.flatMap_cons, List.flatMap_cons, hfg _ _ hxy, ih]

/-- The first items that pass a test stand in the same place. -/
theorem find?_of_forall₂ {p : α → Bool} {q : β → Bool} (h : List.Forall₂ R xs ys)
    (hpq : ∀ x y, R x y → p x = q y) :
    xs.find? p = none ∧ ys.find? q = none
      ∨ ∃ x y, xs.find? p = some x ∧ ys.find? q = some y ∧ R x y := by
  induction h with
  | nil => exact .inl ⟨rfl, rfl⟩
  | @cons x y _ _ hxy _ ih =>
    rw [List.find?_cons, List.find?_cons, ← hpq x y hxy]
    cases p x with
    | true => exact .inr ⟨x, y, rfl, rfl, hxy⟩
    | false => exact ih

end

/-! ## Files -/

/-- Two files have as many lines if both have a text. -/
def Artifact.SameLines (a b : Except RenderFault Artifact) : Prop :=
  ∀ f g, a = .ok f → b = .ok g → Text.lineFeeds f.content = Text.lineFeeds g.content

theorem Artifact.SameLines.refl (a : Except RenderFault Artifact) : SameLines a a := by
  intro f g hf hg
  rw [hf] at hg
  cases hg
  rfl

theorem Artifact.sameLines_ofTemplate {t : Template} {Γ : Likenesses}
    (ht : t.respects Scaffold.sameLines Γ = true) {path path' : String}
    {values values' : List (String × Value)}
    (hs : Γ.Hold Scaffold.sameLines (Scope.ofValues values) (Scope.ofValues values')) :
    SameLines (ofTemplate path t values) (ofTemplate path' t values') := by
  have content {p : String} {vs : List (String × Value)} {f : Artifact}
      (hf : ofTemplate p t vs = .ok f) : t.render (Scope.ofValues vs) = .ok f.content := by
    unfold ofTemplate at hf
    cases hr : t.render (Scope.ofValues vs) with
    | error e =>
      rw [hr] at hf
      cases hf
    | ok s =>
      rw [hr] at hf
      cases hf
      rfl
  intro f g hf hg
  exact Template.render_related ht hs (content hf) (content hg)

open Artifact (SameLines sameLines_ofTemplate)

/-! ## Names -/

/-- How the names of two stores are alike. -/
def StoreNames.likeness : Likeness := .names ((entries ⟨""⟩).map Prod.fst)

/-- The keys of the names do not depend on the names. -/
theorem StoreNames.map_fst_entries (s t : StoreNames) :
    s.entries.map Prod.fst = t.entries.map Prod.fst := by
  simp only [entries, List.map_cons, List.map_nil]

theorem StoreNames.holds_likeness (o o' : Options) :
    likeness.Holds sameLines (ofOptions o).toValue (ofOptions o').toValue :=
  Likeness.holds_names (map_fst_entries _ _) (inline_entries o) (inline_entries o') _

/-- How the names of two collections are alike. -/
def CollectionNames.likeness : Likeness := .names ((entries ⟨"", "", ⟨""⟩⟩).map Prod.fst)

theorem CollectionNames.holds_likeness {c d : Collection} (hc : c.IsNormal) (hd : d.IsNormal)
    (o o' : Options) :
    likeness.Holds sameLines (ofCollection c o).toValue (ofCollection d o').toValue :=
  Likeness.holds_names (map_fst_entries _ _) (hc.inline_entries o) (hd.inline_entries o') _

theorem Likeness.holds_bool {b b' : Bool} (h : b = b') :
    truth.Holds sameLines (.bool b) (.bool b') := by
  rw [h, Holds]

theorem Likeness.holds_shown (v : Value) : shown.Holds sameLines v v := by
  rw [Holds]
  exact ⟨rfl, rfl⟩

theorem Likeness.holds_literal (v : Value) : literal.Holds sameLines v v := by
  rw [Holds]
  refine ⟨rfl, fun s t hs ht => ?_⟩
  rw [hs] at ht
  cases ht
  rfl

section

variable {o o' : Options} {c d : Collection}

/-! ## Data access -/

namespace Access

theorem sameLines_databaseFile (ho : o.SameShape o') :
    SameLines (databaseFile o) (databaseFile o') := by
  refine sameLines_ofTemplate (Γ := [("auth_enabled", .truth)]) (by decide) ?_
  exact (Likenesses.hold_nil _ _ _).value (Likeness.holds_bool ho.auth)

theorem isEmpty_roles (ho : o.SameShape o') : o.roles.isEmpty = o'.roles.isEmpty := by
  have h := ho.hasRoles
  unfold Options.hasRoles at h
  exact Bool.not_inj h

theorem sameLines_supportFile (ho : o.SameShape o') : SameLines (supportFile o) (supportFile o') := by
  refine sameLines_ofTemplate (Γ := [("activity_logging", .truth), ("roles", .literal),
    ("filter_operators", .literal)]) (by decide) ?_
  exact (((Likenesses.hold_nil _ _ _).value (Likeness.holds_literal _)).value
    (Likeness.holds_literal_texts (isEmpty_roles ho))).value (Likeness.holds_bool ho.activityLogging)

theorem sameLines_activityFile : SameLines (activityFile o) (activityFile o') := by
  refine sameLines_ofTemplate (Γ := [("activity_collection", .text false), ("recent_limit", .shown)])
    (by decide) ?_
  exact ((Likenesses.hold_nil _ _ _).value (Likeness.holds_shown _)).value
    (holds_inline (inline_ofList rfl) (inline_ofList rfl))

theorem isRoleGated_eq (ho : o.SameShape o') (h : c.SameShape o o' d) :
    c.isRoleGated o = d.isRoleGated o' := by
  unfold Collection.isRoleGated
  rw [ho.hasRoles, h.isIdentity]

theorem isEmpty_summary (h : c.SameShape o o' d) : c.summary.isEmpty = d.summary.isEmpty := by
  have hsummary (f : Field) : (Collection.fieldSummary f).isEmpty = false :=
    Text.isEmpty_append_of_right _ (by decide)
  have hfields := h.fields
  unfold Collection.summary
  generalize c.fields = fs at hfields
  generalize d.fields = gs at hfields
  cases hfields with
  | nil => rfl
  | cons _ _ =>
    rw [List.map_cons, List.map_cons, Text.isEmpty_commaList_cons (hsummary _),
      Text.isEmpty_commaList_cons (hsummary _)]

theorem sameLines_actionsFile (ho : o.SameShape o') (hc : c.IsNormal) (hd : d.IsNormal)
    (h : c.SameShape o o' d) : SameLines (actionsFile c o) (actionsFile d o') := by
  refine sameLines_ofTemplate (Γ := [("names", CollectionNames.likeness), ("field_summary", .text true),
    ("identity", .truth), ("role_gated", .truth), ("activity_logging", .truth), ("page_size", .shown),
    ("search_field", .text false), ("sentinel_escape", .text false), ("has_more", .text false)])
    (by decide) ?_
  have hmore : Inline (Paging.hasMoreExpression Paging.returnedName Paging.pageSizeName) :=
    inline_append (inline_append (inline_ofList rfl) (inline_ofList rfl)) (inline_ofList rfl)
  have hsentinel : Inline sentinelEscape := inline_ofList rfl
  exact (((((((((Likenesses.hold_nil _ _ _).value (holds_inline hmore hmore)).value
    (holds_inline hsentinel hsentinel)).value
    (holds_inline hc.inline_searchField hd.inline_searchField)).value (Likeness.holds_shown _)).value
    (Likeness.holds_bool ho.activityLogging)).value (Likeness.holds_bool (isRoleGated_eq ho h))).value
    (Likeness.holds_bool h.isIdentity)).value (Likeness.holds_tested
      (sameLines_of_inline hc.inline_summary hd.inline_summary) (isEmpty_summary h))).value
    (CollectionNames.holds_likeness hc hd o o')

end Access

/-! ## The store -/

namespace Store

/-- How the bindings of two collections are alike. -/
def bindingLikeness : Likeness := .record [("names", CollectionNames.likeness), ("role_gated", .truth)]

theorem holds_binding (ho : o.SameShape o') (hc : c.IsNormal) (hd : d.IsNormal)
    (h : c.SameShape o o' d) :
    bindingLikeness.Holds sameLines (Binding.ofCollection c o).toValue
      (Binding.ofCollection d o').toValue := by
  refine holds_parts rfl ?_
  refine List.forall_mem_cons.2 ⟨⟨_, _, rfl, rfl, CollectionNames.holds_likeness hc hd o o'⟩, ?_⟩
  refine List.forall_mem_cons.2 ⟨⟨_, _, rfl, rfl, Likeness.holds_bool (Access.isRoleGated_eq ho h)⟩, ?_⟩
  exact fun p hp => absurd hp List.not_mem_nil

variable {all all' : List Collection}

/-- How two profiles are alike: both or none of them are there. -/
theorem holds_profile (ho : o.SameShape o') (hall : ∀ c ∈ all, c.IsNormal)
    (hall' : ∀ c ∈ all', c.IsNormal) (h : List.Forall₂ (Collection.SameShape o o') all all') :
    CollectionNames.likeness.Holds sameLines
      (((Registry.build all o).profile.map CollectionNames.toValue).getD .null)
      (((Registry.build all' o').profile.map CollectionNames.toValue).getD .null) := by
  show CollectionNames.likeness.Holds sameLines
    (((Registry.profileOf all o).map CollectionNames.toValue).getD .null)
    (((Registry.profileOf all' o').map CollectionNames.toValue).getD .null)
  unfold Registry.profileOf
  rw [← ho.auth]
  cases o.auth with
  | false => exact Likeness.holds_null _
  | true =>
    rw [if_pos rfl, if_pos rfl]
    rcases find?_of_forall₂ (forall₂_mem h) fun c d hcd => hcd.2.2.isIdentity with
      ⟨hn, hn'⟩ | ⟨c, d, hf, hf', hc, hd, -⟩
    · rw [hn, hn']
      exact Likeness.holds_null _
    · rw [hf, hf']
      exact CollectionNames.holds_likeness (hall c hc) (hall' d hd) o o'

theorem sameLines_indexFile (ho : o.SameShape o') (hall : ∀ c ∈ all, c.IsNormal)
    (hall' : ∀ c ∈ all', c.IsNormal) (h : List.Forall₂ (Collection.SameShape o o') all all') :
    SameLines (indexFile all o) (indexFile all' o') := by
  have hbindings : (Likeness.list bindingLikeness).Holds sameLines
      (.list ((all.map fun c => Binding.ofCollection c o).map Binding.toValue))
      (.list ((all'.map fun c => Binding.ofCollection c o').map Binding.toValue)) := by
    rw [List.map_map, List.map_map]
    refine Likeness.holds_list ((forall₂_mem h).imp fun c d ⟨hc, hd, hcd⟩ => ?_)
    exact holds_binding ho (hall c hc) (hall' d hd) hcd
  have hroles : Likeness.truth.Holds sameLines (.list (o.roles.map .text))
      (.list (o'.roles.map .text)) := by
    rw [Likeness.Holds]
    show (!(o.roles.map Value.text).isEmpty) = !(o'.roles.map Value.text).isEmpty
    rw [List.isEmpty_map, List.isEmpty_map, Access.isEmpty_roles ho]
  have hgeneric : Inline AuthMessages.generic := inline_ofList rfl
  refine sameLines_ofTemplate (Γ := [("store", StoreNames.likeness), ("bindings", .list bindingLikeness),
    ("auth_enabled", .truth), ("profile", CollectionNames.likeness), ("activity_logging", .truth),
    ("roles", .truth), ("auth_messages", .literal), ("generic_auth_message", .text false)])
    (by decide) ?_
  exact ((((((((Likenesses.hold_nil _ _ _).value (holds_inline hgeneric hgeneric)).value
    (Likeness.holds_literal _)).value hroles).value (Likeness.holds_bool ho.activityLogging)).value
    (holds_profile ho hall hall' h)).value (Likeness.holds_bool ho.auth)).value hbindings).value
    (StoreNames.holds_likeness o o')

end Store

/-! ## Fields -/

/-- Fields of the same shape whose texts stay in their lines. -/
structure Field.SameLines (f g : Field) : Prop where
  shape : f.SameShape g
  name : Inline f.name
  name' : Inline g.name
  declared : Inline f.declared
  declared' : Inline g.declared

theorem Collection.SameShape.sameLines (hc : c.IsNormal) (hd : d.IsNormal)
    (h : c.SameShape o o' d) : List.Forall₂ Field.SameLines c.fields d.fields :=
  (forall₂_mem h.fields).imp fun _ _ ⟨hf, hg, hfg⟩ =>
    ⟨hfg, hc.inline_field hf, hd.inline_field hg, hc.inline_declared hf, hd.inline_declared hg⟩

/-! ## Validators -/

namespace Validation

/-- How what is required of two fields is alike. -/
def requiredLikeness : Likeness := .record [("field", .text false), ("message", .text false)]

/-- How the checks of two fields are alike. -/
def typeCheckLikeness : Likeness := .record [
  ("annotation", .text true), ("field", .text false), ("fragment", .record [("message", .text false)])]

/-- How two plans are alike. -/
def planLikeness : Likeness := .record [
  ("required", .list requiredLikeness), ("type_checks", .list typeCheckLikeness),
  ("email_fields", .list (.text false))]

variable {f g : Field}

theorem holds_required (h : f.SameLines g) :
    requiredLikeness.Holds sameLines (Plan.requiredValue ⟨f.name, requiredMessage f.name⟩)
      (Plan.requiredValue ⟨g.name, requiredMessage g.name⟩) := by
  refine holds_parts rfl ?_
  refine List.forall_mem_cons.2 ⟨⟨_, _, rfl, rfl, holds_inline h.name h.name'⟩, ?_⟩
  refine List.forall_mem_cons.2 ⟨⟨_, _, rfl, rfl, holds_inline (inline_requiredMessage h.name)
    (inline_requiredMessage h.name')⟩, ?_⟩
  exact fun p hp => absurd hp List.not_mem_nil

/-- Fields of the same shape both have a remark, or none of them has. -/
theorem isEmpty_remark (f : Field) : (TypeCheck.ofField f).remark.isEmpty = !f.isFallback := by
  unfold TypeCheck.ofField
  dsimp only
  cases f.isFallback with
  | false => rfl
  | true =>
    rw [if_pos rfl]
    exact Text.isEmpty_append_of_left (Text.isEmpty_append_of_right _ (by decide)) _

theorem holds_typeCheck (h : f.SameLines g) :
    typeCheckLikeness.Holds sameLines (TypeCheck.ofField f).toValue (TypeCheck.ofField g).toValue := by
  have hremark : (TypeCheck.ofField f).remark.isEmpty = (TypeCheck.ofField g).remark.isEmpty := by
    rw [isEmpty_remark, isEmpty_remark, h.shape.isFallback]
  have hfragment : (Likeness.record [("message", .text false)]).Holds sameLines
      (Value.record [("message", .text (TypeCheck.ofField f).message)])
      (Value.record [("message", .text (TypeCheck.ofField g).message)]) := by
    refine holds_parts rfl (List.forall_mem_singleton.2 ⟨_, _, rfl, rfl, ?_⟩)
    exact holds_inline (TypeCheck.inline_message h.name) (TypeCheck.inline_message h.name')
  refine holds_parts rfl ?_
  refine List.forall_mem_cons.2 ⟨⟨_, _, rfl, rfl, Likeness.holds_tested (sameLines_of_inline
    (TypeCheck.inline_remark h.declared) (TypeCheck.inline_remark h.declared')) hremark⟩, ?_⟩
  refine List.forall_mem_cons.2 ⟨⟨_, _, rfl, rfl, holds_inline h.name h.name'⟩, ?_⟩
  exact List.forall_mem_cons.2 ⟨⟨_, _, rfl, rfl, hfragment⟩, fun p hp => absurd hp List.not_mem_nil⟩

/-- The fields with addresses stand in the same places. -/
theorem forall₂_emailFields (h : List.Forall₂ Field.SameLines c.fields d.fields) :
    List.Forall₂ Field.SameLines (c.fieldsOf [.email]) (d.fieldsOf [.email]) := by
  unfold Collection.fieldsOf
  refine List.rel_filter (fun f g hfg => ?_) h
  dsimp only
  rw [hfg.shape.kind]

theorem holds_plan (h : List.Forall₂ Field.SameLines c.fields d.fields) :
    planLikeness.Holds sameLines (Plan.ofCollection c).toValue (Plan.ofCollection d).toValue := by
  have hrequired : (Likeness.list requiredLikeness).Holds sameLines
      (.list ((Plan.ofCollection c).required.map Plan.requiredValue))
      (.list ((Plan.ofCollection d).required.map Plan.requiredValue)) := by
    unfold Plan.ofCollection
    rw [List.map_map, List.map_map]
    exact Likeness.holds_list (h.imp fun f g hfg => holds_required hfg)
  have hchecks : (Likeness.list typeCheckLikeness).Holds sameLines
      (.list ((Plan.ofCollection c).typeChecks.map TypeCheck.toValue))
      (.list ((Plan.ofCollection d).typeChecks.map TypeCheck.toValue)) := by
    unfold Plan.ofCollection
    rw [List.map_map, List.map_map]
    exact Likeness.holds_list (h.imp fun f g hfg => holds_typeCheck hfg)
  have hemails : (Likeness.list (.text false)).Holds sameLines
      (Value.texts (Plan.ofCollection c).emailFields) (Value.texts (Plan.ofCollection d).emailFields) :=
    holds_inlines ((forall₂_emailFields h).imp fun f g hfg => ⟨hfg.name, hfg.name'⟩)
  refine holds_parts rfl ?_
  refine List.forall_mem_cons.2 ⟨⟨_, _, rfl, rfl, hrequired⟩, ?_⟩
  refine List.forall_mem_cons.2 ⟨⟨_, _, rfl, rfl, hchecks⟩, ?_⟩
  exact List.forall_mem_cons.2 ⟨⟨_, _, rfl, rfl, hemails⟩, fun p hp => absurd hp List.not_mem_nil⟩

theorem holds_conditions (h : List.Forall₂ Field.SameLines c.fields d.fields) :
    (Likeness.list (.text false)).Holds sameLines
      (Value.texts ((Plan.ofCollection c).typeChecks.map TypeCheck.scriptCondition))
      (Value.texts ((Plan.ofCollection d).typeChecks.map TypeCheck.scriptCondition)) := by
  have inline_condition {f : Field} (hf : Inline f.name) :
      Inline (TypeCheck.ofField f).scriptCondition :=
    Kind.inline_condition _ (inline_append (inline_ofList rfl) hf)
  refine holds_inlines ?_
  unfold Plan.ofCollection
  rw [List.forall₂_map_left_iff, List.forall₂_map_right_iff]
  exact h.imp fun f g hfg => ⟨inline_condition hfg.name, inline_condition hfg.name'⟩

/-- Whatever is found among the messages for addresses that are taken stays in its line. -/
theorem inline_of_lookup_inUseMessages (hc : c.IsNormal) {i v : Value}
    (h : Expr.lookup? (Plan.ofCollection c).inUseMessages i = some v) :
    ∃ s, v = .text s ∧ Inline s := by
  have hl : Expr.elementOf? (Plan.ofCollection c).inUseMessages i = some v := by
    have hproperties : (i.text?.bind fun n => (Expr.properties (Plan.ofCollection c).inUseMessages).lookup n)
        = none := by
      cases i.text? <;> rfl
    unfold Expr.lookup? at h
    rw [hproperties] at h
    cases he : Expr.elementOf? (Plan.ofCollection c).inUseMessages i with
    | none =>
      rw [he] at h
      cases h
    | some w =>
      rw [he] at h
      exact h
  change (if i.isKey then Value.lookup (Value.mapping _) i else none) = some v at hl
  split at hl
  next =>
    obtain ⟨e, he, rfl⟩ := Value.exists_mem_of_lookup_mapping hl
    obtain ⟨f, hf, rfl⟩ := List.mem_map.1 he
    exact ⟨_, rfl, inline_inUseMessage (inline_emailFields hc f hf)⟩
  next => cases hl

theorem sameLines_validatorFile (hc : c.IsNormal) (hd : d.IsNormal) (h : c.SameShape o o' d) :
    SameLines (validatorFile c o) (validatorFile d o') := by
  have hfields := h.sameLines hc hd
  have hmessages : (Likeness.keyed (.text false)).Holds sameLines (Plan.ofCollection c).inUseMessages
      (Plan.ofCollection d).inUseMessages := by
    rw [Likeness.Holds]
    intro i j x y hx hy
    obtain ⟨s, rfl, hs⟩ := inline_of_lookup_inUseMessages hc hx
    obtain ⟨t, rfl, ht⟩ := inline_of_lookup_inUseMessages hd hy
    exact holds_inline hs ht
  have huses : Likeness.truth.Holds sameLines (.bool (!(Plan.ofCollection c).emailFields.isEmpty))
      (.bool (!(Plan.ofCollection d).emailFields.isEmpty)) := by
    refine Likeness.holds_bool ?_
    show (!((c.fieldsOf [.email]).map Field.name).isEmpty) = !((d.fieldsOf [.email]).map Field.name).isEmpty
    rw [List.isEmpty_map, List.isEmpty_map, isEmpty_of_forall₂ (forall₂_emailFields hfields)]
  have hpattern : Inline emailPattern := inline_ofList rfl
  refine sameLines_ofTemplate (Γ := [("names", CollectionNames.likeness), ("plan", planLikeness),
    ("conditions", .list (.text false)), ("email_pattern", .text false), ("uses_email_pattern", .truth),
    ("email_in_use", .keyed (.text false))]) (by decide) ?_
  exact ((((((Likenesses.hold_nil _ _ _).value hmessages).value huses).value
    (holds_inline hpattern hpattern)).value (holds_conditions hfields)).value (holds_plan hfields)).value
    (CollectionNames.holds_likeness hc hd o o')

end Validation

/-! ## Views of collections -/

namespace Form

/-- How two fields of forms are alike. -/
def fieldLikeness : Likeness := .record [
  ("name", .text false), ("label", .text false), ("model_key", .text false), ("initial", .text false),
  ("load_expression", .text false), ("parse_error", .text true), ("decode_js", .shown),
  ("widget", .text false)]

variable {f g : Field}

theorem isEmpty_parseError (h : f.kind = g.kind) :
    (FormField.mk f).parseError.isEmpty = (FormField.mk g).parseError.isEmpty := by
  unfold FormField.parseError Widget.parseError FormField.shape FormField.kind
  dsimp only
  rw [← h]
  cases hu : f.kind.widget.unreadable with
  | none => rfl
  | some rest =>
    have hrest : rest.isEmpty = false := by
      cases hk : f.kind <;> rw [hk] at hu <;> cases hu
      decide
    dsimp only
    rw [Text.isEmpty_append_of_right _ hrest, Text.isEmpty_append_of_right _ hrest]

theorem decoder?_eq (h : f.kind = g.kind) : (FormField.mk f).decoder? = (FormField.mk g).decoder? := by
  unfold FormField.decoder? FormField.isTextual FormField.shape FormField.kind
  dsimp only
  rw [h]

theorem encoder?_eq (h : f.kind = g.kind) : (FormField.mk f).encoder? = (FormField.mk g).encoder? := by
  unfold FormField.encoder? FormField.kind
  dsimp only
  rw [h]

theorem isEmpty_fallbackNote (f : FormField) : f.fallbackNote.isEmpty = !f.field.isFallback := by
  unfold FormField.fallbackNote
  cases f.field.isFallback with
  | false => rfl
  | true =>
    rw [if_pos rfl]
    exact Text.isEmpty_append_of_right _ (by decide)

/-- Fields of the same shape have widgets with as many lines. -/
theorem length_widgetLines (h : f.SameShape g) :
    (FormField.mk f).widgetLines.length = (FormField.mk g).widgetLines.length := by
  have hshape : (FormField.mk f).shape = (FormField.mk g).shape := congrArg Kind.widget h.kind
  have helement : (FormField.mk f).elementLines.length = (FormField.mk g).elementLines.length := by
    unfold FormField.elementLines
    rw [hshape]
    split <;> rfl
  have hremark {s t : String} (style : String) (he : s.isEmpty = t.isEmpty) :
      (FormField.remarkLines style s).length = (FormField.remarkLines style t).length := by
    unfold FormField.remarkLines
    rw [he]
    split <;> rfl
  have hnote : (FormField.mk f).fallbackNote.isEmpty = (FormField.mk g).fallbackNote.isEmpty := by
    rw [isEmpty_fallbackNote, isEmpty_fallbackNote, h.isFallback]
  unfold FormField.widgetLines
  rw [hshape]
  simp only [List.length_append, helement, hremark "field-note" hnote, List.length_cons]

theorem sameLines_widget (h : f.SameLines g) :
    Text.lineFeeds (FormField.mk f).widget = Text.lineFeeds (FormField.mk g).widget := by
  have inline_lines {f : Field} (hn : Inline f.name) (hd : Inline f.declared) :
      ∀ l ∈ (FormField.mk f).widgetLines.map fun line => FormField.margin ++ line, Inline l := by
    intro l hl
    obtain ⟨line, hline, rfl⟩ := List.mem_map.1 hl
    exact inline_append (inline_ofList rfl)
      (FormField.inline_widgetLines hn (inline_label fun _ => hn) hd line hline)
  refine Text.lineFeeds_intercalate_eq (inline_lines h.name h.declared)
    (inline_lines h.name' h.declared') ?_
  rw [List.length_map, List.length_map, length_widgetLines h.shape]

theorem holds_fieldValue (h : f.SameLines g) :
    fieldLikeness.Holds sameLines (fieldValue ⟨f⟩) (fieldValue ⟨g⟩) := by
  have hdecoder : Likeness.shown.Holds sameLines (optional (FormField.mk f).decoder?)
      (optional (FormField.mk g).decoder?) := by
    rw [decoder?_eq h.shape.kind]
    exact Likeness.holds_shown _
  have hparse := Likeness.holds_tested
    (sameLines_of_inline (FormField.inline_parseError (f := ⟨f⟩) h.name)
      (FormField.inline_parseError (f := ⟨g⟩) h.name')) (isEmpty_parseError h.shape.kind)
  refine holds_parts rfl ?_
  refine List.forall_mem_cons.2 ⟨⟨_, _, rfl, rfl, holds_inline h.name h.name'⟩, ?_⟩
  refine List.forall_mem_cons.2 ⟨⟨_, _, rfl, rfl, holds_inline (inline_label fun _ => h.name)
    (inline_label fun _ => h.name')⟩, ?_⟩
  refine List.forall_mem_cons.2 ⟨⟨_, _, rfl, rfl, holds_inline (FormField.inline_modelKey h.name)
    (FormField.inline_modelKey h.name')⟩, ?_⟩
  refine List.forall_mem_cons.2 ⟨⟨_, _, rfl, rfl, holds_inline (FormField.inline_initial _)
    (FormField.inline_initial _)⟩, ?_⟩
  refine List.forall_mem_cons.2 ⟨⟨_, _, rfl, rfl, holds_inline (FormField.inline_loadExpression h.name)
    (FormField.inline_loadExpression h.name')⟩, ?_⟩
  refine List.forall_mem_cons.2 ⟨⟨_, _, rfl, rfl, hparse⟩, ?_⟩
  refine List.forall_mem_cons.2 ⟨⟨_, _, rfl, rfl, hdecoder⟩, ?_⟩
  exact List.forall_mem_cons.2 ⟨⟨_, _, rfl, rfl, Likeness.holds_text (sameLines_widget h)⟩,
    fun p hp => absurd hp List.not_mem_nil⟩

/-! ### Imports -/

theorem createImports_eq (h : List.Forall₂ Field.SameShape c.fields d.fields) :
    createImports c.formFields = createImports d.formFields := by
  unfold createImports Collection.formFields
  rw [List.flatMap_map, List.flatMap_map]
  refine congrArg Text.distinct (flatMap_eq_of_forall₂ h fun f g hfg => ?_)
  unfold FormField.createCodecs
  rw [decoder?_eq hfg.kind]

theorem editImports_eq (h : List.Forall₂ Field.SameShape c.fields d.fields) :
    editImports c.formFields = editImports d.formFields := by
  unfold editImports Collection.formFields
  rw [List.flatMap_map, List.flatMap_map]
  refine congrArg Text.distinct (flatMap_eq_of_forall₂ h fun f g hfg => ?_)
  unfold FormField.editCodecs
  rw [decoder?_eq hfg.kind, encoder?_eq hfg.kind]

theorem needsCodecs_eq {all all' : List Collection}
    (h : List.Forall₂ (Collection.SameShape o o') all all') : needsCodecs all = needsCodecs all' := by
  unfold needsCodecs
  induction h with
  | nil => rfl
  | cons hcd _ ih => rw [List.any_cons, List.any_cons, editImports_eq hcd.fields, ih]

theorem holds_codecs {codecs : List String} (h : ∀ s ∈ codecs, Inline s) :
    (Likeness.list (.text false)).Holds sameLines (Value.texts codecs) (Value.texts codecs) :=
  Likeness.holds_list (List.forall₂_same.2 fun s hs => holds_inline (h s hs) (h s hs))

/-! ### Files -/

/-- How the values of both views of two collections are alike, those that a view has for itself at the
end. -/
def likenesses (more : Likenesses) : Likenesses := [
  ("names", CollectionNames.likeness), ("store", StoreNames.likeness), ("fields", .list fieldLikeness),
  ("codecs_import", .text false), ("title", .text false)] ++ more

theorem hold_values (hc : c.IsNormal) (hd : d.IsNormal) (h : c.SameShape o o' d) {more : Likenesses}
    {vs vs' : List (String × Value)}
    (hm : more.Hold sameLines (Scope.ofValues vs) (Scope.ofValues vs')) :
    (likenesses more).Hold sameLines (Scope.ofValues (values c o ++ vs))
      (Scope.ofValues (values d o' ++ vs')) := by
  have hfields : (Likeness.list fieldLikeness).Holds sameLines (.list (c.formFields.map fieldValue))
      (.list (d.formFields.map fieldValue)) := by
    unfold Collection.formFields
    rw [List.map_map, List.map_map]
    exact Likeness.holds_list ((h.sameLines hc hd).imp fun f g hfg => holds_fieldValue hfg)
  have inline_title {c : Collection} (hc : c.IsNormal) : Inline (Name.label c.name) :=
    inline_label fun hw => absurd hw hc.words_ne_nil
  have himport : Inline codecsImport := inline_ofList rfl
  exact ((((hm.value (holds_inline (inline_title hc) (inline_title hd))).value
    (holds_inline himport himport)).value hfields).value (StoreNames.holds_likeness o o')).value
    (CollectionNames.holds_likeness hc hd o o')

theorem sameLines_createFile (hc : c.IsNormal) (hd : d.IsNormal) (h : c.SameShape o o' d) :
    SameLines (createFile c o) (createFile d o') := by
  have hcodecs : ∀ s ∈ createImports c.formFields, Inline s := fun s hs =>
    inline_of_isName (isName_of_mem_codecNames
      (mem_codecNames_of_editImports (mem_editImports_of_createImports hs)))
  refine sameLines_ofTemplate (Γ := likenesses [("codecs", .list (.text false))]) (by decide) ?_
  rw [← createImports_eq h.fields]
  exact hold_values hc hd h ((Likenesses.hold_nil _ _ _).value (holds_codecs hcodecs))

theorem sameLines_editFile (hc : c.IsNormal) (hd : d.IsNormal) (h : c.SameShape o o' d) :
    SameLines (editFile c o) (editFile d o') := by
  have hcodecs : ∀ s ∈ editImports c.formFields, Inline s := fun s hs =>
    inline_of_isName (isName_of_mem_codecNames (mem_codecNames_of_editImports hs))
  refine sameLines_ofTemplate (Γ := likenesses [("codecs", .list (.text false)),
    ("redirect_delay", .shown)]) (by decide) ?_
  rw [← editImports_eq h.fields]
  exact hold_values hc hd h (((Likenesses.hold_nil _ _ _).value (Likeness.holds_shown _)).value
    (holds_codecs hcodecs))

end Form

/-! ## Routing -/

/-- Routes whose texts have as many lines. -/
def Route.SameLines (r s : Route) : Prop :=
  Text.lineFeeds ("\n".intercalate r.lines) = Text.lineFeeds ("\n".intercalate s.lines)

theorem Route.SameLines.refl (r : Route) : r.SameLines r := rfl

namespace RouteTable

theorem authRoutes_eq (ho : o.SameShape o') : o.authRoutes = o'.authRoutes := by
  unfold Options.authRoutes
  rw [ho.auth, ho.authViews]

theorem userRemarks_eq (ho : o.SameShape o') : userRemarks o = userRemarks o' := by
  unfold userRemarks
  rw [authRoutes_eq ho]

/-- The routes to views besides those of collections depend on no text. -/
theorem viewRoutes_eq (ho : o.SameShape o') : viewRoutes o = viewRoutes o' := by
  have haudience (a : Audience) : audienceRemarks o a = audienceRemarks o' a := by
    cases a with
    | everyone => rfl
    | visitors => rfl
    | users => exact userRemarks_eq ho
  have hadmin : adminRemarks o = adminRemarks o' := by
    unfold adminRemarks
    rw [userRemarks_eq ho, ho.hasRoles]
  have hstart : startRoute o = startRoute o' := by
    unfold startRoute
    rw [ho.landing, userRemarks_eq ho]
  unfold viewRoutes
  dsimp only
  rw [hstart, authRoutes_eq ho, ho.admin, hadmin]
  simp only [haudience]

/-- A part that is not empty has one line. -/
theorem length_partLine {margin before after s : String} (h : s.isEmpty = false) :
    (Route.partLine margin before (some s) after).length = 1 := by
  unfold Route.partLine
  dsimp only
  rw [h]
  rfl

theorem length_lines {path name view : String} {passesParts : Bool} {remarks : List (String × Value)}
    (hn : name.isEmpty = false) (hv : view.isEmpty = false) :
    (Route.lines ⟨path, some name, some view, none, passesParts, remarks⟩).length
      = 5 + (if passesParts then 1 else 0) + (if remarks.isEmpty then 0 else 1) := by
  unfold Route.lines Route.flagLine
  simp only [List.length_append, length_partLine hn, length_partLine hv, List.isEmpty_map]
  cases passesParts <;> cases remarks <;> rfl

theorem forall₂_collectionRoutes (ho : o.SameShape o') (hc : c.IsNormal) (hd : d.IsNormal) :
    List.Forall₂ Route.SameLines (collectionRoutes o c) (collectionRoutes o' d) := by
  have inline_lines {r : Route} (hr : r.IsPlain) : ∀ l ∈ r.lines, Inline l := by
    intro l hl
    obtain ⟨cs, hcs, hn⟩ := hr.isIndented_lines l hl
    unfold Inline
    rw [hcs, List.mem_cons, not_or]
    exact ⟨by decide, hn⟩
  have name_ne (n : CollectionNames) : n.createRouteName.isEmpty = false
      ∧ n.createViewImport.isEmpty = false ∧ n.editRouteName.isEmpty = false
      ∧ n.editViewImport.isEmpty = false :=
    ⟨Text.isEmpty_append_of_right _ (by decide), Text.isEmpty_append_of_right _ (by decide),
      Text.isEmpty_append_of_right _ (by decide), Text.isEmpty_append_of_right _ (by decide)⟩
  have hplain := isPlain_collectionRoutes hc o
  have hplain' := isPlain_collectionRoutes hd o'
  unfold collectionRoutes at hplain hplain' ⊢
  dsimp only at hplain hplain' ⊢
  rw [userRemarks_eq ho] at hplain ⊢
  rw [List.forall_mem_cons, List.forall_mem_singleton] at hplain hplain'
  obtain ⟨hcn, hcv, hen, hev⟩ := name_ne (CollectionNames.ofCollection c o)
  obtain ⟨hcn', hcv', hen', hev'⟩ := name_ne (CollectionNames.ofCollection d o')
  refine .cons ?_ (.cons ?_ .nil)
  · refine Text.lineFeeds_intercalate_eq (inline_lines hplain.1) (inline_lines hplain'.1) ?_
    rw [length_lines hcn hcv, length_lines hcn' hcv']
  · refine Text.lineFeeds_intercalate_eq (inline_lines hplain.2) (inline_lines hplain'.2) ?_
    rw [length_lines hen hev, length_lines hen' hev']

variable {all all' : List Collection}

theorem forall₂_routes (ho : o.SameShape o') (hall : ∀ c ∈ all, c.IsNormal)
    (hall' : ∀ c ∈ all', c.IsNormal) (h : List.Forall₂ (Collection.SameShape o o') all all') :
    List.Forall₂ Route.SameLines (assemble all o).routes (assemble all' o').routes := by
  unfold assemble
  dsimp only
  rw [viewRoutes_eq ho]
  refine List.rel_append (List.rel_append (List.forall₂_same.2 fun r _ => .refl r) ?_)
    (.cons (.refl _) .nil)
  refine List.rel_flatMap (forall₂_mem h) fun c d ⟨hc, hd, _⟩ => ?_
  exact forall₂_collectionRoutes ho (hall c hc) (hall' d hd)

end RouteTable

namespace Routing

open RouteTable

variable {all all' : List Collection}

theorem sameLines_routerFile (ho : o.SameShape o') (hall : ∀ c ∈ all, c.IsNormal)
    (hall' : ∀ c ∈ all', c.IsNormal) (h : List.Forall₂ (Collection.SameShape o o') all all') :
    SameLines (routerFile (RouteTable.assemble all o) o) (routerFile (RouteTable.assemble all' o') o') := by
  have hroutes := Likeness.holds_list (R := sameLines) (l := .text false)
    (f := fun r : Route => .text ("\n".intercalate r.lines))
    (g := fun r : Route => .text ("\n".intercalate r.lines))
    ((forall₂_routes ho hall hall' h).imp fun r s hrs => Likeness.holds_text hrs)
  rw [routerFile_eq (isPlain_assemble hall o), routerFile_eq (isPlain_assemble hall' o')]
  refine sameLines_ofTemplate (Γ := [("routes", .list (.text false)), ("auth_guard", .truth),
    ("role_guard", .truth)]) (by decide) ?_
  exact (((Likenesses.hold_nil _ _ _).value (Likeness.holds_bool ho.hasRoles)).value
    (Likeness.holds_bool ho.auth)).value hroutes

theorem sameLines_authGuardFile (ho : o.SameShape o') :
    SameLines (authGuardFile (RouteTable.assemble all o) o)
      (authGuardFile (RouteTable.assemble all' o') o') := by
  have hlogin : (RouteTable.assemble all o).login? = (RouteTable.assemble all' o').login? := by
    unfold RouteTable.login? RouteTable.assemble
    dsimp only
    rw [authRoutes_eq ho]
  refine sameLines_ofTemplate (Γ := [("store", StoreNames.likeness), ("login_path", .literal)])
    (by decide) ?_
  rw [hlogin]
  exact ((Likenesses.hold_nil _ _ _).value (Likeness.holds_literal _)).value
    (StoreNames.holds_likeness o o')

theorem sameLines_roleGuardFile (ho : o.SameShape o') :
    SameLines (roleGuardFile (RouteTable.assemble all o) o)
      (roleGuardFile (RouteTable.assemble all' o') o') := by
  have hdenied : (RouteTable.assemble all o).deniedPath
      = (RouteTable.assemble all' o').deniedPath := by
    unfold RouteTable.assemble
    dsimp only
    rw [authRoutes_eq ho]
  refine sameLines_ofTemplate (Γ := [("store", StoreNames.likeness), ("denied_path", .literal)])
    (by decide) ?_
  rw [hdenied]
  exact ((Likenesses.hold_nil _ _ _).value (Likeness.holds_literal _)).value
    (StoreNames.holds_likeness o o')

/-- The files of the stage of routing, file by file. -/
theorem forall₂_tableFiles (ho : o.SameShape o') (hall : ∀ c ∈ all, c.IsNormal)
    (hall' : ∀ c ∈ all', c.IsNormal) (h : List.Forall₂ (Collection.SameShape o o') all all') :
    List.Forall₂ SameLines (tableFiles (RouteTable.assemble all o) o)
      (tableFiles (RouteTable.assemble all' o') o') := by
  have hviews : (RouteTable.assemble all o).placeholders = (RouteTable.assemble all' o').placeholders := by
    unfold RouteTable.assemble
    dsimp only
    rw [viewRoutes_eq ho]
  unfold tableFiles
  rw [ho.auth, ho.hasRoles, hviews]
  refine List.rel_append (List.rel_append (List.rel_append (.cons ?_ .nil) ?_) ?_) ?_
  · exact sameLines_routerFile ho hall hall' h
  · exact forall₂_if (sameLines_authGuardFile ho)
  · exact forall₂_if (sameLines_roleGuardFile ho)
  · exact List.forall₂_same.2 fun a _ => Artifact.SameLines.refl a

end Routing

end

end Scaffold
