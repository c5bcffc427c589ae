import Scaffold.Proofs.Collection.Normal
import Scaffold.Proofs.Script.Statement
import Scaffold.Proofs.Template.Declared

/-!
# Names in templates

The names of the store and of a collection as templates see them: every one is there and stays in its
line, and those that modules import from each other can be names in a script.
-/

namespace Scaffold

open Script (IsName)

/-! ## Records of texts -/

/-- The text under a key that comes up once. -/
theorem lookup_eq_some_of_mem {α : Type} {l : List (String × α)} (hn : (l.map Prod.fst).Nodup)
    {n : String} {a : α} (h : (n, a) ∈ l) : l.lookup n = some a := by
  induction l with
  | nil => exact absurd h List.not_mem_nil
  | cons e rest ih =>
    obtain ⟨m, b⟩ := e
    rw [List.map_cons, List.nodup_cons] at hn
    rcases List.mem_cons.1 h with h | h
    · cases h
      exact List.lookup_cons_self
    · have hne : (n == m) = false := by
        rw [beq_eq_false_iff_ne]
        intro he
        exact hn.1 (List.mem_map.2 ⟨(n, a), h, he⟩)
      rw [List.lookup_cons, hne]
      exact ih hn.2 h

namespace Shape

/-- A record has a shape if each part has. -/
theorem fits_record {shapes : List (String × Shape)} {parts : List (String × Value)}
    (h : ∀ p ∈ shapes, ∃ v, parts.lookup p.1 = some v ∧ p.2.Fits v) :
    (Shape.record shapes).Fits (Value.record parts) := by
  rw [Shape.Fits]
  induction shapes with
  | nil =>
    rw [Shape.PartsFit]
    trivial
  | cons p rest ih =>
    obtain ⟨v, hl, hv⟩ := h p List.mem_cons_self
    rw [Shape.PartsFit]
    exact ⟨⟨v, Expr.partOf_record hl, hv⟩, ih fun q hq => h q (List.mem_cons_of_mem p hq)⟩

/-- A list has a shape if each item has. -/
theorem fits_list {α : Type} {items : List α} {f : α → Value} {item : Shape}
    (h : ∀ x ∈ items, item.Fits (f x)) :
    (Shape.list items.length item).Fits (.list (items.map f)) := by
  rw [Shape.Fits]
  refine ⟨_, rfl, List.length_map _, fun w hw => ?_⟩
  obtain ⟨x, hx, rfl⟩ := List.mem_map.1 hw
  exact h x hx

/-- The shape of a record of these texts. -/
def exactParts (entries : List (String × String)) : List (String × Shape) :=
  entries.map fun e => (e.1, .exact e.2)

/-- The shape of a record of texts with these keys. -/
def lineParts (keys : List String) : List (String × Shape) := keys.map fun n => (n, .line)

variable {entries : List (String × String)}

theorem lookup_texts (hn : (entries.map Prod.fst).Nodup) {e : String × String} (h : e ∈ entries) :
    (entries.map fun e => (e.1, Value.text e.2)).lookup e.1 = some (.text e.2) := by
  apply lookup_eq_some_of_mem
  · rw [List.map_map]
    exact hn
  · exact List.mem_map_of_mem h

theorem fits_exactParts (hn : (entries.map Prod.fst).Nodup) (hl : ∀ e ∈ entries, Inline e.2) :
    (Shape.record (exactParts entries)).Fits
      (Value.record (entries.map fun e => (e.1, .text e.2))) := by
  apply fits_record
  intro p hp
  obtain ⟨e, he, rfl⟩ := List.mem_map.1 hp
  refine ⟨_, lookup_texts hn he, ?_⟩
  rw [Shape.Fits]
  exact ⟨rfl, hl e he⟩

theorem fits_lineParts (hn : (entries.map Prod.fst).Nodup) (hl : ∀ e ∈ entries, Inline e.2) :
    (Shape.record (lineParts (entries.map Prod.fst))).Fits
      (Value.record (entries.map fun e => (e.1, .text e.2))) := by
  apply fits_record
  intro p hp
  obtain ⟨n, hn', rfl⟩ := List.mem_map.1 hp
  obtain ⟨e, he, rfl⟩ := List.mem_map.1 hn'
  refine ⟨_, lookup_texts hn he, ?_⟩
  rw [Shape.Fits]
  exact ⟨_, rfl, hl e he⟩

end Shape

/-! ## Names that are words -/

theorem inline_of_isWord {s : String} (h : Name.IsWord s.toList) : Inline s :=
  h.not_mem (by decide)

theorem isIdentifierChar_of_isWordAscii {c : Char} (h : Text.isWordAscii c = true) :
    Intake.isIdentifierChar c = true := by
  unfold Text.isWordAscii at h
  unfold Intake.isIdentifierChar Intake.isIdentifierStart
  rw [Bool.or_eq_true, Bool.or_eq_true] at h
  rcases h with (h | h) | h
  · rw [h]
    rfl
  · rw [h, Bool.or_true]
    rfl
  · rw [h, Bool.or_true]

theorem isName_ofList {cs : List Char} (h : (!cs.isEmpty && cs.all Text.isWordAscii) = true) :
    IsName (String.ofList cs).toList := by
  rw [Bool.and_eq_true, Bool.not_eq_true', List.isEmpty_eq_false_iff, List.all_eq_true] at h
  rw [String.toList_ofList]
  exact ⟨h.1, fun c hc => isIdentifierChar_of_isWordAscii (h.2 c hc)⟩

/-- A name with a word after it is a name. -/
theorem isName_append {s t : String} (hs : IsName s.toList) (ht : Name.IsWord t.toList) :
    IsName (s ++ t).toList := by
  rw [String.toList_append]
  refine ⟨fun e => hs.1 (List.append_eq_nil_iff.1 e).1, fun c hm => ?_⟩
  rcases List.mem_append.1 hm with hm | hm
  · exact hs.2 c hm
  · exact isIdentifierChar_of_isWordAscii (ht c hm)

theorem isWord_ofList {cs : List Char} (h : cs.all Text.isWordAscii = true) :
    Name.IsWord (String.ofList cs).toList := by
  rw [String.toList_ofList]
  exact List.all_eq_true.1 h

/-- An identifier can be a name. -/
theorem isName_of_isIdentifier {s : String} (h : Intake.isIdentifier s = true) : IsName s.toList := by
  unfold Intake.isIdentifier at h
  split at h
  · cases h
  next c rest hs =>
    rw [Bool.and_eq_true, List.all_eq_true] at h
    rw [hs]
    refine ⟨List.cons_ne_nil _ _, fun d hd => ?_⟩
    rcases List.mem_cons.1 hd with rfl | hd
    · rw [Intake.isIdentifierChar, h.1, Bool.true_or]
    · exact h.2 d hd

theorem inline_of_isName {s : String} (h : IsName s.toList) : Inline s := h.not_mem (by decide)

/-- A character that no tag of a type has. -/
theorem not_mem_of_isTypeTag {s : String} (h : Intake.isTypeTag s = true) {d : Char}
    (hf : Text.isLowerAscii d = false) (hd : Intake.isTagChar d = false) : d ∉ s.toList := by
  unfold Intake.isTypeTag at h
  split at h
  · cases h
  next c rest hs =>
    rw [Bool.and_eq_true, List.all_eq_true] at h
    rw [hs]
    intro hm
    rcases List.mem_cons.1 hm with rfl | hm
    · exact Bool.false_ne_true (hf.symm.trans h.1)
    · exact Bool.false_ne_true (hd.symm.trans (h.2 _ hm))

theorem inline_of_isTypeTag {s : String} (h : Intake.isTypeTag s = true) : Inline s :=
  not_mem_of_isTypeTag h rfl rfl

/-! ## Sources in quotes -/

/-- A text that can stand in quotes as it is. -/
def IsUnquoted (s : String) : Prop := ∀ c ∈ s.toList, Script.isQuote c = false

theorem isUnquoted_ofList {cs : List Char} (h : cs.any Script.isQuote = false) :
    IsUnquoted (String.ofList cs) := by
  intro c hm
  rw [String.toList_ofList] at hm
  rw [List.any_eq_false] at h
  exact Bool.not_eq_true _ ▸ h c hm

theorem isUnquoted_append {s t : String} (hs : IsUnquoted s) (ht : IsUnquoted t) :
    IsUnquoted (s ++ t) := by
  intro c hm
  rw [String.toList_append] at hm
  rcases List.mem_append.1 hm with hm | hm
  · exact hs c hm
  · exact ht c hm

theorem isUnquoted_of_isWord {s : String} (h : Name.IsWord s.toList) : IsUnquoted s := by
  intro c hm
  unfold Script.isQuote
  rw [Bool.or_eq_false_iff, beq_eq_false_iff_ne, beq_eq_false_iff_ne]
  exact ⟨Text.ne_of_isWordAscii (h c hm) (by decide), Text.ne_of_isWordAscii (h c hm) (by decide)⟩

/-! ## Entries -/

/-- Entries whose texts stay in their line. -/
inductive AllInline : List (String × String) → Prop where
  | nil : AllInline []
  | cons {n s : String} {rest : List (String × String)} (h : Inline s) (hr : AllInline rest) :
    AllInline ((n, s) :: rest)

theorem AllInline.forall_mem {entries : List (String × String)} (h : AllInline entries) :
    ∀ e ∈ entries, Inline e.2 := by
  induction h with
  | nil => exact fun e he => absurd he List.not_mem_nil
  | cons h hr ih =>
    intro e he
    rcases List.mem_cons.1 he with rfl | he
    · exact h
    · exact ih e he

/-! ## The store -/

namespace StoreNames

theorem nodup_keys (s : StoreNames) : (s.entries.map Prod.fst).Nodup := by
  apply Text.Spells.nodup
  · repeat constructor
  · decide

variable (o : Options)

theorem inline_storeName : Inline (ofOptions o).storeName :=
  inline_of_isWord (Name.isWord_storeName o)

theorem inline_hook : Inline (ofOptions o).hook :=
  inline_append (inline_ofList rfl) (inline_of_isWord (Name.isWord_pascal _))

/-- The function that gives access to the store can be a name. -/
theorem isName_hook : IsName (ofOptions o).hook.toList :=
  isName_append (isName_ofList rfl) (Name.isWord_pascal _)

theorem inline_entries : ∀ e ∈ (ofOptions o).entries, Inline e.2 := by
  have hs := inline_storeName o
  have hh := inline_hook o
  apply AllInline.forall_mem
  unfold entries indexPath supportPath activityPath importPath folder Layout.storesRoot
  repeat' constructor
  all_goals
    repeat' first
      | with_reducible exact hs
      | with_reducible exact hh
      | with_reducible apply inline_append
      | with_reducible apply inline_ofList
  all_goals rfl

/-- The store as other modules import it can stand in quotes. -/
theorem isUnquoted_importPath : IsUnquoted (ofOptions o).importPath :=
  isUnquoted_append (isUnquoted_ofList rfl) (isUnquoted_of_isWord (Name.isWord_storeName o))

/-- The names of the store have the shape of these texts. -/
theorem fits_toValue :
    (Shape.record (Shape.exactParts (ofOptions o).entries)).Fits (ofOptions o).toValue :=
  Shape.fits_exactParts (nodup_keys _) (inline_entries o)

/-- The import of the store by another module. -/
theorem declares_import {Γ : Context} {scope : Scope} (hs : Γ.Fits scope)
    (hhook : Expr.Has Γ (.path ["store", "hook"]) (.exact (ofOptions o).hook))
    (hstore : Expr.Has Γ (.path ["store", "import_path"]) (.exact (ofOptions o).importPath)) :
    Template.Declares scope
      (Template.row [.text "import \x7b ", Template.value ["store", "hook"], .text " \x7d from '",
        Template.value ["store", "import_path"], .text "';"]) true true
      [Script.Declaration.imports [(ofOptions o).hook] (ofOptions o).importPath] := by
  refine Template.declares_row 5 hs (.cons (.text rfl) (.cons (.hole hhook) (.cons (.text rfl)
    (.cons (.hole hstore) (.text rfl))))) (fun rest => ?_) (b := false) .nil
  exact Script.declarationAt_import (List.cons_ne_nil _ [])
    (fun n hn => List.mem_singleton.1 hn ▸ isName_hook o) (isUnquoted_importPath o) rest

end StoreNames

/-! ## A collection -/

namespace CollectionNames

theorem nodup_keys (n : CollectionNames) : (n.entries.map Prod.fst).Nodup := by
  apply Text.Spells.nodup
  · repeat constructor
  · decide

/-- The keys of the names do not depend on the names. -/
theorem map_fst_entries (n m : CollectionNames) :
    n.entries.map Prod.fst = m.entries.map Prod.fst := by
  simp only [entries, List.map_cons, List.map_nil]

theorem inline_entries_of_parts {n : CollectionNames} (hc : Inline n.camel) (hp : Inline n.pascal)
    (hk : Inline n.constant) (hs : Inline n.store.storeName) : ∀ e ∈ n.entries, Inline e.2 := by
  apply AllInline.forall_mem
  unfold entries actionsPath actionsImport actionsFactory validatorPath validatorImport
    validatorFunction createViewPath editViewPath createViewImport editViewImport viewsFolder
    createRoutePath editRoutePath createRouteName editRouteName bindingFunction pageState searchState
    loadingState errorState fetchAction fetchMoreAction getAction addAction updateAction deleteAction
    searchAction applyFiltersAction changeSortingAction clearSearchAction countAction
    assignRolesAction revokeRolesAction StoreNames.folder Layout.storesRoot Layout.validatorsRoot
    Layout.viewsRoot
  repeat' constructor
  all_goals
    repeat' first
      | with_reducible exact hc
      | with_reducible exact hp
      | with_reducible exact hk
      | with_reducible exact hs
      | with_reducible apply inline_append
      | with_reducible apply inline_ofList
  all_goals rfl

end CollectionNames

theorem inline_constant (name : String) : Inline (Name.constant name) := by
  unfold Inline Name.constant
  rw [String.toList_ofList]
  refine Text.not_mem_intercalate (by decide) fun word hm => ?_
  obtain ⟨w, hw, rfl⟩ := List.mem_map.1 hm
  have hword : Name.IsWord (w.map Text.upperAscii) := by
    intro c hc
    obtain ⟨d, hd, rfl⟩ := List.mem_map.1 hc
    exact Text.isWordAscii_upperAscii (Name.isWord_of_mem_words hw d hd)
  exact hword.not_mem (by decide)

namespace Collection.IsNormal

variable {c : Collection} (h : c.IsNormal) (o : Options)

include h

theorem inline_camelName : Inline c.camelName := inline_of_isWord h.isWord_camelName

theorem inline_pascalName : Inline c.pascalName := inline_of_isWord h.isWord_pascalName

theorem inline_entries : ∀ e ∈ (CollectionNames.ofCollection c o).entries, Inline e.2 :=
  CollectionNames.inline_entries_of_parts h.inline_camelName h.inline_pascalName (inline_constant _)
    (StoreNames.inline_storeName o)

/-- The names of a normal collection have the shape of these texts. -/
theorem fits_names :
    (Shape.record (Shape.exactParts (CollectionNames.ofCollection c o).entries)).Fits
      (CollectionNames.ofCollection c o).toValue :=
  Shape.fits_exactParts (CollectionNames.nodup_keys _) (h.inline_entries o)

/-- The function that makes the actions of a normal collection can be a name. -/
theorem isName_actionsFactory : IsName (CollectionNames.ofCollection c o).actionsFactory.toList :=
  isName_append (isName_append (isName_ofList rfl) h.isWord_pascalName) (isWord_ofList rfl)

/-- The function that validates a record of a normal collection can be a name. -/
theorem isName_validatorFunction :
    IsName (CollectionNames.ofCollection c o).validatorFunction.toList :=
  isName_append (isName_ofList rfl) h.isWord_pascalName

theorem isUnquoted_actionsImport : IsUnquoted (CollectionNames.ofCollection c o).actionsImport :=
  isUnquoted_append
    (isUnquoted_append (isUnquoted_ofList rfl) (isUnquoted_of_isWord h.isWord_camelName))
    (isUnquoted_ofList rfl)

theorem isUnquoted_validatorImport :
    IsUnquoted (CollectionNames.ofCollection c o).validatorImport :=
  isUnquoted_append (isUnquoted_ofList rfl)
    (isUnquoted_append (isUnquoted_ofList rfl) (isUnquoted_of_isWord h.isWord_pascalName))

/-! ### Fields -/

theorem isName_field {f : Field} (hf : f ∈ c.fields) : IsName f.name.toList :=
  isName_of_isIdentifier (h.fields_plain f hf).1

theorem inline_field {f : Field} (hf : f ∈ c.fields) : Inline f.name :=
  inline_of_isName (h.isName_field hf)

theorem inline_declared {f : Field} (hf : f ∈ c.fields) : Inline f.declared :=
  inline_of_isTypeTag (h.fields_plain f hf).2

end Collection.IsNormal

theorem Kind.inline_tag (k : Kind) : Inline k.tag := by cases k <;> exact inline_ofList rfl

end Scaffold
