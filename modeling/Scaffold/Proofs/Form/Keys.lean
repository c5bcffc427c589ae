import Mathlib.Data.List.Nodup
import Scaffold.Proofs.Collection.Invariants
import Scaffold.Proofs.Form.Slots

/-!
# Keys of form fields

Fields have different names, but a field that is edited as text has a key of its own beside its name. The
keys of a collection are different unless a field has the name that is such a key: then the form has one slot
for two fields.
-/

namespace Scaffold

open Script (FormSlot)

/-- A field that is edited as it is has the name under which the text of another field is edited. -/
def Field.TakesSlotOf (f g : Field) : Prop :=
  (f.kind ≠ .list ∧ f.kind ≠ .object)
    ∧ (g.kind = .list ∧ f.name = g.name ++ "Text" ∨ g.kind = .object ∧ f.name = g.name ++ "Json")

instance (f g : Field) : Decidable (f.TakesSlotOf g) := inferInstanceAs (Decidable (_ ∧ _))

/-! ## The key of a field -/

namespace FormField

variable {f g : Field}

theorem modelKey_of_list (h : f.kind = .list) : (FormField.mk f).modelKey = f.name ++ "Text" := by
  unfold modelKey shape kind
  rw [h]
  rfl

theorem modelKey_of_object (h : f.kind = .object) : (FormField.mk f).modelKey = f.name ++ "Json" := by
  unfold modelKey shape kind
  rw [h]
  rfl

theorem modelKey_of_ne (h : f.kind ≠ .list ∧ f.kind ≠ .object) : (FormField.mk f).modelKey = f.name := by
  have hsuffix : f.kind.widget.textSuffix = "" := by
    cases hk : f.kind with
    | list => exact absurd hk h.1
    | object => exact absurd hk h.2
    | _ => rfl
  show f.name ++ f.kind.widget.textSuffix = f.name
  rw [hsuffix, String.append_empty]

theorem modelKey_eq_of_takesSlotOf (h : f.TakesSlotOf g) :
    (FormField.mk f).modelKey = (FormField.mk g).modelKey := by
  obtain ⟨hf, ⟨hg, hname⟩ | ⟨hg, hname⟩⟩ := h
  · rw [modelKey_of_ne hf, modelKey_of_list hg, hname]
  · rw [modelKey_of_ne hf, modelKey_of_object hg, hname]

/-- Texts with these endings end in different letters. -/
theorem append_text_ne_append_json (s t : String) : s ++ "Text" ≠ t ++ "Json" := by
  intro e
  have hlast := congrArg (fun s : String => s.toList.getLast?) e
  simp [String.toList_append] at hlast

/-- Fields with one key have one name, or one takes the slot of the other. -/
theorem eq_or_takesSlotOf (h : (FormField.mk f).modelKey = (FormField.mk g).modelKey) :
    f.name = g.name ∨ f.TakesSlotOf g ∨ g.TakesSlotOf f := by
  have kinds (k : Kind) : k = .list ∨ k = .object ∨ k ≠ .list ∧ k ≠ .object := by
    cases k <;> decide
  -- lists and objects put an ending to the name, all other kinds none; the endings are no endings of each other
  rcases kinds f.kind with hf | hf | hf <;> rcases kinds g.kind with hg | hg | hg
  case inl.inl =>
    rw [modelKey_of_list hf, modelKey_of_list hg] at h
    exact .inl ((String.append_left_inj _).1 h)
  case inl.inr.inl =>
    rw [modelKey_of_list hf, modelKey_of_object hg] at h
    exact absurd h (append_text_ne_append_json _ _)
  case inl.inr.inr =>
    rw [modelKey_of_list hf, modelKey_of_ne hg] at h
    exact .inr (.inr ⟨hg, .inl ⟨hf, h.symm⟩⟩)
  case inr.inl.inl =>
    rw [modelKey_of_object hf, modelKey_of_list hg] at h
    exact absurd h.symm (append_text_ne_append_json _ _)
  case inr.inl.inr.inl =>
    rw [modelKey_of_object hf, modelKey_of_object hg] at h
    exact .inl ((String.append_left_inj _).1 h)
  case inr.inl.inr.inr =>
    rw [modelKey_of_object hf, modelKey_of_ne hg] at h
    exact .inr (.inr ⟨hg, .inr ⟨hf, h.symm⟩⟩)
  case inr.inr.inl =>
    rw [modelKey_of_ne hf, modelKey_of_list hg] at h
    exact .inr (.inl ⟨hf, .inl ⟨hg, h⟩⟩)
  case inr.inr.inr.inl =>
    rw [modelKey_of_ne hf, modelKey_of_object hg] at h
    exact .inr (.inl ⟨hf, .inr ⟨hg, h⟩⟩)
  case inr.inr.inr.inr =>
    rw [modelKey_of_ne hf, modelKey_of_ne hg] at h
    exact .inl h

end FormField

/-! ## The keys of a collection -/

/-- The keys of the fields of a collection are different unless a field takes the slot of another. -/
theorem Collection.IsAccepted.nodup_modelKeys_iff {c : Collection} (h : c.IsAccepted) :
    (c.formFields.map FormField.modelKey).Nodup ↔ ∀ f ∈ c.fields, ∀ g ∈ c.fields, ¬ f.TakesSlotOf g := by
  have hfields : c.fields.Nodup := List.Nodup.of_map Field.name h.fieldNames_nodup
  rw [Collection.formFields, List.map_map]
  constructor
  · intro hkeys f hf g hg htakes
    have hsame : f = g :=
      List.inj_on_of_nodup_map hkeys hf hg (FormField.modelKey_eq_of_takesSlotOf htakes)
    subst hsame
    exact htakes.2.elim (fun h => htakes.1.1 h.1) fun h => htakes.1.2 h.1
  · refine fun hfree => List.Nodup.map_on (fun f hf g hg hkey => ?_) hfields
    rcases FormField.eq_or_takesSlotOf hkey with hname | htakes | htakes
    · exact List.inj_on_of_nodup_map h.fieldNames_nodup hf hg hname
    · exact absurd htakes (hfree f hf g hg)
    · exact absurd htakes (hfree g hg f hf)

namespace Form

/-- Both views keep, send and edit each field in the slot of its key, and the slots are different exactly if no
field has the name under which the text of another is edited. -/
theorem slots_are_apart_iff {identity : List String} {raw : Value} {notes : List Note}
    {all : List Collection} (hread : Intake.read identity raw = (notes, .ok all)) (o : Options) :
    ∀ c ∈ all, (∃ created edited, createFile c o = .ok created ∧ editFile c o = .ok edited
        ∧ Script.formSlots created.content = createSlots c.formFields
        ∧ Script.formSlots edited.content = editSlots c.formFields)
      ∧ ((c.formFields.map FormField.modelKey).Nodup
        ↔ ∀ f ∈ c.fields, ∀ g ∈ c.fields, ¬ f.TakesSlotOf g) := by
  intro c hm
  have hnormal : c.IsNormal := (Intake.areNormal_of_read hread).each c hm
  have haccepted : c.IsAccepted := by
    rw [Intake.read_eq] at hread
    split at hread
    · cases hread
    · exact (Intake.isAccepted_of_readFrom (congrArg Prod.snd hread)).1 c hm
  obtain ⟨created, hcreated, hcreate⟩ := formSlots_createFile hnormal o
  obtain ⟨edited, hedited, hedit⟩ := formSlots_editFile hnormal o
  exact ⟨⟨created, edited, hcreated, hedited, hcreate, hedit⟩, haccepted.nodup_modelKeys_iff⟩

/-- Books with a list, an object and a text. -/
theorem slots_of_books :
    let books : Collection := {
      name := "book", camelName := "book", pascalName := "Book",
      fields := [⟨"title", .text, "string"⟩, ⟨"tags", .list, "array"⟩, ⟨"info", .object, "object"⟩] }
    (∃ notes, Intake.read [] (.list [Intake.declaration "book"
        [("title", "string"), ("tags", "array"), ("info", "object")]]) = (notes, .ok [books]))
      ∧ (∃ created, createFile books {} = .ok created ∧ Script.formSlots created.content = [
        .kept "title", .kept "tagsText", .kept "infoJson",
        .sent "title" "title", .sent "tags" "tagsText", .sent "info" "infoJson",
        .edited "title" "title", .edited "tags" "tagsText", .edited "info" "infoJson"])
      ∧ (books.formFields.map FormField.modelKey).Nodup := by
  intro books
  have hread : Intake.read [] (.list [Intake.declaration "book"
      [("title", "string"), ("tags", "array"), ("info", "object")]]) = (_, .ok [books]) :=
    Intake.read_eq_of_toOption (by decide +kernel)
  obtain ⟨⟨created, -, hcreated, -, hcreate, -⟩, hapart⟩ :=
    slots_are_apart_iff hread {} books List.mem_cons_self
  exact ⟨⟨_, hread⟩, ⟨created, hcreated, hcreate.trans (by decide +kernel)⟩, hapart.2 (by decide +kernel)⟩

/-- A text with the name of the slot of a list: both are edited and sent from one slot. -/
theorem slots_of_tags :
    let notes : Collection := {
      name := "note", camelName := "note", pascalName := "Note",
      fields := [⟨"tags", .list, "array"⟩, ⟨"tagsText", .text, "string"⟩] }
    (∃ remarks, Intake.read [] (.list [Intake.declaration "note" [("tags", "array"), ("tagsText", "string")]])
        = (remarks, .ok [notes]))
      ∧ (∃ created, createFile notes {} = .ok created ∧ Script.formSlots created.content = [
        .kept "tagsText", .kept "tagsText", .sent "tags" "tagsText", .sent "tagsText" "tagsText",
        .edited "tags" "tagsText", .edited "tagsText" "tagsText"])
      ∧ ¬ (notes.formFields.map FormField.modelKey).Nodup := by
  intro notes
  have hread : Intake.read [] (.list [Intake.declaration "note" [("tags", "array"), ("tagsText", "string")]])
      = (_, .ok [notes]) := Intake.read_eq_of_toOption (by decide +kernel)
  have hnormal : notes.IsNormal := (Intake.areNormal_of_read hread).each notes List.mem_cons_self
  obtain ⟨created, hcreated, hcreate⟩ := formSlots_createFile hnormal {}
  exact ⟨⟨_, hread⟩, ⟨created, hcreated, hcreate.trans (by decide +kernel)⟩, by decide +kernel⟩

end Form

end Scaffold
