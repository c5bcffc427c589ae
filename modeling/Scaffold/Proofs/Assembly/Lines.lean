import Scaffold.Proofs.Assembly.Outcome
import Scaffold.Proofs.Interface.Lines

/-!
# Runs of the same shape

No text in a definition adds a line to a generated file. Two runs that differ in their texts only, be it
in names, unknown types, roles or the name of the store, make as many files, and the files in equal
places have as many lines.
-/

namespace Scaffold.Assembly

variable {all all' : List Collection} {o o' : Options}

/-- The files that two runs of the same shape try to make, file by file. -/
theorem sameLines_catalogue (hall : ∀ c ∈ all, c.IsNormal) (hall' : ∀ c ∈ all', c.IsNormal)
    (ho : o.SameShape o') (h : List.Forall₂ (Collection.SameShape o o') all all') :
    List.Forall₂ Artifact.SameLines (catalogue all o) (catalogue all' o') := by
  have hnormal := (forall₂_mem h).imp fun c d ⟨hc, hd, hcd⟩ => (⟨hall c hc, hall' d hd, hcd⟩ :
    c.IsNormal ∧ d.IsNormal ∧ c.SameShape o o' d)
  unfold catalogue
  rw [ho.activityLogging, Form.needsCodecs_eq h]
  refine List.rel_append (List.rel_append (List.rel_append (List.rel_append ?_ ?_) ?_) ?_) ?_
  · refine List.rel_append (List.rel_append (.cons ?_ (.cons ?_ .nil)) ?_) ?_
    · exact Access.sameLines_databaseFile ho
    · exact Access.sameLines_supportFile ho
    · exact forall₂_if Access.sameLines_activityFile
    · exact List.rel_flatMap hnormal fun c d ⟨hc, hd, hcd⟩ =>
        .cons (Access.sameLines_actionsFile ho hc hd hcd) .nil
  · exact .cons (Store.sameLines_indexFile ho hall hall' h) .nil
  · exact List.rel_flatMap hnormal fun c d ⟨hc, hd, hcd⟩ =>
      .cons (Validation.sameLines_validatorFile hc hd hcd) .nil
  · refine List.rel_append (forall₂_if (Artifact.SameLines.refl _)) ?_
    exact List.rel_flatMap hnormal fun c d ⟨hc, hd, hcd⟩ =>
      .cons (Form.sameLines_createFile hc hd hcd) (.cons (Form.sameLines_editFile hc hd hcd) .nil)
  · exact Routing.forall₂_tableFiles ho hall hall' h

/-- Two runs of the same shape that succeed make as many files, and files in equal places have as many
lines. -/
theorem lines_of_same_shape {identity identity' : List String} {raw raw' : Value}
    {notes notes' : List Note} (hr : Intake.read identity raw = (notes, .ok all))
    (hr' : Intake.read identity' raw' = (notes', .ok all')) (ho : o.SameShape o')
    (h : List.Forall₂ (Collection.SameShape o o') all all') {files files' : List Artifact}
    (hf : assemble stages all o = .ok files) (hf' : assemble stages all' o' = .ok files') :
    files.length = files'.length
      ∧ ∀ i (hi : i < files.length) (hi' : i < files'.length),
        files[i].content.toList.count '\n' = files'[i].content.toList.count '\n' := by
  have hcatalogue := sameLines_catalogue (Intake.areNormal_of_read hr).each
    (Intake.areNormal_of_read hr').each ho h
  rw [(assemble_eq_ok_iff.1 hf).1, (assemble_eq_ok_iff.1 hf').1, List.forall₂_map_left_iff,
    List.forall₂_map_right_iff] at hcatalogue
  exact ⟨hcatalogue.length_eq, fun i hi hi' => hcatalogue.get hi hi' _ _ rfl rfl⟩

/-- Users with a biography and notes, under other names, with another unknown type, other roles and
another store. The quotes and the line feeds in a role are escaped. -/
theorem lines_of_users_and_members :
    let users : Collection := {
      name := "user", camelName := "user", pascalName := "User",
      fields := [⟨"mail", .email, "email"⟩, ⟨"bio", .text, "markdown"⟩] }
    let notes : Collection := {
      name := "note", camelName := "note", pascalName := "Note", fields := [⟨"tags", .list, "array"⟩] }
    let members : Collection := {
      name := "club members", camelName := "clubMembers", pascalName := "ClubMembers",
      fields := [⟨"contact", .email, "email"⟩, ⟨"$about", .text, "rich-text"⟩] }
    let books : Collection := {
      name := "Books\n(old)", camelName := "booksOld", pascalName := "BooksOld",
      fields := [⟨"keywords", .list, "array"⟩] }
    let o : Options := { auth := true, roles := ["editor"] }
    let o' : Options := {
      storeName := "reading room", auth := true, roles := ["the \"chief\"\n'editor'", "reader"],
      identityNames := ["clubmembers"] }
    ∃ files files', assemble stages [users, notes] o = .ok files
      ∧ assemble stages [members, books] o' = .ok files'
      ∧ files.length = files'.length
      ∧ ∀ i (hi : i < files.length) (hi' : i < files'.length),
        files[i].content.toList.count '\n' = files'[i].content.toList.count '\n' := by
  intro users notes members books o o'
  have hr : Intake.read [] (.list [
      Intake.declaration "user" [("mail", "email"), ("bio", "markdown")],
      Intake.declaration "note" [("tags", "array")]]) = (_, .ok [users, notes]) :=
    Intake.read_eq_of_toOption (by decide +kernel)
  have hr' : Intake.read [] (.list [
      Intake.declaration "club members" [("contact", "email"), ("$about", "Rich-Text")],
      Intake.declaration "Books\n(old)" [("keywords", "array")]]) = (_, .ok [members, books]) :=
    Intake.read_eq_of_toOption (by decide +kernel)
  have ho : o.SameShape o' := ⟨rfl, rfl, rfl, rfl, rfl, rfl⟩
  have husers : users.SameShape o o' members :=
    ⟨.cons ⟨rfl, by decide +kernel⟩ (.cons ⟨rfl, by decide +kernel⟩ .nil), by decide +kernel⟩
  have hnotes : notes.SameShape o o' books :=
    ⟨.cons ⟨rfl, by decide +kernel⟩ .nil, by decide +kernel⟩
  obtain ⟨files, hf⟩ := assemble_of_nodup (o := o) (Intake.areNormal_of_read hr) (by decide +kernel)
  obtain ⟨files', hf'⟩ := assemble_of_nodup (o := o') (Intake.areNormal_of_read hr') (by decide +kernel)
  exact ⟨files, files', hf, hf',
    lines_of_same_shape hr hr' ho (.cons husers (.cons hnotes .nil)) hf hf'⟩

end Scaffold.Assembly
