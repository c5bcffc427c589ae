import Mathlib.Data.List.Flatten
import Mathlib.Data.List.InsertIdx
import Scaffold.Proofs.Assembly.Outcome
import Scaffold.Proofs.Template.Parts
import Scaffold.Proofs.Template.Variables

/-!
# Segments of the store module

The store module is made of parts that no collection has a say in, and of three segments for each
collection that is bound: the import of its actions, the function that binds it, and the line that takes
over what the function returns. A segment depends on nothing but its binding.

So a registry without one of its bindings still has a store module, and its text is the text of before
without the three segments of the binding. All other segments stay as they were.
-/

namespace Scaffold

open Template

/-! ## Segments of a binding -/

namespace Binding

variable (b : Binding)

/-- The import of the actions of a collection. -/
def importLine : String :=
  "import \x7b " ++ b.names.actionsFactory ++ " \x7d from '" ++ b.names.actionsImport ++ "';\n"

/-- The line of the store that takes over what is bound for a collection. -/
def spreadLine : String := "    ..." ++ b.names.bindingFunction ++ "(session),\n"

/-- What the function that binds a collection is made from. -/
def scope : Scope := [("n", .value b.names.toValue), ("binding", .value b.toValue)]

/-- The function that binds a collection, after an empty line. -/
def IsBlock (s : String) : Prop := StoreModule.binding.render b.scope = .ok s

variable {scope : Scope} (i : Nat)

theorem gives_names :
    (Expr.path ["binding", "names"]).Gives (itemScope scope "binding" i b.toValue) b.names.toValue :=
  Expr.Gives.of_record (e := .name "binding") rfl rfl

theorem render_importLine :
    (row [text "import \x7b ", value ["binding", "names", "actions_factory"], text " \x7d from '",
      value ["binding", "names", "actions_import"], text "';"]).render
        (itemScope scope "binding" i b.toValue) = .ok b.importLine := by
  have hf : (value ["binding", "names", "actions_factory"]).render
      (itemScope scope "binding" i b.toValue) = .ok b.names.actionsFactory :=
    render_hole ((gives_names b i).of_record rfl)
  have hi : (value ["binding", "names", "actions_import"]).render
      (itemScope scope "binding" i b.toValue) = .ok b.names.actionsImport :=
    render_hole ((gives_names b i).of_record rfl)
  have hend : "';" ++ "\n" = "';\n" := by decide
  unfold row importLine
  simp only [List.cons_append, List.nil_append, hf, hi, render, Template.sequence,
    appendText_ok, String.append_assoc, hend]

theorem render_spreadLine :
    (row [text "    ...", value ["binding", "names", "binding_function"], text "(session),"]).render
        (itemScope scope "binding" i b.toValue) = .ok b.spreadLine := by
  have hf : (value ["binding", "names", "binding_function"]).render
      (itemScope scope "binding" i b.toValue) = .ok b.names.bindingFunction :=
    render_hole ((gives_names b i).of_record rfl)
  have hend : "(session)," ++ "\n" = "(session),\n" := by decide
  unfold row spreadLine
  simp only [List.cons_append, List.nil_append, hf, render, Template.sequence,
    appendText_ok, String.append_assoc, hend]

/-- The function that binds a collection depends on its binding only. -/
theorem render_binding :
    (bind "n" (.path ["binding", "names"]) StoreModule.binding).render
      (itemScope scope "binding" i b.toValue) = StoreModule.binding.render b.scope := by
  have hn : (Expr.path ["binding", "names"]).eval (itemScope scope "binding" i b.toValue)
      = .ok (.value b.names.toValue) := gives_names b i
  rw [render, hn]
  refine render_congr _ fun n hn => ?_
  have hvariables : ∀ m ∈ StoreModule.binding.variables, m = "n" ∨ m = "binding" := by decide
  rcases hvariables n hn with rfl | rfl <;> rfl

/-- The function that binds a collection begins with its name and ends with a bracket on a line of its
own. -/
theorem IsBlock.eq {b : Binding} {s : String} (h : b.IsBlock s) :
    ∃ body, s = "\nfunction " ++ b.names.bindingFunction ++ "(session) \x7b\n" ++ body ++ "\x7d\n" := by
  have hf : (value ["n", "binding_function"]).render b.scope = .ok b.names.bindingFunction :=
    render_hole (Expr.Gives.of_record (e := .name "n") rfl rfl)
  have hfirst : (front 2 StoreModule.binding).render b.scope
      = .ok ("\nfunction " ++ b.names.bindingFunction ++ "(session) \x7b\n") := by
    have hopen : "(session) \x7b" ++ "\n" = "(session) \x7b\n" := by decide
    have hline : String.join ([""].map fun l => l ++ "\n") ++ "function " = "\nfunction " := by decide
    show (both (lines [""]) (both (row [text "function ", value ["n", "binding_function"],
      text "(session) \x7b"]) nothing)).render b.scope = _
    simp only [render, lines, row, Template.sequence, List.cons_append, List.nil_append, hf, appendText_ok,
      String.append_empty, hopen]
    rw [← String.append_assoc, hline, String.append_assoc]
  have hlast : (after 41 (after 2 StoreModule.binding)).render b.scope = .ok ("  \x7d;\n" ++ "\x7d\n") := by
    show (lines ["  \x7d;", "\x7d"]).render b.scope = _
    have hlines : String.join (["  \x7d;", "\x7d"].map fun l => l ++ "\n")
        = "  \x7d;\n" ++ "\x7d\n" := by decide
    rw [lines, render, hlines]
  obtain ⟨first, rest, h₁, h₂, rfl⟩ := (render_eq_ok_iff_front_after 2 _).1 h
  obtain ⟨body, last, h₃, h₄, rfl⟩ := (render_eq_ok_iff_front_after 41 _).1 h₂
  rw [hfirst] at h₁
  rw [hlast] at h₄
  cases h₁
  cases h₄
  exact ⟨body ++ "  \x7d;\n", by simp only [String.append_assoc]⟩

end Binding

/-! ## The parts around them -/

namespace StoreModule

/-- The imports of every store. -/
def opening : Template := front 4 imports

/-- What is defined for all collections together. -/
def definitions : Template := sequence [lines [""], helpers,
  when (.path ["auth_enabled"]) [authHelpers, authState, signing, account]]

/-- The session, and the keys that no collection brings. -/
def ownKeys : Template := sequence [session, front 4 keys]

/-- The end of the store. -/
def ending : String := "  \x7d;\n\x7d);\n"

end StoreModule

/-- The parts of a store module around the segments of collections. -/
structure Frame where
  head : String
  middle : String
  tail : String

/-- A store module with these segments. -/
def Frame.fill (f : Frame) (imports blocks spreads : List String) : String :=
  f.head ++ String.join imports ++ f.middle ++ String.join blocks ++ f.tail ++ String.join spreads
    ++ StoreModule.ending

namespace Registry

variable {r : Registry} {roles : List Value} {s : String}

/-- The scope of the store module. -/
def scope (r : Registry) (roles : List Value) : Scope := Scope.ofValues (r.values roles)

/-- These parts stand around the segments of collections. -/
structure IsFrame (r : Registry) (roles : List Value) (f : Frame) : Prop where
  head : StoreModule.opening.render (r.scope roles) = .ok f.head
  middle : StoreModule.definitions.render (r.scope roles) = .ok f.middle
  tail : StoreModule.ownKeys.render (r.scope roles) = .ok f.tail

/-- What is bound makes no difference to other variables. -/
theorem agreeOn_scope (bs : List Binding) {names : List String} (h : "bindings" ∉ names) :
    Scope.AgreeOn names (r.scope roles) (scope { r with bindings := bs } roles) := by
  intro n hn
  have hne : (n == "bindings") = false := beq_eq_false_iff_ne.2 fun e => h (e ▸ hn)
  unfold scope values Scope.ofValues
  simp only [List.map_cons, List.lookup_cons, hne]

/-- What is bound makes no difference to the parts around. -/
theorem IsFrame.with_bindings {f : Frame} (h : r.IsFrame roles f) (bs : List Binding) :
    IsFrame { r with bindings := bs } roles f where
  head := by
    rw [← h.head]
    exact (render_congr _ (agreeOn_scope bs (by decide))).symm
  middle := by
    rw [← h.middle]
    exact (render_congr _ (agreeOn_scope bs (by decide))).symm
  tail := by
    rw [← h.tail]
    exact (render_congr _ (agreeOn_scope bs (by decide))).symm

theorem gives_bindings :
    (Expr.path ["bindings"]).Gives (r.scope roles) (.list (r.bindings.map Binding.toValue)) := rfl

/-- Rows that are repeated for the bindings. -/
theorem render_rows_eq_ok_iff {t : Template} {line : Binding → String}
    (h : ∀ (scope : Scope) (b : Binding) (i : Nat),
      t.render (itemScope scope "binding" i b.toValue) = .ok (line b)) :
    (forEach "binding" (.path ["bindings"]) [t]).render (r.scope roles) = .ok s ↔
      s = String.join (r.bindings.map line) := by
  rw [render_forEach_eq_ok_iff (P := fun b s => s = line b) gives_bindings]
  · simp only [forall₂_eq_iff_map, exists_eq_left]
  · intro b _ i s
    show t.render (itemScope (r.scope roles) "binding" i b.toValue) = .ok s ↔ s = line b
    rw [h, Except.ok.injEq, eq_comm]

theorem render_blocks_eq_ok_iff :
    (forEach "binding" (.path ["bindings"]) [bind "n" (.path ["binding", "names"])
      StoreModule.binding]).render (r.scope roles) = .ok s ↔
      ∃ blocks, List.Forall₂ Binding.IsBlock r.bindings blocks ∧ s = String.join blocks := by
  refine render_forEach_eq_ok_iff gives_bindings fun b _ i s => ?_
  show (bind "n" (.path ["binding", "names"]) StoreModule.binding).render
    (itemScope (r.scope roles) "binding" i b.toValue) = .ok s ↔ b.IsBlock s
  rw [Binding.render_binding, Binding.IsBlock]

/-- The parts of the store module. -/
theorem render_template (scope : Scope) :
    StoreModule.template.render scope
      = appendText (StoreModule.opening.render scope) (appendText
        ((forEach "binding" (.path ["bindings"]) [row [text "import \x7b ",
          value ["binding", "names", "actions_factory"], text " \x7d from '",
          value ["binding", "names", "actions_import"], text "';"]]).render scope) (appendText
        (StoreModule.definitions.render scope) (appendText
        ((forEach "binding" (.path ["bindings"]) [bind "n" (.path ["binding", "names"])
          StoreModule.binding]).render scope) (appendText
        (StoreModule.ownKeys.render scope) (appendText
        ((forEach "binding" (.path ["bindings"]) [row [text "    ...",
          value ["binding", "names", "binding_function"], text "(session),"]]).render scope)
        (.ok StoreModule.ending)))))) := by
  -- the two long parts are cut after their fixed lines, where the rows for the bindings begin
  have himports : StoreModule.imports.render scope = appendText (StoreModule.opening.render scope)
      ((after 4 StoreModule.imports).render scope) := render_front_after 4 _
  have hkeys : StoreModule.keys.render scope = appendText ((front 4 StoreModule.keys).render scope)
      ((after 4 StoreModule.keys).render scope) := render_front_after 4 _
  have hafter : after 4 StoreModule.imports = sequence [forEach "binding" (.path ["bindings"]) [
      row [text "import \x7b ", value ["binding", "names", "actions_factory"], text " \x7d from '",
        value ["binding", "names", "actions_import"], text "';"]],
    lines [""]] := rfl
  have hend : after 4 StoreModule.keys = sequence [forEach "binding" (.path ["bindings"]) [
      row [text "    ...", value ["binding", "names", "binding_function"], text "(session),"]],
    lines ["  \x7d;", "\x7d);"]] := rfl
  have hlines : (lines ["  \x7d;", "\x7d);"]).render scope = .ok StoreModule.ending := by
    have hjoin : String.join (["  \x7d;", "\x7d);"].map fun l => l ++ "\n") = StoreModule.ending := by decide
    rw [lines, Template.render, hjoin]
  unfold StoreModule.template StoreModule.definitions StoreModule.ownKeys
  simp only [Template.sequence, Template.render, himports, hkeys, hafter, hend, appendText_assoc]
  rw [hlines]

theorem render_template_eq_ok_iff :
    StoreModule.template.render (r.scope roles) = .ok s ↔
      ∃ f blocks, r.IsFrame roles f ∧ List.Forall₂ Binding.IsBlock r.bindings blocks
        ∧ s = f.fill (r.bindings.map Binding.importLine) blocks (r.bindings.map Binding.spreadLine) := by
  rw [render_template]
  simp only [appendText_eq_ok_iff, render_rows_eq_ok_iff fun _ b i => b.render_importLine i,
    render_rows_eq_ok_iff fun _ b i => b.render_spreadLine i, render_blocks_eq_ok_iff]
  constructor
  · rintro ⟨head, _, hh, ⟨_, _, rfl, ⟨middle, _, hm, ⟨_, _, ⟨blocks, hb, rfl⟩, ⟨tail, _, ht,
      ⟨_, _, rfl, he, rfl⟩, rfl⟩, rfl⟩, rfl⟩, rfl⟩, rfl⟩
    cases he
    exact ⟨⟨head, middle, tail⟩, blocks, ⟨hh, hm, ht⟩, hb, by simp only [Frame.fill, String.append_assoc]⟩
  · rintro ⟨f, blocks, hf, hb, rfl⟩
    exact ⟨f.head, _, hf.head, ⟨_, _, rfl, ⟨f.middle, _, hf.middle, ⟨_, _, ⟨blocks, hb, rfl⟩,
      ⟨f.tail, _, hf.tail, ⟨_, _, rfl, rfl, rfl⟩, rfl⟩, rfl⟩, rfl⟩, rfl⟩,
      by simp only [Frame.fill, String.append_assoc]⟩

/-- A registry has a module exactly if its keys differ and all parts of the module have a text. -/
theorem render_eq_ok_iff {a : Artifact} :
    r.render = .ok a ↔ r.exportedNames.Nodup ∧ ∃ roles f blocks,
      Expr.elements r.roles = .ok roles ∧ r.IsFrame roles f
        ∧ List.Forall₂ Binding.IsBlock r.bindings blocks
        ∧ a = ⟨r.store.indexPath,
          f.fill (r.bindings.map Binding.importLine) blocks (r.bindings.map Binding.spreadLine)⟩ := by
  constructor
  · intro h
    -- keys that repeat are refused before anything is rendered
    by_cases hn : r.exportedNames.Nodup
    · rw [render, duplicates_eq_nil_iff.2 hn] at h
      dsimp only at h
      split at h
      next roles hroles =>
        rw [mapError_eq_ok_iff] at h
        unfold Artifact.ofTemplate at h
        cases hs : StoreModule.template.render (r.scope roles) with
        | error e =>
          unfold scope at hs
          rw [hs] at h
          cases h
        | ok s =>
          obtain ⟨f, blocks, hf, hb, rfl⟩ := render_template_eq_ok_iff.1 hs
          unfold scope at hs
          rw [hs] at h
          cases h
          exact ⟨hn, roles, f, blocks, hroles, hf, hb, rfl⟩
      next => cases h
    · rw [render_of_not_nodup hn] at h
      cases h
  · rintro ⟨hn, roles, f, blocks, hroles, hf, hb, rfl⟩
    have hs := render_template_eq_ok_iff.2 ⟨f, blocks, hf, hb, rfl⟩
    unfold scope at hs
    rw [render, duplicates_eq_nil_iff.2 hn]
    dsimp only
    rw [hroles]
    dsimp only
    rw [Artifact.ofTemplate, hs]
    rfl

theorem exportedNames_drop_sublist (r : Registry) (i : Nat) :
    (r.drop i).exportedNames.Sublist r.exportedNames :=
  (List.Sublist.refl _).append ((List.eraseIdx_sublist r.bindings i).flatMap Binding.exported)

/-- A registry without one of its bindings has a store module, with the segments of the others. -/
theorem render_drop {f : Frame} {blocks : List String} (hn : r.exportedNames.Nodup)
    (hroles : Expr.elements r.roles = .ok roles) (hf : r.IsFrame roles f)
    (hb : List.Forall₂ Binding.IsBlock r.bindings blocks) (i : Nat) :
    (r.drop i).render = .ok ⟨r.store.indexPath,
      f.fill ((r.bindings.eraseIdx i).map Binding.importLine) (blocks.eraseIdx i)
        ((r.bindings.eraseIdx i).map Binding.spreadLine)⟩ := by
  have hrest : List.Forall₂ Binding.IsBlock (r.bindings.eraseIdx i) (blocks.eraseIdx i) := by
    rw [List.eraseIdx_eq_take_drop_succ, List.eraseIdx_eq_take_drop_succ]
    exact List.rel_append (List.forall₂_take i hb) (List.forall₂_drop (i + 1) hb)
  exact render_eq_ok_iff.2 ⟨hn.sublist (exportedNames_drop_sublist r i), roles, f, blocks.eraseIdx i,
    hroles, hf.with_bindings _, hrest, rfl⟩

/-- A registry on normal collections has a store module if all its keys differ. -/
theorem exists_render_build {all : List Collection} {o : Options} (hall : ∀ c ∈ all, c.IsNormal)
    (hn : (build all o).exportedNames.Nodup) : ∃ a, (build all o).render = .ok a := by
  obtain ⟨a, ha, -, -⟩ := Store.isMade_indexFile hall o
  refine ⟨a, ?_⟩
  have hr : (build all o).render = (Store.indexFile all o).mapError StageFault.render := by
    rw [render, duplicates_eq_nil_iff.2 hn]
    rfl
  rw [hr, ha]
  rfl

/-! ## A binding less -/

/-- Texts put together without one of them. -/
theorem join_split (ss : List String) {i : Nat} (hi : i < ss.length) :
    String.join ss = String.join (ss.take i) ++ ss[i] ++ String.join (ss.drop (i + 1))
      ∧ String.join (ss.eraseIdx i) = String.join (ss.take i) ++ String.join (ss.drop (i + 1)) := by
  constructor
  · conv => lhs; rw [← List.take_append_drop i ss, List.drop_eq_getElem_cons hi]
    rw [String.join_append, String.join_cons, String.append_assoc]
  · rw [List.eraseIdx_eq_take_drop_succ, String.join_append]

/-- Removing a binding never rewrites another one: the module without it is the module of before
without its import, its function and its line among the keys. -/
theorem drop_deletes_segments {a : Artifact} (h : r.render = .ok a) {i : Nat}
    (hi : i < r.bindings.length) :
    ∃ before block between session after body : String,
      StoreModule.binding.render r.bindings[i].scope = .ok block
        ∧ block = "\nfunction " ++ r.bindings[i].names.bindingFunction ++ "(session) \x7b\n" ++ body
          ++ "\x7d\n"
        ∧ a.content = before ++ r.bindings[i].importLine ++ between ++ block ++ session
          ++ r.bindings[i].spreadLine ++ after
        ∧ (r.drop i).render = .ok ⟨a.path, before ++ between ++ session ++ after⟩ := by
  obtain ⟨hn, roles, f, blocks, hroles, hf, hb, rfl⟩ := render_eq_ok_iff.1 h
  have hblocks : i < blocks.length := hb.length_eq ▸ hi
  have hblock : r.bindings[i].IsBlock blocks[i] := hb.get hi hblocks
  obtain ⟨body, hbody⟩ := hblock.eq
  -- what is dropped is the segment at one place in each of three lists; the frame around them stays
  have hdropped := render_drop hn hroles hf hb i
  obtain ⟨himports, himports'⟩ := join_split (r.bindings.map Binding.importLine)
    (by rw [List.length_map]; exact hi)
  obtain ⟨hjoined, hjoined'⟩ := join_split blocks hblocks
  obtain ⟨hspreads, hspreads'⟩ := join_split (r.bindings.map Binding.spreadLine)
    (by rw [List.length_map]; exact hi)
  rw [List.getElem_map] at himports hspreads
  rw [← List.eraseIdx_map, ← List.eraseIdx_map, Frame.fill, himports', hjoined', hspreads'] at hdropped
  refine ⟨f.head ++ String.join ((r.bindings.map Binding.importLine).take i), blocks[i],
    String.join ((r.bindings.map Binding.importLine).drop (i + 1)) ++ f.middle
      ++ String.join (blocks.take i),
    String.join (blocks.drop (i + 1)) ++ f.tail
      ++ String.join ((r.bindings.map Binding.spreadLine).take i),
    String.join ((r.bindings.map Binding.spreadLine).drop (i + 1)) ++ StoreModule.ending, body, hblock,
    hbody, ?_, ?_⟩
  · rw [Frame.fill, himports, hjoined, hspreads]
    simp only [String.append_assoc]
  · rw [hdropped]
    simp only [String.append_assoc]

/-- Users without the notes between them and books. -/
theorem drop_of_notes :
    let users : Collection := { name := "user", camelName := "user", pascalName := "User" }
    let notes : Collection := {
      name := "field notes", camelName := "fieldNotes", pascalName := "FieldNotes",
      fields := [⟨"tags", .list, "array"⟩] }
    let books : Collection := {
      name := "book", camelName := "book", pascalName := "Book",
      fields := [⟨"title", .text, "string"⟩] }
    let r := build [users, notes, books] { auth := true, roles := ["editor"] }
    ∃ a before block between session after : String, ∃ a', r.render = .ok a'
      ∧ a'.content = before ++ "import \x7b createFieldNotesActions \x7d from './actions/fieldNotes.js';\n"
        ++ between ++ block ++ session ++ "    ...bindFieldNotes(session),\n" ++ after
      ∧ (r.drop 1).render = .ok ⟨a, before ++ between ++ session ++ after⟩ := by
  intro users notes books r
  have hr : Intake.read [] (.list [Intake.declaration "user" [],
      Intake.declaration "field notes" [("tags", "array")],
      Intake.declaration "book" [("title", "string")]]) = (_, .ok [users, notes, books]) :=
    Intake.read_eq_of_toOption (by decide +kernel)
  obtain ⟨a, ha⟩ := exists_render_build (o := { auth := true, roles := ["editor"] })
    (Intake.areNormal_of_read hr).each (by decide +kernel)
  have hi : 1 < r.bindings.length := by decide
  obtain ⟨before, block, between, session, after, body, -, -, hc, hd⟩ := drop_deletes_segments ha hi
  have hbinding : r.bindings[1]
      = Binding.ofCollection notes { auth := true, roles := ["editor"] } := rfl
  have himport : (Binding.ofCollection notes { auth := true, roles := ["editor"] }).importLine
      = "import \x7b createFieldNotesActions \x7d from './actions/fieldNotes.js';\n" := by decide +kernel
  have hspread : (Binding.ofCollection notes { auth := true, roles := ["editor"] }).spreadLine
      = "    ...bindFieldNotes(session),\n" := by decide +kernel
  rw [hbinding, himport, hspread] at hc
  exact ⟨a.path, before, block, between, session, after, a, ha, hc, hd⟩

end Registry

end Scaffold
