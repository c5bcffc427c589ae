import Scaffold.Project.Writer
import Scaffold.Proofs.Name.Spelling
import Scaffold.Proofs.Text.Parts

/-!
# Paths in small letters

Two files are in each other's way on some file system only if the components of the one path begin
those of the other after capitals are forgotten. This cannot be where the last component of every path
has a dot and no other component has one, and such paths are never refused.
-/

namespace Scaffold.Layout

open Text

/-! ## Folded paths -/

/-- A text in small letters of ASCII. -/
def fold (s : String) : String := String.ofList (s.toList.map lowerAscii)

theorem toList_fold (s : String) : (fold s).toList = s.toList.map lowerAscii := by
  rw [fold, String.toList_ofList]

/-- The components of a path in small letters. -/
def foldedParts (path : String) : List String :=
  (partsBetween '/' (fold path).toList).map String.ofList

/-- Components that are put together to a folded path are its folded components. -/
theorem foldedParts_eq {path : String} {parts : List String} (hne : parts ≠ [])
    (hs : ∀ p ∈ parts, '/' ∉ p.toList)
    (h : path.toList.map lowerAscii = ['/'].intercalate (parts.map String.toList)) :
    foldedParts path = parts := by
  have hcut : partsBetween '/' (['/'].intercalate (parts.map String.toList))
      = parts.map String.toList := by
    apply partsBetween_intercalate
    · exact fun e => hne (List.map_eq_nil_iff.1 e)
    · intro cs hc
      obtain ⟨p, hp, rfl⟩ := List.mem_map.1 hc
      exact hs p hp
  have hid : String.ofList ∘ String.toList = id := funext fun s => String.ofList_toList
  rw [foldedParts, toList_fold, h, hcut, List.map_map, hid, List.map_id]

/-! ## Folders and files -/

/-- A character that can stand in a component: of ASCII, and no slash. -/
def isPlain (c : Char) : Bool := decide (c.toNat < 128) && c != '/'

/-- A component that is a folder: not empty, and of plain characters without dots. -/
def IsFolder (s : String) : Prop :=
  s.toList ≠ [] ∧ ∀ c ∈ s.toList, isPlain c = true ∧ c ≠ '.'

/-- A component that is a file: of plain characters, with a dot and with something else. -/
def IsFile (s : String) : Prop :=
  '.' ∈ s.toList ∧ (∃ c ∈ s.toList, c ≠ '.') ∧ ∀ c ∈ s.toList, isPlain c = true

/-- Components that lead through folders to a file. -/
inductive LeadsToFile : List String → Prop where
  | file {s : String} (h : IsFile s) : LeadsToFile [s]
  | folder {s : String} {rest : List String} (h : IsFolder s) (hr : LeadsToFile rest) :
    LeadsToFile (s :: rest)

theorem isPlain_of_isWordAscii {c : Char} (h : isWordAscii c = true) : isPlain c = true := by
  unfold isPlain
  rw [Bool.and_eq_true, decide_eq_true_eq, bne_iff_ne]
  exact ⟨toNat_lt_of_isWordAscii h, ne_of_isWordAscii h (by decide)⟩

theorem isFolder_ofList {cs : List Char}
    (h : (!cs.isEmpty && cs.all fun c => isPlain c && c != '.') = true) :
    IsFolder (String.ofList cs) := by
  unfold IsFolder
  rw [String.toList_ofList]
  simp only [Bool.and_eq_true, Bool.not_eq_true', List.isEmpty_eq_false_iff, List.all_eq_true,
    bne_iff_ne] at h
  exact h

theorem isFolder_of_isWord {s : String} (h : Name.IsWord s.toList) (hne : s.toList ≠ []) :
    IsFolder s :=
  ⟨hne, fun c hc => ⟨isPlain_of_isWordAscii (h c hc), ne_of_isWordAscii (h c hc) (by decide)⟩⟩

theorem isFile_ofList {cs : List Char}
    (h : (cs.contains '.' && cs.any (· != '.') && cs.all isPlain) = true) :
    IsFile (String.ofList cs) := by
  unfold IsFile
  rw [String.toList_ofList]
  simp only [Bool.and_eq_true, List.contains_iff_mem, List.any_eq_true, List.all_eq_true,
    bne_iff_ne] at h
  exact ⟨h.1.1, h.1.2, h.2⟩

/-- Plain text in front of a file name is part of a file name. -/
theorem isFile_append {s t : String} (h : ∀ c ∈ s.toList, isPlain c = true) (ht : IsFile t) :
    IsFile (s ++ t) := by
  obtain ⟨hdot, ⟨c, hc, hne⟩, hplain⟩ := ht
  unfold IsFile
  rw [String.toList_append]
  refine ⟨List.mem_append_right _ hdot, ⟨c, List.mem_append_right _ hc, hne⟩, fun d hd => ?_⟩
  rcases List.mem_append.1 hd with hd | hd
  · exact h d hd
  · exact hplain d hd

/-- A component with something else than dots names a step that does not lead up. -/
theorem isStep_of_mem_ne {s : String} {c : Char} (hc : c ∈ s.toList) (hne : c ≠ '.') :
    Path.isStep s.toList = true ∧ s ≠ Writer.parentStep := by
  constructor
  · rw [Path.isStep, Bool.and_eq_true, Bool.not_eq_true', List.isEmpty_eq_false_iff, bne_iff_ne]
    refine ⟨List.ne_nil_of_mem hc, fun e => ?_⟩
    rw [e, List.mem_singleton] at hc
    exact hne hc
  · intro e
    rw [e, Writer.parentStep, String.toList_ofList] at hc
    simp only [List.mem_cons, List.not_mem_nil, or_false, or_self] at hc
    exact hne hc

theorem IsFolder.isStep {s : String} (h : IsFolder s) :
    Path.isStep s.toList = true ∧ s ≠ Writer.parentStep := by
  obtain ⟨c, rest, hs⟩ := List.exists_cons_of_ne_nil h.1
  have hc : c ∈ s.toList := hs ▸ List.mem_cons_self
  exact isStep_of_mem_ne hc (h.2 c hc).2

theorem IsFile.isStep {s : String} (h : IsFile s) :
    Path.isStep s.toList = true ∧ s ≠ Writer.parentStep := by
  obtain ⟨c, hc, hne⟩ := h.2.1
  exact isStep_of_mem_ne hc hne

/-- No component is a folder and a file. -/
theorem not_isFolder_of_isFile {s : String} (h : IsFile s) : ¬ IsFolder s :=
  fun hf => (hf.2 _ h.1).2 rfl

namespace LeadsToFile

/-- What leads to a file is a file, or a folder and then what leads to a file. -/
theorem cons_iff {s : String} {rest : List String} :
    LeadsToFile (s :: rest) ↔ IsFile s ∧ rest = [] ∨ IsFolder s ∧ LeadsToFile rest := by
  constructor
  · intro h
    cases h with
    | file h => exact .inl ⟨h, rfl⟩
    | folder h hr => exact .inr ⟨h, hr⟩
  · rintro (⟨h, rfl⟩ | ⟨h, hr⟩)
    · exact .file h
    · exact .folder h hr

theorem ne_nil {l : List String} (h : LeadsToFile l) : l ≠ [] := by
  cases h <;> exact List.cons_ne_nil _ _

theorem isPlain_of_mem {l : List String} (h : LeadsToFile l) :
    ∀ s ∈ l, ∀ c ∈ s.toList, isPlain c = true := by
  induction h with
  | file h =>
    intro s hs
    rw [List.mem_singleton.1 hs]
    exact h.2.2
  | folder h hr ih =>
    intro s hs
    rcases List.mem_cons.1 hs with rfl | hs
    · exact fun c hc => (h.2 c hc).1
    · exact ih s hs

theorem slash_not_mem {l : List String} (h : LeadsToFile l) : ∀ s ∈ l, '/' ∉ s.toList :=
  fun s hs hm => absurd (h.isPlain_of_mem s hs _ hm) (by decide)

/-- Nothing stands behind a file. -/
theorem eq_nil_of_append {l more : List String} (h : LeadsToFile l)
    (hm : LeadsToFile (l ++ more)) : more = [] := by
  induction h with
  | file h =>
    rcases cons_iff.1 hm with ⟨-, hn⟩ | ⟨hf, -⟩
    · exact hn
    · exact absurd hf (not_isFolder_of_isFile h)
  | folder h hr ih =>
    rcases cons_iff.1 hm with ⟨hf, -⟩ | ⟨-, hm⟩
    · exact absurd h (not_isFolder_of_isFile hf)
    · exact ih hm

/-- The file has a dot. -/
theorem exists_dot {l : List String} (h : LeadsToFile l) : ∃ s ∈ l, '.' ∈ s.toList := by
  induction h with
  | file h => exact ⟨_, List.mem_cons_self, h.1⟩
  | folder h hr ih =>
    obtain ⟨s, hs, hd⟩ := ih
    exact ⟨s, List.mem_cons_of_mem _ hs, hd⟩

/-- Every component names a step, and none leads up. -/
theorem isStep_of_mem {l : List String} (h : LeadsToFile l) :
    ∀ s ∈ l, Path.isStep s.toList = true ∧ s ≠ Writer.parentStep := by
  induction h with
  | file h =>
    intro s hs
    rw [List.mem_singleton.1 hs]
    exact h.isStep
  | folder h hr ih =>
    intro s hs
    rcases List.mem_cons.1 hs with rfl | hs
    · exact h.isStep
    · exact ih s hs

end LeadsToFile

/-! ## Paths that lead to files -/

/-- The components of a path are cut before capitals are forgotten. -/
theorem foldedParts_eq_map (path : String) :
    foldedParts path = (partsBetween '/' path.toList).map fun part => fold (String.ofList part) := by
  have slash : ∀ c, lowerAscii c = '/' ↔ c = '/' := fun c => lowerAscii_eq_iff (by decide) (by decide)
  rw [foldedParts, toList_fold, partsBetween_map slash, List.map_map]
  apply List.map_congr_left
  intro part hp
  show String.ofList (part.map lowerAscii) = fold (String.ofList part)
  rw [fold, String.toList_ofList]

variable {path : String}

/-- A part of such a path is a step that does not lead up, also before capitals are forgotten. -/
theorem isStep_of_mem_partsBetween (h : LeadsToFile (foldedParts path)) {part : List Char}
    (hp : part ∈ partsBetween '/' path.toList) :
    Path.isStep part = true ∧ String.ofList part ≠ Writer.parentStep := by
  have hm : fold (String.ofList part) ∈ foldedParts path := by
    rw [foldedParts_eq_map]
    exact List.mem_map_of_mem hp
  obtain ⟨hs, hu⟩ := h.isStep_of_mem _ hm
  rw [toList_fold, String.toList_ofList, Path.isStep, Bool.and_eq_true, Bool.not_eq_true',
    List.isEmpty_eq_false_iff, bne_iff_ne] at hs
  constructor
  · rw [Path.isStep, Bool.and_eq_true, Bool.not_eq_true', List.isEmpty_eq_false_iff, bne_iff_ne]
    refine ⟨fun e => hs.1 ?_, fun e => hs.2 ?_⟩ <;> rw [e] <;> rfl
  · intro e
    apply hu
    rw [e, fold, Writer.parentStep, String.toList_ofList]
    rfl

/-- Such a path has no empty components and no dots among them. -/
theorem components_eq (h : LeadsToFile (foldedParts path)) :
    (Path.ofText path).components = (partsBetween '/' path.toList).map String.ofList := by
  show ((partsBetween '/' path.toList).filter Path.isStep).map String.ofList = _
  rw [List.filter_eq_self.2 fun part hp => (isStep_of_mem_partsBetween h hp).1]

/-- The components of such a path in small letters. -/
theorem map_fold_components (h : LeadsToFile (foldedParts path)) :
    (Path.ofText path).components.map fold = foldedParts path := by
  rw [components_eq h, foldedParts_eq_map, List.map_map]
  rfl

/-- Such a path leads nowhere up. -/
theorem parentStep_not_mem (h : LeadsToFile (foldedParts path)) :
    Writer.parentStep ∉ (Path.ofText path).components := by
  rw [components_eq h]
  intro hm
  obtain ⟨part, hp, e⟩ := List.mem_map.1 hm
  exact (isStep_of_mem_partsBetween h hp).2 e

/-- Such a path is relative. -/
theorem isAbsolute_ofText (h : LeadsToFile (foldedParts path)) :
    (Path.ofText path).isAbsolute = false := by
  have hr : Path.anchorOf path.toList = .relative := by
    unfold Path.anchorOf
    split
    all_goals try rfl
    -- A slash in front cuts off an empty part, which is no step.
    all_goals
      next hs =>
        have hp : [] ∈ partsBetween '/' path.toList := by
          rw [hs, partsBetween, beq_self_eq_true, if_pos rfl]
          exact List.mem_cons_self
        exact absurd (isStep_of_mem_partsBetween h hp).1 Bool.false_ne_true
  unfold Path.isAbsolute
  show (Path.anchorOf path.toList != .relative) = false
  rw [hr]
  rfl

/-- Such a path has only characters of ASCII. -/
theorem toNat_lt_of_mem (h : LeadsToFile (foldedParts path)) {c : Char} (hc : c ∈ path.toList) :
    c.toNat < 128 := by
  rcases eq_or_mem_partsBetween '/' hc with rfl | ⟨part, hp, hc⟩
  · decide
  · have hm : fold (String.ofList part) ∈ foldedParts path := by
      rw [foldedParts_eq_map]
      exact List.mem_map_of_mem hp
    have hl : lowerAscii c ∈ (fold (String.ofList part)).toList := by
      rw [toList_fold, String.toList_ofList]
      exact List.mem_map_of_mem hc
    have hplain := h.isPlain_of_mem _ hm _ hl
    rw [isPlain, Bool.and_eq_true, decide_eq_true_eq] at hplain
    exact toNat_lt_of_lowerAscii hplain.1

/-- Such a path has a dot. -/
theorem dot_mem (h : LeadsToFile (foldedParts path)) : '.' ∈ path.toList := by
  obtain ⟨s, hs, hm⟩ := h.exists_dot
  rw [foldedParts_eq_map] at hs
  obtain ⟨part, hpart, rfl⟩ := List.mem_map.1 hs
  rw [toList_fold, String.toList_ofList, List.mem_map] at hm
  obtain ⟨c, hc, he⟩ := hm
  rw [lowerAscii_eq_iff (by decide) (by decide)] at he
  subst he
  exact mem_of_mem_partsBetween hpart hc

/-- Such a path in small letters, as any lower-casing has it. -/
theorem lower_eq_fold (h : LeadsToFile (foldedParts path)) : lower path = fold path := by
  apply String.toList_inj.1
  rw [toList_lower_of_ascii fun c hc => toNat_lt_of_mem h hc, toList_fold]

theorem foldedParts_fold (path : String) : foldedParts (fold path) = foldedParts path := by
  have hf : fold (fold path) = fold path := by
    apply String.toList_inj.1
    rw [toList_fold, toList_fold, List.map_map]
    exact List.map_congr_left fun c _ => lowerAscii_lowerAscii c
  rw [foldedParts, hf, foldedParts]

/-- A path goes on from another one as from a folder. -/
def IsAbove (p q : String) : Prop := (p ++ "/").toList <+: q.toList

/-- Paths that lead to files never go on from each other. -/
theorem not_isAbove {p q : String} (hp : LeadsToFile (foldedParts p))
    (hq : LeadsToFile (foldedParts q)) : ¬ IsAbove p q := by
  rintro ⟨rest, h⟩
  have hs : (fold q).toList = (fold p).toList ++ '/' :: rest.map lowerAscii := by
    rw [toList_fold, toList_fold, ← h, String.toList_append, String.toList_ofList, List.map_append,
      List.map_append, List.append_assoc]
    rfl
  have hc : foldedParts q
      = foldedParts p ++ (partsBetween '/' (rest.map lowerAscii)).map String.ofList := by
    rw [foldedParts, hs, partsBetween_append_cons, List.map_append, foldedParts]
  rw [hc] at hq
  have hn := hp.eq_nil_of_append hq
  exact partsBetween_ne_nil _ _ (List.map_eq_nil_iff.1 hn)

/-- A file with such a path is never refused. -/
theorem resolve_eq_ok {a : Artifact} (h : LeadsToFile (foldedParts a.path)) (root : Path) :
    Writer.resolve root a = .ok (root.join (Path.ofText a.path)) := by
  have hc : (Path.ofText a.path).components.contains Writer.parentStep = false := by
    rw [← Bool.not_eq_true, List.contains_iff_mem]
    exact parentStep_not_mem h
  unfold Writer.resolve
  dsimp only
  rw [isAbsolute_ofText h, hc]
  rfl

end Scaffold.Layout
