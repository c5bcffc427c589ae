import Scaffold.Proofs.Layout.Folded
import Scaffold.Proofs.Script.Declaration

/-!
# Where sources lead

A local source names another module of the project, from the folder of the module that asks for it or
from the folder of all sources. The ending of a script and the index of a folder may be left out, so a
source leads to the first of a few paths at which there is a file.
-/

namespace Scaffold.Script

open Layout
open Text (partsBetween)

/-! ## Reading -/

/-- A source that names a module of the same project. -/
def isLocal (source : String) : Bool :=
  [['@', '/'], ['.', '/'], ['.', '.', '/']].any fun start => start.isPrefixOf source.toList

/-- The folder of all sources. -/
def sourcesRoot : Path := ⟨.relative, ["src"]⟩

/-- Where steps lead from a folder. -/
def follow (folder : Path) (steps : List String) : Path :=
  steps.foldl (fun place step =>
    if step == Writer.parentStep then place.parent else place.child step) folder

/-- Where a source leads from the path of a module. An at sign stands for the folder of all sources. -/
def target (importer source : String) : Path :=
  match after? ['@', '/'] source.toList with
  | some rest => follow sourcesRoot (Path.steps rest)
  | none => follow (Path.ofText importer).parent (Path.steps source.toList)

/-- What may be left out at the end of a source. -/
def endings : List String := ["", ".js", "/index.js"]

/-- The path among those of a project that a source leads to. -/
def resolve? (paths : List String) (importer source : String) : Option String :=
  (endings.map fun ending => (target importer source).toText ++ ending).find? (paths.contains ·)

/-! ## Ways down -/

/-- A text whose parts lead down from folder to folder. -/
def isDirect (cs : List Char) : Bool :=
  (partsBetween '/' cs).all fun part => Path.isStep part && part != ['.', '.']

theorem isDirect_append (as bs : List Char) :
    isDirect (as ++ '/' :: bs) = (isDirect as && isDirect bs) := by
  rw [isDirect, Text.partsBetween_append_cons, List.all_append]
  rfl

/-- One component that does not consist of dots. -/
theorem isDirect_of_mem {cs : List Char} (hs : '/' ∉ cs) {c : Char} (hc : c ∈ cs) (hd : c ≠ '.') :
    isDirect cs = true := by
  have hne : ∀ l : List Char, (∀ d ∈ l, d = '.') → (cs == l) = false := by
    intro l hl
    rw [beq_eq_false_iff_ne]
    rintro rfl
    exact hd (hl c hc)
  rw [isDirect, Text.partsBetween_of_not_mem hs, List.all_cons, List.all_nil, Bool.and_true,
    Path.isStep, bne, bne, hne ['.'] (by simp), hne ['.', '.'] (by simp), Bool.not_false,
    Bool.and_true, Bool.and_true, Bool.not_eq_true', List.isEmpty_eq_false_iff]
  exact List.ne_nil_of_mem hc

/-- A word that is not empty is one component. -/
theorem isDirect_of_isWord {cs : List Char} (h : Name.IsWord cs) (hne : cs ≠ []) :
    isDirect cs = true := by
  obtain ⟨c, rest, rfl⟩ := List.exists_cons_of_ne_nil hne
  exact isDirect_of_mem (h.not_mem (by decide)) List.mem_cons_self
    (Text.ne_of_isWordAscii (h c List.mem_cons_self) (by decide))

/-- All parts of such a text are steps. -/
theorem steps_of_isDirect {cs : List Char} (h : isDirect cs = true) :
    Path.steps cs = (partsBetween '/' cs).map String.ofList := by
  rw [Path.steps, List.filter_eq_self.2]
  intro part hp
  exact (Bool.and_eq_true_iff.1 (List.all_eq_true.1 h part hp)).1

/-- None of the steps of such a text leads up. -/
theorem parentStep_not_mem_steps {cs : List Char} (h : isDirect cs = true) :
    Writer.parentStep ∉ Path.steps cs := by
  rw [steps_of_isDirect h]
  intro hm
  obtain ⟨part, hp, he⟩ := List.mem_map.1 hm
  have hd := (Bool.and_eq_true_iff.1 (List.all_eq_true.1 h part hp)).2
  rw [bne_iff_ne] at hd
  exact hd (String.ofList_inj.1 he)

theorem steps_append (as bs : List Char) :
    Path.steps (as ++ '/' :: bs) = Path.steps as ++ Path.steps bs := by
  rw [Path.steps, Text.partsBetween_append_cons, List.filter_append, List.map_append]
  rfl

/-- Steps that lead down are put after those of the folder. -/
theorem follow_eq {steps : List String} (h : Writer.parentStep ∉ steps) (folder : Path) :
    follow folder steps = ⟨folder.anchor, folder.components ++ steps⟩ := by
  induction steps generalizing folder with
  | nil => rw [List.append_nil, follow, List.foldl_nil]
  | cons s rest ih =>
    rw [List.mem_cons, not_or] at h
    have hs : (s == Writer.parentStep) = false := beq_eq_false_iff_ne.2 (Ne.symm h.1)
    show follow (if s == Writer.parentStep then folder.parent else folder.child s) rest = _
    rw [hs, if_neg Bool.false_ne_true, ih h.2, Path.child, List.append_assoc]
    rfl

/-- The path of the steps of such a text has the text that it is made from. -/
theorem toText_eq {s : String} (h : isDirect s.toList = true) :
    Path.toText ⟨.relative, Path.steps s.toList⟩ = s := by
  have hne : Path.steps s.toList ≠ [] := by
    rw [steps_of_isDirect h]
    exact fun e => Text.partsBetween_ne_nil _ _ (List.map_eq_nil_iff.1 e)
  have hid : String.toList ∘ String.ofList = id := funext fun cs => String.toList_ofList
  rw [Path.toText, List.isEmpty_eq_false_iff.2 hne, Bool.and_false, if_neg Bool.false_ne_true]
  apply String.toList_inj.1
  rw [String.toList_append, String.toList_intercalate, steps_of_isDirect h, List.map_map, hid,
    List.map_id]
  exact Text.intercalate_partsBetween '/' s.toList

/-- A path that leads to a file leads down. -/
theorem isDirect_of_leadsToFile {path : String} (h : LeadsToFile (foldedParts path)) :
    isDirect path.toList = true := by
  refine List.all_eq_true.2 fun part hp => ?_
  obtain ⟨hs, hu⟩ := isStep_of_mem_partsBetween h hp
  rw [hs, Bool.true_and, bne_iff_ne]
  rintro rfl
  exact hu rfl

/-! ## Sources of each kind -/

variable {paths : List String} {importer source path : String}

/-- A path that leads down has nothing in front of its first component. -/
theorem anchorOf_of_isDirect {cs : List Char} (h : isDirect cs = true) :
    Path.anchorOf cs = .relative := by
  cases cs with
  | nil => rfl
  | cons c cs =>
    have hc : c ≠ '/' := by
      rintro rfl
      rw [← List.nil_append ('/' :: cs), isDirect_append] at h
      exact absurd (Bool.and_eq_true_iff.1 h).1 Bool.false_ne_true
    unfold Path.anchorOf
    split
    all_goals try rfl
    all_goals
      next hs => exact absurd (List.cons.inj hs).1 hc

/-- A source with an at sign leads down from the folder of all sources. -/
theorem toText_target_of_alias {rest : List Char} (hs : source.toList = '@' :: '/' :: rest)
    (hp : path.toList = "src".toList ++ '/' :: rest) (hd : isDirect path.toList = true) :
    (target importer source).toText = path := by
  have ha : after? ['@', '/'] source.toList = some rest := by
    rw [hs]
    rfl
  have hrest : isDirect rest = true := by
    rw [hp, isDirect_append] at hd
    exact (Bool.and_eq_true_iff.1 hd).2
  have hsteps : Path.steps path.toList = sourcesRoot.components ++ Path.steps rest := by
    rw [hp, steps_append]
    rfl
  rw [target, ha]
  dsimp only
  rw [follow_eq (parentStep_not_mem_steps hrest), ← hsteps]
  exact toText_eq hd

/-- The folder of a module. -/
theorem parent_ofText {folder name : List Char} (hi : importer.toList = folder ++ '/' :: name)
    (hd : isDirect importer.toList = true) (hn : '/' ∉ name) :
    (Path.ofText importer).parent = ⟨.relative, Path.steps folder⟩ := by
  have hr := anchorOf_of_isDirect hd
  rw [hi, isDirect_append] at hd
  have hname : Path.steps name = [String.ofList name] := by
    rw [steps_of_isDirect (Bool.and_eq_true_iff.1 hd).2, Text.partsBetween_of_not_mem hn]
    rfl
  rw [Path.ofText, Path.parent, hr, hi, steps_append, hname, List.dropLast_concat]

/-- A source that begins with a dot leads down from the folder of the module. -/
theorem toText_target_beside {folder name rest : List Char}
    (hi : importer.toList = folder ++ '/' :: name) (hs : source.toList = '.' :: '/' :: rest)
    (hp : path.toList = folder ++ '/' :: rest) (hn : '/' ∉ name)
    (hd : isDirect importer.toList = true) (hd' : isDirect path.toList = true) :
    (target importer source).toText = path := by
  have ha : after? ['@', '/'] source.toList = none := by
    rw [hs]
    rfl
  have hsteps : Path.steps source.toList = Path.steps rest := by
    rw [hs, show '.' :: '/' :: rest = ['.'] ++ '/' :: rest from rfl, steps_append]
    rfl
  have hrest : isDirect rest = true := by
    rw [hp, isDirect_append] at hd'
    exact (Bool.and_eq_true_iff.1 hd').2
  rw [target, ha]
  dsimp only
  rw [hsteps, parent_ofText hi hd hn, follow_eq (parentStep_not_mem_steps hrest), ← steps_append,
    ← hp]
  exact toText_eq hd'

/-- A source that begins with two dots leads down from the folder above the module's own. -/
theorem toText_target_above {folder own name rest : List Char}
    (hi : importer.toList = folder ++ '/' :: (own ++ '/' :: name))
    (hs : source.toList = '.' :: '.' :: '/' :: rest) (hp : path.toList = folder ++ '/' :: rest)
    (ho : '/' ∉ own) (hn : '/' ∉ name) (hd : isDirect importer.toList = true)
    (hd' : isDirect path.toList = true) : (target importer source).toText = path := by
  have ha : after? ['@', '/'] source.toList = none := by
    rw [hs]
    rfl
  have hsteps : Path.steps source.toList = Writer.parentStep :: Path.steps rest := by
    rw [hs, show '.' :: '.' :: '/' :: rest = ['.', '.'] ++ '/' :: rest from rfl, steps_append]
    rfl
  have hrest : isDirect rest = true := by
    rw [hp, isDirect_append] at hd'
    exact (Bool.and_eq_true_iff.1 hd').2
  have hi' : importer.toList = (folder ++ '/' :: own) ++ '/' :: name := by
    rw [hi, List.append_assoc, List.cons_append]
  have hown : Path.steps own = [String.ofList own] := by
    have hw := hd
    rw [hi, isDirect_append, isDirect_append, Bool.and_eq_true_iff, Bool.and_eq_true_iff] at hw
    rw [steps_of_isDirect hw.2.1, Text.partsBetween_of_not_mem ho]
    rfl
  have hup : ∀ p : Path, follow p (Writer.parentStep :: Path.steps rest)
      = follow p.parent (Path.steps rest) := fun p => rfl
  rw [target, ha]
  dsimp only
  rw [hsteps, parent_ofText hi' hd hn, hup, Path.parent, steps_append, hown, List.dropLast_concat,
    follow_eq (parentStep_not_mem_steps hrest), ← steps_append, ← hp]
  exact toText_eq hd'

/-! ## Files that are there -/

theorem resolve?_eq_of_mem (ht : (target importer source).toText = path) (hm : path ∈ paths) :
    resolve? paths importer source = some path := by
  unfold resolve? endings
  rw [ht, List.map_cons, String.append_empty, List.find?_cons_of_pos (List.contains_iff_mem.2 hm)]

/-- A source without the ending of a script. -/
theorem resolve?_eq_of_script {full : String} (ht : (target importer source).toText = path)
    (hf : path ++ ".js" = full) (hn : path ∉ paths) (hm : full ∈ paths) :
    resolve? paths importer source = some full := by
  subst hf
  unfold resolve? endings
  rw [ht, List.map_cons, List.map_cons, String.append_empty,
    List.find?_cons_of_neg (fun h => hn (List.contains_iff_mem.1 h)),
    List.find?_cons_of_pos (List.contains_iff_mem.2 hm)]

/-- A source that names a folder with an index. -/
theorem resolve?_eq_of_index {full : String} (ht : (target importer source).toText = path)
    (hf : path ++ "/index.js" = full) (hn : path ∉ paths) (hs : path ++ ".js" ∉ paths)
    (hm : full ∈ paths) : resolve? paths importer source = some full := by
  subst hf
  unfold resolve? endings
  rw [ht, List.map_cons, List.map_cons, List.map_cons, String.append_empty,
    List.find?_cons_of_neg (fun h => hn (List.contains_iff_mem.1 h)),
    List.find?_cons_of_neg (fun h => hs (List.contains_iff_mem.1 h)),
    List.find?_cons_of_pos (List.contains_iff_mem.2 hm)]

end Scaffold.Script
