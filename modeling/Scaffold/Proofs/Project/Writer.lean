import Scaffold.Project.Writer
import Scaffold.Proofs.Tree.Growth

/-!
# Where files go, and what is there afterwards

Where a file goes is told by the parts of its path between slashes. A path that begins with a slash and a path
with a step to the directory above are refused; any other one leads below the root, along its parts that name
a step.

Files that were written have their bytes afterwards, if no two of them go to the same place, and no
other file is changed. Writing them once more changes nothing.

* `Path.isAbsolute_ofText_iff`, `Path.components_ofText`: a path told by the characters and the parts of its
  text;
* `Writer.resolve_contained`: where a file goes, for every root and every path;
* `Writer.writeAll_of_no_fault`, `Writer.writeAll_eq_of_settled`: what is there after all files were written,
  and after they were written once more.
-/

namespace Scaffold

namespace Path

/-! ## Paths by their texts -/

/-- The parts of a text between its slashes, the empty ones among them. -/
def slashParts (s : String) : List String := (s.toList.splitOn '/').map String.ofList

/-- A part that names a step: neither empty nor a single dot. -/
def IsNamed (part : String) : Prop := part ≠ "" ∧ part ≠ "."

instance (part : String) : Decidable (IsNamed part) := inferInstanceAs (Decidable (_ ∧ _))

/-- A path starts at the root of the file system exactly if its text begins with a slash. -/
theorem isAbsolute_ofText_iff (s : String) : (ofText s).isAbsolute = true ↔ s.toList.head? = some '/' := by
  rw [ofText, isAbsolute, bne_iff_ne]
  unfold anchorOf
  -- only a text that does not begin with a slash gets to the last case
  split
  next rest h => simp [h]
  next rest _ h => simp [h]
  next rest _ _ h => simp [h]
  next _ _ h =>
    cases hs : s.toList with
    | nil => simp
    | cons c rest =>
      have hc : c ≠ '/' := by
        rintro rfl
        exact h rest hs
      simp [hc]

/-- The parts that the steps of a path are taken from are those between the slashes. -/
theorem partsBetween_eq_splitOn (mark : Char) (cs : List Char) :
    Text.partsBetween mark cs = cs.splitOn mark := by
  have hparts : ∀ part ∈ Text.partsBetween mark cs, mark ∉ part := fun part hp =>
    Text.not_mem_of_mem_partsBetween hp
  have h := List.splitOn_intercalate mark hparts (Text.partsBetween_ne_nil mark cs)
  rwa [Text.intercalate_partsBetween, eq_comm] at h

theorem isStep_iff (part : List Char) : isStep part = true ↔ IsNamed (String.ofList part) := by
  have hempty : String.ofList part = "" ↔ part = [] := @String.ofList_inj part []
  have hdot : String.ofList part = "." ↔ part = ['.'] := @String.ofList_inj part ['.']
  unfold isStep IsNamed
  simp only [Bool.and_eq_true, Bool.not_eq_true', List.isEmpty_eq_false_iff, bne_iff_ne, ne_eq, hempty, hdot]

/-- The components of a path are the parts of its text that name a step, in their order. -/
theorem components_ofText (s : String) : (ofText s).components = (slashParts s).filter (IsNamed ·) := by
  have hstep : ∀ part ∈ s.toList.splitOn '/', isStep part = decide (IsNamed (String.ofList part)) := by
    intro part _
    rw [Bool.eq_iff_iff, isStep_iff, decide_eq_true_iff]
  show ((Text.partsBetween '/' s.toList).filter isStep).map String.ofList = _
  rw [partsBetween_eq_splitOn, List.filter_congr hstep, slashParts, List.filter_map]
  rfl

/-- A step to the directory above is not dropped. -/
theorem mem_components_ofText_iff {s part : String} (h : IsNamed part) :
    part ∈ (ofText s).components ↔ part ∈ slashParts s := by
  rw [components_ofText, List.mem_filter, decide_eq_true_iff]
  exact and_iff_left h

end Path

namespace Writer

open Scaffold.Path (slashParts IsNamed)

/-! ## Where a file goes -/

/-- A file is refused exactly if its path begins with a slash or has a part of two dots. Any other file goes
below the root, along the parts of its path that are neither empty nor a single dot. So what is written stays
below the root: the way to the root comes first, and nothing after it leads up. -/
theorem resolve_contained (root : Path) (a : Artifact) :
    (resolve root a
      = if a.path.toList.head? = some '/' ∨ ".." ∈ slashParts a.path then
          .error (.refused a.path "path escapes the project root")
        else .ok ⟨root.anchor, root.components ++ (slashParts a.path).filter (IsNamed ·)⟩)
      ∧ ∀ target, resolve root a = .ok target →
        target.anchor = root.anchor ∧ ∃ rest, target.components = root.components ++ rest ∧ ".." ∉ rest := by
  -- the test of the writer is on the components of the path, the statement is on the parts of its text
  have hrefused : ((Path.ofText a.path).isAbsolute || (Path.ofText a.path).components.contains parentStep) = true
      ↔ a.path.toList.head? = some '/' ∨ ".." ∈ slashParts a.path := by
    have hnamed : IsNamed parentStep := by decide
    rw [Bool.or_eq_true, Path.isAbsolute_ofText_iff, List.contains_iff_mem,
      Path.mem_components_ofText_iff hnamed]
    rfl
  have heq : resolve root a
      = if a.path.toList.head? = some '/' ∨ ".." ∈ slashParts a.path then
          .error (.refused a.path "path escapes the project root")
        else .ok ⟨root.anchor, root.components ++ (slashParts a.path).filter (IsNamed ·)⟩ := by
    unfold resolve
    dsimp only
    by_cases h : a.path.toList.head? = some '/' ∨ ".." ∈ slashParts a.path
    · rw [if_pos h, if_pos (hrefused.2 h)]
    · have habsolute : ¬ (Path.ofText a.path).isAbsolute = true := fun e =>
        h (.inl ((Path.isAbsolute_ofText_iff a.path).1 e))
      rw [if_neg h, if_neg (mt hrefused.1 h), Path.join, if_neg habsolute, Path.components_ofText]
  refine ⟨heq, fun target ht => ?_⟩
  rw [heq] at ht
  split at ht
  · cases ht
  next h =>
    cases ht
    refine ⟨rfl, _, rfl, fun hm => h (.inr ?_)⟩
    exact (List.mem_filter.1 hm).1

/-- Slashes that are repeated and single dots are passed over on the way below a root. -/
theorem resolve_contained_of_dots :
    resolve (Path.ofText "/home/app/") ⟨"./src//.env/", ""⟩ = .ok (Path.ofText "/home/app/src/.env")
      ∧ ∃ rest, (Path.ofText "/home/app/src/.env").components
        = (Path.ofText "/home/app/").components ++ rest ∧ ".." ∉ rest := by
  have h : resolve (Path.ofText "/home/app/") ⟨"./src//.env/", ""⟩ = .ok (Path.ofText "/home/app/src/.env") := by
    have hkept : ¬ (("./src//.env/".toList.head? = some '/') ∨ ".." ∈ slashParts "./src//.env/") := by
      decide +kernel
    rw [(resolve_contained _ _).1, if_neg hkept]
    exact congrArg Except.ok (by decide +kernel)
  exact ⟨h, ((resolve_contained _ _).2 _ h).2⟩

end Writer

/-! ## Single files -/

namespace Disk

variable {d e : Disk} {names : List (List String)} {p : Path} {content : ByteArray}

/-- A file is written where no directory stands, or the disk stays as it is. -/
theorem write_cases (d : Disk) (p : Path) (content : ByteArray) :
    (∃ name, d.nameOf p = .ok name ∧ d.tree.find? name ≠ some .directory
        ∧ Files.write (m := StateM Disk) p content d
          = (.ok (), { d with tree := d.tree.set name (.file content) }))
      ∨ ∃ kind, Files.write (m := StateM Disk) p content d = (.error ⟨kind, p⟩, d) := by
  show (∃ name, _ ∧ _ ∧ Disk.change p (fun t start q => t.write start q content) d = _)
    ∨ ∃ kind, Disk.change p (fun t start q => t.write start q content) d = _
  unfold change FileTree.write nameOf
  dsimp only
  cases hn : d.tree.nameOf d.workingDirectory p with
  | error kind => exact .inr ⟨kind, rfl⟩
  | ok name =>
    dsimp only
    cases hf : d.tree.find? name with
    | none => exact .inl ⟨name, rfl, fun h => (by cases hf.symm.trans h), rfl⟩
    | some node =>
      cases node with
      | directory => exact .inr ⟨.isADirectory, rfl⟩
      | file old => exact .inl ⟨name, rfl, fun h => (by cases hf.symm.trans h), rfl⟩

/-- A file has these bytes, and it is in a directory. -/
def Settled (d : Disk) (p : Path) (content : ByteArray) : Prop :=
  d.HasDirectory p.parent ∧ d.HasFile p content

/-- A file stays as it is when others are written. -/
theorem Settled.of_grows (h : d.Settled p content) (hg : Grows names d e)
    (hn : ∀ name, e.nameOf p = .ok name → name ∉ names) : e.Settled p content := by
  obtain ⟨hd, name, hp, hf⟩ := h
  have hp' := hg.nameOf_eq hp
  exact ⟨hg.hasDirectory hd, name, hp', (hg.tree.file_iff name (hn name hp') content).2 hf⟩

/-- A file that was put has its bytes, and no other file is changed. -/
theorem put_of_ok (h : (Files.put (m := StateM Disk) p content d).1 = .ok ()) :
    ∃ name, (Files.put (m := StateM Disk) p content d).2.nameOf p = .ok name
      ∧ Grows [name] d (Files.put (m := StateM Disk) p content d).2
      ∧ (Files.put (m := StateM Disk) p content d).2.Settled p content := by
  obtain ⟨hg, hd⟩ := makes_ensureDirectories p.parent p.components.length d
  unfold Files.put at h ⊢
  rw [bind_apply] at h ⊢
  generalize Files.ensureDirectories (m := StateM Disk) p.parent p.components.length d = made at *
  obtain ⟨r, mid⟩ := made
  cases r with
  | error f => cases h
  | ok u =>
    dsimp only at h ⊢
    have hparent := hd rfl
    rcases write_cases mid p content with ⟨name, hn, hf, hw⟩ | ⟨kind, hw⟩
    · rw [hw]
      have hset : Grows [name] mid { mid with tree := mid.tree.set name (.file content) } :=
        ⟨rfl, FileTree.grows_set_file hf content⟩
      have hfound := FileTree.find?_set_self mid.tree (FileTree.ne_nil_of_find?_ne hf) (.file content)
      have hname := hset.nameOf_eq hn
      exact ⟨name, hname, hg.trans hset, hset.hasDirectory hparent, name, hname, hfound⟩
    · rw [hw] at h
      cases h

/-- A file that is there with its bytes can be put once more. -/
theorem put_eq_of_settled (h : d.Settled p content) :
    Files.put (m := StateM Disk) p content d = (.ok (), d) := by
  obtain ⟨hd, name, hn, hf⟩ := h
  have hne : name ≠ [] := FileTree.ne_nil_of_find?_ne fun e => by
    rw [hf] at e
    cases e
  have hw : Files.write (m := StateM Disk) p content d = (.ok (), d) := by
    show Disk.change p (fun t start q => t.write start q content) d = _
    unfold nameOf at hn
    unfold change FileTree.write
    dsimp only
    rw [hn]
    dsimp only
    rw [hf]
    dsimp only
    rw [FileTree.set_eq_self hne hf]
  unfold Files.put
  rw [bind_apply, ensureDirectories_eq hd]
  exact hw

end Disk

/-! ## All files of a run -/

namespace Writer

open Disk (Grows Settled)

/-- Where a file goes below a root. -/
def target (root : Path) (a : Artifact) : Path := root.join (Path.ofText a.path)

/-- The bytes that a file is written with. -/
def bytes (a : Artifact) : ByteArray := Utf8.encode (normalizeContent a.content)

/-- The path of a file leads nowhere out of the project. -/
structure StaysBelow (a : Artifact) : Prop where
  isAbsolute_eq : (Path.ofText a.path).isAbsolute = false
  parentStep_not_mem : parentStep ∉ (Path.ofText a.path).components

/-- Files with different components in their paths. -/
def Apart (a b : Artifact) : Prop :=
  (Path.ofText a.path).components ≠ (Path.ofText b.path).components

/-- A disk after files were written below a root: each has its normal content, and all others are those
that were there before. -/
structure Wrote (root : Path) (files : List Artifact) (before after : Disk) : Prop where
  hasFile : ∀ a ∈ files, after.HasFile (target root a) (bytes a)
  file_iff : ∀ name, (∀ a ∈ files, after.nameOf (target root a) ≠ .ok name) → ∀ content,
    after.tree.find? name = some (.file content) ↔ before.tree.find? name = some (.file content)

variable {root : Path} {a : Artifact} {files : List Artifact} {d : Disk}

theorem StaysBelow.resolve_eq (h : StaysBelow a) (root : Path) :
    resolve root a = .ok (target root a) := by
  have hc : (Path.ofText a.path).components.contains parentStep = false := by
    rw [← Bool.not_eq_true, List.contains_iff_mem]
    exact h.parentStep_not_mem
  unfold resolve
  dsimp only
  rw [h.isAbsolute_eq, hc]
  rfl

/-- A file whose path is accepted is put to its target. -/
theorem write_eq (h : resolve root a = .ok (target root a)) (d : Disk) :
    write (m := StateM Disk) root a d
      = (match (Files.put (m := StateM Disk) (target root a) (bytes a) d).1 with
        | .ok _ => .ok (target root a)
        | .error f => .error (faultOf a f), (Files.put (m := StateM Disk) (target root a) (bytes a) d).2) := by
  unfold write
  rw [h]
  dsimp only
  rw [Disk.bind_apply, ← bytes]
  cases (Files.put (m := StateM Disk) (target root a) (bytes a) d).1 <;> rfl

/-- A file that is written is put to its target. -/
theorem put_of_write {p : Path} (h : StaysBelow a)
    (hw : (write (m := StateM Disk) root a d).1 = .ok p) :
    p = target root a ∧ (Files.put (m := StateM Disk) (target root a) (bytes a) d).1 = .ok ()
      ∧ (write (m := StateM Disk) root a d).2
        = (Files.put (m := StateM Disk) (target root a) (bytes a) d).2 := by
  rw [write_eq (h.resolve_eq root)] at hw ⊢
  dsimp only at hw ⊢
  cases hr : (Files.put (m := StateM Disk) (target root a) (bytes a) d).1 with
  | error f =>
    rw [hr] at hw
    cases hw
  | ok u =>
    rw [hr] at hw
    cases hw
    exact ⟨rfl, rfl, rfl⟩

theorem write_eq_of_settled (h : StaysBelow a) (hs : d.Settled (target root a) (bytes a)) :
    write (m := StateM Disk) root a d = (.ok (target root a), d) := by
  rw [write_eq (h.resolve_eq root), Disk.put_eq_of_settled hs]

/-- Paths below one root that are apart lead to different names. -/
theorem ne_of_apart {b : Artifact} {m n : List String} (ha : StaysBelow a) (hb : StaysBelow b)
    (h : Apart a b) (hm : d.nameOf (target root a) = .ok m) (hn : d.nameOf (target root b) = .ok n) :
    m ≠ n :=
  FileTree.ne_of_nameOf ha.isAbsolute_eq hb.isAbsolute_eq ha.parentStep_not_mem
    hb.parentStep_not_mem h hm hn

/-- Writing goes on with the disk that the first file leaves. -/
theorem writeAll_cons_of_ok {p : Path} (h : (write (m := StateM Disk) root a d).1 = .ok p)
    (rest : List Artifact) :
    writeAll (m := StateM Disk) root (a :: rest) d
      = ({ (writeAll (m := StateM Disk) root rest (write (m := StateM Disk) root a d).2).1 with
            written := p :: (writeAll (m := StateM Disk) root rest (write (m := StateM Disk) root a d).2).1.written },
          (writeAll (m := StateM Disk) root rest (write (m := StateM Disk) root a d).2).2) := by
  rw [writeAll, Disk.bind_apply, h]
  rfl

theorem writeAll_cons_of_error {fault : WriteFault} (h : (write (m := StateM Disk) root a d).1 = .error fault)
    (rest : List Artifact) :
    writeAll (m := StateM Disk) root (a :: rest) d
      = ({ fault := some fault }, (write (m := StateM Disk) root a d).2) := by
  rw [writeAll, Disk.bind_apply, h]
  rfl

/-- After all files were written, each of them has its bytes, and no other file was changed. -/
theorem writeAll_of_no_fault (hb : ∀ a ∈ files, StaysBelow a) (hd : files.Pairwise Apart)
    (h : (writeAll (m := StateM Disk) root files d).1.fault = none) :
    (writeAll (m := StateM Disk) root files d).1.written = files.map (target root)
      ∧ (∀ a ∈ files,
        (writeAll (m := StateM Disk) root files d).2.Settled (target root a) (bytes a))
      ∧ ∃ names, Grows names d (writeAll (m := StateM Disk) root files d).2
        ∧ ∀ n ∈ names, ∃ a ∈ files,
          (writeAll (m := StateM Disk) root files d).2.nameOf (target root a) = .ok n := by
  -- the disk grows with each file; what was settled stays so, because no later file has the same name
  induction files generalizing d with
  | nil =>
    exact ⟨rfl, fun a ha => absurd ha List.not_mem_nil, [], .refl d,
      fun n hn => absurd hn List.not_mem_nil⟩
  | cons a rest ih =>
    rw [List.forall_mem_cons] at hb
    rw [List.pairwise_cons] at hd
    cases hw : (write (m := StateM Disk) root a d).1 with
    | error e =>
      rw [writeAll_cons_of_error hw] at h
      cases h
    | ok p =>
      rw [writeAll_cons_of_ok hw] at h ⊢
      obtain ⟨rfl, hput, he⟩ := put_of_write hb.1 hw
      obtain ⟨name, hname, hgrow, hset⟩ := Disk.put_of_ok hput
      rw [← he] at hname hgrow hset
      generalize (write (m := StateM Disk) root a d).2 = mid at *
      obtain ⟨hwritten, hrest, names, hg, hnames⟩ := ih (d := mid) hb.2 hd.2 h
      dsimp only
      refine ⟨by rw [List.map_cons, ← hwritten], List.forall_mem_cons.2 ⟨?_, hrest⟩, name :: names,
        hgrow.trans hg, List.forall_mem_cons.2 ⟨⟨a, List.mem_cons_self, hg.nameOf_eq hname⟩, ?_⟩⟩
      · refine hset.of_grows hg fun n hn hmem => ?_
        obtain ⟨b, hbm, hbn⟩ := hnames n hmem
        exact ne_of_apart hb.1 (hb.2 b hbm) (hd.1 b hbm) hn hbn rfl
      · intro n hn
        obtain ⟨b, hbm, hbn⟩ := hnames n hn
        exact ⟨b, List.mem_cons_of_mem a hbm, hbn⟩

/-- Files that are all there with their bytes can be written once more. -/
theorem writeAll_eq_of_settled (hb : ∀ a ∈ files, StaysBelow a)
    (h : ∀ a ∈ files, d.Settled (target root a) (bytes a)) :
    writeAll (m := StateM Disk) root files d = ({ written := files.map (target root) }, d) := by
  induction files with
  | nil => rfl
  | cons a rest ih =>
    rw [List.forall_mem_cons] at hb h
    have hw := write_eq_of_settled hb.1 h.1
    rw [writeAll_cons_of_ok (congrArg Prod.fst hw), hw, ih hb.2 h.2]
    rfl

end Writer

end Scaffold
