import Mathlib.Data.List.Forall2
import Scaffold.Proofs.Project.Writer

/-!
# Writing up to a fault

Files are written in their order, each to the name that its path leads to. A file that is refused leaves all
files as they are and ends the writing, so that the files on the disk are always those of a first part of
the list, and where several of them go to one name, the last one is there.

* `Writer.write_of_ok`, `Writer.write_of_error`: what writing one file does to the files of a disk;
* `Writer.writeAll_append`: a list with a file that is refused;
* `Writer.writeAll_up_to_fault`: the files of a disk after any list was written, with and without a fault.
-/

namespace Scaffold

/-! ## Names of places -/

/-- The name that a path leads to from a directory, if all of the way is there. -/
def Path.nameFrom (start : List String) (p : Path) : List String :=
  p.components.foldl (fun name c => if c == ".." then name.dropLast else name ++ [c])
    (if p.isAbsolute then [] else start)

namespace FileTree

variable {t : FileTree} {start m : List String}

/-- What stands on the way does not matter for where it leads. -/
theorem eq_foldl_of_follow {cs : List String} (h : t.follow start cs = .ok m) :
    m = cs.foldl (fun name c => if c == ".." then name.dropLast else name ++ [c]) start := by
  induction cs generalizing start with
  | nil =>
    cases h
    rfl
  | cons c rest ih =>
    rw [follow] at h
    rw [List.foldl_cons]
    split at h
    next => cases h
    next => cases h
    next =>
      split at h
      next hc =>
        rw [if_pos hc]
        exact ih h
      next hc =>
        rw [if_neg hc]
        split at h
        next => cases h
        next => exact ih h

theorem eq_nameFrom_of_nameOf {p : Path} (h : t.nameOf start p = .ok m) : m = p.nameFrom start := by
  unfold nameOf at h
  split at h
  next => cases h
  next =>
    split at h
    next => cases h
    next => exact eq_foldl_of_follow h

end FileTree

/-! ## Files of a disk -/

namespace Disk

variable {d e : Disk} {names : List (List String)} {name : List String}

/-- The bytes of the file with a name. -/
def file? (d : Disk) (name : List String) : Option ByteArray :=
  match d.tree.find? name with
  | some (.file content) => some content
  | _ => none

theorem file?_eq_some_iff {content : ByteArray} :
    d.file? name = some content ↔ d.tree.find? name = some (.file content) := by
  unfold file?
  split
  next h => rw [h, Option.some.injEq, Option.some.injEq, Node.file.injEq]
  next hnone =>
    constructor
    · exact nofun
    · exact fun h => absurd h (hnone content)

/-- A tree that grows keeps all files but those that were put there. -/
theorem Grows.file?_eq (h : Grows names d e) (hn : name ∉ names) : e.file? name = d.file? name := by
  apply Option.ext
  intro content
  rw [file?_eq_some_iff, file?_eq_some_iff]
  exact h.tree.file_iff name hn content

/-- What was refused may have made directories, and nothing else. -/
theorem grows_of_put_error {p : Path} {content : ByteArray} {f : FileFault}
    (h : (Files.put (m := StateM Disk) p content d).1 = .error f) :
    Grows [] d (Files.put (m := StateM Disk) p content d).2 := by
  obtain ⟨hgrows, -⟩ := makes_ensureDirectories p.parent p.components.length d
  unfold Files.put at h ⊢
  rw [bind_apply] at h ⊢
  generalize Files.ensureDirectories (m := StateM Disk) p.parent p.components.length d = made at *
  obtain ⟨r, mid⟩ := made
  cases r with
  | error g => exact hgrows
  | ok u =>
    dsimp only at h hgrows ⊢
    rcases write_cases mid p content with ⟨name, -, -, hw⟩ | ⟨kind, hw⟩
    · rw [hw] at h
      cases h
    · rw [hw]
      exact hgrows

end Disk

namespace Writer

variable {root : Path} {a : Artifact} {files : List Artifact} {d e : Disk} {name : List String}

/-! ## One file -/

/-- The name of the place of a file on a disk. -/
def place (root : Path) (d : Disk) (a : Artifact) : List String := (target root a).nameFrom d.workingDirectory

theorem resolve_cases (root : Path) (a : Artifact) :
    resolve root a = .ok (target root a)
      ∨ resolve root a = .error (.refused a.path "path escapes the project root") := by
  unfold resolve
  dsimp only
  split
  · exact .inr rfl
  · exact .inl rfl

/-- A file that is written is where its path leads, and all others stay as they are. -/
theorem write_of_ok {p : Path} (h : (write (m := StateM Disk) root a d).1 = .ok p) :
    resolve root a = .ok p
      ∧ (write (m := StateM Disk) root a d).2.workingDirectory = d.workingDirectory
      ∧ ∀ name, (write (m := StateM Disk) root a d).2.file? name
        = if place root d a = name then some (bytes a) else d.file? name := by
  rcases resolve_cases root a with hr | hr
  · rw [write_eq hr] at h ⊢
    dsimp only at h ⊢
    cases hput : (Files.put (m := StateM Disk) (target root a) (bytes a) d).1 with
    | error f =>
      rw [hput] at h
      cases h
    | ok u =>
      rw [hput] at h
      cases h
      obtain ⟨name, hname, hgrows, -, found, hfound, hfile⟩ := Disk.put_of_ok hput
      generalize (Files.put (m := StateM Disk) (target root a) (bytes a) d).2 = after at *
      cases hname.symm.trans hfound
      have hplace : name = place root d a := by
        rw [FileTree.eq_nameFrom_of_nameOf hname, hgrows.workingDirectory_eq]
        rfl
      subst hplace
      refine ⟨hr, hgrows.workingDirectory_eq, fun other => ?_⟩
      split
      next hn => exact hn ▸ Disk.file?_eq_some_iff.2 hfile
      next hn => exact hgrows.file?_eq fun hm => hn (List.mem_singleton.1 hm).symm
  · unfold write at h
    rw [hr] at h
    cases h

/-- A file that is refused changes no file, and the fault names its path. -/
theorem write_of_error {fault : WriteFault} (h : (write (m := StateM Disk) root a d).1 = .error fault) :
    (∀ name, (write (m := StateM Disk) root a d).2.file? name = d.file? name)
      ∧ ∀ path cause, fault = .refused path cause → path = a.path := by
  rcases resolve_cases root a with hr | hr
  · rw [write_eq hr] at h ⊢
    dsimp only at h ⊢
    cases hput : (Files.put (m := StateM Disk) (target root a) (bytes a) d).1 with
    | ok u =>
      rw [hput] at h
      cases h
    | error f =>
      rw [hput] at h
      cases h
      refine ⟨fun name => (Disk.grows_of_put_error hput).file?_eq List.not_mem_nil, fun path cause he => ?_⟩
      unfold faultOf at he
      split at he
      · cases he
      · cases he
        rfl
  · unfold write at h ⊢
    rw [hr] at h ⊢
    cases h
    refine ⟨fun name => rfl, fun path cause he => ?_⟩
    cases he
    rfl

/-! ## Lists of files -/

/-- The bytes under a name after files were written in their order: those of the last file that goes there,
or what was there before. -/
def bytesAfter (root : Path) (files : List Artifact) (d : Disk) (name : List String) : Option ByteArray :=
  ((files.reverse.find? fun a => place root d a == name).map bytes).or (d.file? name)

/-- The first file comes before the others, and these decide as if it had been there before. -/
theorem bytesAfter_cons (hd : e.workingDirectory = d.workingDirectory)
    (hf : e.file? name = if place root d a = name then some (bytes a) else d.file? name) :
    bytesAfter root files e name = bytesAfter root (a :: files) d name := by
  have hplace : ∀ b, place root e b = place root d b := fun b => by rw [place, place, hd]
  unfold bytesAfter
  simp only [hplace, List.reverse_cons, List.find?_append]
  cases files.reverse.find? fun b => place root d b == name with
  | some b => rfl
  | none =>
    rw [hf]
    by_cases hn : place root d a = name <;> simp [hn]

/-- Without a fault all files are written, each to the place that it goes to. -/
theorem written_of_no_fault (h : (writeAll (m := StateM Disk) root files d).1.fault = none) :
    List.Forall₂ (fun a p => resolve root a = .ok p) files (writeAll (m := StateM Disk) root files d).1.written
      ∧ ∀ name, (writeAll (m := StateM Disk) root files d).2.file? name = bytesAfter root files d name := by
  induction files generalizing d with
  | nil => exact ⟨.nil, fun name => rfl⟩
  | cons a rest ih =>
    cases hw : (write (m := StateM Disk) root a d).1 with
    | error fault =>
      rw [writeAll_cons_of_error hw] at h
      cases h
    | ok p =>
      rw [writeAll_cons_of_ok hw] at h ⊢
      obtain ⟨hresolve, hdirectory, hfiles⟩ := write_of_ok hw
      obtain ⟨hwritten, hrest⟩ := ih h
      exact ⟨.cons hresolve hwritten,
        fun name => (hrest name).trans (bytesAfter_cons hdirectory (hfiles name))⟩

/-- A file that is refused ends the writing: the files before it are written, and those after it do not
matter. -/
theorem writeAll_append {before : List Artifact} {fault : WriteFault}
    (hb : (writeAll (m := StateM Disk) root before d).1.fault = none)
    (hw : (write (m := StateM Disk) root a (writeAll (m := StateM Disk) root before d).2).1 = .error fault)
    (rest : List Artifact) :
    writeAll (m := StateM Disk) root (before ++ a :: rest) d
      = ({ (writeAll (m := StateM Disk) root before d).1 with fault := some fault },
          (write (m := StateM Disk) root a (writeAll (m := StateM Disk) root before d).2).2) := by
  induction before generalizing d with
  | nil => exact writeAll_cons_of_error hw rest
  | cons b before ih =>
    cases hfirst : (write (m := StateM Disk) root b d).1 with
    | error other =>
      rw [writeAll_cons_of_error hfirst] at hb
      cases hb
    | ok p =>
      rw [writeAll_cons_of_ok hfirst] at hb hw
      rw [List.cons_append, writeAll_cons_of_ok hfirst, writeAll_cons_of_ok hfirst, ih hb hw]

/-- A fault is that of the first file that is refused. -/
theorem exists_refused {fault : WriteFault}
    (h : (writeAll (m := StateM Disk) root files d).1.fault = some fault) :
    ∃ before a rest, files = before ++ a :: rest
      ∧ (writeAll (m := StateM Disk) root before d).1.fault = none
      ∧ (write (m := StateM Disk) root a (writeAll (m := StateM Disk) root before d).2).1 = .error fault := by
  induction files generalizing d with
  | nil => cases h
  | cons a rest ih =>
    cases hw : (write (m := StateM Disk) root a d).1 with
    | error other =>
      rw [writeAll_cons_of_error hw] at h
      cases h
      exact ⟨[], a, rest, rfl, rfl, hw⟩
    | ok p =>
      rw [writeAll_cons_of_ok hw] at h
      obtain ⟨before, b, others, rfl, hb, hfault⟩ := ih h
      refine ⟨a :: before, b, others, rfl, ?_, ?_⟩
      · rw [writeAll_cons_of_ok hw]
        exact hb
      · rw [writeAll_cons_of_ok hw]
        exact hfault

/-- After a list of files was written without a fault, each file was written to the place that it goes to, and
the disk has what the last of them put under each name, besides the files from before. A fault is that of
one file of the list and has its path; the files of the disk are then those of the list in front of this file,
which are written without a fault, and what follows the file does not matter. -/
theorem writeAll_up_to_fault (root : Path) (files : List Artifact) (d : Disk) :
    ((writeAll (m := StateM Disk) root files d).1.fault = none →
      List.Forall₂ (fun a p => resolve root a = .ok p) files
          (writeAll (m := StateM Disk) root files d).1.written
        ∧ ∀ name, (writeAll (m := StateM Disk) root files d).2.file? name = bytesAfter root files d name)
      ∧ ∀ fault, (writeAll (m := StateM Disk) root files d).1.fault = some fault →
        ∃ before a rest, files = before ++ a :: rest
          ∧ (writeAll (m := StateM Disk) root before d).1.fault = none
          ∧ (write (m := StateM Disk) root a (writeAll (m := StateM Disk) root before d).2).1 = .error fault
          ∧ (∀ path cause, fault = .refused path cause → path = a.path)
          ∧ (∀ others, writeAll (m := StateM Disk) root (before ++ a :: others) d
            = writeAll (m := StateM Disk) root files d)
          ∧ ∀ name, (writeAll (m := StateM Disk) root files d).2.file? name
              = (writeAll (m := StateM Disk) root before d).2.file? name
            ∧ (writeAll (m := StateM Disk) root files d).2.file? name = bytesAfter root before d name := by
  refine ⟨written_of_no_fault, fun fault h => ?_⟩
  obtain ⟨before, a, rest, rfl, hb, hw⟩ := exists_refused h
  obtain ⟨hkept, hpath⟩ := write_of_error hw
  have hstop := writeAll_append hb hw
  refine ⟨before, a, rest, rfl, hb, hw, hpath, fun others => by rw [hstop, hstop], fun name => ?_⟩
  rw [hstop]
  exact ⟨hkept name, (hkept name).trans ((written_of_no_fault hb).2 name)⟩

/-- Two files that go to one name, and a third one that would lie below this name. -/
theorem writeAll_below_a_file :
    let root : Path := ⟨.relative, ["out"]⟩
    let twice : List Artifact := [⟨"a.js", "one"⟩, ⟨"./a.js", " two\n\n"⟩]
    let files : List Artifact := twice ++ [⟨"a.js/b.js", "three"⟩, ⟨"c.js", "four"⟩]
    let fault : WriteFault := .refused "a.js/b.js" "[Errno 17] File exists: 'out/a.js'"
    (writeAll (m := StateM Disk) root twice {}).1.fault = none
      ∧ (writeAll (m := StateM Disk) root twice {}).2.file? ["out", "a.js"]
        = bytesAfter root twice {} ["out", "a.js"]
      ∧ (bytesAfter root twice {} ["out", "a.js"]).map ByteArray.data
        = some #[0x74, 0x77, 0x6F, 0x0A]
      ∧ (writeAll (m := StateM Disk) root files {}).1.fault = some fault
      ∧ ∃ before a rest, files = before ++ a :: rest ∧ a.path = "a.js/b.js"
        ∧ ∀ name, (writeAll (m := StateM Disk) root files {}).2.file? name
          = bytesAfter root before {} name := by
  intro root twice files fault
  have htwice : (writeAll (m := StateM Disk) root twice {}).1.fault = none := by decide +kernel
  have hfault : (writeAll (m := StateM Disk) root files {}).1.fault = some fault := by decide +kernel
  obtain ⟨before, a, rest, hsplit, -, -, hpath, -, hbytes⟩ :=
    (writeAll_up_to_fault root files {}).2 fault hfault
  exact ⟨htwice, ((writeAll_up_to_fault root twice {}).1 htwice).2 _, by decide +kernel, hfault, before, a,
    rest, hsplit, (hpath _ _ rfl).symm, fun name => (hbytes name).2⟩

end Writer

end Scaffold
