import Scaffold.Tree.FileTree

/-!
# Trees that grow

What requests for files leave as it is. No request takes anything away or makes a file of a directory,
so a path goes on leading where it led, and only the files that are written have other bytes afterwards.
-/

namespace Scaffold

/-! ## Growth -/

/-- A tree goes on from another one: what stood there still does, as a directory or as a file, and all
files are the same but those with the given names. -/
structure FileTree.Grows (names : List (List String)) (t u : FileTree) : Prop where
  kind_eq : ∀ name node, t.find? name = some node →
    ∃ later, u.find? name = some later ∧ later.kind = node.kind
  file_iff : ∀ name, name ∉ names → ∀ content,
    u.find? name = some (.file content) ↔ t.find? name = some (.file content)

namespace FileTree

variable {t u v : FileTree} {names more : List (List String)} {name : List String}

theorem Grows.refl (t : FileTree) : Grows [] t t where
  kind_eq _ node h := ⟨node, h, rfl⟩
  file_iff _ _ _ := Iff.rfl

theorem Grows.trans (h : Grows names t u) (h' : Grows more u v) : Grows (names ++ more) t v where
  kind_eq name node hn := by
    obtain ⟨mid, hm, hk⟩ := h.kind_eq name node hn
    obtain ⟨last, hl, hk'⟩ := h'.kind_eq name mid hm
    exact ⟨last, hl, hk'.trans hk⟩
  file_iff name hn content := by
    rw [List.mem_append, not_or] at hn
    rw [h'.file_iff name hn.2, h.file_iff name hn.1]

theorem Grows.find?_directory (h : Grows names t u) (hn : t.find? name = some .directory) :
    u.find? name = some .directory := by
  obtain ⟨later, hl, hk⟩ := h.kind_eq name _ hn
  cases later with
  | directory => exact hl
  | file content => cases hk

theorem find?_nil (t : FileTree) : t.find? [] = some .directory := rfl

/-- Only the root is there without having been put there. -/
theorem ne_nil_of_find?_ne (h : t.find? name ≠ some .directory) : name ≠ [] := by
  rintro rfl
  exact h (find?_nil t)

/-- A new directory leaves all files as they are. -/
theorem grows_set_directory (h : t.find? name = none) : Grows [] t (t.set name .directory) := by
  have hne : name ≠ [] := ne_nil_of_find?_ne fun e => by
    rw [h] at e
    cases e
  constructor
  · intro other node hn
    have ho : other ≠ name := by
      rintro rfl
      rw [h] at hn
      cases hn
    exact ⟨node, by rw [find?_set_of_ne t ho, hn], rfl⟩
  · intro other _ content
    by_cases ho : other = name
    · rw [ho, find?_set_self t hne, h]
      constructor <;>
      · intro e
        cases e
    · rw [find?_set_of_ne t ho]

/-- A file that is written leaves the others as they are. -/
theorem grows_set_file (h : t.find? name ≠ some .directory) (content : ByteArray) :
    Grows [name] t (t.set name (.file content)) := by
  have hne := ne_nil_of_find?_ne h
  constructor
  · intro other node hn
    by_cases ho : other = name
    · subst ho
      refine ⟨_, find?_set_self t hne _, ?_⟩
      cases node with
      | directory => exact absurd hn h
      | file old => rfl
    · exact ⟨node, by rw [find?_set_of_ne t ho, hn], rfl⟩
  · intro other ho content'
    rw [find?_set_of_ne t (List.ne_of_not_mem_cons ho)]

/-- What stands under a name can be put there once more. -/
theorem set_eq_self {node : Node} (hne : name ≠ []) (h : t.find? name = some node) :
    t.set name node = t := by
  have hnodes : ∀ nodes : List (List String × Node), nodes.lookup name = some node →
      setNode name node nodes = nodes := by
    intro nodes hl
    induction nodes with
    | nil => cases hl
    | cons entry rest ih =>
      obtain ⟨n, old⟩ := entry
      rw [List.lookup_cons] at hl
      rw [setNode]
      by_cases hn : name = n
      · rw [hn, beq_self_eq_true] at hl
        cases hl
        rw [hn, beq_self_eq_true, if_pos rfl]
      · rw [beq_eq_false_iff_ne.2 hn] at hl
        rw [beq_eq_false_iff_ne.2 (Ne.symm hn), if_neg Bool.false_ne_true, ih hl]
  rw [find?, List.isEmpty_eq_false_iff.2 hne, if_neg Bool.false_ne_true] at h
  rw [set, hnodes t.nodes h]

/-! ## Following paths -/

/-- A way that is there stays there. -/
theorem Grows.follow_eq (h : Grows names t u) {cs : List String} {start m : List String}
    (hf : t.follow start cs = .ok m) : u.follow start cs = .ok m := by
  induction cs generalizing start with
  | nil => exact hf
  | cons c rest ih =>
    rw [follow] at hf
    cases hn : t.find? start with
    | none =>
      rw [hn] at hf
      cases hf
    | some node =>
      rw [hn] at hf
      cases node with
      | file content => cases hf
      | directory =>
        rw [follow, h.find?_directory hn]
        dsimp only at hf ⊢
        split at hf
        next hc =>
          rw [if_pos hc]
          exact ih hf
        next hc =>
          rw [if_neg hc]
          split at hf
          next => cases hf
          next hl =>
            rw [if_neg hl]
            exact ih hf

theorem Grows.nameOf_eq (h : Grows names t u) {start m : List String} {p : Path}
    (hf : t.nameOf start p = .ok m) : u.nameOf start p = .ok m := by
  unfold nameOf at hf ⊢
  split at hf
  next => cases hf
  next hz =>
    rw [if_neg hz]
    split at hf
    next => cases hf
    next hl =>
      rw [if_neg hl]
      exact h.follow_eq hf

/-- A way through a directory goes on from there. -/
theorem follow_append {cs ds start m : List String} (h : t.follow start (cs ++ ds) = .ok m) :
    ∃ b, t.follow start cs = .ok b ∧ t.follow b ds = .ok m := by
  induction cs generalizing start with
  | nil => exact ⟨start, rfl, h⟩
  | cons c rest ih =>
    rw [List.cons_append, follow] at h
    rw [follow]
    cases hn : t.find? start with
    | none =>
      rw [hn] at h
      cases h
    | some node =>
      rw [hn] at h
      cases node with
      | file content => cases h
      | directory =>
        dsimp only at h ⊢
        split at h
        next hc =>
          rw [if_pos hc]
          exact ih h
        next hc =>
          rw [if_neg hc]
          split at h
          next => cases h
          next hl =>
            rw [if_neg hl]
            exact ih h

/-- Components that lead nowhere up are those of the name below the start. -/
theorem follow_eq_append {cs start m : List String} (hu : ".." ∉ cs)
    (h : t.follow start cs = .ok m) : m = start ++ cs := by
  induction cs generalizing start with
  | nil =>
    cases h
    exact (List.append_nil _).symm
  | cons c rest ih =>
    rw [List.mem_cons, not_or] at hu
    rw [follow] at h
    cases hn : t.find? start with
    | none =>
      rw [hn] at h
      cases h
    | some node =>
      rw [hn] at h
      cases node with
      | file content => cases h
      | directory =>
        dsimp only at h
        rw [beq_eq_false_iff_ne.2 (Ne.symm hu.1), if_neg Bool.false_ne_true] at h
        split at h
        next => cases h
        next => rw [ih hu.2 h, List.append_assoc, List.singleton_append]

/-- A path below a root goes on from where the root leads to. -/
theorem follow_of_nameOf_join {start m : List String} {root p : Path} (hp : p.isAbsolute = false)
    (h : t.nameOf start (root.join p) = .ok m) :
    t.follow (if root.isAbsolute then [] else start) (root.components ++ p.components) = .ok m := by
  rw [Path.join, hp, if_neg Bool.false_ne_true] at h
  unfold nameOf at h
  split at h
  next => cases h
  next =>
    split at h
    next => cases h
    next => exact h

/-- Below one root, paths that lead nowhere up have different names if their components differ. -/
theorem ne_of_nameOf {start m n : List String} {root p q : Path} (hp : p.isAbsolute = false)
    (hq : q.isAbsolute = false) (hup : ".." ∉ p.components) (huq : ".." ∉ q.components)
    (hne : p.components ≠ q.components) (hm : t.nameOf start (root.join p) = .ok m)
    (hn : t.nameOf start (root.join q) = .ok n) : m ≠ n := by
  obtain ⟨b, hb, hm⟩ := follow_append (follow_of_nameOf_join hp hm)
  obtain ⟨b', hb', hn⟩ := follow_append (follow_of_nameOf_join hq hn)
  rw [hb] at hb'
  cases hb'
  rw [follow_eq_append hup hm, follow_eq_append huq hn]
  exact fun e => hne (List.append_cancel_left e)

end FileTree

/-! ## Disks -/

namespace Disk

/-- The name that a path leads to on a disk. -/
def nameOf (d : Disk) (p : Path) : Except FileFaultKind (List String) :=
  d.tree.nameOf d.workingDirectory p

/-- A path leads to a directory. -/
def HasDirectory (d : Disk) (p : Path) : Prop :=
  ∃ name, d.nameOf p = .ok name ∧ d.tree.find? name = some .directory

/-- A path leads to a file with these bytes. -/
def HasFile (d : Disk) (p : Path) (content : ByteArray) : Prop :=
  ∃ name, d.nameOf p = .ok name ∧ d.tree.find? name = some (.file content)

/-- The tree of a disk grows, and the working directory stays. -/
structure Grows (names : List (List String)) (d e : Disk) : Prop where
  workingDirectory_eq : e.workingDirectory = d.workingDirectory
  tree : FileTree.Grows names d.tree e.tree

variable {d e f : Disk} {names more : List (List String)} {p : Path}

theorem Grows.refl (d : Disk) : Grows [] d d := ⟨rfl, .refl _⟩

theorem Grows.trans (h : Grows names d e) (h' : Grows more e f) : Grows (names ++ more) d f :=
  ⟨h'.workingDirectory_eq.trans h.workingDirectory_eq, h.tree.trans h'.tree⟩

theorem Grows.nameOf_eq (h : Grows names d e) {name : List String} (hn : d.nameOf p = .ok name) :
    e.nameOf p = .ok name := by
  unfold nameOf at hn ⊢
  rw [h.workingDirectory_eq]
  exact h.tree.nameOf_eq hn

theorem Grows.hasDirectory (h : Grows names d e) (hd : d.HasDirectory p) : e.HasDirectory p := by
  obtain ⟨name, hn, hd⟩ := hd
  exact ⟨name, h.nameOf_eq hn, h.tree.find?_directory hd⟩

/-! ## Requests one by one -/

theorem bind_apply {α β : Type} (x : StateM Disk α) (f : α → StateM Disk β) (d : Disk) :
    (x >>= f) d = f (x d).1 (x d).2 := rfl

/-- A directory is made where nothing stands, or the disk stays as it is. -/
theorem makeDirectory_cases (d : Disk) (p : Path) :
    (∃ name, d.nameOf p = .ok name ∧ d.tree.find? name = none
        ∧ Files.makeDirectory (m := StateM Disk) p d
          = (.ok (), { d with tree := d.tree.set name .directory }))
      ∨ ∃ kind, Files.makeDirectory (m := StateM Disk) p d = (.error ⟨kind, p⟩, d) := by
  show (∃ name, _ ∧ _ ∧ Disk.change p FileTree.makeDirectory d = _)
    ∨ ∃ kind, Disk.change p FileTree.makeDirectory d = _
  unfold change FileTree.makeDirectory nameOf
  cases hn : d.tree.nameOf d.workingDirectory p with
  | error kind => exact .inr ⟨kind, rfl⟩
  | ok name =>
    dsimp only
    cases hf : d.tree.find? name with
    | some node => exact .inr ⟨.taken, rfl⟩
    | none => exact .inl ⟨name, rfl, hf, rfl⟩

theorem entry_eq (d : Disk) (p : Path) : Files.entry (m := StateM Disk) p d
    = ((d.tree.entry d.workingDirectory p).mapError fun kind => ⟨kind, p⟩, d) := rfl

theorem isDirectory_snd (d : Disk) (p : Path) :
    (Files.isDirectory (m := StateM Disk) p d).2 = d := by
  unfold Files.isDirectory
  rw [bind_apply, entry_eq]
  cases (d.tree.entry d.workingDirectory p).mapError fun kind => FileFault.mk kind p <;> rfl

/-- A path is said to lead to a directory only if it does. -/
theorem hasDirectory_of_isDirectory (h : (Files.isDirectory (m := StateM Disk) p d).1 = .ok true) :
    d.HasDirectory p := by
  unfold Files.isDirectory at h
  rw [bind_apply, entry_eq, FileTree.entry] at h
  unfold HasDirectory nameOf
  cases hn : d.tree.nameOf d.workingDirectory p with
  | error kind =>
    rw [hn] at h
    dsimp only [Except.mapError] at h
    split at h <;> cases h
  | ok name =>
    rw [hn] at h
    dsimp only at h
    cases hf : d.tree.find? name with
    | none =>
      rw [hf] at h
      dsimp only [Except.mapError] at h
      split at h <;> cases h
    | some node =>
      rw [hf] at h
      cases node with
      | directory => exact ⟨name, rfl, hf⟩
      | file content => cases h

theorem isDirectory_eq (h : d.HasDirectory p) :
    Files.isDirectory (m := StateM Disk) p d = (.ok true, d) := by
  obtain ⟨name, hn, hf⟩ := h
  unfold nameOf at hn
  unfold Files.isDirectory
  rw [bind_apply, entry_eq, FileTree.entry, hn]
  dsimp only
  rw [hf]
  rfl

/-! ## Making directories -/

/-- A request that makes directories only: the tree grows, and if the request goes well, the path leads
to a directory. -/
def Makes (p : Path) (x : StateM Disk (Except FileFault Unit)) : Prop :=
  ∀ d, Grows [] d (x d).2 ∧ ((x d).1 = .ok () → (x d).2.HasDirectory p)

theorem makes_makeDirectory (p : Path) : Makes p (Files.makeDirectory p) := by
  intro d
  rcases makeDirectory_cases d p with ⟨name, hn, hf, he⟩ | ⟨kind, he⟩
  · rw [he]
    have hg := FileTree.grows_set_directory hf
    have hne : name ≠ [] := FileTree.ne_nil_of_find?_ne fun e => by
      rw [hf] at e
      cases e
    exact ⟨⟨rfl, hg⟩, fun _ => ⟨name, hg.nameOf_eq hn, FileTree.find?_set_self _ hne _⟩⟩
  · rw [he]
    exact ⟨.refl d, fun h => by cases h⟩

theorem makes_pure_error (p : Path) (f : FileFault) : Makes p (pure (.error f)) :=
  fun d => ⟨.refl d, fun h => by cases h⟩

/-- What goes on after a fault. -/
theorem makes_bind {p q : Path} {x : StateM Disk (Except FileFault Unit)}
    {next : Except FileFault Unit → StateM Disk (Except FileFault Unit)} (hx : Makes q x)
    (ho : Makes p (next (.ok ())) ∨ q = p ∧ next (.ok ()) = pure (.ok ()))
    (he : ∀ f, Makes p (next (.error f))) : Makes p (x >>= next) := by
  intro d
  rw [bind_apply]
  obtain ⟨hg, hd⟩ := hx d
  cases hr : (x d).1 with
  | error f =>
    obtain ⟨hg', hd'⟩ := he f (x d).2
    exact ⟨hg.trans hg', hd'⟩
  | ok u =>
    rcases ho with ho | ⟨rfl, ho⟩
    · obtain ⟨hg', hd'⟩ := ho (x d).2
      exact ⟨hg.trans hg', hd'⟩
    · rw [ho]
      exact ⟨hg, fun _ => hd hr⟩

theorem makes_acceptDirectory (p : Path) (f : FileFault) : Makes p (Files.acceptDirectory p f) := by
  unfold Files.acceptDirectory
  split
  · exact makes_pure_error p f
  · intro d
    rw [bind_apply, isDirectory_snd]
    cases hr : (Files.isDirectory (m := StateM Disk) p d).1 with
    | error g => exact ⟨.refl d, fun h => by cases h⟩
    | ok b =>
      cases b with
      | false => exact ⟨.refl d, fun h => by cases h⟩
      | true => exact ⟨.refl d, fun _ => hasDirectory_of_isDirectory hr⟩

theorem makes_ensureDirectory (p : Path) : Makes p (Files.ensureDirectory p) := by
  unfold Files.ensureDirectory
  refine makes_bind (makes_makeDirectory p) (.inr ⟨rfl, rfl⟩) fun f => ?_
  dsimp only
  split
  · exact makes_pure_error p f
  · exact makes_acceptDirectory p f

theorem makes_ensureDirectories (p : Path) (n : Nat) : Makes p (Files.ensureDirectories p n) := by
  induction n generalizing p with
  | zero => exact makes_ensureDirectory p
  | succ n ih =>
    rw [Files.ensureDirectories]
    refine makes_bind (makes_makeDirectory p) (.inr ⟨rfl, rfl⟩) fun f => ?_
    dsimp only
    split
    · exact makes_bind (ih p.parent) (.inl (makes_ensureDirectory p)) fun g => makes_pure_error p g
    · exact makes_acceptDirectory p f

/-! ## Directories that are there -/

/-- Making a directory that is there changes nothing and is no fault. -/
theorem ensureDirectories_eq (h : d.HasDirectory p) (n : Nat) :
    Files.ensureDirectories (m := StateM Disk) p n d = (.ok (), d) := by
  have hm : Files.makeDirectory (m := StateM Disk) p d = (.error ⟨.taken, p⟩, d) := by
    obtain ⟨name, hn, hf⟩ := h
    show Disk.change p FileTree.makeDirectory d = _
    unfold nameOf at hn
    unfold change FileTree.makeDirectory
    rw [hn]
    dsimp only
    rw [hf]
  have ha : Files.acceptDirectory (m := StateM Disk) p ⟨.taken, p⟩ d = (.ok (), d) := by
    show (Files.isDirectory (m := StateM Disk) p >>= _) d = _
    rw [bind_apply, isDirectory_eq h]
    rfl
  cases n with
  | zero =>
    rw [Files.ensureDirectories, Files.ensureDirectory, bind_apply, hm]
    exact ha
  | succ n =>
    rw [Files.ensureDirectories, bind_apply, hm]
    exact ha

end Disk

end Scaffold
