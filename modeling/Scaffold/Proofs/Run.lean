import Scaffold.Proofs.Assembly.Outcome
import Scaffold.Proofs.Project.Writer
import Scaffold.Run

/-!
# What a run does to the files that are there

A run makes everything before it writes anything, so a run that cannot make its files leaves all files
as they are, and so does a dry run. A run that writes puts every file it made at its place and leaves
all other files alone. Doing it again changes nothing.
-/

namespace Scaffold

/-! ## Files that can be written side by side -/

namespace Assembly

open Layout

variable {all : List Collection} {o : Options} {files : List Artifact}

/-- The files of a run stay below the root they are written to. -/
theorem staysBelow (h : Collection.AreNormal all) (hf : assemble stages all o = .ok files) :
    ∀ a ∈ files, Writer.StaysBelow a := by
  intro a ha
  have hl := leadsToFile_of_mem h (assemble_eq_ok_iff.1 hf).1 ha
  exact ⟨isAbsolute_ofText hl, parentStep_not_mem hl⟩

/-- No file of a run is written over another one. -/
theorem pairwise_apart (h : Collection.AreNormal all) (hf : assemble stages all o = .ok files) :
    files.Pairwise Writer.Apart := by
  have hc := (assemble_eq_ok_iff.1 hf).1
  have hn := nodup_foldedParts h hc
  unfold List.Nodup at hn
  rw [List.pairwise_map] at hn
  refine List.Pairwise.imp_of_mem (fun {a b} ha hb hne e => hne ?_) hn
  rw [← map_fold_components (leadsToFile_of_mem h hc ha), e,
    map_fold_components (leadsToFile_of_mem h hc hb)]

end Assembly

namespace Run

variable {s : Settings} {stages : List Stage} {definition : Value} {files : List Artifact}
  {r : Report} {d : Disk}

/-! ## Making files -/

/-- The files that a definition makes, whatever becomes of them. -/
def made (o : Options) (stages : List Stage) (definition : Value) :
    Except RunFault (List Artifact) :=
  (build { options := o } stages definition).2.map Prod.fst

/-- Where files are written to does not matter to what they are. -/
theorem made_eq (s : Settings) (stages : List Stage) (definition : Value) :
    made s.options stages definition = (build s stages definition).2.map Prod.fst := by
  unfold made build
  cases definition.entries? with
  | none => rfl
  | some entries =>
    dsimp only
    rw [show options { options := s.options } entries = options s entries from rfl]
    cases options s entries with
    | error e => rfl
    | ok o =>
      dsimp only
      unfold buildWith
      rcases intake o (collections entries) with ⟨log, e | ⟨all, warnings⟩⟩
      · rfl
      · dsimp only
        cases Assembly.assemble stages all o <;> rfl

/-- Files that are made come from collections that were read, and their paths are reported. -/
theorem build_eq_ok (h : (build s stages definition).2 = .ok (files, r)) :
    r.artifacts = files.map Artifact.path ∧ ∃ o raw notes all,
      Intake.read o.identityNames raw = (notes, .ok all)
        ∧ Assembly.assemble stages all o = .ok files := by
  -- there is a result only if no step failed
  unfold build at h
  cases he : definition.entries? with
  | none =>
    rw [he] at h
    cases h
  | some entries =>
    rw [he] at h
    dsimp only at h
    cases ho : options s entries with
    | error e =>
      rw [ho] at h
      cases h
    | ok o =>
      rw [ho] at h
      dsimp only at h
      rcases hr : Intake.read o.identityNames (collections entries) with ⟨notes, e | all⟩
      · rw [buildWith, intake, hr] at h
        cases h
      · rw [buildWith, intake, hr] at h
        dsimp only [Except.map] at h
        cases ha : Assembly.assemble stages all o with
        | error e =>
          rw [ha] at h
          cases h
        | ok made =>
          rw [ha] at h
          cases h
          exact ⟨rfl, o, _, notes, all, hr, ha⟩

/-- Only the answers of a definition can be refused as options. -/
theorem options_eq_error_iff {entries : List (Value × Value)} {e : RunFault} :
    options s entries = .error e ↔
      ((Value.field? entries Definition.optionsKey).getD .null).truthy = true
        ∧ ∃ f, Options.ofAnswers ((Value.field? entries Definition.optionsKey).getD .null) = .error f
          ∧ e = .options f := by
  unfold options
  dsimp only
  -- answers that count as false are not looked at, and the options of the settings are taken
  by_cases ht : ((Value.field? entries Definition.optionsKey).getD .null).truthy = true
  · rw [if_pos ht]
    cases Options.ofAnswers ((Value.field? entries Definition.optionsKey).getD .null) with
    | error f =>
      constructor
      · intro h
        cases h
        exact ⟨ht, f, rfl, rfl⟩
      · rintro ⟨-, _, hf, rfl⟩
        cases hf
        rfl
    | ok o =>
      constructor
      · intro h
        cases h
      · rintro ⟨-, _, hf, -⟩
        cases hf
  · rw [if_neg ht]
    constructor
    · intro h
      cases h
    · rintro ⟨h, -⟩
      exact absurd h ht

/-- The faults that making files can have. -/
theorem build_eq_error {e : RunFault} (h : (build s stages definition).2 = .error e) :
    (definition.entries? = none ∧ e = .notAMapping)
      ∨ (∃ entries, definition.entries? = some entries ∧ options s entries = .error e)
      ∨ (∃ f, e = .schema f) ∨ ∃ f, e = .generation f := by
  -- the order of the steps is the order of the faults: mapping, options, collections, files
  unfold build at h
  cases he : definition.entries? with
  | none =>
    rw [he] at h
    cases h
    exact .inl ⟨rfl, rfl⟩
  | some entries =>
    rw [he] at h
    dsimp only at h
    cases ho : options s entries with
    | error f =>
      rw [ho] at h
      cases h
      exact .inr (.inl ⟨entries, rfl, ho⟩)
    | ok o =>
      rw [ho] at h
      dsimp only at h
      unfold buildWith at h
      rcases hi : intake o (collections entries) with ⟨log, f | ⟨all, warnings⟩⟩
      · rw [hi] at h
        cases h
        exact .inr (.inr (.inl ⟨f, rfl⟩))
      · rw [hi] at h
        dsimp only at h
        cases ha : Assembly.assemble stages all o with
        | error f =>
          rw [ha] at h
          cases h
          exact .inr (.inr (.inr ⟨f, rfl⟩))
        | ok files =>
          rw [ha] at h
          cases h

/-- Nothing is made with options that are refused. -/
theorem build_of_options_error {entries : List (Value × Value)} {e : RunFault}
    (he : definition.entries? = some entries) (ho : options s entries = .error e) :
    (build s stages definition).2 = .error e := by
  unfold build
  rw [he]
  dsimp only
  rw [ho]

/-- Nothing is written while files are made, so no fault of making them is one of writing. -/
theorem build_ne_write (f : WriteFault) : (build s stages definition).2 ≠ .error (.write f) := by
  intro h
  rcases build_eq_error h with ⟨-, he⟩ | ⟨entries, -, ho⟩ | ⟨_, he⟩ | ⟨_, he⟩
  · cases he
  · obtain ⟨-, _, -, he⟩ := options_eq_error_iff.1 ho
    cases he
  · cases he
  · cases he

/-! ## Runs on a disk -/

/-- What a run comes to on a disk, with the disk afterwards. -/
def onDisk (s : Settings) (definition : Value) (d : Disk) : Except RunFault Report × Disk :=
  let done := run (m := StateM Disk) s Assembly.stages definition d
  (done.1.2, done.2)

/-- A run that cannot make its files ends there. -/
theorem onDisk_of_error {e : RunFault} (h : (build s Assembly.stages definition).2 = .error e)
    (d : Disk) : onDisk s definition d = (.error e, d) := by
  unfold onDisk run
  rcases hb : build s Assembly.stages definition with ⟨log, result⟩
  rw [hb] at h
  dsimp only at h
  rw [h]
  rfl

/-- A run that has made its files goes on to write them. -/
theorem onDisk_of_ok (h : (build s Assembly.stages definition).2 = .ok (files, r)) (d : Disk) :
    onDisk s definition d
      = ((finish (m := StateM Disk) s (files, r) d).1.2,
        (finish (m := StateM Disk) s (files, r) d).2) := by
  unfold onDisk run
  rcases hb : build s Assembly.stages definition with ⟨log, result⟩
  rw [hb] at h
  dsimp only at h
  rw [h]
  rfl

/-- A dry run reports the files that were made. -/
theorem onDisk_of_dryRun (hs : s.dryRun = true)
    (h : (build s Assembly.stages definition).2 = .ok (files, r)) (d : Disk) :
    onDisk s definition d = (.ok r, d) := by
  rw [onDisk_of_ok h, finish, if_pos hs]
  rfl

/-- Without a root, nothing is written. -/
theorem onDisk_of_no_root (hs : s.dryRun = false) (hp : s.projectRoot = none)
    (h : (build s Assembly.stages definition).2 = .ok (files, r)) (d : Disk) :
    onDisk s definition d = (.error (.generation noProjectRoot), d) := by
  rw [onDisk_of_ok h, finish, hs, if_neg Bool.false_ne_true, hp]
  rfl

/-- Below a root, all files are written. -/
theorem onDisk_of_root {root : Path} (hs : s.dryRun = false) (hp : s.projectRoot = some root)
    (h : (build s Assembly.stages definition).2 = .ok (files, r)) (d : Disk) :
    onDisk s definition d
      = ((match (Writer.writeAll (m := StateM Disk) root files d).1.fault with
        | some fault => .error (.write fault)
        | none => .ok { r with
            written := (Writer.writeAll (m := StateM Disk) root files d).1.written.map Path.toText }),
        (Writer.writeAll (m := StateM Disk) root files d).2) := by
  rw [onDisk_of_ok h, finish, hs, if_neg Bool.false_ne_true, hp]
  rfl

/-- The ways a run can go. -/
theorem onDisk_cases (s : Settings) (definition : Value) (d : Disk) :
    (∃ e, (∀ fault, e ≠ .write fault) ∧ onDisk s definition d = (.error e, d))
      ∨ (∃ files r, s.dryRun = true ∧ (build s Assembly.stages definition).2 = .ok (files, r)
        ∧ onDisk s definition d = (.ok r, d))
      ∨ ∃ root files r, s.dryRun = false ∧ s.projectRoot = some root
        ∧ (build s Assembly.stages definition).2 = .ok (files, r) := by
  cases hb : (build s Assembly.stages definition).2 with
  | error e =>
    refine .inl ⟨e, fun fault he => ?_, onDisk_of_error hb d⟩
    rw [he] at hb
    exact build_ne_write fault hb
  | ok b =>
    obtain ⟨files, r⟩ := b
    cases hs : s.dryRun with
    | true => exact .inr (.inl ⟨files, r, rfl, rfl, onDisk_of_dryRun hs hb d⟩)
    | false =>
      cases hp : s.projectRoot with
      | none =>
        refine .inl ⟨.generation noProjectRoot, fun fault he => ?_, onDisk_of_no_root hs hp hb d⟩
        cases he
      | some root => exact .inr (.inr ⟨root, files, r, rfl, rfl, rfl⟩)

/-- A run fails because its files cannot be made, because there is no place for them, or because one of
them cannot be written. -/
theorem onDisk_eq_error {e : RunFault} (h : (onDisk s definition d).1 = .error e) :
    (build s Assembly.stages definition).2 = .error e ∨ e = .generation noProjectRoot
      ∨ ∃ fault, e = .write fault := by
  cases hb : (build s Assembly.stages definition).2 with
  | error f =>
    rw [onDisk_of_error hb] at h
    cases h
    exact .inl rfl
  | ok b =>
    obtain ⟨files, r⟩ := b
    cases hs : s.dryRun with
    | true =>
      rw [onDisk_of_dryRun hs hb] at h
      cases h
    | false =>
      cases hp : s.projectRoot with
      | none =>
        rw [onDisk_of_no_root hs hp hb] at h
        cases h
        exact .inr (.inl rfl)
      | some root =>
        rw [onDisk_of_root hs hp hb] at h
        dsimp only at h
        split at h
        · cases h
          exact .inr (.inr ⟨_, rfl⟩)
        · cases h

/-! ## What becomes of the files -/

/-- A run that fails before it writes leaves the disk as it is. -/
theorem onDisk_snd_of_fails {e : RunFault} (h : (onDisk s definition d).1 = .error e)
    (hw : ∀ fault, e ≠ .write fault) : (onDisk s definition d).2 = d := by
  rcases onDisk_cases s definition d with ⟨_, -, he⟩ | ⟨files, r, -, -, he⟩ | ⟨root, files, r, hs, hp, hb⟩
  · rw [he]
  · rw [he]
  · rw [onDisk_of_root hs hp hb] at h
    dsimp only at h
    split at h
    · cases h
      exact absurd rfl (hw _)
    · cases h

/-- A dry run leaves the disk as it is. -/
theorem onDisk_snd_of_dryRun (hs : s.dryRun = true) : (onDisk s definition d).2 = d := by
  rcases onDisk_cases s definition d with ⟨_, -, he⟩ | ⟨files, r, -, -, he⟩ | ⟨root, files, r, hf, -⟩
  · rw [he]
  · rw [he]
  · rw [hs] at hf
    cases hf

/-- What a run that succeeds reports to have made, it has made. -/
theorem made_of_succeeds (h : (onDisk s definition d).1 = .ok r) :
    ∃ files, made s.options Assembly.stages definition = .ok files
      ∧ r.artifacts = files.map Artifact.path := by
  rcases onDisk_cases s definition d with ⟨e, -, he⟩ | ⟨files, rep, -, hb, he⟩
    | ⟨root, files, rep, hs, hp, hb⟩
  · rw [he] at h
    cases h
  · rw [he] at h
    cases h
    exact ⟨files, by rw [made_eq, hb]; rfl, (build_eq_ok hb).1⟩
  · refine ⟨files, by rw [made_eq, hb]; rfl, ?_⟩
    rw [onDisk_of_root hs hp hb] at h
    dsimp only at h
    split at h
    · cases h
    · cases h
      exact (build_eq_ok hb).1

/-- A dry run makes what any run makes. -/
theorem onDisk_of_made (hs : s.dryRun = true)
    (h : made s.options Assembly.stages definition = .ok files) :
    ∃ r, (∀ d, onDisk s definition d = (.ok r, d)) ∧ r.artifacts = files.map Artifact.path := by
  rw [made_eq] at h
  cases hb : (build s Assembly.stages definition).2 with
  | error e =>
    rw [hb] at h
    cases h
  | ok b =>
    rw [hb] at h
    cases h
    exact ⟨b.2, onDisk_of_dryRun hs hb, (build_eq_ok hb).1⟩

/-- After a run that writes, every file is at its place below the root, no other file was changed, and
the same run finds everything as it leaves it. -/
theorem onDisk_of_succeeds (hs : s.dryRun = false) (h : (onDisk s definition d).1 = .ok r) :
    ∃ root files, s.projectRoot = some root
      ∧ made s.options Assembly.stages definition = .ok files
      ∧ r.artifacts = files.map Artifact.path
      ∧ r.written = files.map (fun a => (Writer.target root a).toText)
      ∧ Writer.Wrote root files d (onDisk s definition d).2
      ∧ onDisk s definition (onDisk s definition d).2 = (.ok r, (onDisk s definition d).2) := by
  rcases onDisk_cases s definition d with ⟨e, -, he⟩ | ⟨files, rep, ht, -⟩
    | ⟨root, files, rep, -, hp, hb⟩
  · rw [he] at h
    cases h
  · rw [hs] at ht
    cases ht
  · obtain ⟨hpaths, o, raw, notes, all, hr, ha⟩ := build_eq_ok hb
    have hn := Intake.areNormal_of_read hr
    have hbelow := Assembly.staysBelow hn ha
    rw [onDisk_of_root hs hp hb] at h ⊢
    dsimp only at h ⊢
    cases hf : (Writer.writeAll (m := StateM Disk) root files d).1.fault with
    | some fault =>
      rw [hf] at h
      cases h
    | none =>
      rw [hf] at h
      cases h
      -- the second run finds every file settled, so that writing it again changes nothing
      obtain ⟨hw, hset, names, hg, hnames⟩ :=
        Writer.writeAll_of_no_fault hbelow (Assembly.pairwise_apart hn ha) hf
      refine ⟨root, files, hp, by rw [made_eq, hb]; rfl, hpaths, by rw [hw, List.map_map]; rfl,
        ⟨fun a hm => (hset a hm).2, fun name hfree content => hg.tree.file_iff name ?_ content⟩, ?_⟩
      · intro hm
        obtain ⟨a, hma, hna⟩ := hnames name hm
        exact hfree a hma hna
      · rw [onDisk_of_root hs hp hb, Writer.writeAll_eq_of_settled hbelow hset, hw]

/-- A run that fails before it writes leaves the disk as it is, and so does a dry run. After a run that
writes, every file it made is below the root with its normal content, all other files are those that
were there before, the places are reported in the order of the files, and the same run leaves
everything as it is. A dry run reports the same files. -/
theorem onDisk_keeps_or_writes (s : Settings) (definition : Value) (d : Disk) :
    (∀ e, (onDisk s definition d).1 = .error e → (∀ fault, e ≠ .write fault) →
        (onDisk s definition d).2 = d)
      ∧ (s.dryRun = true → (onDisk s definition d).2 = d)
      ∧ (s.dryRun = false → ∀ r, (onDisk s definition d).1 = .ok r →
        ∃ root files, s.projectRoot = some root
          ∧ made s.options Assembly.stages definition = .ok files
          ∧ r.artifacts = files.map Artifact.path
          ∧ r.written = r.artifacts.map (fun path => (root.join (Path.ofText path)).toText)
          ∧ Writer.Wrote root files d (onDisk s definition d).2
          ∧ onDisk s definition (onDisk s definition d).2 = (.ok r, (onDisk s definition d).2))
      ∧ ∀ (dry : Settings) r, dry.options = s.options → dry.dryRun = true →
        (onDisk s definition d).1 = .ok r →
          ∃ plan, (∀ other, onDisk dry definition other = (.ok plan, other))
            ∧ plan.artifacts = r.artifacts := by
  refine ⟨fun e => onDisk_snd_of_fails, onDisk_snd_of_dryRun, fun hs r h => ?_,
    fun dry r ho hd h => ?_⟩
  · obtain ⟨root, files, hp, hm, ha, hw, hrest⟩ := onDisk_of_succeeds hs h
    exact ⟨root, files, hp, hm, ha, by rw [hw, ha, List.map_map]; rfl, hrest⟩
  · obtain ⟨files, hm, ha⟩ := made_of_succeeds h
    rw [← ho] at hm
    rw [ha]
    exact onDisk_of_made hd hm

/-- Books are made in a project that has notes and an old module. The notes are kept, and what is not even a
mapping changes nothing. -/
theorem onDisk_keeps_notes :
    let s : Settings := { projectRoot := some ⟨.root, ["app"]⟩, options := { landing := false } }
    let books := Value.map [(.text "collections", .list [Intake.declaration "book" [("title", "string")]])]
    let notes : ByteArray := Utf8.encode "to read"
    let d : Disk := { tree := ⟨[(["app"], .directory), (["app", "notes.txt"], .file notes),
      (["app", "src"], .directory), (["app", "src", "firebase.js"], .file (Utf8.encode "old"))]⟩ }
    (onDisk s .null d).2 = d
      ∧ (onDisk { s with dryRun := true } books d).2 = d
      ∧ ∃ (r plan : Report) (files : List Artifact), (onDisk s books d).1 = .ok r
        ∧ r.artifacts = ["src/firebase.js", "src/stores/appStore/collectionSupport.js",
          "src/stores/appStore/actions/book.js", "src/stores/appStore/index.js",
          "src/validators/validateBook.js", "src/views/book/Create.vue", "src/views/book/Edit.vue",
          "src/router/index.js", "src/views/HomeView.vue"]
        ∧ made s.options Assembly.stages books = .ok files
        ∧ r.artifacts = files.map Artifact.path
        ∧ r.written = r.artifacts.map ("/app/" ++ ·)
        ∧ (∀ a ∈ files, (onDisk s books d).2.HasFile (Writer.target ⟨.root, ["app"]⟩ a) (Writer.bytes a))
        ∧ (onDisk s books d).2.tree.find? ["app", "notes.txt"] = some (.file notes)
        ∧ onDisk s books (onDisk s books d).2 = (.ok r, (onDisk s books d).2)
        ∧ onDisk { s with dryRun := true } books d = (.ok plan, d)
        ∧ plan.artifacts = r.artifacts := by
  intro s books notes d
  have hr : (onDisk s books d).1.toOption.map Report.artifacts
      = some ["src/firebase.js", "src/stores/appStore/collectionSupport.js",
          "src/stores/appStore/actions/book.js", "src/stores/appStore/index.js",
          "src/validators/validateBook.js", "src/views/book/Create.vue", "src/views/book/Edit.vue",
          "src/router/index.js", "src/views/HomeView.vue"] := by
    decide +kernel
  cases h : (onDisk s books d).1 with
  | error e =>
    rw [h] at hr
    cases hr
  | ok r =>
    rw [h] at hr
    have hpaths := Option.some.inj hr
    obtain ⟨-, -, hwrites, hdry⟩ := onDisk_keeps_or_writes s books d
    obtain ⟨root, files, hroot, hmade, hfiles, hwritten, hwrote, hagain⟩ := hwrites rfl r h
    cases hroot
    obtain ⟨plan, hplan, ha⟩ := hdry { s with dryRun := true } r rfl rfl h
    refine ⟨(onDisk_keeps_or_writes s .null d).1 .notAMapping rfl fun fault he => (by cases he),
      (onDisk_keeps_or_writes { s with dryRun := true } books d).2.1 rfl,
      r, plan, files, rfl, hpaths, hmade, hfiles, ?written, hwrote.hasFile, ?notes, hagain, hplan d, ha⟩
    case written =>
      rw [hwritten, hpaths]
      decide +kernel
    case notes =>
      -- the notes are at the place of none of the files
      have hplaces : ∀ path ∈ r.artifacts, (Path.ofText path).isAbsolute = false
          ∧ ".." ∉ (Path.ofText path).components
          ∧ ["app", "notes.txt"] ≠ ["app"] ++ (Path.ofText path).components := by
        rw [hpaths]
        decide +kernel
      refine (hwrote.file_iff ["app", "notes.txt"] (fun a hm hname => ?_) notes).2 rfl
      obtain ⟨hbelow, hup, hother⟩ := hplaces a.path (hfiles ▸ List.mem_map_of_mem hm)
      exact hother (FileTree.follow_eq_append hup (FileTree.follow_of_nameOf_join hbelow hname))

end Run

end Scaffold
