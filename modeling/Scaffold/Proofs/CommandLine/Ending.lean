import Scaffold.CommandLine.Program
import Scaffold.Proofs.Console.Markup
import Scaffold.Proofs.Options.Answers
import Scaffold.Proofs.Project.Root
import Scaffold.Proofs.Run

/-!
# How the program ends

With arguments that can be read and a definition file that is there, the program is meant to end with
status zero, or to report what is wrong and end with status one. It does so for all faults of collections,
of making files and of writing them. What it does not report are answers that cannot be taken apart, a
search that cannot go on, and what its tools refuse: some faults of a reader of YAML, a stack that is not
deep enough, paths that are no markup, and what the screen does not take.
-/

namespace Scaffold.CommandLine

variable {t : Tools} {s : Settings} {p : Path} {content : ByteArray} {d : Disk}

/-! ## Reported failures -/

/-- The program ends with status zero, or with status one. -/
def Ending.IsOrderly (e : Ending) : Prop := e = .exit 0 ∨ e = .exit 1

theorem isOrderly_zero : (Ending.exit 0).IsOrderly := .inl rfl

theorem isOrderly_stop (text : String) : (Outcome.stop text).ending.IsOrderly := .inr rfl

theorem not_isOrderly_failed (f : Failure) : ¬ (Ending.failed f).IsOrderly := by
  rintro (h | h) <;> cases h

/-- A failure ends the program orderly exactly if there is a message for it. -/
theorem isOrderly_fail_iff (f : Failure) :
    (Outcome.fail f).ending.IsOrderly ↔ f.report? ≠ none := by
  unfold Outcome.fail
  cases f.report? with
  | none => exact ⟨fun h => absurd h (not_isOrderly_failed f), fun h => absurd rfl h⟩
  | some text =>
    constructor
    · intro _ h
      cases h
    · exact fun _ => isOrderly_stop _

/-- The failures of a run without a message. -/
theorem runReport?_eq_none_iff {f : RunFault} : Failure.runReport? f = none ↔
    f = .notAMapping ∨ f = .options .notAMapping ∨ f = .options .notAList := by
  constructor
  · intro h
    cases f with
    | notAMapping => exact .inl rfl
    | options fault =>
      cases fault with
      | invalid faults => cases h
      | notAList => exact .inr (.inr rfl)
      | notAMapping => exact .inr (.inl rfl)
    | schema fault => cases h
    | generation fault => cases h
    | write fault => cases h
  · rintro (rfl | rfl | rfl) <;> rfl

/-- The failures of reading a definition without a message. -/
theorem definitionReport?_eq_none_iff {f : DefinitionFault} : Failure.definitionReport? f = none ↔
    f = .json .surrogate
      ∨ ∃ fault, f = .yaml fault ∧ fault ≠ .malformed ∧ ∀ message, fault ≠ .scalar message := by
  constructor
  · intro h
    cases f with
    | encoding fault => cases h
    | json fault =>
      cases fault with
      | fault kind line column position => cases h
      | digits cause => cases h
      | surrogate => exact .inl rfl
    | yaml fault =>
      refine .inr ⟨fault, rfl, ?_, fun message => ?_⟩ <;>
      · rintro rfl
        cases h
    | shape path kind => cases h
  · rintro (rfl | ⟨fault, rfl, hm, hs⟩)
    · rfl
    · cases fault with
      | malformed => exact absurd rfl hm
      | scalar message => exact absurd rfl (hs message)
      | _ => rfl

/-! ## Running a file -/

/-- A run fails without a message exactly if the options of the definition cannot be taken apart:
collections, files and writing have messages for all of their faults. -/
theorem fails_without_report_iff (s : Settings) (entries : List (Value × Value)) (d : Disk) :
    (∃ f, (Run.onDisk s (.map entries) d).1 = .error f ∧ Failure.runReport? f = none)
      ↔ Options.Unfit ((Value.field? entries Definition.optionsKey).getD .null) := by
  rw [← Options.ofAnswers_unfit_iff]
  constructor
  · rintro ⟨f, hf, hn⟩
    rw [runReport?_eq_none_iff] at hn
    -- the fault is one of options, so it comes from the answers
    rcases Run.onDisk_eq_error hf with hb | rfl | ⟨fault, rfl⟩
    · rcases Run.build_eq_error hb with ⟨he, -⟩ | ⟨_, he, ho⟩ | ⟨_, rfl⟩ | ⟨_, rfl⟩
      · cases he
      · cases he
        obtain ⟨-, fault, ha, rfl⟩ := Run.options_eq_error_iff.1 ho
        rcases hn with hn | hn | hn <;> cases hn
        · exact .inl ha
        · exact .inr ha
      · rcases hn with hn | hn | hn <;> cases hn
      · rcases hn with hn | hn | hn <;> cases hn
    · rcases hn with hn | hn | hn <;> cases hn
    · rcases hn with hn | hn | hn <;> cases hn
  · intro h
    have ht := ((Options.ofAnswers_unfit_iff _).1 h).truthy
    have fails {fault : Options.Fault} (ha : Options.ofAnswers
        ((Value.field? entries Definition.optionsKey).getD .null) = .error fault) :
        (Run.onDisk s (.map entries) d).1 = .error (.options fault) := by
      have ho : Run.options s entries = .error (.options fault) :=
        Run.options_eq_error_iff.2 ⟨ht, fault, ha, rfl⟩
      rw [Run.onDisk_of_error (Run.build_of_options_error rfl ho)]
    rcases h with ha | ha
    · exact ⟨_, fails ha, rfl⟩
    · exact ⟨_, fails ha, rfl⟩

/-- The texts in a definition file are made of characters: reading does not come upon a surrogate that
stands alone. -/
def IsMadeOfCharacters (t : Tools) (p : Path) (content : ByteArray) : Prop :=
  ∀ f, Definition.read t.readYaml p content = .error f → f ≠ .json .surrogate ∧ f ≠ .yaml .surrogate

/-- What a definition file can hold that ends the program without a message. -/
inductive Unreported (t : Tools) (p : Path) (content : ByteArray) : Prop
  /-- The stack is not deep enough for it. -/
  | stack (h : t.hasStackFor p content = false)
  /-- Reading YAML fails though no rule is broken and no scalar is without a value. -/
  | yaml {fault : Yaml.Fault} (h : Definition.read t.readYaml p content = .error (.yaml fault))
      (hm : fault ≠ .malformed) (hs : ∀ message, fault ≠ .scalar message)
  /-- The options cannot be taken apart. -/
  | options {entries : List (Value × Value)} (h : Definition.read t.readYaml p content = .ok entries)
      (hu : Options.Unfit ((Value.field? entries Definition.optionsKey).getD .null))

section

variable (hstack : t.hasStackFor p content = true)

include hstack

/-- A file that cannot be read as a definition. -/
theorem unreported_iff_of_error (hc : IsMadeOfCharacters t p content) {f : DefinitionFault}
    (h : Definition.read t.readYaml p content = .error f) :
    Unreported t p content ↔ Failure.definitionReport? f = none := by
  rw [definitionReport?_eq_none_iff, or_iff_right (hc f h).1]
  constructor
  · rintro (hn | ⟨hy, hm, hs⟩ | ⟨ho, -⟩)
    · cases hstack.symm.trans hn
    · rw [h] at hy
      cases hy
      exact ⟨_, rfl, hm, hs⟩
    · cases h.symm.trans ho
  · rintro ⟨fault, rfl, hm, hs⟩
    exact .yaml h hm hs

/-- A file that is read as a definition. -/
theorem unreported_iff_of_ok {entries : List (Value × Value)}
    (h : Definition.read t.readYaml p content = .ok entries) : Unreported t p content
      ↔ Options.Unfit ((Value.field? entries Definition.optionsKey).getD .null) := by
  constructor
  · rintro (hn | ⟨hy, -, -⟩ | ⟨ho, hu⟩)
    · cases hstack.symm.trans hn
    · cases h.symm.trans hy
    · rw [h] at ho
      cases ho
      exact hu
  · exact fun hu => .options h hu

end

/-- A file ends the program orderly unless it holds what has no message. -/
theorem isOrderly_runFile_iff (h : d.HasFile p content) (hc : IsMadeOfCharacters t p content) (s : Settings) :
    (runFile (m := StateM Disk) t s p d).1.ending.IsOrderly ↔ ¬ Unreported t p content := by
  unfold runFile
  rw [Disk.bind_apply, Disk.read_of_hasFile h]
  dsimp only
  by_cases hstack : t.hasStackFor p content = true
  · rw [if_pos hstack]
    cases hr : Definition.read t.readYaml p content with
    | error f =>
      rw [unreported_iff_of_error hstack hc hr]
      exact isOrderly_fail_iff (.definition f)
    | ok entries =>
      dsimp only
      rw [unreported_iff_of_ok hstack hr, ← fails_without_report_iff s entries d, Disk.bind_apply]
      unfold Run.onDisk
      dsimp only
      rcases Run.run (m := StateM Disk) s Assembly.stages (.map entries) d with ⟨⟨log, f | r⟩, after⟩
      · refine (isOrderly_fail_iff (.run f)).trans (not_congr ⟨fun hn => ⟨f, rfl, hn⟩, ?_⟩)
        rintro ⟨_, he, hn⟩
        cases he
        exact hn
      · constructor
        · rintro - ⟨_, he, -⟩
          cases he
        · exact fun _ => isOrderly_zero
  · rw [if_neg hstack]
    rw [Bool.not_eq_true] at hstack
    exact ⟨fun ho => absurd ho (not_isOrderly_failed _), fun hu => absurd (.stack hstack) hu⟩

/-! ## Finding the project -/

/-- The program goes on with a project, or with none if it is only to tell what it would do. -/
def GoesOnWith (s : Settings) (d : Disk) (root : Option Path) : Prop :=
  (findProject (m := StateM Disk) s d).1 = .ok root ∧ (root = none → s.dryRun = true)

/-- The program ends without a message. -/
inductive Escapes (t : Tools) (s : Settings) (p : Path) (content : ByteArray) (d : Disk) : Prop
  /-- The search for a project comes upon something it cannot look at. -/
  | search {fault : FileFault} (h : (findProject (m := StateM Disk) s d).1 = .error fault)
  /-- The paths of the definition and the project are shown as markup, which they are not. -/
  | panel {root : Option Path} (hr : GoesOnWith s d root) {fault : Console.MarkupFault}
      (h : t.showMarkup (headerMarkup p root) = .error fault)
  /-- The definition file holds what has no message. -/
  | definition {root : Option Path} (hr : GoesOnWith s d root) (h : Unreported t p content)

theorem asks_findProject (s : Settings) : Disk.Asks (findProject s) := by
  unfold findProject
  cases s.projectRoot with
  | some root => exact Disk.asks_pure _
  | none => exact ProjectRoot.asks_find _

/-- A definition file is run after a panel that shows the paths. -/
theorem isOrderly_runShown_iff (h : d.HasFile p content) (hc : IsMadeOfCharacters t p content) (s : Settings)
    (root : Option Path) : (runShown (m := StateM Disk) t.showingAll s p root d).1.ending.IsOrderly
      ↔ (∀ fault, t.showMarkup (headerMarkup p root) ≠ .error fault) ∧ ¬ Unreported t p content := by
  unfold runShown header Tools.showingAll
  cases hm : t.showMarkup (headerMarkup p root) with
  | error fault =>
    constructor
    · exact fun ho => absurd ho (not_isOrderly_failed _)
    · exact fun ⟨hne, _⟩ => absurd rfl (hne fault)
  | ok text =>
    refine (isOrderly_runFile_iff h hc { s with projectRoot := root }).trans ⟨fun hu => ⟨?_, hu⟩, And.right⟩
    intro fault he
    cases he

/-- Paths without opening brackets are shown. -/
theorem exists_shownText_headerMarkup (p : Path) (root : Option Path) (hp : '[' ∉ p.toText.toList)
    (hr : '[' ∉ ((root.map Path.toText).getD "(dry run)").toList) :
    ∃ text, Console.shownText (headerMarkup p root) = .ok text := by
  have he : headerMarkup p root = String.ofList
      ('[' :: 'b' :: "old bright_cyan".toList ++ ']' :: ("totigen".toList
        ++ ('[' :: '/' :: 'b' :: "old bright_cyan".toList ++ ']' :: ("\nDefinition : ".toList
          ++ p.toText.toList ++ "\nProject    : ".toList
          ++ ((root.map Path.toText).getD "(dry run)").toList)))) := by
    rw [← String.toList_inj, String.toList_ofList]
    unfold headerMarkup
    rw [String.toList_append, String.toList_append, String.toList_append]
    rfl
  rw [he]
  refine Console.exists_shownText_of_styled rfl (by decide) rfl rfl (by decide) rfl ?_
  rw [List.mem_append, List.mem_append, List.mem_append]
  rintro (((h | h) | h) | h)
  · exact absurd h (by decide)
  · exact hp h
  · exact absurd h (by decide)
  · exact hr h

/-- The program goes on with one project only. -/
theorem GoesOnWith.eq {root other : Option Path} (h : GoesOnWith s d root)
    (ho : GoesOnWith s d other) : root = other := by
  have he := h.1.symm.trans ho.1
  cases he
  rfl

/-- Once a project is found, what is left to go wrong is the panel and the definition. -/
theorem escapes_iff {root : Option Path} (hg : GoesOnWith s d root) : Escapes t s p content d ↔
    (∃ fault, t.showMarkup (headerMarkup p root) = .error fault) ∨ Unreported t p content := by
  constructor
  · rintro (hf | ⟨hr, hm⟩ | ⟨-, hu⟩)
    · rw [hg.1] at hf
      cases hf
    · cases hg.eq hr
      exact .inl ⟨_, hm⟩
    · exact .inr hu
  · rintro (⟨fault, hm⟩ | hu)
    · exact .panel hg hm
    · exact .definition hg hu

/-- A definition file that is there is run for the project that is found. -/
theorem isOrderly_runProject_iff (h : d.HasFile p content) (hc : IsMadeOfCharacters t p content) (s : Settings) :
    (runProject (m := StateM Disk) t.showingAll s p d).1.ending.IsOrderly ↔ ¬ Escapes t s p content d := by
  have hshown {root : Option Path} (hg : GoesOnWith s d root) :
      (runShown (m := StateM Disk) t.showingAll s p root d).1.ending.IsOrderly ↔ ¬ Escapes t s p content d := by
    rw [isOrderly_runShown_iff h hc, escapes_iff hg, not_or, not_exists]
  unfold runProject
  rw [Disk.bind_apply, asks_findProject s d]
  cases hf : (findProject (m := StateM Disk) s d).1 with
  | error fault =>
    constructor
    · exact fun ho => absurd ho (not_isOrderly_failed _)
    · exact fun he => absurd (.search hf) he
  | ok root =>
    cases root with
    | some root => exact hshown ⟨hf, fun hn => by cases hn⟩
    | none =>
      dsimp only
      by_cases hs : s.dryRun = true
      · rw [if_pos hs]
        exact hshown ⟨hf, fun _ => hs⟩
      · rw [if_neg hs]
        -- the program says that there is no project, whatever the definition holds
        have hstops (root : Option Path) : ¬ GoesOnWith s d root := by
          rintro ⟨hr, hd⟩
          rw [hf] at hr
          cases hr
          exact hs (hd rfl)
        refine ⟨fun _ => ?_, fun _ => isOrderly_stop _⟩
        rintro (he | ⟨hr, -⟩ | ⟨hr, -⟩)
        · rw [hf] at he
          cases he
        · exact hstops _ hr
        · exact hstops _ hr

/-! ## The screen -/

/-- A screen leaves an orderly ending as it is exactly if it takes all that is shown. -/
theorem isOrderly_shownBy_iff (o : Outcome) :
    (o.shownBy t).ending.IsOrderly ↔ o.ending.IsOrderly ∧ ∀ e ∈ o.events, t.shows e = true := by
  rw [← List.all_eq_true]
  unfold Outcome.shownBy
  split
  next hall => exact (and_iff_left hall).symm
  next hall => exact ⟨fun ho => absurd ho (not_isOrderly_failed _), fun ho => absurd ho.2 hall⟩

theorem shownBy_showingAll (o : Outcome) : o.shownBy t.showingAll = o :=
  if_pos (List.all_eq_true.2 fun _ _ => rfl)

/-- The panel is the only thing that is shown before a run. A screen that refuses it ends the program before
the run, and otherwise the run is the same on every screen. -/
theorem isOrderly_runShown_shownBy_iff (s : Settings) (p : Path) (root : Option Path) (d : Disk) :
    ((runShown (m := StateM Disk) t s p root d).1.shownBy t).ending.IsOrderly
      ↔ (runShown (m := StateM Disk) t.showingAll s p root d).1.ending.IsOrderly
        ∧ ∀ e ∈ (runShown (m := StateM Disk) t.showingAll s p root d).1.events, t.shows e = true := by
  have hheader : header t.showingAll p root = header t p root := rfl
  have hfile (s : Settings) : runFile (m := StateM Disk) t.showingAll s p = runFile t s p := rfl
  rw [isOrderly_shownBy_iff]
  unfold runShown
  rw [hheader]
  cases header t p root with
  | error f => exact Iff.rfl
  | ok panel =>
    dsimp only
    rw [if_pos (show t.showingAll.shows panel = true from rfl), hfile]
    by_cases hpanel : t.shows panel = true
    · rw [if_pos hpanel]
    · rw [if_neg hpanel]
      constructor
      · exact fun ho => absurd ho.1 (not_isOrderly_failed _)
      · exact fun ho => absurd (ho.2 panel List.mem_cons_self) hpanel

/-- What holds of a run behind its panel holds of the whole program: before the panel there is only the
search, which shows nothing but that there is no project. -/
theorem isOrderly_runProject_shownBy_iff (s : Settings) (p : Path) (d : Disk) :
    ((runProject (m := StateM Disk) t s p d).1.shownBy t).ending.IsOrderly
      ↔ (runProject (m := StateM Disk) t.showingAll s p d).1.ending.IsOrderly
        ∧ ∀ e ∈ (runProject (m := StateM Disk) t.showingAll s p d).1.events, t.shows e = true := by
  unfold runProject
  rw [Disk.bind_apply, Disk.bind_apply]
  rcases findProject (m := StateM Disk) s d with ⟨(fault | _ | root), after⟩
  · exact isOrderly_shownBy_iff _
  · dsimp only
    split
    · exact isOrderly_runShown_shownBy_iff s p none after
    · exact isOrderly_shownBy_iff _
  · exact isOrderly_runShown_shownBy_iff s p (some root) after

/-! ## The program -/

section

variable {arguments : List String} {a : Arguments}

/-- With arguments that can be read, the program runs with the settings that they ask for. -/
theorem program_of_parse (ha : parse arguments = .ok a) (t : Tools) (env : Environment) (d : Disk) :
    (program (m := StateM Disk) t arguments env d).1.ending
        = ((runSettings (m := StateM Disk) t (settings a env) d).1.shownBy t).ending
      ∧ (program (m := StateM Disk) t arguments env d).1.events
        = ((runSettings (m := StateM Disk) t (settings a env) d).1.shownBy t).events := by
  unfold program
  rw [ha]
  exact ⟨rfl, rfl⟩

theorem runSettings_eq (hp : s.definitionPath = some p) (h : d.HasFile p content) (t : Tools) :
    runSettings (m := StateM Disk) t s d = runProject (m := StateM Disk) t s p d := by
  unfold runSettings
  rw [hp]
  dsimp only
  rw [Disk.bind_apply, Disk.exists?_of_hasFile h]

end

/-- A disk with one file in its root. -/
def diskWith (name text : String) : Disk := { tree := ⟨[([name], .file text.toUTF8)]⟩ }

/-- The answers in the bytes of a definition file. -/
def answersIn (p : Path) (content : ByteArray) : Option Value :=
  (Definition.read Tools.standard.readYaml p content).toOption.map fun entries =>
    (Value.field? entries Definition.optionsKey).getD .null

/-- A file with answers that pass a test is read, and so its texts are made of characters. -/
theorem exists_read_of_answersIn (test : Value → Bool) (h : (answersIn p content).any test = true) :
    IsMadeOfCharacters .standard p content
      ∧ ∃ entries, Definition.read Tools.standard.readYaml p content = .ok entries
        ∧ test ((Value.field? entries Definition.optionsKey).getD .null) = true := by
  unfold answersIn at h
  unfold IsMadeOfCharacters
  cases hr : Definition.read Tools.standard.readYaml p content with
  | error f =>
    rw [hr] at h
    cases h
  | ok entries =>
    rw [hr] at h
    exact ⟨fun f hf => (nomatch hf), entries, rfl, h⟩

end Scaffold.CommandLine
