import Scaffold.Proofs.Assembly.Catalogue

/-!
# Hooks of a run

A run goes through the hooks of its stages: for each stage first the one for all collections together, then
the one for each collection. If all of them return, the files of the run are what the stages make on their
own, one after the other, unless two files have one path. Else the first hook that fails decides how the run
ends.
-/

namespace Scaffold

/-! ## Repeated texts -/

namespace Text

/-- The first text of a list that comes up earlier in it. -/
def IsFirstRepeated (s : String) (l : List String) : Prop :=
  ∃ before after, l = before ++ s :: after ∧ before.Nodup ∧ s ∈ before

/-- The search for a repetition stops at the first text that came up before it or was seen. -/
theorem firstRepeated_eq_some_iff {seen l : List String} {s : String} :
    firstRepeated seen l = some s ↔ ∃ before after, l = before ++ s :: after ∧ before.Nodup
      ∧ (∀ t ∈ before, t ∉ seen) ∧ (s ∈ before ∨ s ∈ seen) := by
  -- The texts that were seen grow from step to step: the first text of a list is among them for the rest.
  induction l generalizing seen with
  | nil =>
    refine ⟨nofun, ?_⟩
    rintro ⟨before, after, h, -⟩
    cases before <;> cases h
  | cons t rest ih =>
    rw [firstRepeated]
    by_cases ht : t ∈ seen
    · rw [if_pos (List.contains_iff_mem.2 ht), Option.some.injEq]
      constructor
      · rintro rfl
        exact ⟨[], rest, rfl, List.nodup_nil, fun u hu => absurd hu List.not_mem_nil, .inr ht⟩
      · rintro ⟨before, after, h, -, hseen, -⟩
        cases before with
        | nil => exact (List.cons.inj h).1
        | cons u others =>
          cases h
          exact absurd ht (hseen t List.mem_cons_self)
    · rw [if_neg (mt List.contains_iff_mem.1 ht), ih]
      constructor
      · rintro ⟨before, after, rfl, hn, hseen, hs⟩
        have htn : t ∉ before := fun hm => hseen t hm List.mem_cons_self
        refine ⟨t :: before, after, rfl, List.nodup_cons.2 ⟨htn, hn⟩,
          List.forall_mem_cons.2 ⟨ht, fun u hu hm => hseen u hu (List.mem_cons_of_mem t hm)⟩, ?_⟩
        rw [List.mem_cons] at hs ⊢
        tauto
      · rintro ⟨before, after, h, hn, hseen, hs⟩
        cases before with
        | nil =>
          cases h
          exact absurd (hs.resolve_left List.not_mem_nil) ht
        | cons u others =>
          cases h
          obtain ⟨htn, hn⟩ := List.nodup_cons.1 hn
          refine ⟨others, after, rfl, hn, fun u hu hm => ?_, ?_⟩
          · rcases List.mem_cons.1 hm with rfl | hm
            · exact htn hu
            · exact hseen u (List.mem_cons_of_mem t hu) hm
          · rw [List.mem_cons] at hs ⊢
            tauto

theorem isFirstRepeated_iff {s : String} {l : List String} :
    IsFirstRepeated s l ↔ firstRepeated [] l = some s := by
  rw [firstRepeated_eq_some_iff, IsFirstRepeated]
  simp only [List.not_mem_nil, not_false_eq_true, implies_true, true_and, or_false]

/-- Texts that are not all different have a first one that comes up again. -/
theorem exists_isFirstRepeated {l : List String} (h : ¬ l.Nodup) : ∃ s, IsFirstRepeated s l := by
  simp only [isFirstRepeated_iff]
  refine Option.ne_none_iff_exists'.1 fun e => h ?_
  exact (firstRepeated_eq_none_iff.1 e).1

end Text

/-! ## Stages on their own -/

/-- What a stage makes for collections: the files for each of them, in their order. -/
theorem Stage.forEach_eq_ok_iff {s : Stage} {all some : List Collection} {o : Options}
    {files : List Artifact} :
    s.forEach all o some = .ok files ↔ ∃ each,
      List.Forall₂ (fun c own => s.forCollection c all o = .ok own) some each ∧ files = each.flatten := by
  -- the collections of the run stay fixed while those that are gone through become fewer
  induction some generalizing files with
  | nil =>
    constructor
    · intro h
      cases h
      exact ⟨[], .nil, rfl⟩
    · rintro ⟨each, h, rfl⟩
      cases h
      rfl
  | cons c rest ih =>
    rw [Stage.forEach]
    constructor
    · intro h
      cases hc : s.forCollection c all o with
      | error e =>
        rw [hc] at h
        cases h
      | ok own =>
        rw [hc] at h
        cases hr : s.forEach all o rest with
        | error e =>
          rw [hr] at h
          cases h
        | ok others =>
          rw [hr] at h
          cases h
          obtain ⟨each, heach, rfl⟩ := ih.1 hr
          exact ⟨own :: each, .cons hc heach, rfl⟩
    · rintro ⟨each, h, rfl⟩
      cases h with
      | cons hc hrest =>
        rw [hc, ih.2 ⟨_, hrest, rfl⟩]
        rfl

/-- The files of a stage: first those for all collections together, then those for each collection in the
order of the collections. -/
def Stage.Gives (s : Stage) (all : List Collection) (o : Options) (files : List Artifact) : Prop :=
  ∃ together each, s.shared all o = .ok together
    ∧ List.Forall₂ (fun c own => s.forCollection c all o = .ok own) all each
    ∧ files = together ++ each.flatten

theorem Stage.generate_eq_ok_iff {s : Stage} {all : List Collection} {o : Options}
    {files : List Artifact} : s.generate all o = .ok files ↔ s.Gives all o files := by
  rw [Stage.generate]
  constructor
  · intro h
    cases hs : s.shared all o with
    | error e =>
      rw [hs] at h
      cases h
    | ok together =>
      rw [hs] at h
      cases hr : s.forEach all o all with
      | error e =>
        rw [hr] at h
        cases h
      | ok others =>
        rw [hr] at h
        cases h
        obtain ⟨each, heach, rfl⟩ := Stage.forEach_eq_ok_iff.1 hr
        exact ⟨together, each, hs, heach, rfl⟩
  · rintro ⟨together, each, hs, heach, rfl⟩
    rw [hs, Stage.forEach_eq_ok_iff.2 ⟨each, heach, rfl⟩]
    rfl

namespace Assembly

/-! ## Hooks -/

/-- A hook of a stage: the one for all collections together, or the one for a collection. -/
inductive Hook where
  | shared (s : Stage)
  | forCollection (s : Stage) (c : Collection)

/-- The hooks of stages in the order of a run. -/
def hooks (stages : List Stage) (all : List Collection) : List Hook :=
  stages.flatMap fun s => .shared s :: all.map (.forCollection s)

namespace Hook

/-- What a hook returns, or why it fails. -/
def outcome (all : List Collection) (o : Options) : Hook → Except StageFault (List Artifact)
  | shared s => s.shared all o
  | forCollection s c => s.forCollection c all o

/-- The failure of a run at a hook. A failure that knows its place keeps it if the hook is for all
collections together; every other failure gets the place of the hook. -/
def report : Hook → StageFault → GenerationFault
  | shared _, .placed fault => fault
  | shared s, fault => ⟨s.name, none, fault.message⟩
  | forCollection s c, fault => ⟨s.name, some c.camelName, fault.message⟩

/-- A hook does not fail. -/
def Returns (all : List Collection) (o : Options) (hook : Hook) : Prop :=
  ∃ files, hook.outcome all o = .ok files

/-- The first hook of a list that fails, and why. -/
def FailsFirst (all : List Collection) (o : Options) (hooks : List Hook) (hook : Hook)
    (fault : StageFault) : Prop :=
  ∃ before after, hooks = before ++ hook :: after ∧ (∀ h ∈ before, h.Returns all o)
    ∧ hook.outcome all o = .error fault

end Hook

section

variable {all : List Collection} {o : Options}

/-! ## Runs without a failure -/

theorem concatenate_forCollection_eq_ok_iff {s : Stage} {some : List Collection} {files : List Artifact} :
    concatenate (some.map (forCollection s all o)) = .ok files ↔ s.forEach all o some = .ok files := by
  rw [Stage.forEach_eq_ok_iff]
  induction some generalizing files with
  | nil =>
    constructor
    · intro h
      cases h
      exact ⟨[], .nil, rfl⟩
    · rintro ⟨each, h, rfl⟩
      cases h
      rfl
  | cons c rest ih =>
    rw [List.map_cons, concatenate_cons_eq_ok_iff]
    constructor
    · rintro ⟨own, others, hc, hr, rfl⟩
      obtain ⟨each, heach, rfl⟩ := ih.1 hr
      exact ⟨own :: each, .cons (mapError_eq_ok_iff.1 hc) heach, rfl⟩
    · rintro ⟨each, h, rfl⟩
      cases h with
      | cons hc hrest => exact ⟨_, _, mapError_eq_ok_iff.2 hc, ih.2 ⟨_, hrest, rfl⟩, rfl⟩

/-- A run gets from a stage what the stage makes on its own. -/
theorem concatenate_runStage_eq_ok_iff {s : Stage} {files : List Artifact} :
    concatenate (runStage all o s) = .ok files ↔ s.generate all o = .ok files := by
  rw [runStage, concatenate_cons_eq_ok_iff, Stage.generate_eq_ok_iff]
  constructor
  · rintro ⟨together, others, hs, hr, rfl⟩
    obtain ⟨each, heach, rfl⟩ := Stage.forEach_eq_ok_iff.1 (concatenate_forCollection_eq_ok_iff.1 hr)
    exact ⟨together, each, mapError_eq_ok_iff.1 hs, heach, rfl⟩
  · rintro ⟨together, each, hs, heach, rfl⟩
    exact ⟨together, each.flatten, mapError_eq_ok_iff.2 hs,
      concatenate_forCollection_eq_ok_iff.2 (Stage.forEach_eq_ok_iff.2 ⟨each, heach, rfl⟩), rfl⟩

/-- Without a failure a run puts together what its stages make on their own. -/
theorem concatenate_flatMap_runStage_eq_ok_iff {stages : List Stage} {files : List Artifact} :
    concatenate (stages.flatMap (runStage all o)) = .ok files ↔ ∃ own,
      List.Forall₂ (fun s made => s.generate all o = .ok made) stages own ∧ files = own.flatten := by
  induction stages generalizing files with
  | nil =>
    constructor
    · intro h
      cases h
      exact ⟨[], .nil, rfl⟩
    · rintro ⟨own, h, rfl⟩
      cases h
      rfl
  | cons s rest ih =>
    rw [List.flatMap_cons, concatenate_append_eq_ok_iff]
    constructor
    · rintro ⟨first, second, hf, hr, rfl⟩
      obtain ⟨own, hown, rfl⟩ := ih.1 hr
      exact ⟨first :: own, .cons (concatenate_runStage_eq_ok_iff.1 hf) hown, rfl⟩
    · rintro ⟨own, h, rfl⟩
      cases h with
      | cons hs hrest =>
        exact ⟨_, _, concatenate_runStage_eq_ok_iff.2 hs, ih.2 ⟨_, hrest, rfl⟩, rfl⟩

theorem exists_concatenate_eq {rs : List (Except GenerationFault (List Artifact))}
    (h : ∀ r ∈ rs, ∃ files, r = .ok files) : ∃ files, concatenate rs = .ok files := by
  induction rs with
  | nil => exact ⟨[], rfl⟩
  | cons r rest ih =>
    obtain ⟨⟨own, hr⟩, hrest⟩ := List.forall_mem_cons.1 h
    obtain ⟨others, ho⟩ := ih hrest
    exact ⟨own ++ others, concatenate_cons_eq_ok_iff.2 ⟨own, others, hr, ho, rfl⟩⟩

/-! ## The first failure -/

/-- What a run puts together are the results of its hooks, with their failures reported. -/
theorem flatMap_runStage_eq (stages : List Stage) :
    stages.flatMap (runStage all o)
      = (hooks stages all).map fun hook => (hook.outcome all o).mapError hook.report := by
  rw [hooks, List.map_flatMap]
  refine congrArg (stages.flatMap ·) (funext fun s => ?_)
  rw [runStage, List.map_cons, List.map_map, shared]
  have hreport : sharedFault s = (Hook.shared s).report := by
    funext fault
    cases fault <;> rfl
  rw [hreport]
  rfl

/-- Hooks that return leave a run without a failure. -/
theorem exists_concatenate_of_returns {hs : List Hook} (h : ∀ hook ∈ hs, hook.Returns all o) :
    ∃ files, concatenate (hs.map fun hook => (hook.outcome all o).mapError hook.report) = .ok files := by
  refine exists_concatenate_eq (List.forall_mem_map.2 fun hook hm => ?_)
  obtain ⟨files, hf⟩ := h hook hm
  exact ⟨files, mapError_eq_ok_iff.2 hf⟩

/-- A list of hooks that do not all return has a first one that fails. -/
theorem exists_failsFirst {hs : List Hook} (h : ¬ ∀ hook ∈ hs, hook.Returns all o) :
    ∃ hook fault, Hook.FailsFirst all o hs hook fault := by
  induction hs with
  | nil => exact absurd (fun hook hm => absurd hm List.not_mem_nil) h
  | cons first rest ih =>
    cases hf : first.outcome all o with
    | error fault => exact ⟨first, fault, [], rest, rfl, fun h hm => absurd hm List.not_mem_nil, hf⟩
    | ok files =>
      have hrest : ¬ ∀ hook ∈ rest, hook.Returns all o :=
        fun hr => h (List.forall_mem_cons.2 ⟨⟨files, hf⟩, hr⟩)
      obtain ⟨hook, fault, before, after, rfl, hb, hfault⟩ := ih hrest
      have hreturns : ∀ h ∈ first :: before, h.Returns all o := List.forall_mem_cons.2 ⟨⟨files, hf⟩, hb⟩
      exact ⟨hook, fault, first :: before, after, rfl, hreturns, hfault⟩

/-- The first hook that fails decides how a run ends. -/
theorem assemble_of_failsFirst {stages : List Stage} {hook : Hook} {fault : StageFault}
    (h : Hook.FailsFirst all o (hooks stages all) hook fault) :
    assemble stages all o = .error (hook.report fault) := by
  obtain ⟨before, after, hsplit, hb, hf⟩ := h
  -- The hooks before have files, which are lost: nothing after the failure is looked at.
  obtain ⟨files, hc⟩ := exists_concatenate_of_returns hb
  have hrun : concatenate (stages.flatMap (runStage all o)) = .error (hook.report fault) := by
    rw [flatMap_runStage_eq, hsplit, List.map_append, List.map_cons, hf]
    exact concatenate_append_error hc
  rw [assemble, hrun]

/-! ## The end of a run -/

/-- The end of a run of any stages on any collections. If all hooks return, the files are what the stages
make on their own, one after the other, as long as their paths are different; else the failure names the
first path that comes up again. If a hook fails, the first one that does decides the failure. -/
theorem assemble_end (stages : List Stage) (all : List Collection) (o : Options) :
    ((∀ hook ∈ hooks stages all, hook.Returns all o) → ∃ own,
        List.Forall₂ (fun s files => s.generate all o = .ok files ∧ s.Gives all o files) stages own
          ∧ ((own.flatten.map Artifact.path).Nodup → assemble stages all o = .ok own.flatten)
          ∧ (¬ (own.flatten.map Artifact.path).Nodup → ∃ path,
            Text.IsFirstRepeated path (own.flatten.map Artifact.path)
              ∧ assemble stages all o = .error ⟨"assemble", none, "Two artifacts target " ++ path⟩))
      ∧ ((¬ ∀ hook ∈ hooks stages all, hook.Returns all o) → ∃ hook fault,
        Hook.FailsFirst all o (hooks stages all) hook fault
          ∧ assemble stages all o = .error (hook.report fault)) := by
  refine ⟨fun h => ?_, fun h => ?_⟩
  · obtain ⟨files, hc⟩ := exists_concatenate_of_returns h
    rw [← flatMap_runStage_eq] at hc
    obtain ⟨own, hown, rfl⟩ := concatenate_flatMap_runStage_eq_ok_iff.1 hc
    have hassemble : assemble stages all o = distinctPaths own.flatten := by rw [assemble, hc]
    refine ⟨own, hown.imp fun s made hm => ⟨hm, Stage.generate_eq_ok_iff.1 hm⟩, fun hn => ?_,
      fun hn => ?_⟩
    · rw [hassemble, distinctPaths_eq_ok_iff.2 ⟨rfl, hn⟩]
    · obtain ⟨path, hp⟩ := Text.exists_isFirstRepeated hn
      refine ⟨path, hp, ?_⟩
      rw [hassemble, distinctPaths, repeatedPath?, Text.isFirstRepeated_iff.1 hp]
      rfl
  · obtain ⟨hook, fault, hf⟩ := exists_failsFirst h
    exact ⟨hook, fault, hf, assemble_of_failsFirst hf⟩

/-- A stage that makes notes, alone, twice, in front of a stage that fails for a collection, and after one
that fails for all collections together and knows its place. -/
theorem assemble_end_of_notes :
    let book : Collection := { name := "book", camelName := "book", pascalName := "Book" }
    let notes : Stage := {
      name := "notes", shared := fun _ _ => .ok [⟨"all", "1"⟩],
      forCollection := fun c _ _ => .ok [⟨c.camelName, "2"⟩] }
    let torn : Stage := {
      name := "torn",
      forCollection := fun _ _ _ => .error (.placed ⟨"inner", some "leaf", "no ink"⟩) }
    let lost : Stage := {
      name := "lost", shared := fun _ _ => .error (.placed ⟨"inner", some "leaf", "no ink"⟩) }
    ((∀ hook ∈ hooks [notes] [book], hook.Returns [book] {})
        ∧ assemble [notes] [book] {} = .ok [⟨"all", "1"⟩, ⟨"book", "2"⟩])
      ∧ ((∀ hook ∈ hooks [notes, notes] [book], hook.Returns [book] {})
        ∧ ∃ path, Text.IsFirstRepeated path ["all", "book", "all", "book"]
          ∧ assemble [notes, notes] [book] {}
            = .error ⟨"assemble", none, "Two artifacts target " ++ path⟩)
      ∧ ((¬ ∀ hook ∈ hooks [notes, torn] [book], hook.Returns [book] {})
        ∧ ∃ hook fault, Hook.FailsFirst [book] {} (hooks [notes, torn] [book]) hook fault
          ∧ hook.report fault = ⟨"torn", some "book", "Stage inner/leaf: no ink"⟩)
      ∧ ((¬ ∀ hook ∈ hooks [lost, notes] [book], hook.Returns [book] {})
        ∧ ∃ hook fault, Hook.FailsFirst [book] {} (hooks [lost, notes] [book]) hook fault
          ∧ hook.report fault = ⟨"inner", some "leaf", "no ink"⟩) := by
  intro book notes torn lost
  have returns : ∀ hook ∈ hooks [notes] [book], hook.Returns [book] {} :=
    List.forall_mem_cons.2 ⟨⟨_, rfl⟩, List.forall_mem_singleton.2 ⟨_, rfl⟩⟩
  have twice : ∀ hook ∈ hooks [notes, notes] [book], hook.Returns [book] {} :=
    List.forall_mem_append.2 ⟨returns, returns⟩
  have tears : ¬ ∀ hook ∈ hooks [notes, torn] [book], hook.Returns [book] {} := fun h => by
    obtain ⟨files, hf⟩ := h (.forCollection torn book) (by simp [hooks])
    cases hf
  have loses : ¬ ∀ hook ∈ hooks [lost, notes] [book], hook.Returns [book] {} := fun h => by
    obtain ⟨files, hf⟩ := h (.shared lost) (by simp [hooks])
    cases hf
  refine ⟨⟨returns, ?_⟩, ⟨twice, ?_⟩, ⟨tears, ?_⟩, ⟨loses, ?_⟩⟩
  · obtain ⟨own, hown, hn, -⟩ := (assemble_end [notes] [book] {}).1 returns
    cases hown with
    | cons h hrest =>
      cases hrest
      cases h.1
      exact hn (by decide)
  · obtain ⟨own, hown, -, hn⟩ := (assemble_end [notes, notes] [book] {}).1 twice
    cases hown with
    | cons h hrest =>
      cases hrest with
      | cons h' hrest =>
        cases hrest
        cases h.1
        cases h'.1
        exact hn (by decide)
  · obtain ⟨hook, fault, hf, h⟩ := (assemble_end [notes, torn] [book] {}).2 tears
    exact ⟨hook, fault, hf, Except.error.inj (h.symm.trans rfl)⟩
  · obtain ⟨hook, fault, hf, h⟩ := (assemble_end [lost, notes] [book] {}).2 loses
    exact ⟨hook, fault, hf, Except.error.inj (h.symm.trans rfl)⟩

end

end Assembly

end Scaffold
