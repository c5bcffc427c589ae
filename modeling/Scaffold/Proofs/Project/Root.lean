import Scaffold.Project.Root
import Scaffold.Proofs.Tree.Growth

/-!
# Looking at files

Questions about files leave all files as they are, and so does the search for a project, which asks
nothing else.
-/

namespace Scaffold

/-! ## Questions -/

namespace Disk

/-- A request that leaves the disk as it is. -/
def Asks {α : Type} (x : StateM Disk α) : Prop := ∀ d, (x d).2 = d

variable {α β : Type} {d : Disk} {p : Path} {content : ByteArray}

theorem asks_pure (a : α) : Asks (pure a) := fun _ => rfl

/-- Questions that are asked one after the other. -/
theorem Asks.bind {x : StateM Disk α} {next : α → StateM Disk β} (hx : Asks x)
    (hn : ∀ a, Asks (next a)) : Asks (x >>= next) := by
  intro d
  rw [bind_apply, hn, hx]

theorem asks_entry (p : Path) : Asks (Files.entry p) := fun _ => rfl

theorem asks_exists? (p : Path) : Asks (Files.exists? p) :=
  (asks_entry p).bind fun answer => by
    cases answer with
    | ok kind => exact asks_pure _
    | error f => exact asks_pure _

theorem asks_isDirectory (p : Path) : Asks (Files.isDirectory p) := fun d => isDirectory_snd d p

/-- A file is there. -/
theorem exists?_of_hasFile (h : d.HasFile p content) :
    Files.exists? (m := StateM Disk) p d = (.ok true, d) := by
  obtain ⟨name, hn, hf⟩ := h
  unfold nameOf at hn
  unfold Files.exists?
  rw [bind_apply, entry_eq, FileTree.entry, hn]
  dsimp only
  rw [hf]
  rfl

/-- A file is read as it is. -/
theorem read_of_hasFile (h : d.HasFile p content) :
    Files.read (m := StateM Disk) p d = (.ok content, d) := by
  obtain ⟨name, hn, hf⟩ := h
  unfold nameOf at hn
  show Disk.ask p FileTree.read d = _
  unfold ask FileTree.read
  rw [hn]
  dsimp only
  rw [hf]
  rfl

end Disk

/-! ## The search -/

namespace ProjectRoot

open Disk

theorem asks_holdsAll (p : Path) (names : List String) : Asks (holdsAll p names) := by
  induction names with
  | nil => exact asks_pure _
  | cons name rest ih =>
    refine (asks_exists? (p.child name)).bind fun answer => ?_
    rcases answer with f | (_ | _)
    · exact asks_pure _
    · exact asks_pure _
    · exact ih

theorem asks_isRoot (p : Path) : Asks (isRoot p) := by
  refine (asks_holdsAll p markers).bind fun answer => ?_
  rcases answer with f | (_ | _)
  · exact asks_pure _
  · exact asks_pure _
  · exact asks_isDirectory _

theorem asks_firstRoot (candidates : List Path) : Asks (firstRoot candidates) := by
  induction candidates with
  | nil => exact asks_pure _
  | cons p rest ih =>
    refine (asks_isRoot p).bind fun answer => ?_
    rcases answer with f | (_ | _)
    · exact asks_pure _
    · exact ih
    · exact asks_pure _

/-- The search for a project leaves all files as they are. -/
theorem asks_find (start : Path) : Asks (find start) := by
  refine Asks.bind (fun _ => rfl) fun working => ?_
  split
  · exact asks_pure _
  · exact asks_firstRoot _

end ProjectRoot

end Scaffold
