import Scaffold.Proofs.Script.Spelling

/-!
# Factories of actions

The functions that make the actions of collections, as far as a script calls them and as far as it imports
them. Both are read from the tokens of the script one by one, with a state that tells what came before.
-/

namespace Scaffold.Script

/-! ## Reading -/

/-- The names that a token adds to those before it, and the state after it. -/
abbrev Reader (σ : Type) := σ → Token → List (List Char) × σ

namespace Reader

/-- Goes on with tokens. -/
def run {σ : Type} (read : Reader σ) : σ → List Token → List (List Char) × σ
  | s, [] => ([], s)
  | s, t :: rest => ((read s t).1 ++ (run read (read s t).2 rest).1, (run read (read s t).2 rest).2)

/-- Names right before an opening bracket: what is called, and what is defined as a function. The state
is the word before, if there is one. -/
def called : Reader (Option (List Char))
  | _, .word w => ([], some w)
  | last, .mark c => (if c = '(' then last.toList else [], none)
  | _, .quoted => ([], none)

/-- What has been read of an import: nothing, the word for it, or names in braces up to a last word. -/
inductive Importing where
  | outside
  | asked
  | inside (last : Option (List Char))
  deriving DecidableEq, Repr

/-- Names that are imported in braces, as the script calls them. -/
def imported : Reader Importing
  | .outside, t => ([], if t = .word importWord then .asked else .outside)
  | .asked, t => ([], if t = .mark '\x7b' then .inside none else .outside)
  | .inside _, .word w => ([], .inside (some w))
  | .inside last, .mark c =>
    if c = ',' then (last.toList, .inside none)
    else if c = '\x7d' then (last.toList, .outside)
    else ([], .inside last)
  | .inside last, .quoted => ([], .inside last)

end Reader

/-- A name for a function that makes actions: `createUsersActions`. -/
def isFactory (name : List Char) : Bool :=
  "create".toList.isPrefixOf name && "Actions".toList.isSuffixOf name

/-- The factories that a script calls, each as often as it does. -/
def calledFactories (content : String) : List String :=
  ((Reader.called.run none (tokens content)).1.filter isFactory).map String.ofList

/-- The factories that a script imports. -/
def importedFactories (content : String) : List String :=
  ((Reader.imported.run .outside (tokens content)).1.filter isFactory).map String.ofList

/-! ## Parts of a script -/

namespace Reader

variable {σ : Type} {read : Reader σ}

theorem run_append (s : σ) (ts us : List Token) :
    read.run s (ts ++ us)
      = ((read.run s ts).1 ++ (read.run (read.run s ts).2 us).1, (read.run (read.run s ts).2 us).2) := by
  induction ts generalizing s with
  | nil => rfl
  | cons t rest ih => rw [List.cons_append, run, run, ih, List.append_assoc]

/-- A reader that takes names for what stands for them does so with all tokens. -/
theorem run_spell {f : Char → List Char} {spell : σ → σ}
    (h : ∀ s t, read (spell s) (t.spell f) = ((read s t).1.map (List.flatMap f), spell (read s t).2))
    (s : σ) (ts : List Token) :
    read.run (spell s) (ts.map (Token.spell f))
      = ((read.run s ts).1.map (List.flatMap f), spell (read.run s ts).2) := by
  induction ts generalizing s with
  | nil => rfl
  | cons t rest ih =>
    rw [List.map_cons, run, run, h, List.map_append]
    dsimp only
    rw [ih]

theorem called_spell {f : Char → List Char} (last : Option (List Char)) (t : Token) :
    called (last.map (List.flatMap f)) (t.spell f)
      = ((called last t).1.map (List.flatMap f), (called last t).2.map (List.flatMap f)) := by
  cases t with
  | word w => rfl
  | quoted => rfl
  | mark c =>
    show ((if c = '(' then (last.map (List.flatMap f)).toList else []), none) = _
    rw [called]
    split
    · cases last <;> rfl
    · rfl

/-- What has been read of an import with names put in. -/
def Importing.spell (f : Char → List Char) : Importing → Importing
  | inside last => .inside (last.map (List.flatMap f))
  | s => s

theorem imported_spell {f : Char → List Char} (hf : StandsFor f) (s : Importing) (t : Token) :
    imported (s.spell f) (t.spell f)
      = ((imported s t).1.map (List.flatMap f), (imported s t).2.spell f) := by
  have hword : importWord ∈ keywords := by decide
  cases s with
  | outside =>
    show ([], if t.spell f = .word importWord then Importing.asked else .outside) = _
    simp only [Token.spell_eq_keyword_iff hf hword, imported, List.map_nil]
    split <;> rfl
  | asked =>
    show ([], if t.spell f = .mark '\x7b' then Importing.inside none else .outside) = _
    simp only [Token.spell_eq_mark_iff, imported, List.map_nil]
    split <;> rfl
  | inside last =>
    cases t with
    | word w => rfl
    | quoted => rfl
    | mark c =>
      show imported (.inside (last.map (List.flatMap f))) (.mark c) = _
      rw [imported, imported]
      split
      · cases last <;> rfl
      split
      · cases last <;> rfl
      · rfl

end Reader

/-! ## Parts with factories -/

/-- A word that is a name for a factory, or that may be one with names put in. -/
def mayBeFactory (w : List Char) : Bool := isFactory w || w.any fun c => standInBase ≤ c.toNat

/-- Characters that end with a mark outside of imports, with the names in them that may be called
factories and imported factories. -/
def Mentions (cs : List Char) (called imported : List (List Char)) : Prop :=
  (Reader.called.run none (tokensOf cs)).1.filter mayBeFactory = called
    ∧ (Reader.called.run none (tokensOf cs)).2 = none
    ∧ (Reader.imported.run .outside (tokensOf cs)).1.filter mayBeFactory = imported
    ∧ (Reader.imported.run .outside (tokensOf cs)).2 = .outside

instance (cs : List Char) (called imported : List (List Char)) : Decidable (Mentions cs called imported) :=
  inferInstanceAs (Decidable (_ ∧ _ ∧ _ ∧ _))

/-- Tokens that end with a mark outside of imports, with the factories that they call and import. -/
structure Uses (ts : List Token) (called imported : List (List Char)) : Prop where
  called_eq : (Reader.called.run none ts).1.filter isFactory = called
  called_end : (Reader.called.run none ts).2 = none
  imported_eq : (Reader.imported.run .outside ts).1.filter isFactory = imported
  imported_end : (Reader.imported.run .outside ts).2 = .outside

theorem uses_nil : Uses [] [] [] := ⟨rfl, rfl, rfl, rfl⟩

theorem Uses.append {ts us : List Token} {as bs cs ds : List (List Char)} (h : Uses ts as bs)
    (h' : Uses us cs ds) : Uses (ts ++ us) (as ++ cs) (bs ++ ds) where
  called_eq := by
    rw [Reader.run_append, h.called_end, List.filter_append, h.called_eq, h'.called_eq]
  called_end := by
    rw [Reader.run_append, h.called_end]
    exact h'.called_end
  imported_eq := by
    rw [Reader.run_append, h.imported_end, List.filter_append, h.imported_eq, h'.imported_eq]
  imported_end := by
    rw [Reader.run_append, h.imported_end]
    exact h'.imported_end

theorem uses_flatMap {α : Type} {items : List α} {ts : α → List Token} {as bs : α → List (List Char)}
    (h : ∀ x ∈ items, Uses (ts x) (as x) (bs x)) :
    Uses (items.flatMap ts) (items.flatMap as) (items.flatMap bs) := by
  induction items with
  | nil => exact uses_nil
  | cons x rest ih =>
    rw [List.flatMap_cons, List.flatMap_cons, List.flatMap_cons]
    exact (h x List.mem_cons_self).append (ih fun y hy => h y (List.mem_cons_of_mem x hy))

/-- A word that stays as it is and is no factory is none with names put in. -/
theorem filter_isFactory_flatMap {f : Char → List Char} (hf : StandsFor f) (ws : List (List Char)) :
    (ws.map (List.flatMap f)).filter isFactory
      = ((ws.filter mayBeFactory).map (List.flatMap f)).filter isFactory := by
  induction ws with
  | nil => rfl
  | cons w rest ih =>
    rw [List.map_cons, List.filter_cons, List.filter_cons, ih]
    cases hm : mayBeFactory w with
    | true => rw [if_pos rfl, List.map_cons, List.filter_cons]
    | false =>
      rw [mayBeFactory, Bool.or_eq_false_iff, List.any_eq_false] at hm
      have hw : w.flatMap f = w := StandsFor.flatMap_eq_self fun c hc => hf.eq_self c (by
        have := hm.2 c hc
        rw [decide_eq_true_eq] at this
        omega)
      rw [hw, hm.1]
      rfl

theorem Mentions.uses {cs : List Char} {called imported : List (List Char)}
    (h : Mentions cs called imported) {f : Char → List Char} (hf : StandsFor f) :
    Uses ((tokensOf cs).map (Token.spell f)) ((called.map (List.flatMap f)).filter isFactory)
      ((imported.map (List.flatMap f)).filter isFactory) := by
  obtain ⟨hc, hce, hi, hie⟩ := h
  have hcalled := Reader.run_spell (Reader.called_spell (f := f)) none (tokensOf cs)
  have himported := Reader.run_spell (Reader.imported_spell hf) .outside (tokensOf cs)
  rw [Option.map_none] at hcalled
  change Reader.imported.run .outside _ = _ at himported
  refine ⟨?_, ?_, ?_, ?_⟩
  · rw [hcalled, filter_isFactory_flatMap hf, hc]
  · rw [hcalled, hce]
    rfl
  · rw [himported, filter_isFactory_flatMap hf, hi]
  · rw [himported, hie]
    rfl

end Scaffold.Script
