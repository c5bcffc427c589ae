import Scaffold.Proofs.Script.Keys

/-!
# Reading scripts with names put in

A script in which characters stand for names is read as the script with the names is: no name is taken
for a word that a script is read by, so that all brackets, keys and functions stay where they are.
-/

namespace Scaffold.Script

/-! ## Tables of names -/

/-- What characters stand for by a table. -/
def spelling (table : List (Char × List Char)) (c : Char) : List Char := (table.lookup c).getD [c]

/-- A name with a part that is in no keyword. -/
theorem isFreeName_of_isInfix {part cs : List Char} (hp : ∀ k ∈ keywords, ¬ part <:+: k)
    (h : part <:+: cs) (hn : IsName cs) : IsFreeName cs :=
  ⟨hn, fun k hk hi => hp k hk (h.trans hi)⟩

theorem mem_of_lookup {α β : Type} [BEq α] [LawfulBEq α] {table : List (α × β)} {key : α} {found : β}
    (h : table.lookup key = some found) : (key, found) ∈ table := by
  obtain ⟨before, after, rfl, -⟩ := List.lookup_eq_some_iff.1 h
  exact List.mem_append_right before List.mem_cons_self

theorem standsFor_spelling {table : List (Char × List Char)}
    (h : ∀ e ∈ table, standInBase ≤ e.1.toNat ∧ IsFreeName e.2) : StandsFor (spelling table) := by
  have hor (c : Char) :
      spelling table c = [c] ∨ standInBase ≤ c.toNat ∧ IsFreeName (spelling table c) := by
    unfold spelling
    cases hl : table.lookup c with
    | none => exact .inl rfl
    | some cs => exact .inr (h (c, cs) (mem_of_lookup hl))
  exact ⟨fun c hc => (hor c).resolve_right fun hs => absurd hs.1 (by omega), hor⟩

variable {f : Char → List Char}

/-- Characters that stand for themselves only. -/
def IsPlain (cs : List Char) : Prop := ∀ c ∈ cs, c.toNat < standInBase

instance (cs : List Char) : Decidable (IsPlain cs) := List.decidableBAll _ cs

theorem IsPlain.flatMap_eq (hf : StandsFor f) {cs : List Char} (h : IsPlain cs) : cs.flatMap f = cs :=
  StandsFor.flatMap_eq_self fun c hc => hf.eq_self c (h c hc)

theorem map_flatMap_of_isPlain (hf : StandsFor f) {css : List (List Char)} (h : ∀ cs ∈ css, IsPlain cs) :
    css.map (List.flatMap f) = css := by
  rw [List.map_congr_left fun cs hcs => (h cs hcs).flatMap_eq hf, List.map_id']

/-- A script with names in the places of what stands for them is read from its front to its end as the
script without them. -/
theorem Lexing.run_flatMap (hf : StandsFor f) (s : Lexing) (cs : List Char) :
    (s.spell f).run (cs.flatMap f) = ((s.run cs).1.map (Token.spell f), (s.run cs).2.spell f) := by
  induction cs generalizing s with
  | nil => rfl
  | cons c rest ih =>
    rw [List.flatMap_cons, run_append, run_spell hf, run, List.map_append]
    dsimp only
    rw [ih]

/-! ## Tokens -/

namespace Token

theorem opens_spell (t : Token) : (t.spell f).opens = t.opens := by cases t <;> rfl

theorem closes_spell (t : Token) : (t.spell f).closes = t.closes := by cases t <;> rfl

theorem level_spell (t : Token) (d : Nat) : (t.spell f).level d = t.level d := by
  rw [level, level, opens_spell, closes_spell]

theorem spell_eq_mark_iff {t : Token} {c : Char} : t.spell f = .mark c ↔ t = .mark c := by
  cases t with
  | word cs => exact ⟨(by intro h; cases h), (by intro h; cases h)⟩
  | quoted => exact Iff.rfl
  | mark d => exact Iff.rfl

theorem spell_eq_keyword_iff (hf : StandsFor f) {t : Token} {k : List Char} (hk : k ∈ keywords) :
    t.spell f = .word k ↔ t = .word k := by
  cases t with
  | word cs =>
    rw [spell, word.injEq, word.injEq]
    exact hf.flatMap_eq_iff hk cs
  | quoted => exact Iff.rfl
  | mark d => exact Iff.rfl

end Token

/-! ## Objects -/

/-- An entry with names put in. -/
def Entry.spell (f : Char → List Char) : Entry → Entry
  | key cs => .key (cs.flatMap f)
  | spread cs => .spread (cs.flatMap f)

variable (hf : StandsFor f)

include hf

theorem entryAt?_spell (ts : List Token) :
    entryAt? (ts.map (Token.spell f)) = (entryAt? ts).map (Entry.spell f) := by
  have hasync (cs : List Char) : (cs.flatMap f = asyncWord) = (cs = asyncWord) :=
    propext (hf.flatMap_eq_iff (by decide) cs)
  unfold entryAt?
  rcases ts with _ | ⟨_ | _ | _, _ | ⟨_ | _ | _, _ | ⟨_ | _ | _, _ | ⟨_ | _ | _, _ | ⟨_ | _ | _, _⟩⟩⟩⟩⟩
  all_goals
    simp only [List.map_cons, List.map_nil, Token.spell, hasync, Option.map_none, Option.map_some,
      Entry.spell, apply_ite (Option.map (Entry.spell f))]

theorem entryOf?_spell (ts : List Token) :
    entryOf? (ts.map (Token.spell f)) = (entryOf? ts).map (List.map (Entry.spell f)) := by
  cases ts with
  | nil => rfl
  | cons t rest =>
    have he := entryAt?_spell hf (t :: rest)
    rw [List.map_cons] at he
    rw [List.map_cons, entryOf?, entryOf?, he, Option.map_map, Option.map_map]
    rfl

theorem entriesFrom?_spell (now : List Token) (d : Nat) (ts : List Token) :
    entriesFrom? (now.map (Token.spell f)) d (ts.map (Token.spell f))
      = (entriesFrom? now d ts).map (List.map (Entry.spell f)) := by
  induction ts generalizing now d with
  | nil => rfl
  | cons t rest ih =>
    have hnow : now.map (Token.spell f) ++ [t.spell f] = (now ++ [t]).map (Token.spell f) := by
      rw [List.map_append, List.map_singleton]
    have hnil := ih [] 0
    rw [List.map_nil] at hnil
    rw [List.map_cons, entriesFrom?, entriesFrom?, Token.closes_spell, Token.level_spell,
      entryOf?_spell hf, hnil, hnow, ih]
    simp only [Token.spell_eq_mark_iff]
    split
    · rfl
    split
    · cases entryOf? now with
      | none => rfl
      | some first =>
        cases entriesFrom? [] 0 rest with
        | none => rfl
        | some others =>
          dsimp only [Option.map_some]
          rw [List.map_append]
    · rfl

theorem object?_spell (ts : List Token) :
    object? (ts.map (Token.spell f)) = (object? ts).map (Option.map (List.map (Entry.spell f))) := by
  cases ts with
  | nil => rfl
  | cons t rest =>
    have he := entriesFrom?_spell hf [] 0 rest
    rw [List.map_nil] at he
    rw [List.map_cons, object?, object?, he]
    simp only [Token.spell_eq_mark_iff]
    split
    · rw [Option.map_map, Option.map_map]
      rfl
    · rfl

theorem returned?_spell (found : Option (List Entry)) (d : Nat) (ts : List Token) :
    returned? (found.map (List.map (Entry.spell f))) d (ts.map (Token.spell f))
      = (returned? found d ts).map (Option.map (List.map (Entry.spell f))) := by
  have hword : returnWord ∈ keywords := by decide
  induction ts generalizing found d with
  | nil => rfl
  | cons t rest ih =>
    rw [List.map_cons, returned?, returned?, Token.closes_spell, Token.level_spell,
      object?_spell hf, ih]
    simp only [Token.spell_eq_keyword_iff hf hword]
    split
    · rfl
    split
    · cases object? rest with
      | none => rfl
      | some found => exact ih found 0
    · rfl

omit hf in
theorem bodyAt?_spell (k d : Nat) (ts : List Token) :
    bodyAt? k d (ts.map (Token.spell f)) = (bodyAt? k d ts).map (List.map (Token.spell f)) := by
  induction ts generalizing d with
  | nil => rfl
  | cons t rest ih =>
    rw [List.map_cons, bodyAt?, bodyAt?, Token.level_spell, ih]
    simp only [Token.spell_eq_mark_iff]
    split
    · rfl
    · rfl

omit hf in
theorem keys?_spell (es : List Entry) :
    keys? (es.map (Entry.spell f)) = (keys? es).map (List.map (List.flatMap f)) := by
  induction es with
  | nil => rfl
  | cons e rest ih =>
    cases e with
    | key k =>
      rw [List.map_cons, Entry.spell, keys?, keys?, ih, Option.map_map, Option.map_map]
      rfl
    | spread g => rfl

/-! ## Functions -/

/-- A function with names put in. -/
def Returning.spell (f : Char → List Char) (g : Returning) : Returning :=
  (g.1.flatMap f, g.2.map (List.map (List.flatMap f)))

theorem functionAt?_spell (ts : List Token) :
    functionAt? (ts.map (Token.spell f)) = (functionAt? ts).map (Returning.spell f) := by
  rcases ts with _ | ⟨n | _ | _, rest⟩
  · rfl
  · have hr (body : List Token) : returned? none 0 (body.map (Token.spell f))
        = (returned? none 0 body).map (Option.map (List.map (Entry.spell f))) :=
      returned?_spell hf none 0 body
    rw [List.map_cons, Token.spell, functionAt?, functionAt?, bodyAt?_spell]
    cases bodyAt? 0 0 rest with
    | none => rfl
    | some body =>
      rw [Option.map_some, Option.bind_some, Option.bind_some, hr]
      rcases returned? none 0 body with _ | _ | es
      · rfl
      · rfl
      · have hk := keys?_spell (f := f) es
        show some (n.flatMap f, keys? (es.map (Entry.spell f))) = _
        rw [hk]
        rfl
  · rfl
  · rfl

theorem scan_spell (d : Nat) (ts : List Token) :
    scan d (ts.map (Token.spell f))
      = (scan d ts).map fun found => (found.1.map (Returning.spell f), found.2) := by
  have hword : functionWord ∈ keywords := by decide
  induction ts generalizing d with
  | nil => rfl
  | cons t rest ih =>
    rw [List.map_cons, scan, scan, Token.level_spell, functionAt?_spell hf, ih]
    simp only [Token.spell_eq_keyword_iff hf hword]
    split
    · cases functionAt? rest with
      | none => rfl
      | some g => cases scan (t.level d) rest <;> rfl
    · rfl

theorem exported?_spell (d : Nat) (ts : List Token) :
    exported? d (ts.map (Token.spell f)) = (exported? d ts).map (List.map (Token.spell f)) := by
  have hword : exportWord ∈ keywords := by decide
  induction ts generalizing d with
  | nil => rfl
  | cons t rest ih =>
    rw [List.map_cons, exported?, exported?, Token.level_spell, ih]
    simp only [Token.spell_eq_keyword_iff hf hword]
    split
    · rfl
    · rfl

/-! ## The object of the store -/

theorem entriesOf?_spell (now : List Token) (d : Nat) (ts : List Token) :
    entriesOf? (now.map (Token.spell f)) d (ts.map (Token.spell f))
      = (entriesOf? now d ts).map fun found =>
          (found.1.map (Entry.spell f), found.2.1.map (Token.spell f), found.2.2) := by
  induction ts generalizing now d with
  | nil => rfl
  | cons t rest ih =>
    have hnow : now.map (Token.spell f) ++ [t.spell f] = (now ++ [t]).map (Token.spell f) := by
      rw [List.map_append, List.map_singleton]
    have hnil := ih [] 0
    rw [List.map_nil] at hnil
    rw [List.map_cons, entriesOf?, entriesOf?, Token.closes_spell, Token.level_spell,
      entryOf?_spell hf, hnil, hnow, ih]
    simp only [Token.spell_eq_mark_iff]
    split
    · rfl
    split
    · cases entryOf? now with
      | none => rfl
      | some first =>
        cases entriesOf? [] 0 rest with
        | none => rfl
        | some others =>
          dsimp only [Option.map_some]
          rw [List.map_append]
    · rfl

theorem objectOpened?_spell (ts : List Token) :
    objectOpened? (ts.map (Token.spell f)) = (objectOpened? ts).map (List.map (Entry.spell f)) := by
  cases ts with
  | nil => rfl
  | cons t rest =>
    have he := entriesOf?_spell hf [] 0 rest
    rw [List.map_nil] at he
    rw [List.map_cons, objectOpened?, objectOpened?, he]
    simp only [Token.spell_eq_mark_iff]
    split
    · rcases entriesOf? [] 0 rest with _ | ⟨es, _ | ⟨t', later⟩, _ | d⟩ <;> rfl
    · rfl

theorem opened?_spell (d : Nat) (ts : List Token) :
    opened? d (ts.map (Token.spell f)) = (opened? d ts).map (List.map (Entry.spell f)) := by
  have hword : returnWord ∈ keywords := by decide
  induction ts generalizing d with
  | nil => rfl
  | cons t rest ih =>
    rw [List.map_cons, opened?, opened?, Token.closes_spell, Token.level_spell,
      objectOpened?_spell hf, ih]
    simp only [Token.spell_eq_keyword_iff hf hword]
    split
    · rfl
    split
    · rfl
    · rfl

theorem storeOpened?_spell (ts : List Token) :
    storeOpened? (ts.map (Token.spell f)) = (storeOpened? ts).map (List.map (Entry.spell f)) := by
  rw [storeOpened?, storeOpened?, exported?_spell hf]
  cases exported? 0 ts with
  | none => rfl
  | some rest =>
    rw [Option.map_some, Option.bind_some, Option.bind_some, bodyAt?_spell]
    cases bodyAt? 1 0 rest with
    | none => rfl
    | some body => exact opened?_spell hf 0 body

/-- The name in an entry. -/
def Entry.name : Entry → List Char
  | key cs => cs
  | spread cs => cs

theorem map_spell_entries {es : List Entry} (h : ∀ e ∈ es, IsPlain e.name) :
    es.map (Entry.spell f) = es := by
  have hspell : ∀ e ∈ es, e.spell f = id e := by
    intro e he
    cases e with
    | key cs => exact congrArg Entry.key ((h _ he).flatMap_eq hf)
    | spread cs => exact congrArg Entry.spread ((h _ he).flatMap_eq hf)
  rw [List.map_congr_left hspell, List.map_id]

/-- A function whose names stay as they are. -/
def Returning.IsPlain (g : Returning) : Prop := Script.IsPlain g.1 ∧ ∀ k ∈ g.2.getD [], Script.IsPlain k

instance (g : Returning) : Decidable g.IsPlain := inferInstanceAs (Decidable (_ ∧ _))

theorem Returning.IsPlain.spell_eq {g : Returning} (h : g.IsPlain) : g.spell f = g := by
  obtain ⟨name, keys⟩ := g
  refine Prod.ext (h.1.flatMap_eq hf) ?_
  cases keys with
  | none => rfl
  | some ks => exact congrArg some (map_flatMap_of_isPlain hf h.2)

theorem map_spell_of_isPlain {gs : List Returning} (h : ∀ g ∈ gs, g.IsPlain) :
    gs.map (Returning.spell f) = gs := by
  rw [List.map_congr_left fun g hg => (h g hg).spell_eq hf, List.map_id']

omit hf

/-! ## Fixed characters -/

/-- The tokens of characters. -/
def tokensOf (cs : List Char) : List Token := (Lexing.between.run cs).1

/-- The functions in characters that are a part of a module. -/
def functionsOf (cs : List Char) : List Returning := ((scan 0 (tokensOf cs)).map Prod.fst).getD []

/-- Characters that end with a token outside of all brackets, and that export nothing. -/
def IsClosed (cs : List Char) : Prop :=
  Lexing.between.stop cs = .between ∧ (scan 0 (tokensOf cs)).map Prod.snd = some 0
    ∧ exported? 0 (tokensOf cs) = none

instance (cs : List Char) : Decidable (IsClosed cs) := inferInstanceAs (Decidable (_ ∧ _ ∧ _))

theorem IsClosed.run_eq {cs : List Char} (h : IsClosed cs) : (Lexing.between.run cs).2 = .between := by
  rw [← Lexing.stop_eq]
  exact h.1

/-- The functions are found with names put in, and the brackets that are open after them stay open. -/
theorem scan_spell_tokensOf {f : Char → List Char} (hf : StandsFor f) {cs : List Char} {d : Nat}
    (h : (scan 0 (tokensOf cs)).map Prod.snd = some d) :
    scan 0 ((tokensOf cs).map (Token.spell f)) = some ((functionsOf cs).map (Returning.spell f), d) := by
  obtain ⟨found, hfound, rfl⟩ := Option.map_eq_some_iff.1 h
  rw [scan_spell hf, functionsOf, hfound]
  rfl

theorem IsClosed.offers {cs : List Char} (h : IsClosed cs) {f : Char → List Char} (hf : StandsFor f) :
    Offers ((tokensOf cs).map (Token.spell f)) ((functionsOf cs).map (Returning.spell f)) := by
  obtain ⟨-, hs, he⟩ := h
  refine offers_of_scan (scan_spell_tokensOf hf hs) ?_
  rw [exported?_spell hf, he]
  rfl

end Scaffold.Script
