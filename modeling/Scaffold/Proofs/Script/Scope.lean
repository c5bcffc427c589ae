import Scaffold.Proofs.Script.Factory

/-!
# Scopes of a script

The names that a script declares in one scope, outside of all brackets in it: by imports, functions,
classes, constants and variables. The scope of a function is its body, and what the body calls to give
its constants their values is told apart from what it calls later on.
-/

namespace Scaffold.Script

/-! ## Reading -/

/-- The words before constants and variables. -/
def variableWords : List (List Char) := ["const".toList, "let".toList, "var".toList]

/-- The words before what a script declares: one name, or names in braces. -/
def declarators : List (List Char) :=
  [importWord, functionWord, "class".toList] ++ variableWords

/-- A token is one of some words. -/
def Token.isOneOf (ws : List (List Char)) : Token → Bool
  | word w => ws.contains w
  | _ => false

/-- What has been read of a scope: statements, with a number of open brackets, a word that declares
something in the scope itself, or names in braces up to a last word. -/
inductive Declaring where
  | among (d : Nat)
  | asked
  | listed (last : Option (List Char))
  deriving DecidableEq, Repr

/-- What has been read of a scope: statements, or the value of a constant, with a number of open brackets
and the word before, if there is one. -/
inductive Initialising where
  | among (d : Nat)
  | within (d : Nat) (last : Option (List Char))
  deriving DecidableEq, Repr

namespace Reader

/-- Names that are declared in a scope, each as often as it is. -/
def declared : Reader Declaring
  | .among d, t => ([], if d = 0 ∧ t.isOneOf declarators = true then .asked else .among (t.level d))
  | .asked, .word w => ([w], .among 0)
  | .asked, .mark c => ([], if c = '\x7b' then .listed none else .among ((Token.mark c).level 0))
  | .asked, .quoted => ([], .among 0)
  | .listed _, .word w => ([], .listed (some w))
  | .listed last, .mark c =>
    if c = ',' then (last.toList, .listed none)
    else if c = '\x7d' then (last.toList, .among 0)
    else ([], .listed last)
  | .listed last, .quoted => ([], .listed last)

/-- Names that are called in the values that a scope gives to its constants. -/
def initial : Reader Initialising
  | .among d, t => ([], if d = 0 ∧ t.isOneOf variableWords = true then .within 0 none else .among (t.level d))
  | .within d _, .word w => ([], .within d (some w))
  | .within d last, .mark c =>
    if d = 0 ∧ c = ';' then ([], .among 0)
    else (if c = '(' then last.toList else [], .within ((Token.mark c).level d) none)
  | .within d _, .quoted => ([], .within d none)

end Reader

/-- The scope of a function: the names that are declared in it, and those that are called to give its
constants their values. -/
structure FunctionScope where
  declared : List (List Char)
  called : List (List Char)
  deriving DecidableEq, Repr

/-- The tokens up to the bracket that closes what they stand in. -/
def closed? (d : Nat) : List Token → Option (List Token)
  | [] => none
  | t :: rest =>
    if d = 0 ∧ t.closes = true then some [] else (closed? (t.level d) rest).map fun body => t :: body

/-- The scope of a function with a body. -/
def FunctionScope.ofBody (body : List Token) : FunctionScope where
  declared := (Reader.declared.run (.among 0) body).1
  called := (Reader.initial.run (.among 0) body).1

/-- The function that tokens begin with, with its scope. -/
def scopeAt? : List Token → Option (List Char × FunctionScope)
  | .word n :: rest => ((bodyAt? 0 0 rest).bind (closed? 0)).map fun body => (n, .ofBody body)
  | _ => none

/-- The functions of a module with their scopes. -/
def scopes (d : Nat) : List Token → List (List Char × FunctionScope)
  | [] => []
  | t :: rest =>
    (if d = 0 ∧ t = .word functionWord then (scopeAt? rest).toList else []) ++ scopes (t.level d) rest

/-- The scope of the function of a module that has a name. -/
def scope? (content function : String) : Option FunctionScope :=
  (scopes 0 (tokens content)).lookup function.toList

/-! ## Parts of a module -/

variable {ts : List Token}

theorem closed?_append {d : Nat} {body : List Token} (h : closed? d ts = some body) (more : List Token) :
    closed? d (ts ++ more) = some body := by
  induction ts generalizing d body with
  | nil => cases h
  | cons t rest ih =>
    rw [closed?] at h
    rw [List.cons_append, closed?]
    split at h
    next hc => rw [if_pos hc, h]
    next hc =>
      obtain ⟨others, ho, rfl⟩ := Option.map_eq_some_iff.1 h
      rw [if_neg hc, ih ho]
      rfl

/-- What a function returns is looked for up to the bracket that closes it. -/
theorem exists_closed?_of_returned? {found last : Option (List Entry)} {d : Nat}
    (h : returned? found d ts = some last) : ∃ body, closed? d ts = some body := by
  induction ts generalizing found d with
  | nil => cases h
  | cons t rest ih =>
    rw [returned?] at h
    rw [closed?]
    split at h
    next hc => exact ⟨[], by rw [if_pos hc]⟩
    next hc =>
      rw [if_neg hc]
      have hrest : ∃ body, closed? (t.level d) rest = some body := by
        split at h
        next hr =>
          obtain ⟨rfl, rfl⟩ := hr
          split at h
          next => exact ih h
          next => cases h
        next => exact ih h
      obtain ⟨body, hb⟩ := hrest
      exact ⟨t :: body, by rw [hb]; rfl⟩

/-- A function that ends in a part has its scope there. -/
theorem exists_scopeAt? {f : Returning} (h : functionAt? ts = some f) :
    ∃ s, ∀ more, scopeAt? (ts ++ more) = some (f.1, s) := by
  unfold functionAt? at h
  split at h
  next n rest =>
    obtain ⟨found, hf, rfl⟩ := Option.map_eq_some_iff.1 h
    obtain ⟨after, ha, hr⟩ := Option.bind_eq_some_iff.1 hf
    obtain ⟨body, hb⟩ := exists_closed?_of_returned? hr
    refine ⟨.ofBody body, fun more => ?_⟩
    rw [List.cons_append, scopeAt?, bodyAt?_append ha, Option.bind_some, closed?_append hb]
    rfl
  next => cases h

/-- A part outside of all brackets adds these functions to a module. -/
def Encloses (ts : List Token) (ss : List (List Char × FunctionScope)) : Prop :=
  ∀ more, scopes 0 (ts ++ more) = ss ++ scopes 0 more

theorem encloses_nil : Encloses [] [] := fun _ => rfl

theorem Encloses.append {us : List Token} {ss ss' : List (List Char × FunctionScope)}
    (h : Encloses ts ss) (h' : Encloses us ss') : Encloses (ts ++ us) (ss ++ ss') := by
  intro more
  rw [List.append_assoc, h, h', List.append_assoc]

theorem encloses_flatMap {α : Type} {items : List α} {tokens : α → List Token}
    {ss : α → List (List Char × FunctionScope)} (h : ∀ x ∈ items, Encloses (tokens x) (ss x)) :
    Encloses (items.flatMap tokens) (items.flatMap ss) := by
  induction items with
  | nil => exact encloses_nil
  | cons x rest ih =>
    rw [List.flatMap_cons, List.flatMap_cons]
    exact (h x List.mem_cons_self).append (ih fun y hy => h y (List.mem_cons_of_mem x hy))

theorem scopes_append {d e : Nat} {fs : List Returning} (h : scan d ts = some (fs, e))
    (more : List Token) : scopes d (ts ++ more) = scopes d ts ++ scopes e more := by
  induction ts generalizing d fs with
  | nil =>
    cases h
    rfl
  | cons t rest ih =>
    rw [scan] at h
    rw [List.cons_append, scopes, scopes]
    split at h
    next hw =>
      rw [if_pos hw, if_pos hw]
      split at h
      next f gs e' hf hs =>
        cases h
        obtain ⟨s, hscope⟩ := exists_scopeAt? hf
        have hhere := hscope []
        rw [List.append_nil] at hhere
        rw [hscope, hhere, ih hs, List.append_assoc]
      next => cases h
    next hw =>
      rw [if_neg hw, if_neg hw, ih h]
      rfl

theorem encloses_of_scan {fs : List Returning} (h : scan 0 ts = some (fs, 0)) :
    Encloses ts (scopes 0 ts) :=
  scopes_append h

/-- The functions with scopes are the functions of a part. -/
theorem map_fst_scopes {d e : Nat} {fs : List Returning} (h : scan d ts = some (fs, e)) :
    (scopes d ts).map Prod.fst = fs.map Prod.fst := by
  induction ts generalizing d fs with
  | nil =>
    cases h
    rfl
  | cons t rest ih =>
    rw [scan] at h
    rw [scopes, List.map_append]
    split at h
    next hw =>
      split at h
      next f gs e' hf hs =>
        cases h
        obtain ⟨s, hscope⟩ := exists_scopeAt? hf
        have hhere := hscope []
        rw [List.append_nil] at hhere
        rw [if_pos hw, hhere, ih hs]
        rfl
      next => cases h
    next hw =>
      rw [if_neg hw, ih h]
      rfl

/-! ## Names put in -/

variable {f : Char → List Char}

/-- No word that declares something holds a name that is put in. -/
def AvoidsDeclarators (f : Char → List Char) : Prop :=
  ∀ c, f c = [c] ∨ ∀ k ∈ declarators, ¬ f c <:+: k

theorem avoidsDeclarators_spelling {table : List (Char × List Char)}
    (h : ∀ e ∈ table, ∀ k ∈ declarators, ¬ e.2 <:+: k) : AvoidsDeclarators (spelling table) := by
  intro c
  unfold spelling
  cases hl : table.lookup c with
  | none => exact .inl rfl
  | some cs => exact .inr (h (c, cs) (mem_of_lookup hl))

/-- A name with a part that no word which declares something holds. -/
theorem not_isInfix_of_part {part cs : List Char} (hp : ∀ k ∈ declarators, ¬ part <:+: k)
    (h : part <:+: cs) : ∀ k ∈ declarators, ¬ cs <:+: k :=
  fun k hk hi => hp k hk (h.trans hi)

/-- What has been read of a scope with names put in. -/
def Declaring.spell (f : Char → List Char) : Declaring → Declaring
  | listed last => .listed (last.map (List.flatMap f))
  | s => s

def Initialising.spell (f : Char → List Char) : Initialising → Initialising
  | within d last => .within d (last.map (List.flatMap f))
  | s => s

/-- A scope with names put in. -/
def FunctionScope.spell (f : Char → List Char) (s : FunctionScope) : FunctionScope where
  declared := s.declared.map (List.flatMap f)
  called := s.called.map (List.flatMap f)

theorem closed?_spell (d : Nat) (ts : List Token) :
    closed? d (ts.map (Token.spell f)) = (closed? d ts).map (List.map (Token.spell f)) := by
  induction ts generalizing d with
  | nil => rfl
  | cons t rest ih =>
    rw [List.map_cons, closed?, closed?, Token.closes_spell, Token.level_spell, ih]
    split
    · rfl
    · cases closed? (t.level d) rest <;> rfl

section
variable (hf : StandsFor f) (ha : AvoidsDeclarators f)

include hf ha

theorem isOneOf_spell {ws : List (List Char)} (hws : ∀ w ∈ ws, w ∈ declarators) (t : Token) :
    (t.spell f).isOneOf ws = t.isOneOf ws := by
  have hplain : ∀ w ∈ declarators, IsPlain w := by decide
  cases t with
  | word cs =>
    have heq : ∀ w ∈ ws, cs.flatMap f = w ↔ cs = w := fun w hw =>
      StandsFor.flatMap_eq_iff_of_not_isInfix (fun c hc => hf.eq_self c (hplain w (hws w hw) c hc))
        (fun c => (ha c).imp_right fun hfree => hfree w (hws w hw)) cs
    rw [Token.spell, Token.isOneOf, Token.isOneOf, Bool.eq_iff_iff, List.contains_iff_mem,
      List.contains_iff_mem]
    exact ⟨fun h => (heq _ h).1 rfl ▸ h, fun h => ((heq _ h).2 rfl).symm ▸ h⟩
  | quoted => rfl
  | mark c => rfl

theorem declared_spell (s : Declaring) (t : Token) :
    Reader.declared (s.spell f) (t.spell f)
      = ((Reader.declared s t).1.map (List.flatMap f), (Reader.declared s t).2.spell f) := by
  cases s with
  | among d =>
    show Reader.declared (.among d) (t.spell f) = _
    rw [Reader.declared, Reader.declared, isOneOf_spell hf ha (fun _ h => h), Token.level_spell]
    split <;> rfl
  | asked =>
    cases t with
    | word w => rfl
    | quoted => rfl
    | mark c =>
      show Reader.declared .asked (.mark c) = _
      rw [Reader.declared]
      split <;> rfl
  | listed last =>
    cases t with
    | word w => rfl
    | quoted => rfl
    | mark c =>
      show Reader.declared (.listed (last.map (List.flatMap f))) (.mark c) = _
      rw [Reader.declared, Reader.declared]
      split
      · cases last <;> rfl
      split
      · cases last <;> rfl
      · rfl

theorem initial_spell (s : Initialising) (t : Token) :
    Reader.initial (s.spell f) (t.spell f)
      = ((Reader.initial s t).1.map (List.flatMap f), (Reader.initial s t).2.spell f) := by
  cases s with
  | among d =>
    show Reader.initial (.among d) (t.spell f) = _
    rw [Reader.initial, Reader.initial, isOneOf_spell hf ha (by decide), Token.level_spell]
    split <;> rfl
  | within d last =>
    cases t with
    | word w => rfl
    | quoted => rfl
    | mark c =>
      show Reader.initial (.within d (last.map (List.flatMap f))) (.mark c) = _
      rw [Reader.initial, Reader.initial]
      split
      · rfl
      split
      · cases last <;> rfl
      · rfl

theorem ofBody_spell (body : List Token) :
    FunctionScope.ofBody (body.map (Token.spell f)) = (FunctionScope.ofBody body).spell f := by
  have hd := Reader.run_spell (declared_spell hf ha) (.among 0) body
  have hi := Reader.run_spell (initial_spell hf ha) (.among 0) body
  change Reader.declared.run (.among 0) _ = _ at hd
  change Reader.initial.run (.among 0) _ = _ at hi
  rw [FunctionScope.ofBody, hd, hi]
  rfl

theorem scopeAt?_spell (ts : List Token) :
    scopeAt? (ts.map (Token.spell f))
      = (scopeAt? ts).map fun s => (s.1.flatMap f, s.2.spell f) := by
  rcases ts with _ | ⟨n | _ | _, rest⟩
  · rfl
  · rw [List.map_cons, Token.spell, scopeAt?, scopeAt?, bodyAt?_spell]
    cases bodyAt? 0 0 rest with
    | none => rfl
    | some after =>
      rw [Option.map_some, Option.bind_some, Option.bind_some, closed?_spell]
      cases closed? 0 after with
      | none => rfl
      | some body =>
        rw [Option.map_some, Option.map_some, ofBody_spell hf ha]
        rfl
  · rfl
  · rfl

theorem scopes_spell (d : Nat) (ts : List Token) :
    scopes d (ts.map (Token.spell f)) = (scopes d ts).map fun s => (s.1.flatMap f, s.2.spell f) := by
  have hword : functionWord ∈ keywords := by decide
  induction ts generalizing d with
  | nil => rfl
  | cons t rest ih =>
    rw [List.map_cons, scopes, scopes, List.map_append, Token.level_spell, scopeAt?_spell hf ha, ih]
    simp only [Token.spell_eq_keyword_iff hf hword]
    split
    · cases scopeAt? rest <;> rfl
    · rfl

end

/-! ## Fixed characters -/

/-- Characters that are a part of a module enclose their functions, and names put in change nothing about
that. -/
theorem IsClosed.encloses {cs : List Char} (h : IsClosed cs) (hf : StandsFor f) :
    ∃ ss, ss.map Prod.fst = (functionsOf cs).map (fun g => g.1.flatMap f)
      ∧ Encloses ((tokensOf cs).map (Token.spell f)) ss
      ∧ (AvoidsDeclarators f →
        ss = (scopes 0 (tokensOf cs)).map fun s => (s.1.flatMap f, s.2.spell f)) := by
  have hscan := scan_spell_tokensOf hf h.2.1
  refine ⟨scopes 0 ((tokensOf cs).map (Token.spell f)), ?_, encloses_of_scan hscan, fun ha => ?_⟩
  · rw [map_fst_scopes hscan, List.map_map]
    rfl
  · exact scopes_spell hf ha 0 (tokensOf cs)

end Scaffold.Script
