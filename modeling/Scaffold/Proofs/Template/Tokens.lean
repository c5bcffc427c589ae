import Mathlib.Data.List.Forall2
import Scaffold.Proofs.Script.Spelling
import Scaffold.Proofs.Template.Declared

/-!
# Tokens of templates

What the text of a template is read as. Names that are put into a text are known by characters that stand
for them, so that fixed characters have the tokens of the text: all that is asked of the tokens is
computed on these.
-/

namespace Scaffold

open Script (Lexing Token StandsFor)

namespace Script

/-- A text is read as tokens, from the end of a token to the end of a token. -/
def HasTokens (s : String) (ts : List Token) : Prop := Lexing.between.run s.toList = (ts, .between)

theorem hasTokens_empty : HasTokens "" [] := by
  rw [HasTokens, String.toList_empty]
  rfl

theorem HasTokens.append {s t : String} {ts us : List Token} (h : HasTokens s ts)
    (h' : HasTokens t us) : HasTokens (s ++ t) (ts ++ us) := by
  rw [HasTokens, String.toList_append]
  exact Lexing.run_append_of_eq h h'

theorem HasTokens.tokens_eq {s : String} {ts : List Token} (h : HasTokens s ts) : tokens s = ts := by
  rw [tokens, h]
  exact List.append_nil ts

/-- Texts put together have the tokens of all of them. -/
theorem hasTokens_join {α : Type} {items : List α} {texts : List String} {ts : α → List Token}
    (h : List.Forall₂ (fun x s => HasTokens s (ts x)) items texts) :
    HasTokens (String.join texts) (items.flatMap ts) := by
  induction h with
  | nil => exact hasTokens_empty
  | cons hx h ih =>
    rw [String.join_cons, List.flatMap_cons]
    exact hx.append ih

theorem hasTokens_join_map {α : Type} {items : List α} {text : α → String} {ts : α → List Token}
    (h : ∀ x ∈ items, HasTokens (text x) (ts x)) :
    HasTokens (String.join (items.map text)) (items.flatMap ts) :=
  hasTokens_join (List.forall₂_map_right_iff.2 (List.forall₂_same.2 h))

end Script

namespace Template

/-- What is known of variables: the characters that stand for names, which values count as true, and
characters that are read as the literal of a value is. -/
structure Known where
  names : List (List String × Char) := []
  flags : List (List String × Bool) := []
  literals : List (List String × List Char) := []

/-- What is known of variables is true in a scope. -/
structure Known.Holds (k : Known) (f : Char → List Char) (scope : Scope) : Prop where
  names : ∀ e ∈ k.names, ∃ s, (Expr.path e.1).Gives scope (.text s) ∧ s.toList = f e.2
  flags : ∀ e ∈ k.flags, ∃ v, (Expr.path e.1).Gives scope v ∧ v.truthy = e.2
  literals : ∀ e ∈ k.literals, ∃ v s, (Expr.path e.1).Gives scope v ∧ Script.literal v = .ok s
    ∧ Script.IsPlain e.2 ∧ Lexing.between.run s.toList = Lexing.between.run e.2

/-- The text of a template is read as these characters are, if names are put in. The template begins
after something else has been read. -/
inductive Reads (k : Known) : Lexing → Template → List Char → Prop where
  | lines {a : Lexing} {ls : List String} {css : List (List Char)} (h : Text.Spells ls css)
    (hp : Script.IsPlain (Script.joinLines css)) : Reads k a (lines ls) (Script.joinLines css)
  | text {a : Lexing} {cs : List Char} (hp : Script.IsPlain cs) : Reads k a (text (String.ofList cs)) cs
  | name {a : Lexing} {path : List String} {c : Char} (h : k.names.lookup path = some c) :
    Reads k a (value path) [c]
  | literal {a : Lexing} {path : List String} {cs : List Char} (ha : a = .between)
    (h : k.literals.lookup path = some cs) : Reads k a (script path) cs
  | when {a : Lexing} {path : List String} {b : Bool} {parts : List Template} {cs : List Char}
    (h : k.flags.lookup path = some b) (hr : Reads k a (sequence parts) cs) :
    Reads k a (when (.path path) parts) (if b then cs else [])
  | off {a : Lexing} {path : List String} {parts : List Template}
    (h : k.flags.lookup path = some false) : Reads k a (when (.path path) parts) []
  | row {a : Lexing} {parts : List Template} {cs : List Char} (h : Reads k a (sequence parts) cs) :
    Reads k a (row parts) (cs ++ ['\n'])
  | nil {a : Lexing} : Reads k a (sequence []) []
  | cons {a : Lexing} {t : Template} {ts : List Template} {cs ds : List Char} (h : Reads k a t cs)
    (hr : Reads k (a.run cs).2 (sequence ts) ds) : Reads k a (sequence (t :: ts)) (cs ++ ds)
  | nothing {a : Lexing} : Reads k a nothing []
  | both {a : Lexing} {t u : Template} {cs ds : List Char} (h : Reads k a t cs)
    (hu : Reads k (a.run cs).2 u ds) : Reads k a (both t u) (cs ++ ds)

variable {k : Known} {f : Char → List Char} {scope : Scope}

theorem render_when {path : List String} {b : Bool} (hk : k.Holds f scope)
    (h : k.flags.lookup path = some b) (parts : List Template) :
    (when (.path path) parts).render scope
      = if b then (sequence parts).render scope else .ok "" := by
  obtain ⟨v, hg, hv⟩ := hk.flags _ (Script.mem_of_lookup h)
  rw [hg.render_when, hv]

/-- The text of a template is read as characters are. -/
def IsReadAs (f : Char → List Char) (scope : Scope) (a : Lexing) (t : Template) (cs : List Char) : Prop :=
  ∃ s, t.render scope = .ok s
    ∧ (a.spell f).run s.toList = ((a.run cs).1.map (Token.spell f), (a.run cs).2.spell f)

theorem isReadAs_flatMap (hf : StandsFor f) {a : Lexing} {t : Template} {s : String} {cs : List Char}
    (h : t.render scope = .ok s) (hs : s.toList = cs.flatMap f) : IsReadAs f scope a t cs := by
  refine ⟨s, h, ?_⟩
  rw [hs]
  exact Lexing.run_flatMap hf a cs

theorem IsReadAs.append {a : Lexing} {t u : Template} {cs ds : List Char} (h : IsReadAs f scope a t cs)
    (h' : IsReadAs f scope (a.run cs).2 u ds) :
    ∃ s, appendText (t.render scope) (u.render scope) = .ok s
      ∧ (a.spell f).run s.toList
        = ((a.run (cs ++ ds)).1.map (Token.spell f), (a.run (cs ++ ds)).2.spell f) := by
  obtain ⟨x, hx, hrx⟩ := h
  obtain ⟨y, hy, hry⟩ := h'
  refine ⟨x ++ y, by rw [hx, hy, appendText_ok], ?_⟩
  rw [String.toList_append, Lexing.run_append, Lexing.run_append, hrx, List.map_append]
  dsimp only
  rw [hry]

theorem Reads.sound (hf : StandsFor f) (hk : k.Holds f scope) {a : Lexing} {t : Template}
    {cs : List Char} (h : Reads k a t cs) : IsReadAs f scope a t cs := by
  have hempty (a : Lexing) : IsReadAs f scope a Template.nothing [] :=
    isReadAs_flatMap hf rfl String.toList_empty
  -- by the derivation that reads the template; a part that is left out is read as nothing
  induction h with
  | lines h hp =>
    obtain ⟨s, hr, hl⟩ := render_lines scope _
    exact isReadAs_flatMap hf hr (by rw [hl, h.flatMap_eq, hp.flatMap_eq hf])
  | text hp => exact isReadAs_flatMap hf rfl (by rw [String.toList_ofList, hp.flatMap_eq hf])
  | @name a path c h =>
    obtain ⟨s, hg, hs⟩ := hk.names _ (Script.mem_of_lookup h)
    exact isReadAs_flatMap hf hg.render_hole (by rw [List.flatMap_singleton]; exact hs)
  | @literal a path cs ha h =>
    obtain ⟨v, s, hg, hl, hp, hrun⟩ := hk.literals _ (Script.mem_of_lookup h)
    have hscript : (Expr.script (.path path)).Gives scope (.text s) :=
      Expr.gives_script_iff.2 ⟨v, s, hg, hl, rfl⟩
    subst ha
    refine ⟨s, hscript.render_hole, ?_⟩
    have hspell := Lexing.run_flatMap hf .between cs
    rw [hp.flatMap_eq hf] at hspell
    exact hrun.trans hspell
  | @when a path b parts cs h hr ih =>
    unfold IsReadAs
    rw [render_when hk h]
    cases b with
    | true => exact ih
    | false => exact hempty a
  | @off a path parts h =>
    unfold IsReadAs
    rw [render_when hk h]
    exact hempty a
  | @row a parts cs h ih =>
    have hline : IsReadAs f scope (a.run cs).2 (sequence [Template.text "\n"]) ['\n'] := by
      refine isReadAs_flatMap hf rfl ?_
      rw [String.toList_ofList]
      exact (Script.IsPlain.flatMap_eq hf (by decide)).symm
    unfold IsReadAs Template.row
    rw [render_sequence_append]
    exact ih.append hline
  | nil => exact hempty _
  | cons h hr ih ihr =>
    unfold IsReadAs
    rw [render_sequence_cons]
    exact ih.append ihr
  | nothing => exact hempty _
  | both h hu ih ihu => exact ih.append ihu

/-! ## Lines -/

/-- The text of a template has these tokens, with characters in the places of names. It is a text of lines,
each with tokens of its own, so that the tokens of a line do not depend on what comes before it. -/
inductive Yields (k : Known) : Template → List Token → Prop where
  | lines {ls : List String} {css : List (List Char)} (h : Text.Spells ls css)
    (hp : Script.IsPlain (Script.joinLines css))
    (he : (Lexing.collect [] .between (Script.joinLines css)).2 = .between) :
    Yields k (lines ls) (Lexing.collect [] .between (Script.joinLines css)).1
  | row {parts : List Template} {cs : List Char} (h : Reads k .between (sequence parts) cs)
    (he : (Lexing.collect [] .between (cs ++ ['\n'])).2 = .between) :
    Yields k (row parts) (Lexing.collect [] .between (cs ++ ['\n'])).1
  | when {path : List String} {b : Bool} {parts : List Template} {ts : List Token}
    (h : k.flags.lookup path = some b) (hy : Yields k (sequence parts) ts) :
    Yields k (when (.path path) parts) (if b then ts else [])
  | nil : Yields k (sequence []) []
  | cons {t : Template} {rest : List Template} {ts us : List Token} (h : Yields k t ts)
    (hr : Yields k (sequence rest) us) : Yields k (sequence (t :: rest)) (ts ++ us)
  | nothing : Yields k nothing []
  | both {t u : Template} {ts us : List Token} (h : Yields k t ts) (hu : Yields k u us) :
    Yields k (both t u) (ts ++ us)

theorem Yields.exists_run {t : Template} {ts : List Token} (h : Yields k t ts) :
    ∃ cs, Reads k .between t cs ∧ Lexing.between.run cs = (ts, .between) := by
  have hline {t : Template} {cs : List Char} (hr : Reads k .between t cs)
      (he : (Lexing.collect [] .between cs).2 = .between) :
      ∃ cs', Reads k .between t cs'
        ∧ Lexing.between.run cs' = ((Lexing.collect [] .between cs).1, .between) := by
    rw [Lexing.collect_between] at he ⊢
    exact ⟨cs, hr, Prod.ext rfl he⟩
  induction h with
  | lines h hp he => exact hline (.lines h hp) he
  | row h he => exact hline (.row h) he
  | @when path b parts ts h hy ih =>
    obtain ⟨cs, hr, hrun⟩ := ih
    refine ⟨_, .when h hr, ?_⟩
    cases b with
    | true => exact hrun
    | false => rfl
  | nil => exact ⟨[], .nil, rfl⟩
  | cons h hr ih ihr =>
    obtain ⟨cs, hc, hcs⟩ := ih
    obtain ⟨ds, hd, hds⟩ := ihr
    refine ⟨cs ++ ds, .cons hc ?_, Lexing.run_append_of_eq hcs hds⟩
    rwa [hcs]
  | nothing => exact ⟨[], .nothing, rfl⟩
  | both h hu ih ihu =>
    obtain ⟨cs, hc, hcs⟩ := ih
    obtain ⟨ds, hd, hds⟩ := ihu
    refine ⟨cs ++ ds, .both hc ?_, Lexing.run_append_of_eq hcs hds⟩
    rwa [hcs]

/-- What is asked of the characters that a template is read as can be told from the tokens of its lines. -/
theorem Yields.exists_reads {t : Template} {ts : List Token} (h : Yields k t ts) {P : List Char → Prop}
    (hp : ∀ cs, Lexing.between.stop cs = .between → Script.tokensOf cs = ts → P cs) :
    ∃ cs, Reads k .between t cs ∧ P cs := by
  obtain ⟨cs, hr, hrun⟩ := h.exists_run
  refine ⟨cs, hr, hp cs ?_ (congrArg Prod.fst hrun)⟩
  rw [Lexing.stop_eq, hrun]

/-! ## Whole parts -/

/-- A template whose text ends with a token has the tokens of the characters that it is read as. -/
theorem Reads.hasTokens {t : Template} {cs : List Char} {s : String} (h : Reads k .between t cs)
    (hf : StandsFor f) (hk : k.Holds f scope) (hb : (Lexing.between.run cs).2 = .between)
    (hs : t.render scope = .ok s) :
    Script.HasTokens s ((Lexing.between.run cs).1.map (Token.spell f)) := by
  obtain ⟨r, hr, hrun⟩ := h.sound hf hk
  cases hs.symm.trans hr
  rw [hb] at hrun
  exact hrun

end Template

end Scaffold
