import Scaffold.Proofs.Script.Line
import Scaffold.Proofs.Template.Quiet
import Scaffold.Proofs.Text.Parts

/-!
# Declarations of templates

The declarations in the text of a template, part by part: quiet parts have none, fixed lines have
theirs, and a row has the one that its first pieces spell out.
-/

namespace Scaffold

open Script (Declaration declarationAt quietFrom Emits)

/-! ## Fixed lines -/

/-- Lines put together. -/
def Script.joinLines (css : List (List Char)) : List Char := css.flatMap (· ++ ['\n'])

theorem Text.Spells.flatMap_eq {ls : List String} {css : List (List Char)} (h : Spells ls css) :
    (ls.flatMap fun l => l.toList ++ ['\n']) = Script.joinLines css := by
  induction h with
  | nil => rfl
  | cons h ih =>
    rw [List.flatMap_cons, String.toList_ofList, ih]
    rfl

/-- Lines with the declarations that begin at their starts. A declaration may go on in the lines after
its first one. -/
inductive DeclaredLines : List (List Char) → List Declaration → Prop where
  | nil : DeclaredLines [] []
  | quiet {cs : List Char} {css : List (List Char)} {ds : List Declaration} (h : QuietLine cs)
    (hr : DeclaredLines css ds) : DeclaredLines (cs :: css) ds
  | declared {c : Char} {cs : List Char} {css : List (List Char)} {d : Declaration}
    {ds : List Declaration} (h : declarationAt (Script.joinLines ((c :: cs) :: css)) = some d)
    (hd : d.Ends) (hq : quietFrom (c == '\n') (cs ++ ['\n']) = some true)
    (hr : DeclaredLines css ds) : DeclaredLines ((c :: cs) :: css) (d :: ds)

theorem Script.getLast?_joinLines (cs : List Char) (css : List (List Char)) :
    (joinLines (cs :: css)).getLast? = some '\n' := by
  induction css generalizing cs with
  | nil =>
    rw [joinLines, List.flatMap_cons, List.flatMap_nil, List.append_nil, List.getLast?_append]
    rfl
  | cons next css ih =>
    have hl := ih next
    rw [joinLines] at hl
    rw [joinLines, List.flatMap_cons, List.getLast?_append, hl]
    rfl

theorem DeclaredLines.emits {css : List (List Char)} {ds : List Declaration}
    (h : DeclaredLines css ds) : Emits true (Script.joinLines css) true ds := by
  induction h with
  | nil => exact Script.emits_nil true
  | quiet h hr ih => exact (Script.emits_of_quiet h).append ih
  | @declared c cs css d ds h hd hq hr ih =>
    intro rest
    have hl := Script.getLast?_joinLines (c :: cs) css
    have hn : Script.joinLines ((c :: cs) :: css) = c :: ((cs ++ ['\n']) ++ Script.joinLines css) := rfl
    have hat : declarationAt (Script.joinLines ((c :: cs) :: css) ++ rest) = some d :=
      Script.declarationAt_append hd hl h
    rw [hn, List.cons_append] at hat
    rw [hn, List.cons_append, Script.declarationsFrom, hat, List.append_assoc,
      Script.emits_of_quiet hq, ih]
    rfl

/-! ## Exact texts -/

namespace Template

/-- A template has exactly this text under the shapes of variables, and the text stays in its line. -/
inductive Writes (Γ : Context) : Template → String → Prop where
  | when {test : Expr} {shape : Shape} {parts : List Template} {b : Bool} {s : String}
    (ht : Expr.Has Γ test shape) (hb : shape.Decides b) (h : Writes Γ (sequence parts) s) :
    Writes Γ (when test parts) (if b then s else "")
  | text {cs : List Char} (h : cs.contains '\n' = false) :
    Writes Γ (text (String.ofList cs)) (String.ofList cs)
  | hole {e : Expr} {s : String} (he : Expr.Has Γ e (.exact s)) : Writes Γ (hole e) s
  | nil : Writes Γ (sequence []) ""
  | cons {t : Template} {ts : List Template} {s r : String} (h : Writes Γ t s)
    (hr : Writes Γ (sequence ts) r) : Writes Γ (sequence (t :: ts)) (s ++ r)

theorem Writes.inline {Γ : Context} {t : Template} {s : String} (h : Writes Γ t s)
    {scope : Scope} (hs : Γ.Fits scope) : Inline s := by
  induction h with
  | @when test shape parts b s ht hb h ih =>
    cases b with
    | true => exact ih
    | false => exact inline_ofList rfl
  | text h => exact inline_ofList h
  | hole he =>
    obtain ⟨v, -, hv⟩ := he.sound hs
    rw [Shape.Fits] at hv
    exact hv.2
  | nil => exact inline_ofList rfl
  | cons h hr ih ihr => exact inline_append ih ihr

theorem Writes.sound {Γ : Context} {t : Template} {s : String} (h : Writes Γ t s)
    {scope : Scope} (hs : Γ.Fits scope) : t.render scope = .ok s := by
  induction h with
  | @when test shape parts b s ht hb h ih =>
    obtain ⟨v, hg, hv⟩ := ht.sound hs
    rw [hg.render_when, hb.truthy_eq hv]
    cases b with
    | true => exact ih
    | false => rfl
  | text h => rfl
  | hole he =>
    obtain ⟨v, hg, hv⟩ := he.sound hs
    rw [Shape.Fits] at hv
    rw [hg.render_hole, hv.1]
    rfl
  | nil => rfl
  | cons h hr ih ihr => rw [render_sequence_cons, ih, ihr, appendText_ok]

/-! ## Declarations of templates -/

/-- A template has a text in a scope, and the text has these declarations. -/
def Declares (scope : Scope) (t : Template) (a b : Bool) (ds : List Declaration) : Prop :=
  ∃ s, t.render scope = .ok s ∧ Emits a s.toList b ds

variable {scope : Scope} {Γ : Context}

theorem Quiet.declares {t : Template} {a b : Bool} (h : Quiet Γ t a b) (hs : Γ.Fits scope) :
    Declares scope t a b [] := by
  obtain ⟨s, hr, hq⟩ := h.sound hs
  exact ⟨s, hr, Script.emits_of_quiet hq⟩

theorem declares_nil (scope : Scope) (a : Bool) : Declares scope (sequence []) a a [] :=
  ⟨"", rfl, by rw [String.toList_empty]; exact Script.emits_nil a⟩

theorem Declares.cons {t : Template} {ts : List Template} {a b c : Bool} {ds es : List Declaration}
    (h : Declares scope t a b ds) (hr : Declares scope (sequence ts) b c es) :
    Declares scope (sequence (t :: ts)) a c (ds ++ es) := by
  obtain ⟨x, hx, hd⟩ := h
  obtain ⟨y, hy, he⟩ := hr
  refine ⟨x ++ y, ?_, ?_⟩
  · rw [render_sequence_cons, hx, hy, appendText_ok]
  · rw [String.toList_append]
    exact hd.append he

/-- A quiet part in front adds no declarations. -/
theorem Quiet.before {t : Template} {ts : List Template} {a b c : Bool} {ds : List Declaration}
    (h : Quiet Γ t a b) (hs : Γ.Fits scope) (hr : Declares scope (sequence ts) b c ds) :
    Declares scope (sequence (t :: ts)) a c ds :=
  (h.declares hs).cons hr

theorem declares_lines {ls : List String} {css : List (List Char)} {ds : List Declaration}
    (hc : Text.Spells ls css) (h : DeclaredLines css ds) :
    Declares scope (lines ls) true true ds := by
  obtain ⟨s, hr, hl⟩ := render_lines scope ls
  refine ⟨s, hr, ?_⟩
  rw [hl, hc.flatMap_eq]
  exact h.emits

/-- A template has exactly these lines under the shapes of variables. -/
inductive FixedLines (Γ : Context) : Template → List (List Char) → Prop where
  | lines {ls : List String} {css : List (List Char)} (h : Text.Spells ls css) :
    FixedLines Γ (lines ls) css
  | when {test : Expr} {shape : Shape} {parts : List Template} {b : Bool} {css : List (List Char)}
    (ht : Expr.Has Γ test shape) (hb : shape.Decides b) (h : FixedLines Γ (sequence parts) css) :
    FixedLines Γ (when test parts) (if b then css else [])
  | nil : FixedLines Γ (sequence []) []
  | cons {t : Template} {ts : List Template} {css more : List (List Char)} (h : FixedLines Γ t css)
    (hr : FixedLines Γ (sequence ts) more) : FixedLines Γ (sequence (t :: ts)) (css ++ more)

theorem FixedLines.sound {t : Template} {css : List (List Char)} (h : FixedLines Γ t css)
    (hs : Γ.Fits scope) : ∃ s, t.render scope = .ok s ∧ s.toList = Script.joinLines css := by
  induction h with
  | lines h =>
    obtain ⟨s, hr, hl⟩ := render_lines scope _
    exact ⟨s, hr, hl.trans h.flatMap_eq⟩
  | @when test shape parts b css ht hb h ih =>
    obtain ⟨v, hg, hv⟩ := ht.sound hs
    rw [hg.render_when, hb.truthy_eq hv]
    cases b with
    | true => exact ih
    | false => exact ⟨"", rfl, String.toList_empty⟩
  | nil => exact ⟨"", rfl, String.toList_empty⟩
  | cons h hr ih ihr =>
    obtain ⟨x, hx, hl⟩ := ih
    obtain ⟨y, hy, hm⟩ := ihr
    refine ⟨x ++ y, ?_, ?_⟩
    · rw [render_sequence_cons, hx, hy, appendText_ok]
    · rw [String.toList_append, hl, hm, Script.joinLines, Script.joinLines, Script.joinLines,
        List.flatMap_append]

/-- Declarations that go on from one part to the next, in parts with fixed lines. -/
theorem declares_fixedLines (hs : Γ.Fits scope) {t : Template} {css : List (List Char)}
    {ds : List Declaration} (h : FixedLines Γ t css) (hd : DeclaredLines css ds) :
    Declares scope t true true ds := by
  obtain ⟨s, hr, hl⟩ := h.sound hs
  refine ⟨s, hr, ?_⟩
  rw [hl]
  exact hd.emits

/-- A row whose first pieces spell out a declaration. -/
theorem declares_row (k : Nat) {parts : List Template} {s : String} {b : Bool} {d : Declaration}
    (hs : Γ.Fits scope) (hw : Writes Γ (sequence (parts.take k)) s)
    (hd : ∀ rest, declarationAt (s.toList ++ rest) = some d)
    (hq : Quiet Γ (sequence (parts.drop k)) false b) :
    Declares scope (row parts) true true [d] := by
  obtain ⟨r, hr, hq⟩ := isQuiet_row (hq.sound hs)
  refine ⟨s ++ r, ?_, ?_⟩
  -- the row is cut where the declaration ends; its rest stays on the same line
  · have hp : (row parts).render scope
        = appendText ((sequence (parts.take k)).render scope) ((row (parts.drop k)).render scope) := by
      show (sequence (parts ++ [text "\n"])).render scope
        = appendText _ ((sequence (parts.drop k ++ [text "\n"])).render scope)
      rw [← render_sequence_append, ← List.append_assoc, List.take_append_drop]
    rw [hp, hw.sound hs, hr, appendText_ok]
  · have hn := hw.inline hs
    unfold Inline at hn
    rw [String.toList_append]
    cases hl : s.toList with
    | nil =>
      have h0 := hd []
      rw [hl] at h0
      cases h0
    | cons c cs =>
      rw [hl] at hd hn
      have hc : (c == '\n') = false := beq_eq_false_iff_ne.2 fun e => hn (e ▸ List.mem_cons_self)
      rw [List.cons_append]
      refine Script.emits_declaration (fun rest => ?_) ?_
      · rw [List.append_assoc]
        exact hd (r.toList ++ rest)
      · rw [hc, Script.quietFrom_append
          (Script.quietFrom_of_not_mem fun hm => hn (List.mem_cons_of_mem c hm))]
        exact hq

/-- Parts that are there only if a value counts as true. -/
theorem declares_when {test : Expr} {shape : Shape} {parts : List Template} {b : Bool} {a : Bool}
    {ds : List Declaration} (hs : Γ.Fits scope) (ht : Expr.Has Γ test shape) (hb : shape.Decides b)
    (h : b = true → Declares scope (sequence parts) a a ds) :
    Declares scope (when test parts) a a (if b then ds else []) := by
  obtain ⟨v, hg, hv⟩ := ht.sound hs
  unfold Declares
  rw [hg.render_when, hb.truthy_eq hv]
  cases b with
  | true => exact h rfl
  | false => exact declares_nil scope a

theorem Declares.when {test : Expr} {shape : Shape} {parts : List Template} {b : Bool} {a : Bool}
    {ds : List Declaration} (hs : Γ.Fits scope) (ht : Expr.Has Γ test shape) (hb : shape.Decides b)
    (h : Declares scope (sequence parts) a a ds) :
    Declares scope (when test parts) a a (if b then ds else []) :=
  declares_when hs ht hb fun _ => h

/-- Parts for each item of a list, which may tell the place of the item. What holds of the text for each
item holds of the whole text, if it goes from two texts to both of them. -/
theorem render_forEach_at {α β : Type} {P : String → List β → Prop} (hnil : P "" [])
    (happend : ∀ {x y as bs}, P x as → P y bs → P (x ++ y) (as ++ bs)) {item : String}
    {source : Expr} {parts : List Template} {items : List α} {value : α → Value} {found : α → List β}
    (hs : source.Gives scope (.list (items.map value)))
    (h : ∀ i x, items[i]? = some x → ∃ s,
      (sequence parts).render (itemScope scope item i (value x)) = .ok s ∧ P s (found x)) :
    ∃ s, (forEach item source parts).render scope = .ok s ∧ P s (items.flatMap found) := by
  -- the places are counted from any start, since the tail of the list does not begin at zero
  have hall : ∀ k, (∀ i x, items[i]? = some x → ∃ s,
      (sequence parts).render (itemScope scope item (k + i) (value x)) = .ok s ∧ P s (found x)) →
      ∃ s, renderEach (fun i v => (sequence parts).render (itemScope scope item i v)) k
        (items.map value) = .ok s ∧ P s (items.flatMap found) := by
    clear hs h
    induction items with
    | nil => exact fun k _ => ⟨"", rfl, hnil⟩
    | cons x rest ih =>
      intro k h
      obtain ⟨s, hx, hd⟩ := h 0 x rfl
      obtain ⟨r, hr, he⟩ := ih (k + 1) fun i y hy => by
        have hi : k + 1 + i = k + (i + 1) := by omega
        rw [hi]
        exact h (i + 1) y hy
      refine ⟨s ++ r, ?_, ?_⟩
      · rw [List.map_cons, renderEach, hr]
        exact congrArg (appendText · (.ok r)) hx
      · rw [List.flatMap_cons]
        exact happend hd he
  unfold forEach
  rw [render, Expr.require_eq_ok_iff.2 hs]
  refine hall 0 fun i x hx => ?_
  rw [Nat.zero_add]
  exact h i x hx

/-- Parts for each item of a list, wherever it stands. -/
theorem render_forEach {α β : Type} {P : String → List β → Prop} (hnil : P "" [])
    (happend : ∀ {x y as bs}, P x as → P y bs → P (x ++ y) (as ++ bs)) {item : String}
    {source : Expr} {parts : List Template} {items : List α} {value : α → Value} {found : α → List β}
    (hs : source.Gives scope (.list (items.map value)))
    (h : ∀ x ∈ items, ∀ i, ∃ s,
      (sequence parts).render (itemScope scope item i (value x)) = .ok s ∧ P s (found x)) :
    ∃ s, (forEach item source parts).render scope = .ok s ∧ P s (items.flatMap found) :=
  render_forEach_at hnil happend hs fun i x hx => h x (List.mem_of_getElem? hx) i

/-- Parts for each item of a list, with the declarations of each item. -/
theorem declares_forEach {α : Type} {item : String} {source : Expr} {parts : List Template}
    {a : Bool} {items : List α} {value : α → Value} {ds : α → List Declaration}
    (hs : source.Gives scope (.list (items.map value)))
    (h : ∀ x ∈ items, ∀ i, Declares (itemScope scope item i (value x)) (sequence parts) a a (ds x)) :
    Declares scope (forEach item source parts) a a (items.flatMap ds) := by
  refine render_forEach (P := fun s ds => Emits a s.toList a ds) ?_ ?_ hs h
  · rw [String.toList_empty]
    exact Script.emits_nil a
  · intro x y as bs hx hy
    rw [String.toList_append]
    exact hx.append hy

/-! ## Components -/

/-- A template whose texts are components. -/
def MakesComponent (t : Template) : Prop :=
  ∀ scope s, t.render scope = .ok s → Script.isComponent s = true

theorem makesComponent_lines {ls : List String} {cs : List Char} {css : List (List Char)}
    (h : Text.Spells ls (cs :: css)) (hc : Script.isComponent (String.ofList cs) = true) :
    MakesComponent (lines ls) := by
  intro scope s hs
  obtain ⟨r, hr, hl⟩ := render_lines scope ls
  rw [hr, Except.ok.injEq] at hs
  rw [← hs]
  have he : r = String.ofList cs ++ String.ofList ('\n' :: Script.joinLines css) := by
    apply String.toList_inj.1
    rw [hl, h.flatMap_eq, String.toList_append, String.toList_ofList, String.toList_ofList,
      Script.joinLines, List.flatMap_cons, List.append_assoc]
    rfl
  rw [he]
  exact Script.isComponent_append hc _

/-- The first part tells whether a text is a component. -/
theorem MakesComponent.sequence {t : Template} (h : MakesComponent t) (ts : List Template) :
    MakesComponent (sequence (t :: ts)) := by
  intro scope s hs
  rw [render_sequence_cons] at hs
  cases hx : t.render scope with
  | error e =>
    rw [hx] at hs
    cases hs
  | ok x =>
    cases hy : (Template.sequence ts).render scope with
    | error e =>
      rw [hx, hy] at hs
      cases hs
    | ok y =>
      rw [hx, hy, appendText_ok] at hs
      cases hs
      exact Script.isComponent_append (h scope x hx) y

end Template

/-- A file from a template for components is one. -/
theorem Artifact.isComponent_ofTemplate {path : String} {t : Template}
    {values : List (String × Value)} {f : Artifact} (ht : t.MakesComponent)
    (hf : Artifact.ofTemplate path t values = .ok f) : Script.isComponent f.content = true := by
  unfold Artifact.ofTemplate at hf
  cases hr : t.render (Scope.ofValues values) with
  | error e =>
    rw [hr] at hf
    cases hf
  | ok s =>
    rw [hr] at hf
    cases hf
    exact ht _ s hr

/-- A file was made, it has this path, and its text has these declarations. -/
def Artifact.IsMade (r : Except RenderFault Artifact) (path : String) (ds : List Declaration) : Prop :=
  ∃ f, r = .ok f ∧ f.path = path ∧ Script.declarations f.content = ds

/-- A file from a template is made with the declarations of the template. -/
theorem Artifact.isMade_ofTemplate {path : String} {t : Template}
    {values : List (String × Value)} {b : Bool} {ds : List Declaration}
    (h : t.Declares (Scope.ofValues values) true b ds) :
    Artifact.IsMade (Artifact.ofTemplate path t values) path ds := by
  obtain ⟨s, hr, hd⟩ := h
  refine ⟨⟨path, s⟩, ?_, rfl, hd.declarations_eq⟩
  unfold Artifact.ofTemplate
  rw [hr]
  rfl

end Scaffold
