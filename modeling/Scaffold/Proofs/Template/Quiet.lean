import Scaffold.Proofs.Template.Shape

/-!
# Quiet templates

Templates that always have a text, and in whose text no line begins as a declaration could. The rules
follow the ways in which templates are written; they are sound in every scope that has the shapes that
the templates count on.
-/

namespace Scaffold

open Script (quietFrom)

/-! ## Fixed text -/

/-- A line that does not begin as a declaration could. -/
def QuietLine (cs : List Char) : Prop := quietFrom true (cs ++ ['\n']) = some true

instance (cs : List Char) : Decidable (QuietLine cs) := inferInstanceAs (Decidable (_ = _))

/-- Lines that do not begin as declarations could. -/
inductive QuietLines : List String → Prop where
  | nil : QuietLines []
  | cons {cs : List Char} {ls : List String} (h : QuietLine cs) (hr : QuietLines ls) :
    QuietLines (String.ofList cs :: ls)

/-- A piece of a line; if `start` is true, one at the start of the line. -/
def QuietPiece (start : Bool) (cs : List Char) : Prop := quietFrom start cs = some false

instance (start : Bool) (cs : List Char) : Decidable (QuietPiece start cs) :=
  inferInstanceAs (Decidable (_ = _))

/-- Names that differ. -/
def Differ (m n : String) : Prop := (m == n) = false

instance (m n : String) : Decidable (Differ m n) := inferInstanceAs (Decidable (_ = _))

/-- A variable that is not among others. -/
inductive Context.Fresh (n : String) : Context → Prop where
  | nil : Fresh n []
  | cons {m : String} {shape : Shape} {Γ : Context} (h : Differ m n) (hr : Fresh n Γ) :
    Fresh n ((m, shape) :: Γ)

/-! ## Texts of sequences -/

namespace Template

theorem appendText_ok (x y : String) : appendText (.ok x) (.ok y) = .ok (x ++ y) := rfl

theorem appendText_assoc (a b c : Except RenderFault String) :
    appendText (appendText a b) c = appendText a (appendText b c) := by
  cases a with
  | error e => rfl
  | ok x =>
    cases b with
    | error e => rfl
    | ok y =>
      cases c with
      | error e => rfl
      | ok z => rw [appendText_ok, appendText_ok, appendText_ok, appendText_ok, String.append_assoc]

variable {scope : Scope}

theorem render_sequence_cons (t : Template) (ts : List Template) :
    (sequence (t :: ts)).render scope
      = appendText (t.render scope) ((sequence ts).render scope) := by
  cases ts with
  | nil =>
    show t.render scope = appendText (t.render scope) (.ok "")
    cases t.render scope with
    | error e => rfl
    | ok x => rw [appendText_ok, String.append_empty]
  | cons u us => rfl

theorem render_sequence_append (ts us : List Template) :
    (sequence (ts ++ us)).render scope
      = appendText ((sequence ts).render scope) ((sequence us).render scope) := by
  induction ts with
  | nil =>
    show _ = appendText (.ok "") ((sequence us).render scope)
    cases h : (sequence us).render scope with
    | error e => exact h
    | ok x => rw [appendText_ok, String.empty_append, ← h, List.nil_append]
  | cons t ts ih =>
    rw [List.cons_append, render_sequence_cons, ih, render_sequence_cons, appendText_assoc]

/-- The text of lines. -/
theorem render_lines (scope : Scope) (ls : List String) :
    ∃ s, (lines ls).render scope = .ok s ∧ s.toList = ls.flatMap fun l => l.toList ++ ['\n'] := by
  refine ⟨_, rfl, ?_⟩
  rw [String.toList_join, List.flatMap_map]
  congr 1
  funext l
  rw [String.toList_append, String.toList_ofList]

end Template

/-! ## Texts that depend on a value -/

section

variable {scope : Scope} {e : Expr} {v : Value}

theorem Expr.Gives.render_hole (h : e.Gives scope v) : (Template.hole e).render scope = .ok v.display := by
  rw [Template.render, require_eq_ok_iff.2 h]
  rfl

theorem Expr.Gives.render_choose (h : e.Gives scope v) (yes no : Template) :
    (Template.choose e yes no).render scope = if v.truthy then yes.render scope else no.render scope := by
  rw [Template.render, require_eq_ok_iff.2 h]

theorem Expr.Gives.render_when (h : e.Gives scope v) (parts : List Template) :
    (Template.when e parts).render scope
      = if v.truthy then (Template.sequence parts).render scope else .ok "" :=
  h.render_choose (Template.sequence parts) Template.nothing

/-- What is asked of the text of parts that are there only if a value counts as true. -/
theorem Template.exists_render_when {P : String → Prop} {parts : List Template} (hg : e.Gives scope v)
    (h : v.truthy = true → ∃ s, (sequence parts).render scope = .ok s ∧ P s)
    (hn : v.truthy = false → ∃ s, (sequence []).render scope = .ok s ∧ P s) :
    ∃ s, (when e parts).render scope = .ok s ∧ P s := by
  rw [hg.render_when]
  cases hv : v.truthy with
  | true => exact h hv
  | false => exact hn hv

end

/-! ## The rules -/

namespace Template

/-- The shapes of arguments from the shapes of variables. -/
inductive Arguments (Γ : Context) : List (String × Expr) → Context → Prop where
  | nil : Arguments Γ [] []
  | cons {n : String} {e : Expr} {shape : Shape} {rest : List (String × Expr)} {Δ : Context}
    (he : Expr.Has Γ e shape) (hr : Arguments Γ rest Δ) (hn : Δ.Fresh n) :
    Arguments Γ ((n, e) :: rest) ((n, shape) :: Δ)

/-- A template is quiet under the shapes of variables, from the start of a line or inside of it to the
start of a line or inside of it. -/
inductive Quiet : Context → Template → Bool → Bool → Prop where
  | lines {Γ : Context} {ls : List String} (h : QuietLines ls) : Quiet Γ (lines ls) true true
  | row {Γ : Context} {parts : List Template} {b : Bool} (h : Quiet Γ (sequence parts) true b) :
    Quiet Γ (row parts) true true
  | when {Γ : Context} {test : Expr} {shape : Shape} {parts : List Template} {a : Bool}
    (ht : Expr.Has Γ test shape) (h : Quiet Γ (sequence parts) a a) : Quiet Γ (when test parts) a a
  | forEach {Γ : Context} {item : String} {source : Expr} {parts : List Template} {n : Nat}
    {shape : Shape} {a : Bool} (hs : Expr.Has Γ source (.list n shape)) (hi : Γ.Fresh item)
    (hl : Γ.Fresh "loop") (hd : Differ "loop" item)
    (h : Quiet ((item, shape) :: ("loop", .record [("index0", .index n)]) :: Γ)
      (sequence parts) a a) : Quiet Γ (forEach item source parts) a a
  | text {Γ : Context} {cs : List Char} {a : Bool} (h : QuietPiece a cs) :
    Quiet Γ (text (String.ofList cs)) a false
  | hole {Γ : Context} {e : Expr} {shape : Shape} (he : Expr.Has Γ e shape) (h : shape.Prints) :
    Quiet Γ (hole e) false false
  | block {Γ : Context} {e : Expr} (he : Expr.Has Γ e .block) : Quiet Γ (hole e) true false
  | choose {Γ : Context} {test : Expr} {shape : Shape} {yes no : Template} {a b : Bool}
    (ht : Expr.Has Γ test shape) (hy : Quiet Γ yes a b) (hn : Quiet Γ no a b) :
    Quiet Γ (choose test yes no) a b
  | bind {Γ : Context} {n : String} {e : Expr} {shape : Shape} {body : Template} {a b : Bool}
    (he : Expr.Has Γ e shape) (hn : Γ.Fresh n) (h : Quiet ((n, shape) :: Γ) body a b) :
    Quiet Γ (bind n e body) a b
  | within {Γ Δ : Context} {arguments : List (String × Expr)} {body : Template} {a b : Bool}
    (ha : Arguments Γ arguments Δ) (h : Quiet Δ body a b) : Quiet Γ (within arguments body) a b
  | nil {Γ : Context} {a : Bool} : Quiet Γ (sequence []) a a
  | cons {Γ : Context} {t : Template} {ts : List Template} {a b c : Bool} (h : Quiet Γ t a b)
    (hr : Quiet Γ (sequence ts) b c) : Quiet Γ (sequence (t :: ts)) a c
  | whenSome {Γ : Context} {x : String} {shape : Shape} {parts : List Template} {a : Bool}
    (hx : Shape.Among Γ x (.optional shape)) (h : Quiet ((x, shape) :: Γ) (sequence parts) a a) :
    Quiet Γ (when (.name x) parts) a a

/-! ## Soundness -/

theorem quietFrom_lines {ls : List String} (h : QuietLines ls) :
    quietFrom true (ls.flatMap fun l => l.toList ++ ['\n']) = some true := by
  induction h with
  | nil => rfl
  | cons h hr ih =>
    rw [List.flatMap_cons, String.toList_ofList, Script.quietFrom_append h]
    exact ih

/-- A template has a text in a scope, and the text is quiet. -/
def IsQuiet (scope : Scope) (t : Template) (a b : Bool) : Prop :=
  ∃ s, t.render scope = .ok s ∧ quietFrom a s.toList = some b

variable {scope : Scope}

theorem isQuiet_nil (scope : Scope) (a : Bool) : IsQuiet scope (sequence []) a a :=
  ⟨"", rfl, by rw [String.toList_empty]; rfl⟩

theorem IsQuiet.cons {t : Template} {ts : List Template} {a b c : Bool} (h : IsQuiet scope t a b)
    (hr : IsQuiet scope (sequence ts) b c) : IsQuiet scope (sequence (t :: ts)) a c := by
  obtain ⟨x, hx, hq⟩ := h
  obtain ⟨y, hy, hr⟩ := hr
  refine ⟨x ++ y, ?_, ?_⟩
  · rw [render_sequence_cons, hx, hy, appendText_ok]
  · rw [String.toList_append, Script.quietFrom_append hq, hr]

theorem isQuiet_row {parts : List Template} {a b : Bool} (h : IsQuiet scope (sequence parts) a b) :
    IsQuiet scope (row parts) a true := by
  obtain ⟨x, hx, hq⟩ := h
  refine ⟨x ++ "\n", ?_, ?_⟩
  · show (sequence (parts ++ [text "\n"])).render scope = _
    rw [render_sequence_append, hx]
    rfl
  · rw [String.toList_append, Script.quietFrom_append hq, String.toList_ofList]
    cases b <;> rfl

/-- The text for the items of a list is quiet if that for each item at its place is. -/
theorem isQuiet_renderEach {render : Nat → Value → Except RenderFault String} {a : Bool} {n : Nat}
    (items : List Value) (i : Nat) (hn : i + items.length = n)
    (h : ∀ v ∈ items, ∀ j < n, ∃ s, render j v = .ok s ∧ quietFrom a s.toList = some a) :
    ∃ s, renderEach render i items = .ok s ∧ quietFrom a s.toList = some a := by
  induction items generalizing i with
  | nil => exact ⟨"", rfl, by rw [String.toList_empty]; rfl⟩
  | cons v rest ih =>
    rw [List.length_cons] at hn
    obtain ⟨x, hx, hq⟩ := h v List.mem_cons_self i (by omega)
    obtain ⟨y, hy, hr⟩ := ih (i + 1) (by omega) fun w hw => h w (List.mem_cons_of_mem v hw)
    refine ⟨x ++ y, ?_, ?_⟩
    · rw [renderEach, hx, hy, appendText_ok]
    · rw [String.toList_append, Script.quietFrom_append hq, hr]

end Template

/-! ### Scopes -/

namespace Context

variable {Γ : Context} {scope : Scope}

theorem Fresh.ne {n : String} (h : Γ.Fresh n) : ∀ b ∈ Γ, (b.1 == n) = false := by
  induction h with
  | nil => exact fun b hb => absurd hb List.not_mem_nil
  | cons h hr ih =>
    intro b hb
    rcases List.mem_cons.1 hb with rfl | hb
    · exact h
    · exact ih b hb

theorem fits_nil : Context.Fits [] [] := fun _ hb => absurd hb List.not_mem_nil

/-- A scope with one more variable. -/
theorem fits_cons {n : String} {shape : Shape} {v : Value} (hv : shape.Fits v) (hn : Γ.Fresh n)
    (h : Γ.Fits scope) : Context.Fits ((n, shape) :: Γ) ((n, .value v) :: scope) := by
  intro b hb
  rcases List.mem_cons.1 hb with rfl | hb
  · exact ⟨v, List.lookup_cons_self, hv⟩
  · obtain ⟨w, hl, hw⟩ := h b hb
    refine ⟨w, ?_, hw⟩
    rw [List.lookup_cons, hn.ne b hb]
    exact hl

end Context

namespace Template

theorem Arguments.sound {Γ Δ : Context} {arguments : List (String × Expr)} {scope : Scope}
    (h : Arguments Γ arguments Δ) (hs : Γ.Fits scope) :
    ∃ inner, argumentScope scope arguments = .ok inner ∧ Δ.Fits inner := by
  induction h with
  | nil => exact ⟨[], rfl, fun b hb => absurd hb List.not_mem_nil⟩
  | cons he hr hn ih =>
    obtain ⟨v, hg, hv⟩ := he.sound hs
    obtain ⟨inner, hi, hf⟩ := ih
    refine ⟨_, ?_, Context.fits_cons hv hn hf⟩
    unfold Expr.Gives at hg
    rw [argumentScope, hg, hi]

/-- A quiet template has a text in every scope with the shapes that it counts on, and no line of the
text begins as a declaration could. -/
theorem Quiet.sound {Γ : Context} {t : Template} {a b : Bool} (h : Quiet Γ t a b) {scope : Scope}
    (hs : Γ.Fits scope) : IsQuiet scope t a b := by
  induction h generalizing scope with
  | lines h =>
    obtain ⟨s, hr, hl⟩ := render_lines scope _
    exact ⟨s, hr, hl ▸ quietFrom_lines h⟩
  | row h ih => exact isQuiet_row (ih hs)
  | when ht h ih =>
    obtain ⟨v, hg, -⟩ := ht.sound hs
    exact exists_render_when hg (fun _ => ih hs) fun _ => isQuiet_nil scope _
  | @forEach Γ item source parts n shape a hsrc hi hl hd h ih =>
    obtain ⟨v, hg, hv⟩ := hsrc.sound hs
    rw [Shape.Fits] at hv
    obtain ⟨items, rfl, hn, hall⟩ := hv
    unfold IsQuiet Template.forEach
    rw [render, Expr.require_eq_ok_iff.2 hg]
    refine isQuiet_renderEach items 0 (by omega : 0 + items.length = n) fun w hw j hj => ih ?_
    -- The item and its place are in front of the variables that the list itself is told by.
    have hplace : (Shape.record [("index0", .index n)]).Fits (Value.record [("index0", .int j)]) := by
      rw [Shape.Fits, Shape.PartsFit, Shape.PartsFit]
      exact ⟨⟨_, Expr.partOf_record List.lookup_cons_self, by rw [Shape.Fits]; exact ⟨j, rfl, hj⟩⟩,
        trivial⟩
    exact Context.fits_cons (hall w hw) (.cons hd hi) (Context.fits_cons hplace hl hs)
  | text h => exact ⟨_, rfl, by rw [String.toList_ofList]; exact h⟩
  | hole he h =>
    obtain ⟨v, hg, hv⟩ := he.sound hs
    exact ⟨v.display, hg.render_hole, Script.quietFrom_of_not_mem (h.display hv)⟩
  | block he =>
    obtain ⟨v, hg, hv⟩ := he.sound hs
    rw [Shape.Fits] at hv
    exact ⟨v.display, hg.render_hole, hv⟩
  | choose ht hy hn ihy ihn =>
    obtain ⟨v, hg, -⟩ := ht.sound hs
    unfold IsQuiet
    rw [hg.render_choose]
    split
    · exact ihy hs
    · exact ihn hs
  | bind he hn h ih =>
    obtain ⟨v, hg, hv⟩ := he.sound hs
    unfold Expr.Gives at hg
    unfold IsQuiet
    rw [render, hg]
    exact ih (Context.fits_cons hv hn hs)
  | within ha h ih =>
    obtain ⟨inner, hi, hf⟩ := ha.sound hs
    unfold IsQuiet
    rw [render, hi]
    exact ih hf
  | nil => exact isQuiet_nil scope _
  | cons h hr ih ihr => exact (ih hs).cons (ihr hs)
  | @whenSome Γ x shape parts a hx h ih =>
    obtain ⟨v, hl, hv⟩ := hs _ hx.mem
    rw [Shape.Fits] at hv
    refine exists_render_when (Expr.gives_name_iff.2 hl) (fun ht => ih fun b hb => ?_) fun _ =>
      isQuiet_nil scope a
    -- in the parts the variable has the shape of a value that counts as true
    rcases List.mem_cons.1 hb with rfl | hb
    · exact ⟨v, hl, hv ht⟩
    · exact hs b hb

end Template

end Scaffold
