import Mathlib.Data.List.Forall2
import Scaffold.Proofs.Script.Push
import Scaffold.Proofs.Template.Declared

/-!
# Parts of generated text

A template that goes from part to part can be taken apart after any of them: its text is the text of the
first parts and the text of the others. What is repeated for items has one text for each of them. A text
whose lines are read each by itself says what its parts say, one after the other.
-/

namespace Scaffold

/-! ## Values in scopes -/

namespace Expr.Gives

variable {scope : Scope} {e index : Expr}

/-- A part of a record that an expression stands for. -/
theorem of_record {parts : List (String × Value)} {n : String} {x : Value}
    (he : e.Gives scope (Value.record parts)) (h : parts.lookup n = some x) :
    (Expr.part e n).Gives scope x :=
  gives_part_iff.2 ⟨_, he, partOf_record h⟩

/-- An element of a value that an expression stands for. -/
theorem of_lookup {v i x : Value} (he : e.Gives scope v) (hi : index.Gives scope i)
    (h : Expr.lookup? v i = some x) : (Expr.element e index).Gives scope x :=
  gives_element_iff.2 ⟨v, i, he, hi, h⟩

/-- The literal of a text. -/
theorem quoted {s : String} (he : e.Gives scope (.text s)) :
    (Expr.script e).Gives scope (.text (Script.quote s)) :=
  gives_script_iff.2 ⟨_, _, he, rfl, rfl⟩

/-- The literal of texts stands on one line, whatever the texts hold. -/
theorem exists_literal {l : List String} (he : e.Gives scope (Value.texts l)) :
    ∃ s, (Expr.script e).Gives scope (.text s) ∧ Inline s := by
  obtain ⟨s, hs, hline⟩ := Script.literal_texts l
  exact ⟨s, gives_script_iff.2 ⟨_, s, he, hs, rfl⟩, hline⟩

end Expr.Gives

namespace Template

/-- A hole for a text. -/
theorem render_hole {scope : Scope} {e : Expr} {s : String} (h : e.Gives scope (.text s)) :
    (hole e).render scope = .ok s := h.render_hole

/-! ## Lines -/

/-- A template that has one line as its text. -/
def IsLine (scope : Scope) (t : Template) (cs : List Char) : Prop :=
  ∃ s, t.render scope = .ok s ∧ s.toList = cs ++ ['\n']

theorem isLine_lines (scope : Scope) (cs : List Char) : IsLine scope (lines [String.ofList cs]) cs := by
  obtain ⟨s, hr, hs⟩ := render_lines scope [String.ofList cs]
  refine ⟨s, hr, ?_⟩
  rw [hs, List.flatMap_singleton, String.toList_ofList]

/-- What stands on a line that is put together from parts: fixed texts, and the texts and values of holes. -/
inductive Row (scope : Scope) : List Template → List Char → Prop
  | nil : Row scope [] []
  | text {cs ds : List Char} {ts : List Template} (h : Row scope ts ds) :
    Row scope (text (String.ofList cs) :: ts) (cs ++ ds)
  | hole {e : Expr} {s : String} {ds : List Char} {ts : List Template} (he : e.Gives scope (.text s))
    (h : Row scope ts ds) : Row scope (hole e :: ts) (s.toList ++ ds)
  | shown {e : Expr} {v : Value} {ds : List Char} {ts : List Template} (he : e.Gives scope v)
    (h : Row scope ts ds) : Row scope (hole e :: ts) (v.display.toList ++ ds)

theorem Row.isLine {scope : Scope} {ts : List Template} {cs : List Char} (h : Row scope ts cs) :
    IsLine scope (row ts) cs := by
  unfold IsLine row
  induction h with
  | nil => exact ⟨"\n", rfl, String.toList_ofList⟩
  | text h ih =>
    obtain ⟨s, hr, hs⟩ := ih
    refine ⟨_, by rw [List.cons_append, render_sequence_cons, hr, render, appendText_ok], ?_⟩
    rw [String.toList_append, String.toList_ofList, hs, List.append_assoc]
  | hole he h ih =>
    obtain ⟨s, hr, hs⟩ := ih
    refine ⟨_, by rw [List.cons_append, render_sequence_cons, hr, render_hole he, appendText_ok], ?_⟩
    rw [String.toList_append, hs, List.append_assoc]
  | @shown e v ds ts he h ih =>
    obtain ⟨s, hr, hs⟩ := ih
    refine ⟨_, by rw [List.cons_append, render_sequence_cons, hr, he.render_hole, appendText_ok], ?_⟩
    rw [String.toList_append, hs, List.append_assoc]

/-! ### Whole lines -/

/-- A template has these lines in a scope. -/
def HasLines (scope : Scope) (t : Template) (css : List (List Char)) : Prop :=
  ∃ s, t.render scope = .ok s ∧ s.toList = Script.joinLines css ∧ ∀ cs ∈ css, '\n' ∉ cs

variable {scope : Scope}

theorem hasLines_nil (scope : Scope) : HasLines scope (sequence []) [] :=
  ⟨"", rfl, String.toList_empty, fun _ h => absurd h List.not_mem_nil⟩

theorem hasLines_lines {ls : List String} {css : List (List Char)} (h : Text.Spells ls css)
    (hn : ∀ cs ∈ css, '\n' ∉ cs) : HasLines scope (lines ls) css := by
  obtain ⟨s, hr, hl⟩ := render_lines scope ls
  exact ⟨s, hr, hl.trans h.flatMap_eq, hn⟩

theorem Row.hasLines {ts : List Template} {cs : List Char} (h : Row scope ts cs) (hn : '\n' ∉ cs) :
    HasLines scope (row ts) [cs] := by
  obtain ⟨s, hr, hs⟩ := h.isLine
  refine ⟨s, hr, hs.trans (List.flatMap_singleton _ _).symm, fun ds hd => ?_⟩
  rw [List.mem_singleton.1 hd]
  exact hn

theorem HasLines.cons {t : Template} {ts : List Template} {css dss : List (List Char)}
    (h : HasLines scope t css) (hr : HasLines scope (sequence ts) dss) :
    HasLines scope (sequence (t :: ts)) (css ++ dss) := by
  obtain ⟨x, hx, hs, hn⟩ := h
  obtain ⟨y, hy, ht, hm⟩ := hr
  refine ⟨x ++ y, ?_, ?_, fun cs hcs => ?_⟩
  · rw [render_sequence_cons, hx, hy, appendText_ok]
  · rw [String.toList_append, hs, ht, Script.joinLines, Script.joinLines, Script.joinLines,
      List.flatMap_append]
  · exact (List.mem_append.1 hcs).elim (hn cs) (hm cs)

/-- One of two parts has its lines. -/
theorem hasLines_choose_iff {test : Expr} {v : Value} {yes no : Template} {css : List (List Char)}
    (hg : test.Gives scope v) :
    HasLines scope (choose test yes no) css ↔ HasLines scope (if v.truthy then yes else no) css := by
  unfold HasLines
  rw [hg.render_choose]
  split <;> rfl

/-- A part with variables of its own has its lines and the empty one that ends the row. -/
theorem HasLines.within {arguments : List (String × Expr)} {inner : Scope} {body : Template}
    {css : List (List Char)} (ha : argumentScope scope arguments = .ok inner) (h : HasLines inner body css) :
    HasLines scope (row [within arguments body]) (css ++ [[]]) := by
  obtain ⟨s, hr, hs, hn⟩ := h
  have hbody : (Template.within arguments body).render scope = .ok s := by
    rw [render, ha]
    exact hr
  refine ⟨s ++ "\n", ?_, ?_, fun cs hcs => ?_⟩
  · show (both (Template.within arguments body) (text "\n")).render scope = _
    rw [render, hbody, render, appendText_ok]
  · rw [String.toList_append, hs, String.toList_ofList, Script.joinLines, Script.joinLines,
      List.flatMap_append]
    rfl
  · rcases List.mem_append.1 hcs with hcs | hcs
    · exact hn cs hcs
    · rw [List.mem_singleton.1 hcs]
      exact List.not_mem_nil

/-- Parts for each item of a list. What holds of the lines for each item holds of all lines, if it goes from
two lists of lines to both of them. -/
theorem hasLines_forEach {α β : Type} {P : List (List Char) → List β → Prop} (hnil : P [] [])
    (happend : ∀ {css dss as bs}, P css as → P dss bs → P (css ++ dss) (as ++ bs)) {item : String}
    {source : Expr} {parts : List Template} {items : List α} {value : α → Value} {found : α → List β}
    (hs : source.Gives scope (.list (items.map value)))
    (h : ∀ x ∈ items, ∀ i, ∃ css,
      HasLines (itemScope scope item i (value x)) (sequence parts) css ∧ P css (found x)) :
    ∃ css, HasLines scope (forEach item source parts) css ∧ P css (items.flatMap found) := by
  have hall : ∃ s, (forEach item source parts).render scope = .ok s ∧ ∃ css, s.toList = Script.joinLines css
      ∧ (∀ cs ∈ css, '\n' ∉ cs) ∧ P css (items.flatMap found) := by
    refine render_forEach (P := fun s (bs : List β) => ∃ css, s.toList = Script.joinLines css
      ∧ (∀ cs ∈ css, '\n' ∉ cs) ∧ P css bs) ?_ ?_ hs fun x hx i => ?_
    · exact ⟨[], String.toList_empty, fun _ hcs => absurd hcs List.not_mem_nil, hnil⟩
    · rintro x y as bs ⟨css, hx, hcn, ha⟩ ⟨dss, hy, hdn, hb⟩
      refine ⟨css ++ dss, ?_, fun cs hcs => (List.mem_append.1 hcs).elim (hcn cs) (hdn cs), happend ha hb⟩
      rw [String.toList_append, hx, hy, Script.joinLines, Script.joinLines, Script.joinLines,
        List.flatMap_append]
    · obtain ⟨css, ⟨s, hr, hl, hn⟩, hp⟩ := h x hx i
      exact ⟨s, hr, css, hl, hn, hp⟩
  obtain ⟨s, hr, css, hl, hn, hp⟩ := hall
  exact ⟨css, ⟨s, hr, hl, hn⟩, hp⟩

/-- Parts that are there because a value counts as true. -/
theorem HasLines.when {test : Expr} {v : Value} {parts : List Template} {css : List (List Char)}
    (h : HasLines scope (sequence parts) css) (hg : test.Gives scope v) (hv : v.truthy = true) :
    HasLines scope (when test parts) css := by
  refine (hasLines_choose_iff hg).2 ?_
  rw [if_pos hv]
  exact h

theorem hasLines_when_off {test : Expr} {v : Value} (hg : test.Gives scope v) (hv : v.truthy = false)
    (parts : List Template) : HasLines scope (when test parts) [] := by
  refine (hasLines_choose_iff hg).2 ?_
  rw [hv]
  exact hasLines_nil scope

/-! ## Parts one after the other -/

/-- The first `n` of the parts of a template. -/
def front : Nat → Template → Template
  | 0, _ => nothing
  | n + 1, both first others => both first (front n others)
  | _ + 1, t => t

/-- What follows the first `n` of the parts of a template. -/
def after : Nat → Template → Template
  | 0, t => t
  | n + 1, both _ others => after n others
  | _ + 1, _ => nothing

variable {s : String}

theorem appendText_eq_ok_iff {a b : Except RenderFault String} :
    appendText a b = .ok s ↔ ∃ x y, a = .ok x ∧ b = .ok y ∧ s = x ++ y := by
  constructor
  · intro h
    cases a with
    | error e => cases h
    | ok x =>
      cases b with
      | error e => cases h
      | ok y =>
        cases h
        exact ⟨x, y, rfl, rfl, rfl⟩
  · rintro ⟨x, y, rfl, rfl, rfl⟩
    rfl

theorem render_cons_eq_ok_iff (t : Template) (ts : List Template) :
    (sequence (t :: ts)).render scope = .ok s ↔
      ∃ x y, t.render scope = .ok x ∧ (sequence ts).render scope = .ok y ∧ s = x ++ y := by
  rw [render_sequence_cons, appendText_eq_ok_iff]

/-- The text of a template is that of its first parts and of the others. -/
theorem render_front_after (n : Nat) (t : Template) :
    t.render scope = appendText ((front n t).render scope) ((after n t).render scope) := by
  have nothing_left (a : Except RenderFault String) : appendText (.ok "") a = a := by
    cases a with
    | error e => rfl
    | ok x => rw [appendText_ok, String.empty_append]
  have nothing_right (a : Except RenderFault String) : appendText a (.ok "") = a := by
    cases a with
    | error e => rfl
    | ok x => rw [appendText_ok, String.append_empty]
  induction n generalizing t with
  | zero => exact (nothing_left _).symm
  | succ n ih =>
    cases t with
    | both first others =>
      show appendText (first.render scope) (others.render scope) = _
      rw [ih others, ← appendText_assoc]
      rfl
    | _ => exact (nothing_right _).symm

theorem render_eq_ok_iff_front_after (n : Nat) (t : Template) :
    t.render scope = .ok s ↔ ∃ x y, (front n t).render scope = .ok x
      ∧ (after n t).render scope = .ok y ∧ s = x ++ y := by
  rw [render_front_after n, appendText_eq_ok_iff]

/-! ## Parts for items -/

/-- A part that is repeated has one text for each item, if its text does not depend on the places. -/
theorem renderEach_eq_ok_iff {α : Type} {items : List α} {f : α → Value} {P : α → String → Prop}
    {render : Nat → Value → Except RenderFault String}
    (h : ∀ x ∈ items, ∀ i s, render i (f x) = .ok s ↔ P x s) (i : Nat) :
    renderEach render i (items.map f) = .ok s ↔
      ∃ ss, List.Forall₂ P items ss ∧ s = String.join ss := by
  induction items generalizing i s with
  | nil =>
    constructor
    · intro hs
      cases hs
      exact ⟨[], .nil, rfl⟩
    · rintro ⟨ss, hss, rfl⟩
      cases hss
      rfl
  | cons x rest ih =>
    have ih := @ih
    rw [List.map_cons, renderEach, appendText_eq_ok_iff]
    constructor
    · rintro ⟨first, others, hf, ho, rfl⟩
      obtain ⟨ss, hss, rfl⟩ := (ih (fun y hy => h y (List.mem_cons_of_mem x hy)) (i + 1)).1 ho
      exact ⟨first :: ss, .cons ((h x List.mem_cons_self i first).1 hf) hss, String.join_cons.symm⟩
    · rintro ⟨ss, hss, rfl⟩
      cases hss with
      | cons hx hrest =>
        exact ⟨_, _, (h x List.mem_cons_self i _).2 hx,
          (ih (fun y hy => h y (List.mem_cons_of_mem x hy)) (i + 1)).2 ⟨_, hrest, rfl⟩, String.join_cons⟩

theorem render_forEach_eq_ok_iff {α : Type} {items : List α} {f : α → Value}
    {P : α → String → Prop} {item : String} {source : Expr} {parts : List Template}
    (hg : source.Gives scope (.list (items.map f)))
    (h : ∀ x ∈ items, ∀ i s,
      (sequence parts).render (itemScope scope item i (f x)) = .ok s ↔ P x s) :
    (forEach item source parts).render scope = .ok s ↔
      ∃ ss, List.Forall₂ P items ss ∧ s = String.join ss := by
  have he : Expr.elements (.list (items.map f)) = .ok (items.map f) := rfl
  unfold forEach
  rw [render, Expr.require_eq_ok_iff.2 hg]
  dsimp only
  rw [he]
  exact renderEach_eq_ok_iff h 0

/-- Rows of fixed text around what is known of each item. -/
theorem forall₂_eq_iff_map {α β : Type} {f : α → β} {xs : List α} {ys : List β} :
    List.Forall₂ (fun x y => y = f x) xs ys ↔ ys = xs.map f := by
  rw [← List.forall₂_map_left_iff (R := fun a b => b = a)]
  constructor
  · intro h
    have h' : List.Forall₂ Eq (xs.map f) ys := h.imp fun _ _ e => e.symm
    rw [List.forall₂_eq_eq_eq] at h'
    exact h'.symm
  · rintro rfl
    exact List.forall₂_same.2 fun _ _ => rfl

end Template

/-! ## Text that is read line by line -/

/-- What the lines of a text say, each read by itself, in the order of the text. -/
def Script.said {α : Type} (read? : List Char → Option α) (content : String) : List α :=
  (Text.partsBetween '\n' content.toList).filterMap read?

namespace Template

section

variable {α : Type} {read? : List Char → Option α} {scope : Scope} {t : Template} {ts : List Template}
  {es fs : List α}

/-- The lines of a template say this. -/
def Says (read? : List Char → Option α) (scope : Scope) (t : Template) (es : List α) : Prop :=
  ∃ css, HasLines scope t css ∧ css.filterMap read? = es

theorem says_nil : Says read? scope (sequence []) [] := ⟨[], hasLines_nil scope, rfl⟩

theorem says_lines {ls : List String} {css : List (List Char)} (h : Text.Spells ls css)
    (hn : ∀ cs ∈ css, '\n' ∉ cs) (he : css.filterMap read? = es) : Says read? scope (lines ls) es :=
  ⟨css, hasLines_lines h hn, he⟩

/-- A line that is put together from parts. -/
theorem Row.reads {cs : List Char} (h : Row scope ts cs) (hn : '\n' ∉ cs) (he : [cs].filterMap read? = es) :
    Says read? scope (row ts) es := ⟨[cs], h.hasLines hn, he⟩

theorem Says.cons (h : Says read? scope t es) (hr : Says read? scope (sequence ts) fs) :
    Says read? scope (sequence (t :: ts)) (es ++ fs) := by
  obtain ⟨css, hl, rfl⟩ := h
  obtain ⟨dss, hm, rfl⟩ := hr
  exact ⟨css ++ dss, hl.cons hm, List.filterMap_append⟩

/-- A part that says nothing stands in front. -/
theorem Says.after (h : Says read? scope t []) (hr : Says read? scope (sequence ts) es) :
    Says read? scope (sequence (t :: ts)) es := h.cons hr

/-- A part that says nothing stands at the end. -/
theorem Says.before (h : Says read? scope t es) (hr : Says read? scope (sequence ts) []) :
    Says read? scope (sequence (t :: ts)) es := List.append_nil es ▸ h.cons hr

/-- Parts that are there only if a value counts as true. -/
theorem Says.when {test : Expr} {v : Value} (h : Says read? scope (sequence ts) es) (hg : test.Gives scope v) :
    Says read? scope (when test ts) (if v.truthy then es else []) := by
  cases hv : v.truthy with
  | true =>
    obtain ⟨css, hl, he⟩ := h
    exact ⟨css, hl.when hg hv, he⟩
  | false => exact ⟨[], hasLines_when_off hg hv ts, rfl⟩

theorem says_when_flag {test : Expr} {b : Bool} (hg : test.Gives scope (.bool b))
    (h : Says read? scope (sequence ts) es) : Says read? scope (when test ts) (if b then es else []) := h.when hg

theorem says_when_nothing {test : Expr} {v : Value} (hg : test.Gives scope v)
    (h : Says read? scope (sequence ts) []) : Says read? scope (when test ts) [] := by
  have hwhen := h.when hg
  rwa [ite_self] at hwhen

/-- A line has the text of one of its parts only if a value counts as true. -/
theorem says_row_when {test : Expr} {v : Value} {u : Template} (hg : test.Gives scope v)
    (h : Says read? scope (row (t :: if v.truthy then u :: ts else ts)) es) :
    Says read? scope (row (t :: when test [u] :: ts)) es := by
  suffices he : (row (t :: Template.when test [u] :: ts)).render scope
      = (row (t :: if v.truthy then u :: ts else ts)).render scope by
    obtain ⟨css, ⟨s, hs, hl, hn⟩, hread⟩ := h
    exact ⟨css, ⟨s, he.trans hs, hl, hn⟩, hread⟩
  have hpart : (Template.when test [u]).render scope = if v.truthy then u.render scope else .ok "" :=
    hg.render_when [u]
  have hnothing (a : Except RenderFault String) : appendText (.ok "") a = a := by
    cases a with
    | error e => rfl
    | ok x => rw [appendText_ok, String.empty_append]
  unfold row
  rw [List.cons_append, List.cons_append, List.cons_append, render_sequence_cons, render_sequence_cons,
    render_sequence_cons, hpart]
  split
  · rw [List.cons_append, render_sequence_cons]
  · rw [hnothing]

/-- A file from a template says what the template does. -/
theorem Says.ofTemplate {path : String} {values : List (String × Value)} (hnil : read? [] = none)
    (h : Says read? (Scope.ofValues values) t es) :
    ∃ f, Artifact.ofTemplate path t values = .ok f ∧ Script.said read? f.content = es := by
  obtain ⟨css, ⟨s, hs, hl, hn⟩, rfl⟩ := h
  refine ⟨⟨path, s⟩, ?_, ?_⟩
  · rw [Artifact.ofTemplate, hs]
    rfl
  · have hlast : [[]].filterMap read? = [] := List.filterMap_cons_none hnil
    rw [Script.said, hl, Script.partsBetween_joinLines hn, List.filterMap_append, hlast, List.append_nil]

end

end Template

end Scaffold
