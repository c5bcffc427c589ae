import Scaffold.Proofs.Script.Component
import Scaffold.Proofs.Template.Parts

/-!
# Names that templates declare

The names that the text of a template declares in the scope around it, put together from those of the
parts of the template.
-/

namespace Scaffold

namespace Template

variable {scope : Scope}

/-- A template has a text in a scope, and the text leads from one number of open brackets to another and
declares these names. -/
def Binds (scope : Scope) (t : Template) (d e : Nat) (names : List String) : Prop :=
  ∃ s, t.render scope = .ok s ∧ Script.Binds d s.toList e (names.map String.toList)

theorem binds_nil (scope : Scope) (d : Nat) : Binds scope (sequence []) d d [] :=
  ⟨"", rfl, by rw [String.toList_empty]; exact Script.binds_nil d⟩

theorem Binds.cons {t : Template} {ts : List Template} {d e k : Nat} {n m : List String}
    (h : Binds scope t d e n) (hr : Binds scope (sequence ts) e k m) :
    Binds scope (sequence (t :: ts)) d k (n ++ m) := by
  obtain ⟨x, hx, hn⟩ := h
  obtain ⟨y, hy, hm⟩ := hr
  refine ⟨x ++ y, by rw [render_sequence_cons, hx, hy, appendText_ok], ?_⟩
  rw [String.toList_append, List.map_append]
  exact hn.append hm

/-- A part that declares nothing stands in front. -/
theorem Binds.after {t : Template} {ts : List Template} {d e k : Nat} {names : List String}
    (h : Binds scope t d e []) (hr : Binds scope (sequence ts) e k names) :
    Binds scope (sequence (t :: ts)) d k names := h.cons hr

theorem binds_lines {ls names : List String} {css ns : List (List Char)} {d e : Nat}
    (h : Text.Spells ls css) (hn : Text.Spells names ns)
    (hb : Script.Binds d (Script.joinLines css) e ns) : Binds scope (lines ls) d e names := by
  obtain ⟨s, hr, hl⟩ := render_lines scope ls
  refine ⟨s, hr, ?_⟩
  rw [hl, h.flatMap_eq, hn.map_toList]
  exact hb

theorem Row.binds {ts : List Template} {cs : List Char} {d e : Nat} {names : List String}
    (h : Row scope ts cs) (hb : Script.Binds d (cs ++ ['\n']) e (names.map String.toList)) :
    Binds scope (row ts) d e names := by
  obtain ⟨s, hr, hs⟩ := h.isLine
  exact ⟨s, hr, hs ▸ hb⟩

/-- A row inside of brackets declares nothing. -/
theorem Row.passes {ts : List Template} {cs : List Char} {d e : Nat} (h : Row scope ts cs)
    (hp : Script.Passes d cs e) : Binds scope (row ts) (d + 1) (e + 1) [] :=
  h.binds hp.binds

/-- A part with variables of its own, and the end of a line after it. -/
theorem binds_within {arguments : List (String × Expr)} {inner : Scope} {body : Template} {d e : Nat}
    {names : List String} (ha : argumentScope scope arguments = .ok inner)
    (h : Binds inner body d e names) : Binds scope (row [within arguments body]) d e names := by
  obtain ⟨s, hr, hb⟩ := h
  have hline : Script.Binds e ['\n'] e [] := ⟨by decide, rfl, rfl⟩
  refine ⟨s ++ "\n", ?_, ?_⟩
  · have hbody : (within arguments body).render scope = .ok s := by
      rw [render, ha]
      exact hr
    show (both (within arguments body) (text "\n")).render scope = _
    rw [render, hbody, render, appendText_ok]
  · rw [String.toList_append, String.toList_ofList, ← List.append_nil (names.map String.toList)]
    exact hb.append hline

/-- One of two parts. -/
theorem binds_choose {test : Expr} {v : Value} {yes no : Template} {d e : Nat} {names : List String}
    (hg : test.Gives scope v) (hy : v.truthy = true → Binds scope yes d e names)
    (hn : v.truthy = false → Binds scope no d e names) : Binds scope (choose test yes no) d e names := by
  unfold Binds
  rw [hg.render_choose]
  cases hv : v.truthy with
  | true => exact hy hv
  | false => exact hn hv

/-- Parts that are there only if a value counts as true. -/
theorem binds_when {test : Expr} {v : Value} {parts : List Template} {d : Nat} {names : List String}
    (hg : test.Gives scope v) (h : v.truthy = true → Binds scope (sequence parts) d d names)
    (hn : v.truthy = false → names = []) : Binds scope (when test parts) d d names := by
  refine binds_choose hg h fun hv => ?_
  rw [hn hv]
  exact binds_nil scope d

/-- Parts for each item of a list that declare nothing. -/
theorem binds_forEach {α : Type} {item : String} {source : Expr} {parts : List Template} {items : List α}
    {value : α → Value} {d : Nat} (hs : source.Gives scope (.list (items.map value)))
    (h : ∀ x ∈ items, ∀ i, Binds (itemScope scope item i (value x)) (sequence parts) d d []) :
    Binds scope (forEach item source parts) d d [] := by
  have hall : Binds scope (forEach item source parts) d d (items.flatMap fun _ => []) := by
    refine render_forEach
      (P := fun s (names : List String) => Script.Binds d s.toList d (names.map String.toList)) ?_ ?_ hs h
    · rw [String.toList_empty]
      exact Script.binds_nil d
    · intro x y ns ms hx hy
      rw [String.toList_append, List.map_append]
      exact hx.append hy
  rwa [List.flatMap_eq_nil_iff.2 fun _ _ => rfl] at hall

/-- An import of names from a source that a value holds. -/
theorem binds_importRow {list source : Expr} {names : List String} {path : String}
    (hg : list.Gives scope (.text (commaList names))) (hs : source.Gives scope (.text path))
    (hne : names ≠ []) (hn : ∀ n ∈ names, Script.IsName n.toList) (hp : Script.IsQuotable path.toList) :
    Binds scope (row [text "import \x7b ", hole list, text " \x7d from '", hole source, text "';"]) 0 0
      names := by
  refine Row.binds (.text (.hole hg (.text (.hole hs (.text .nil))))) ?_
  rw [Text.toList_commaList, List.append_nil]
  exact Script.binds_import (mt List.map_eq_nil_iff.1 hne) (List.forall_mem_map.2 hn) hp

/-! ## Components -/

/-- A template begins with the tag that opens a script, and what follows of its text declares these
names. -/
def OpensScript (scope : Scope) (t : Template) (names : List String) : Prop :=
  ∃ s cs, t.render scope = .ok s ∧ s.toList = Script.openingTag ++ cs
    ∧ Script.Binds 0 cs 0 (names.map String.toList)

theorem opensScript_lines {ls names : List String} {css ns : List (List Char)}
    (h : Text.Spells ls (Script.openingTag :: css)) (hn : Text.Spells names ns)
    (hb : Script.Binds 0 ('\n' :: Script.joinLines css) 0 ns) : OpensScript scope (lines ls) names := by
  obtain ⟨s, hr, hl⟩ := render_lines scope ls
  refine ⟨s, _, hr, ?_, hn.map_toList ▸ hb⟩
  rw [hl, h.flatMap_eq, Script.joinLines, List.flatMap_cons, List.append_assoc]
  rfl

theorem OpensScript.cons {t : Template} {ts : List Template} {n m : List String}
    (h : OpensScript scope t n) (hr : Binds scope (sequence ts) 0 0 m) :
    OpensScript scope (sequence (t :: ts)) (n ++ m) := by
  obtain ⟨x, cs, hx, hs, hn⟩ := h
  obtain ⟨y, hy, hm⟩ := hr
  refine ⟨x ++ y, cs ++ y.toList, by rw [render_sequence_cons, hx, hy, appendText_ok], ?_, ?_⟩
  · rw [String.toList_append, hs, List.append_assoc]
  · rw [List.map_append]
    exact hn.append hm

/-- The texts of a template begin with the tag that closes a script. -/
def ClosesScript (t : Template) : Prop :=
  ∀ scope s, t.render scope = .ok s → ∃ more, s.toList = Script.closingTag ++ more

theorem closesScript_lines {ls : List String} {css : List (List Char)}
    (h : Text.Spells ls (Script.closingTag :: css)) : ClosesScript (lines ls) := by
  intro scope s hs
  obtain ⟨r, hr, hl⟩ := render_lines scope ls
  rw [hr, Except.ok.injEq] at hs
  refine ⟨'\n' :: Script.joinLines css, ?_⟩
  rw [← hs, hl, h.flatMap_eq, Script.joinLines, List.flatMap_cons, List.append_assoc]
  rfl

theorem ClosesScript.sequence {t : Template} (h : ClosesScript t) (ts : List Template) :
    ClosesScript (sequence (t :: ts)) := by
  intro scope s hs
  obtain ⟨x, y, hx, -, rfl⟩ := (render_cons_eq_ok_iff t ts).1 hs
  obtain ⟨more, hm⟩ := h scope x hx
  exact ⟨more ++ y.toList, by rw [String.toList_append, hm, List.append_assoc]⟩

/-- The names of a component: a script that is opened, goes on, and is closed. -/
theorem componentNames?_eq {first last : Template} {ts : List Template} {n m : List String}
    {content : String} (hf : OpensScript scope first n) (hm : Binds scope (sequence ts) 0 0 m)
    (hl : ClosesScript last) (hs : (sequence (first :: ts ++ [last])).render scope = .ok content) :
    Script.componentNames? content = some (n ++ m) := by
  obtain ⟨x, cs, hx, ho, hb⟩ := hf.cons hm
  rw [render_sequence_append, hx, appendText_eq_ok_iff] at hs
  obtain ⟨_, y, ⟨⟩, hy, rfl⟩ := hs
  obtain ⟨more, hmore⟩ := hl.sequence [] scope y hy
  have hcontent : (x ++ y).toList = Script.openingTag ++ (cs ++ (Script.closingTag ++ more)) := by
    rw [String.toList_append, ho, hmore, List.append_assoc]
  rw [Script.componentNames?_eq hcontent hb, Text.map_ofList_toList]

end Template

open Template

/-- The names of the file from a template for a component. -/
theorem Artifact.componentNames?_of_ofTemplate {path : String} {vs : List (String × Value)}
    {first last : Template} {parts : List Template} {n m names : List String} {f : Artifact}
    (hf : Artifact.ofTemplate path (sequence (first :: parts ++ [last])) vs = .ok f)
    (hfirst : OpensScript (Scope.ofValues vs) first n)
    (hparts : Binds (Scope.ofValues vs) (sequence parts) 0 0 m) (hlast : ClosesScript last)
    (hn : n ++ m = names) : Script.componentNames? f.content = some names := by
  unfold Artifact.ofTemplate at hf
  cases hr : (sequence (first :: parts ++ [last])).render (Scope.ofValues vs) with
  | error e =>
    rw [hr] at hf
    cases hf
  | ok content =>
    rw [hr] at hf
    cases hf
    rw [Template.componentNames?_eq hfirst hparts hlast hr, hn]

end Scaffold
