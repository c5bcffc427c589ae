import Scaffold.Template.Render

/-!
# Variables of templates

The variables that a template looks up. The text of a template depends on nothing else: scopes that
agree on the variables of a template give it the same text.
-/

namespace Scaffold

/-! ## Expressions -/

/-- The variables that an expression looks up. -/
def Expr.variables : Expr → List String
  | .name n => [n]
  | .part e _ => e.variables
  | .element e index => e.variables ++ index.variables
  | .text _ => []
  | .script e => e.variables
  | .commas e => e.variables
  | .append first second => first.variables ++ second.variables
  | .either first second => first.variables ++ second.variables

/-- The scopes give these variables the same. -/
def Scope.AgreeOn (names : List String) (scope scope' : Scope) : Prop :=
  ∀ n ∈ names, scope.lookup n = scope'.lookup n

namespace Scope.AgreeOn

variable {names more : List String} {scope scope' : Scope}

theorem left (h : AgreeOn (names ++ more) scope scope') : AgreeOn names scope scope' :=
  fun n hn => h n (List.mem_append_left more hn)

theorem right (h : AgreeOn (names ++ more) scope scope') : AgreeOn more scope scope' :=
  fun n hn => h n (List.mem_append_right names hn)

/-- One more variable makes no difference where it is not looked up from outside. -/
theorem cons {x : String} {slot : Slot} (h : AgreeOn (names.filter (· != x)) scope scope') :
    AgreeOn names ((x, slot) :: scope) ((x, slot) :: scope') := by
  intro n hn
  rw [List.lookup_cons, List.lookup_cons]
  by_cases hx : n = x
  · rw [beq_iff_eq.2 hx]
  · rw [beq_eq_false_iff_ne.2 hx]
    exact h n (List.mem_filter.2 ⟨hn, bne_iff_ne.2 hx⟩)

end Scope.AgreeOn

open Scope (AgreeOn)

variable {scope scope' : Scope}

/-- An expression has the same value in scopes that agree on its variables. -/
theorem Expr.eval_congr (e : Expr) (h : AgreeOn e.variables scope scope') :
    e.eval scope = e.eval scope' := by
  induction e with
  | name n => rw [eval, eval, h n (List.mem_singleton_self n)]
  | part e n ih => rw [eval, eval, ih h]
  | element e index ihe ihi => rw [eval, eval, ihe h.left, ihi h.right]
  | text s => rfl
  | script e ih => rw [eval, eval, ih h]
  | commas e ih => rw [eval, eval, ih h]
  | append first second ihf ihs => rw [eval, eval, ihf h.left, ihs h.right]
  | either first second ihf ihs => rw [eval, eval, ihf h.left, ihs h.right]

theorem Expr.require_congr (e : Expr) (h : AgreeOn e.variables scope scope') :
    e.require scope = e.require scope' := by
  rw [require, require, e.eval_congr h]

/-! ## Templates -/

/-- The variables that a template looks up outside of itself. -/
def Template.variables : Template → List String
  | nothing => []
  | text _ => []
  | hole e => e.variables
  | both first second => first.variables ++ second.variables
  | choose test yes no => test.variables ++ (yes.variables ++ no.variables)
  | each item source body =>
    source.variables ++ (body.variables.filter (· != item)).filter (· != "loop")
  | bind n value body => value.variables ++ body.variables.filter (· != n)
  | within arguments _ => arguments.flatMap fun a => a.2.variables

namespace Template

theorem argumentScope_congr (arguments : List (String × Expr))
    (h : AgreeOn (arguments.flatMap fun a => a.2.variables) scope scope') :
    argumentScope scope arguments = argumentScope scope' arguments := by
  induction arguments with
  | nil => rfl
  | cons a rest ih =>
    obtain ⟨n, e⟩ := a
    rw [List.flatMap_cons] at h
    rw [argumentScope, argumentScope, e.eval_congr h.left, ih h.right]

/-- A template has the same text in scopes that agree on its variables. -/
theorem render_congr (t : Template) (h : AgreeOn t.variables scope scope') :
    t.render scope = t.render scope' := by
  induction t generalizing scope scope' with
  | nothing => rfl
  | text s => rfl
  | hole e => rw [render, render, e.require_congr h]
  | both first second ihf ihs => rw [render, render, ihf h.left, ihs h.right]
  | choose test yes no ihy ihn =>
    rw [render, render, test.require_congr h.left, ihy h.right.left, ihn h.right.right]
  | each item source body ih =>
    rw [render, render, source.require_congr h.left]
    have hbody : (fun i v => body.render (itemScope scope item i v))
        = fun i v => body.render (itemScope scope' item i v) := by
      funext i v
      exact ih (.cons (.cons h.right))
    rw [hbody]
  | bind n value body ih =>
    rw [render, render, value.eval_congr h.left]
    cases value.eval scope' with
    | error e => rfl
    | ok slot => exact ih (.cons h.right)
  | within arguments body ih => rw [render, render, argumentScope_congr arguments h]

end Template

end Scaffold
