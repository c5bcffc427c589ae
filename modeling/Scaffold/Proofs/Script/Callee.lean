import Scaffold.Proofs.Script.Push
import Scaffold.Proofs.Script.Token

/-!
# Functions that a script calls

The functions that a script calls by their names: the words in front of a bracket that opens. A word after a
dot is a part of something else, and one after the word for functions is declared. Lines are read each by
itself, since all texts in quotes end in their lines. A line without such a bracket calls nothing.
-/

namespace Scaffold.Script

/-! ## Reading -/

/-- The words among tokens that are called; `free` tells whether the first token can be one of them. -/
def calleesFrom (free : Bool) : List Token → List (List Char)
  | [] => []
  | .word w :: rest =>
    (if free && rest.head? == some (.mark '(') then [w] else []) ++ calleesFrom (w != functionWord) rest
  | .mark c :: rest => calleesFrom (c != '.') rest
  | .quoted :: rest => calleesFrom true rest

/-- The words that a line calls. -/
def calleesIn (line : List Char) : List (List Char) :=
  calleesFrom true ((Lexing.between.run line).1 ++ (Lexing.between.run line).2.last)

/-- The functions that a text calls, in the order of the text. -/
def callees (content : String) : List String :=
  ((Text.partsBetween '\n' content.toList).flatMap calleesIn).map String.ofList

/-- The functions of a text in whole lines are those of its lines. -/
theorem callees_of_joinLines {s : String} {css : List (List Char)} (hs : s.toList = joinLines css)
    (hn : ∀ cs ∈ css, '\n' ∉ cs) : callees s = (css.flatMap calleesIn).map String.ofList := by
  have hlast : [[]].flatMap calleesIn = [] := rfl
  rw [callees, hs, partsBetween_joinLines hn, List.flatMap_append, hlast, List.append_nil]

/-! ## Lines -/

variable {line : List Char}

/-- A line calls what its tokens do. -/
theorem calleesIn_of_run {ts : List Token} {stop : Lexing} (h : Lexing.between.run line = (ts, stop)) :
    calleesIn line = calleesFrom true (ts ++ stop.last) := by
  rw [calleesIn, h]

/-- Marks stand in the text as they are. -/
theorem mem_of_mark_mem_run {s : Lexing} {cs : List Char} {c : Char} (h : .mark c ∈ (s.run cs).1) :
    c ∈ cs := by
  have hstart {d : Char} (hm : .mark c ∈ (Lexing.start d).1) : c = d := by
    unfold Lexing.start at hm
    split at hm
    · exact absurd hm List.not_mem_nil
    split at hm
    · exact absurd hm List.not_mem_nil
    split at hm
    · exact absurd hm List.not_mem_nil
    · exact Token.mark.inj (List.mem_singleton.1 hm)
  have hstep {t : Lexing} {d : Char} (hm : .mark c ∈ (t.step d).1) : c = d := by
    cases t with
    | between => exact hstart hm
    | word w =>
      rw [Lexing.step] at hm
      split at hm
      · exact absurd hm List.not_mem_nil
      · exact hstart ((List.mem_cons.1 hm).resolve_left Token.noConfusion)
    | quoted b =>
      rw [Lexing.step] at hm
      split at hm
      · exact absurd (List.mem_singleton.1 hm) Token.noConfusion
      · exact absurd hm List.not_mem_nil
    | escaped b => exact absurd hm List.not_mem_nil
  -- a step gives a mark only for the character it takes, in whatever state it is
  induction cs generalizing s with
  | nil => exact absurd h List.not_mem_nil
  | cons d rest ih =>
    rcases List.mem_append.1 h with hm | hm
    · exact hstep hm ▸ List.mem_cons_self
    · exact List.mem_cons_of_mem d (ih hm)

/-- Without a bracket that opens no token is called. -/
theorem calleesFrom_of_not_mem {ts : List Token} (h : .mark '(' ∉ ts) (free : Bool) :
    calleesFrom free ts = [] := by
  induction ts generalizing free with
  | nil => rfl
  | cons t rest ih =>
    have hrest : ∀ b, calleesFrom b rest = [] := ih fun hm => h (List.mem_cons_of_mem t hm)
    cases t with
    | word w =>
      have hhead : (rest.head? == some (.mark '(')) = false :=
        beq_eq_false_iff_ne.2 fun e => h (List.mem_cons_of_mem _ (List.mem_of_head? e))
      rw [calleesFrom, hhead, Bool.and_false, if_neg Bool.false_ne_true, hrest]
      rfl
    | mark c => exact hrest _
    | quoted => exact hrest _

theorem calleesIn_of_not_mem (h : '(' ∉ line) : calleesIn line = [] := by
  refine calleesFrom_of_not_mem (fun hm => ?_) true
  rcases List.mem_append.1 hm with hm | hm
  · exact h (mem_of_mark_mem_run hm)
  · cases hs : (Lexing.between.run line).2 with
    | word w =>
      rw [hs] at hm
      exact absurd (List.mem_singleton.1 hm) Token.noConfusion
    | _ =>
      rw [hs] at hm
      exact absurd hm List.not_mem_nil

/-- A line with a name in it, which may be called. -/
theorem calleesIn_name {before name after : List Char} {ts us : List Token} {stop : Lexing}
    (hb : Lexing.between.run before = (ts, .between)) (hn : IsName name)
    (ha : (Lexing.word name).run after = (us, stop)) :
    calleesIn (before ++ (name ++ after)) = calleesFrom true (ts ++ (us ++ stop.last)) := by
  rw [← List.append_assoc ts]
  exact calleesIn_of_run (Lexing.run_append_of_eq hb (Lexing.run_append_of_eq (run_name_between hn) ha))

end Scaffold.Script
