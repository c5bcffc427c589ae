import Mathlib.Data.List.Infix
import Scaffold.Proofs.Script.Unquote
import Scaffold.Proofs.Template.Declared
import Scaffold.Proofs.Text.Parts

/-!
# Messages that a module collects

Where the text of a module puts messages on its list of errors: every call in the text counts, with the
text in quotes that is put on the list and the condition of the block that the line above opens. A text is
read line by line.
-/

namespace Scaffold.Script

/-! ## Reading -/

/-- The words that put a message on the list of errors. -/
def pushWord : List Char := "errors.push(".toList

/-- A message that is put on the list of errors, with the condition of the block around it. Either is
missing if the text has something else in its place. -/
structure Push where
  guard : Option String
  message : Option String
  deriving DecidableEq, Repr

/-- The condition of the block that a line opens. -/
def condition? (line : List Char) : Option String :=
  match after? "if (".toList (line.dropWhile (· == ' ')) with
  | some rest =>
    if ") \x7b".toList.isSuffixOf rest then some (String.ofList (rest.take (rest.length - 3)))
    else none
  | none => none

/-- The text in quotes that is all there is up to the closing bracket. -/
def argument? (cs : List Char) : Option String :=
  match unquote cs with
  | some (s, ')' :: _) => some s
  | _ => none

/-- The messages of a line in a block with this condition, in their order. -/
def pushesIn (guard : Option String) : List Char → List Push
  | [] => []
  | c :: rest =>
    ((after? pushWord (c :: rest)).map fun more => ⟨guard, argument? more⟩).toList
      ++ pushesIn guard rest

/-- The messages of lines, the first of which stands in a block with this condition. -/
def pushesFrom (guard : Option String) : List (List Char) → List Push
  | [] => []
  | line :: rest => pushesIn guard line ++ pushesFrom (condition? line) rest

/-- The messages that a module puts on its list of errors, in the order of the text. -/
def pushes (content : String) : List Push :=
  pushesFrom none (Text.partsBetween '\n' content.toList)

/-! ## Texts without calls -/

/-- A text that neither ends a call nor a line. -/
def IsFree (s : String) : Prop := '(' ∉ s.toList ∧ '\n' ∉ s.toList

theorem isFree_ofList {cs : List Char} (h : (cs.contains '(' || cs.contains '\n') = false) :
    IsFree (String.ofList cs) := by
  rw [Bool.or_eq_false_iff] at h
  unfold IsFree
  rw [String.toList_ofList, ← List.contains_iff_mem, ← List.contains_iff_mem, h.1, h.2]
  exact ⟨Bool.false_ne_true, Bool.false_ne_true⟩

theorem IsFree.append {s t : String} (hs : IsFree s) (ht : IsFree t) : IsFree (s ++ t) := by
  unfold IsFree
  rw [String.toList_append, List.mem_append, List.mem_append, not_or, not_or]
  exact ⟨⟨hs.1, ht.1⟩, hs.2, ht.2⟩

/-- A free text stays free in quotes. -/
theorem IsFree.quote {s : String} (h : IsFree s) : IsFree (quote s) :=
  ⟨not_mem_quote (by decide) (by decide) h.1, inline_quote s⟩

/-- A line without a call. -/
def IsIdle (cs : List Char) : Prop := ¬ pushWord <:+: cs ∧ '\n' ∉ cs

instance (cs : List Char) : Decidable (IsIdle cs) :=
  inferInstanceAs (Decidable (¬ pushWord <:+: cs ∧ '\n' ∉ cs))

/-- A call has a dot. -/
theorem isIdle_of_not_mem {cs : List Char} (hd : '.' ∉ cs) (hn : '\n' ∉ cs) : IsIdle cs :=
  ⟨fun h => hd (h.subset (by decide)), hn⟩

/-- A fixed piece of a line: it has no call, and it begins with a character that no call has. -/
def IsPiece : List Char → Prop
  | [] => False
  | c :: rest => c ∉ pushWord ∧ IsIdle (c :: rest)

instance : (cs : List Char) → Decidable (IsPiece cs)
  | [] => inferInstanceAs (Decidable False)
  | c :: rest => inferInstanceAs (Decidable (c ∉ pushWord ∧ IsIdle (c :: rest)))

/-- A text on one line that goes on without a call: fixed pieces and free texts, one after the other. -/
inductive Silent : List Char → Prop
  | nil : Silent []
  | fixed {cs rest : List Char} (h : IsPiece cs) (hr : Silent rest) : Silent (cs ++ rest)
  | free {s : String} {rest : List Char} (h : IsFree s) (hr : Silent rest) : Silent (s.toList ++ rest)

theorem silent_of_isPiece {cs : List Char} (h : IsPiece cs) : Silent cs := by
  rw [← List.append_nil cs]
  exact .fixed h .nil

/-- Two texts have no call between them if none can stand on the seam. -/
theorem not_infix_append {before cs : List Char} (hb : ¬ pushWord <:+: before)
    (hc : ¬ pushWord <:+: cs)
    (hseam : ∀ first second, pushWord = first ++ second → second ≠ [] → ¬ second <+: cs) :
    ¬ pushWord <:+: before ++ cs := by
  intro h
  rcases List.infix_append_iff.1 h with h | h | ⟨first, second, hw, hf, hs⟩
  · exact hb h
  · exact hc h
  · by_cases hne : second = []
    · rw [hne, List.append_nil] at hw
      exact hb (hw ▸ hf.isInfix)
    · exact hseam first second hw hne hs

theorem not_infix_append_piece {before cs : List Char} (hb : ¬ pushWord <:+: before)
    (hc : IsPiece cs) : ¬ pushWord <:+: before ++ cs := by
  cases cs with
  | nil => exact hc.elim
  | cons c rest =>
    refine not_infix_append hb hc.2.1 fun first second hw hne hs => ?_
    obtain ⟨d, ds, rfl⟩ := List.exists_cons_of_ne_nil hne
    obtain ⟨rfl, -⟩ := List.cons_prefix_cons.1 hs
    exact hc.1 (hw ▸ List.mem_append_right first List.mem_cons_self)

theorem not_infix_append_free {before cs : List Char} (hb : ¬ pushWord <:+: before)
    (hc : '(' ∉ cs) : ¬ pushWord <:+: before ++ cs := by
  refine not_infix_append hb (fun h => hc (h.subset (by decide))) fun first second hw hne hs => ?_
  -- The end of a call has the bracket, so that a free text cannot begin with it.
  have hlast : second.getLast? = some '(' := by
    rw [← List.getLast?_append_of_ne_nil first hne, ← hw]
    rfl
  exact hc (hs.subset (List.mem_of_getLast? hlast))

theorem Silent.not_infix_append {cs : List Char} (h : Silent cs) {before : List Char}
    (hb : ¬ pushWord <:+: before) : ¬ pushWord <:+: before ++ cs := by
  induction h generalizing before with
  | nil =>
    rw [List.append_nil]
    exact hb
  | fixed h hr ih =>
    rw [← List.append_assoc]
    exact ih (not_infix_append_piece hb h)
  | free h hr ih =>
    rw [← List.append_assoc]
    exact ih (not_infix_append_free hb h.1)

theorem Silent.isIdle {cs : List Char} (h : Silent cs) : IsIdle cs := by
  have hempty : ¬ pushWord <:+: [] := by decide
  refine ⟨h.not_infix_append hempty, ?_⟩
  induction h with
  | nil => exact List.not_mem_nil
  | @fixed cs rest h hr ih =>
    rw [List.mem_append, not_or]
    cases cs with
    | nil => exact h.elim
    | cons c cs => exact ⟨h.2.2, ih⟩
  | free h hr ih =>
    rw [List.mem_append, not_or]
    exact ⟨h.2, ih⟩

/-- Free text between fixed pieces, the first of which goes on after others. -/
theorem Silent.intercalate {s : String} (hs : IsFree s) {before first rest : List Char}
    {pieces : List (List Char)} (hf : IsPiece (before ++ first)) (hp : ∀ cs ∈ pieces, IsPiece cs)
    (hr : Silent rest) : Silent (before ++ (s.toList.intercalate (first :: pieces) ++ rest)) := by
  induction pieces generalizing before first with
  | nil =>
    rw [List.intercalate_singleton, ← List.append_assoc]
    exact .fixed hf hr
  | cons cs pieces ih =>
    have hcs : IsPiece ([] ++ cs) := hp cs List.mem_cons_self
    rw [List.intercalate_cons_cons, List.append_assoc, List.append_assoc, ← List.append_assoc]
    exact .fixed hf (.free hs (ih hcs fun ds hd => hp ds (List.mem_cons_of_mem cs hd)))

/-! ## Lines -/

/-- A text without calls puts nothing on the list. -/
theorem pushesIn_eq_nil (guard : Option String) {cs : List Char} (h : ¬ pushWord <:+: cs) :
    pushesIn guard cs = [] := by
  induction cs with
  | nil => rfl
  | cons c rest ih =>
    rw [List.infix_cons_iff, not_or] at h
    have hno : after? pushWord (c :: rest) = none := by
      unfold after?
      rw [if_neg]
      rw [List.isPrefixOf_iff_prefix]
      exact h.1
    rw [pushesIn, hno, ih h.2]
    rfl

theorem pushesIn_pushWord (guard : Option String) (more : List Char) :
    pushesIn guard (pushWord ++ more)
      = ⟨guard, argument? more⟩ :: pushesIn guard (pushWord.tail ++ more) := rfl

/-- What follows the words in a line that puts a free text on the list. -/
theorem silent_argument {s : String} (h : IsFree s) : Silent ((quote s).toList ++ [')', ';']) :=
  .free h.quote (silent_of_isPiece (by decide))

/-- A line that puts one message on the list. -/
theorem pushesIn_push (guard : Option String) (n : Nat) {s : String} (h : IsFree s) :
    pushesIn guard (List.replicate n ' ' ++ (pushWord ++ ((quote s).toList ++ [')', ';'])))
      = [⟨guard, some s⟩] := by
  induction n with
  | zero =>
    have htail : ¬ pushWord <:+: pushWord.tail ++ ((quote s).toList ++ [')', ';']) :=
      (silent_argument h).not_infix_append (by decide)
    have harg : argument? ((quote s).toList ++ [')', ';']) = some s := by
      unfold argument?
      rw [unquote_quote]
      rfl
    rw [List.replicate_zero, List.nil_append, pushesIn_pushWord, harg, pushesIn_eq_nil guard htail]
  | succ n ih =>
    rw [List.replicate_succ, List.cons_append, pushesIn, ih]
    rfl

/-- The condition of a block is told by the line that opens it. -/
theorem condition?_eq (n : Nat) (s : String) :
    condition? (List.replicate n ' ' ++ ("if (".toList ++ (s.toList ++ ") \x7b".toList)))
      = some s := by
  induction n with
  | zero =>
    show (if ") \x7b".toList.isSuffixOf (s.toList ++ ") \x7b".toList) then
      some (String.ofList ((s.toList ++ ") \x7b".toList).take
        ((s.toList ++ ") \x7b".toList).length - 3))) else none) = _
    rw [if_pos (List.isSuffixOf_iff_suffix.2 (List.suffix_append _ _)), List.length_append]
    show some (String.ofList ((s.toList ++ ") \x7b".toList).take s.toList.length)) = _
    rw [List.take_left, String.ofList_toList]
  | succ n ih => exact ih

/-- Lines that were put together are cut off again, one by one. -/
theorem partsBetween_joinLines_append {css : List (List Char)} (h : ∀ cs ∈ css, '\n' ∉ cs)
    (rest : List Char) :
    Text.partsBetween '\n' (joinLines css ++ rest) = css ++ Text.partsBetween '\n' rest := by
  induction css with
  | nil => rfl
  | cons cs css ih =>
    have hrest := ih fun ds hd => h ds (List.mem_cons_of_mem cs hd)
    rw [joinLines, List.flatMap_cons, List.append_assoc, List.append_assoc, List.singleton_append,
      Scaffold.Text.partsBetween_append (h cs List.mem_cons_self)]
    exact congrArg (cs :: ·) hrest

/-- Lines put together are these lines and the empty one after them. -/
theorem partsBetween_joinLines {css : List (List Char)} (h : ∀ cs ∈ css, '\n' ∉ cs) :
    Text.partsBetween '\n' (joinLines css) = css ++ [[]] := by
  rw [← List.append_nil (joinLines css), partsBetween_joinLines_append h]
  rfl

/-! ## Parts of a module -/

/-- A part of a module in whole lines puts these messages on the list, whatever stands around it. -/
def Puts (s : String) (ps : List Push) : Prop :=
  ∃ css, s.toList = joinLines css ∧ (∀ cs ∈ css, '\n' ∉ cs)
    ∧ ∀ above rest, ∃ below, pushesFrom above (css ++ rest) = ps ++ pushesFrom below rest

theorem puts_empty : Puts "" [] :=
  ⟨[], String.toList_empty, fun _ h => absurd h List.not_mem_nil, fun above _ => ⟨above, rfl⟩⟩

theorem Puts.append {s t : String} {ps qs : List Push} (h : Puts s ps) (h' : Puts t qs) :
    Puts (s ++ t) (ps ++ qs) := by
  obtain ⟨css, hs, hn, hp⟩ := h
  obtain ⟨dss, ht, hm, hq⟩ := h'
  refine ⟨css ++ dss, ?_, ?_, ?_⟩
  · rw [String.toList_append, hs, ht, joinLines, joinLines, joinLines, List.flatMap_append]
  · intro cs hcs
    exact (List.mem_append.1 hcs).elim (hn cs) (hm cs)
  · intro above rest
    obtain ⟨between, hb⟩ := hp above (dss ++ rest)
    obtain ⟨below, hr⟩ := hq between rest
    exact ⟨below, by rw [List.append_assoc, hb, hr, List.append_assoc]⟩

/-- Lines without calls. -/
theorem puts_idle {s : String} {css : List (List Char)} (hs : s.toList = joinLines css)
    (h : ∀ cs ∈ css, IsIdle cs) : Puts s [] := by
  refine ⟨css, hs, fun cs hcs => (h cs hcs).2, ?_⟩
  clear hs
  induction css with
  | nil => exact fun above _ => ⟨above, rfl⟩
  | cons cs css ih =>
    intro above rest
    obtain ⟨below, hb⟩ := ih (fun ds hd => h ds (List.mem_cons_of_mem cs hd)) (condition? cs) rest
    refine ⟨below, ?_⟩
    rw [List.cons_append, pushesFrom, pushesIn_eq_nil above (h cs List.mem_cons_self).1, hb]
    rfl

/-- A line that opens a block with a condition, and the line in it that puts a message on the list. -/
theorem puts_guarded {s : String} {line : List Char} {n m : Nat} {guard message : String}
    (hline : line
      = List.replicate n ' ' ++ ("if (".toList ++ (guard.toList ++ ") \x7b".toList)))
    (hi : IsIdle line) (hm : IsFree message)
    (hs : s.toList = joinLines [line,
      List.replicate m ' ' ++ (pushWord ++ ((quote message).toList ++ [')', ';']))]) :
    Puts s [⟨some guard, some message⟩] := by
  refine ⟨_, hs, ?_, fun above rest => ⟨condition? (List.replicate m ' ' ++ (pushWord
    ++ ((quote message).toList ++ [')', ';']))), ?_⟩⟩
  · refine List.forall_mem_cons.2 ⟨hi.2,
      List.forall_mem_cons.2 ⟨?_, fun _ h => absurd h List.not_mem_nil⟩⟩
    rw [List.mem_append, List.mem_append, not_or, not_or]
    exact ⟨fun h => absurd (List.eq_of_mem_replicate h) (by decide), by decide,
      (silent_argument hm).isIdle.2⟩
  · rw [List.cons_append, List.cons_append, List.nil_append, pushesFrom, pushesFrom,
      pushesIn_eq_nil above hi.1, pushesIn_push _ m hm, hline, condition?_eq n guard]
    rfl

/-- A whole module puts on the list what its parts do. -/
theorem Puts.pushes_eq {s : String} {ps : List Push} (h : Puts s ps) : pushes s = ps := by
  obtain ⟨css, hs, hn, hp⟩ := h
  obtain ⟨below, hb⟩ := hp none [[]]
  rw [pushes, hs, partsBetween_joinLines hn, hb]
  exact List.append_nil ps

end Scaffold.Script
