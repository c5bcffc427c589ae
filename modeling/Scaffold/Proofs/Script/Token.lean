import Scaffold.Proofs.Json.Writing
import Scaffold.Proofs.Script.Statement
import Scaffold.Proofs.Template.Shape

/-!
# Words and marks of scripts

The words, the texts in quotes and the other characters that a script consists of. A script is gone
through from character to character, so that its parts can be looked at one by one. A character that
stands for a name is part of a word in the same way as the name is. A literal is read as its outline is:
texts in quotes as if nothing stood between the quotes, and a record as its brackets, commas and colons
with the outlines of its parts.
-/

namespace Scaffold.Script

/-! ## Reading -/

/-- A word of a script, a text in quotes, or any other character that is no blank. -/
inductive Token where
  | word (cs : List Char)
  | quoted
  | mark (c : Char)
  deriving DecidableEq, Repr

/-- A character of a word. Characters beyond the basic ones can be part of words. -/
def isLetter (c : Char) : Bool := Intake.isIdentifierChar c || 128 ≤ c.toNat

/-- The character around a text in double or in single quotes. -/
def quoteMark (double : Bool) : Char := if double then '"' else '\''

/-- What has been read of the token at a place of a script: nothing yet, the letters of a word, or a
text in quotes, in which the next character may be escaped. -/
inductive Lexing where
  | between
  | word (cs : List Char)
  | quoted (double : Bool)
  | escaped (double : Bool)
  deriving DecidableEq, Repr

namespace Lexing

/-- Goes on with a character after a token has ended. -/
def start (c : Char) : List Token × Lexing :=
  if isLetter c then ([], .word [c])
  else if isQuote c then ([], .quoted (c == '"'))
  else if isSpace c then ([], .between)
  else ([.mark c], .between)

/-- Goes on with a character. -/
def step : Lexing → Char → List Token × Lexing
  | between, c => start c
  | word cs, c =>
    if isLetter c then ([], .word (cs ++ [c])) else (.word cs :: (start c).1, (start c).2)
  | quoted double, c =>
    if c == quoteMark double then ([.quoted], .between)
    else ([], if c == '\\' then .escaped double else .quoted double)
  | escaped double, _ => ([], .quoted double)

/-- Goes on with characters. -/
def run : Lexing → List Char → List Token × Lexing
  | s, [] => ([], s)
  | s, c :: rest => ((s.step c).1 ++ ((s.step c).2.run rest).1, ((s.step c).2.run rest).2)

/-- The word that the end of a script ends. -/
def last : Lexing → List Token
  | word cs => [.word cs]
  | _ => []

end Lexing

/-- The tokens of a script. -/
def tokens (content : String) : List Token :=
  (Lexing.between.run content.toList).1 ++ (Lexing.between.run content.toList).2.last

/-! ## Parts of a script -/

namespace Lexing

theorem run_append (s : Lexing) (as bs : List Char) :
    s.run (as ++ bs)
      = ((s.run as).1 ++ ((s.run as).2.run bs).1, ((s.run as).2.run bs).2) := by
  induction as generalizing s with
  | nil => rfl
  | cons c rest ih => rw [List.cons_append, run, run, ih, List.append_assoc]

/-- Parts with tokens of their own. -/
theorem run_append_of_eq {s mid stop : Lexing} {as bs : List Char} {ts us : List Token}
    (ha : s.run as = (ts, mid)) (hb : mid.run bs = (us, stop)) :
    s.run (as ++ bs) = (ts ++ us, stop) := by
  rw [run_append, ha]
  dsimp only
  rw [hb]

/-- Characters that end nothing and begin nothing inside of quotes. -/
theorem run_quoted {b : Bool} {cs : List Char} (h : ∀ c ∈ cs, c ≠ quoteMark b ∧ c ≠ '\\') :
    (quoted b).run cs = ([], .quoted b) := by
  induction cs with
  | nil => rfl
  | cons c rest ih =>
    obtain ⟨hq, hb⟩ := h c List.mem_cons_self
    have hs : (quoted b).step c = ([], .quoted b) := by
      rw [step, beq_eq_false_iff_ne.2 hq, if_neg Bool.false_ne_true, beq_eq_false_iff_ne.2 hb,
        if_neg Bool.false_ne_true]
    rw [run, hs]
    exact ih fun d hd => h d (List.mem_cons_of_mem c hd)

/-- Goes on from a state when it has been computed. -/
def thenFrom {α : Type} (next : Lexing → α) : Lexing → α
  | between => next .between
  | word cs => next (.word cs)
  | quoted double => next (.quoted double)
  | escaped double => next (.escaped double)

theorem thenFrom_eq {α : Type} (next : Lexing → α) (s : Lexing) : thenFrom next s = next s := by
  cases s <;> rfl

/-- The state after characters, computed from each to the next. -/
def stop : Lexing → List Char → Lexing
  | s, [] => s
  | s, c :: rest => thenFrom (fun t => stop t rest) (s.step c).2

theorem stop_eq (s : Lexing) (cs : List Char) : s.stop cs = (s.run cs).2 := by
  induction cs generalizing s with
  | nil => rfl
  | cons c rest ih => rw [stop, thenFrom_eq, ih, run]

/-- A state with the letters of its word from the last to the first. -/
def turned : Lexing → Lexing
  | word cs => .word cs.reverse
  | s => s

/-- Goes on with characters from a turned state. Tokens are put before those that were read, and letters
before those of their word, so that a character takes no way back through what came before it. -/
def collect : List Token → Lexing → List Char → List Token × Lexing
  | ts, s, [] => (ts.reverse, s.turned)
  | ts, .word w, c :: rest =>
    if isLetter c then collect ts (.word (c :: w)) rest
    else match start c with
      | (us, s) => collect (us ++ .word w.reverse :: ts) s rest
  | ts, s, c :: rest => match s.step c with
    | (us, t) => collect (us ++ ts) t rest

theorem turned_turned (s : Lexing) : s.turned.turned = s := by
  cases s with
  | word cs => exact congrArg word (List.reverse_reverse cs)
  | between | quoted | escaped => rfl

/-- A character after the end of a token is one token at most, and one letter at most. -/
theorem start_turned (c : Char) :
    (start c).1.reverse = (start c).1 ∧ (start c).2.turned = (start c).2 := by
  unfold start
  split
  · exact ⟨rfl, rfl⟩
  split
  · exact ⟨rfl, rfl⟩
  split <;> exact ⟨rfl, rfl⟩

theorem step_quoted_turned (b : Bool) (c : Char) :
    ((quoted b).step c).1.reverse = ((quoted b).step c).1
      ∧ ((quoted b).step c).2.turned = ((quoted b).step c).2 := by
  rw [step]
  split
  · exact ⟨rfl, rfl⟩
  · refine ⟨rfl, ?_⟩
    dsimp only
    split <;> rfl

theorem collect_eq (ts : List Token) (s : Lexing) (cs : List Char) :
    collect ts s.turned cs = (ts.reverse ++ (s.run cs).1, (s.run cs).2) := by
  induction cs generalizing ts s with
  | nil => rw [collect, turned_turned, run, List.append_nil]
  | cons c rest ih =>
    -- after `c`, which adds the tokens `us`, the state is `t`
    have hgo {us : List Token} {t : Lexing} (hu : us.reverse = us) (ht : t.turned = t) (ts : List Token) :
        collect (us ++ ts) t rest = (ts.reverse ++ (us ++ (t.run rest).1), (t.run rest).2) := by
      have h := ih (us ++ ts) t
      rwa [ht, List.reverse_append, hu, List.append_assoc] at h
    cases s with
    | word w =>
      rw [turned, collect, run, step]
      split
      · have h := ih ts (.word (w ++ [c]))
        rw [turned, List.reverse_append] at h
        exact h
      · have h := hgo (start_turned c).1 (start_turned c).2 (.word w.reverse.reverse :: ts)
        rw [List.reverse_cons, List.reverse_reverse, List.append_assoc] at h
        rw [List.reverse_reverse]
        exact h
    | between => exact hgo (start_turned c).1 (start_turned c).2 ts
    | quoted b => exact hgo (step_quoted_turned b c).1 (step_quoted_turned b c).2 ts
    | escaped b => exact hgo rfl rfl ts

theorem collect_between (cs : List Char) : collect [] .between cs = between.run cs :=
  collect_eq [] .between cs

/-- More letters of a word. -/
theorem run_word {w cs : List Char} (h : ∀ c ∈ cs, isLetter c = true) :
    (word w).run cs = ([], .word (w ++ cs)) := by
  induction cs generalizing w with
  | nil => rw [run, List.append_nil]
  | cons c rest ih =>
    have hs : (word w).step c = ([], .word (w ++ [c])) := by
      rw [step, if_pos (h c List.mem_cons_self)]
    rw [run, hs, ih fun d hd => h d (List.mem_cons_of_mem c hd), List.append_assoc]
    rfl

end Lexing

/-! ## Texts in quotes -/

theorem isLetter_of_isIdentifierChar {c : Char} (h : Intake.isIdentifierChar c = true) :
    isLetter c = true := by
  rw [isLetter, h, Bool.true_or]

/-- A name between other tokens. -/
theorem run_name_between {name : List Char} (h : IsName name) :
    Lexing.between.run name = ([], .word name) := by
  obtain ⟨c, rest, rfl⟩ := List.exists_cons_of_ne_nil h.1
  have hletters : ∀ d ∈ c :: rest, isLetter d = true :=
    fun d hd => isLetter_of_isIdentifierChar (h.2 d hd)
  obtain ⟨hc, hrest⟩ := List.forall_mem_cons.1 hletters
  have hfirst : Lexing.between.step c = ([], .word [c]) := by rw [Lexing.step, Lexing.start, if_pos hc]
  rw [Lexing.run, hfirst, Lexing.run_word hrest]
  rfl

/-- Letters are neither quotes nor the sign that escapes. -/
theorem ne_of_isLetter {c d : Char} (h : isLetter c = true) (hd : isLetter d = false) : c ≠ d := by
  rintro rfl
  rw [h] at hd
  cases hd

theorem isIdentifierChar_of_hex {n : Nat} (h : n < 32) {d : Char}
    (hm : d ∈ (Quoted.hex 4 n).toList) : Intake.isIdentifierChar d = true := by
  have hd : ∀ m < 32, ((Quoted.hex 4 m).toList.all Intake.isIdentifierChar) = true := by
    decide
  exact List.all_eq_true.1 (hd n h) d hm

theorem ne_quoteMark {c : Char} (h : isLetter c = true) (b : Bool) : c ≠ quoteMark b ∧ c ≠ '\\' := by
  refine ⟨?_, ne_of_isLetter h (by decide)⟩
  cases b <;> exact ne_of_isLetter h (by decide)

/-- What stands for a character inside of quotes ends them nowhere. -/
theorem run_escapeChar {b : Bool} {c : Char} (hc : c ≠ quoteMark b ∨ quoteMark b = '"') :
    (Lexing.quoted b).run (Json.escapeChar c) = ([], .quoted b) := by
  -- An escape: the sign that escapes, and one character more.
  have escape (d : Char) : (Lexing.quoted b).run ['\\', d] = ([], .quoted b) := by
    cases b <;> rfl
  unfold Json.escapeChar
  split
  · exact escape '"'
  split
  · exact escape '\\'
  split
  · exact escape 'n'
  split
  · exact escape 'r'
  split
  · exact escape 't'
  split
  · exact escape 'f'
  split
  · exact escape 'b'
  next hd hb _ _ _ _ _ =>
    split
    next hx =>
      exact Lexing.run_append_of_eq (escape 'u') (Lexing.run_quoted fun d hm =>
        ne_quoteMark (isLetter_of_isIdentifierChar (isIdentifierChar_of_hex hx hm)) b)
    next =>
      refine Lexing.run_quoted fun d hm => ?_
      rw [List.mem_singleton.1 hm]
      refine ⟨?_, fun e => hb (beq_iff_eq.2 e)⟩
      rcases hc with hc | hq
      · exact hc
      · exact fun e => hd (beq_iff_eq.2 (e.trans hq))

/-- A text in quotes is one token, whatever it holds. -/
theorem run_quote {b : Bool} {escape : Char → List Char}
    (he : ∀ c, (Lexing.quoted b).run (escape c) = ([], .quoted b)) (cs : List Char) :
    Lexing.between.run ([quoteMark b] ++ cs.flatMap escape ++ [quoteMark b])
      = ([.quoted], .between) := by
  have hstart : Lexing.between.run [quoteMark b] = ([], .quoted b) := by
    cases b <;> rfl
  have hinside : (Lexing.quoted b).run (cs.flatMap escape) = ([], .quoted b) := by
    induction cs with
    | nil => rfl
    | cons c rest ih =>
      rw [List.flatMap_cons]
      exact Lexing.run_append_of_eq (he c) ih
  have hstop : (Lexing.quoted b).run [quoteMark b] = ([.quoted], .between) := by
    cases b <;> rfl
  exact Lexing.run_append_of_eq (Lexing.run_append_of_eq hstart hinside) hstop

theorem run_script_quote (s : String) :
    Lexing.between.run (quote s).toList = ([.quoted], .between) := by
  have he (c : Char) : (Lexing.quoted false).run (escapeChar c) = ([], .quoted false) := by
    unfold escapeChar
    split
    next h =>
      rw [beq_iff_eq.1 h]
      rfl
    split
    · rfl
    next h => exact run_escapeChar (.inl fun e => h (beq_iff_eq.2 e))
  rw [quote, String.toList_append, String.toList_append, String.toList_ofList, String.toList_ofList]
  exact run_quote he s.toList

theorem run_json_quote (s : String) :
    Lexing.between.run (Json.quote s).toList = ([.quoted], .between) := by
  have he (c : Char) : (Lexing.quoted true).run (Json.escapeChar c) = ([], .quoted true) :=
    run_escapeChar (.inr rfl)
  rw [Json.quote, String.toList_append, String.toList_append, String.toList_ofList, String.toList_ofList]
  exact run_quote he s.toList

/-! ## Characters that stand for names -/

/-- The word before a function. -/
def functionWord : List Char := "function".toList

/-- The word before what a function returns. -/
def returnWord : List Char := "return".toList

/-- The word before what a module exports. -/
def exportWord : List Char := "export".toList

/-- The word before a function that waits. -/
def asyncWord : List Char := "async".toList

/-- The word before what a module imports. -/
def importWord : List Char := "import".toList

/-- The words that a script is read by. -/
def keywords : List (List Char) := [functionWord, returnWord, exportWord, asyncWord, importWord]

/-- A name in which no keyword can hide, however it goes on. -/
structure IsFreeName (cs : List Char) : Prop where
  isName : IsName cs
  not_isInfix : ∀ k ∈ keywords, ¬ cs <:+: k

/-- The first character that stands for a name. -/
def standInBase : Nat := 57344

/-- What characters stand for: themselves, or names if they are beyond all that texts are written
with. -/
structure StandsFor (f : Char → List Char) : Prop where
  eq_self : ∀ c : Char, c.toNat < standInBase → f c = [c]
  eq_or : ∀ c : Char, f c = [c] ∨ standInBase ≤ c.toNat ∧ IsFreeName (f c)

namespace StandsFor

variable {f : Char → List Char}

theorem flatMap_eq_self {cs : List Char} (h : ∀ c ∈ cs, f c = [c]) : cs.flatMap f = cs := by
  induction cs with
  | nil => rfl
  | cons c rest ih =>
    rw [List.flatMap_cons, h c List.mem_cons_self, ih fun d hd => h d (List.mem_cons_of_mem c hd)]
    rfl

/-- A word in which no name can hide is put in only where all characters stand for themselves. -/
theorem flatMap_eq_iff_of_not_isInfix {k : List Char} (hk : ∀ c ∈ k, f c = [c])
    (h : ∀ c, f c = [c] ∨ ¬ f c <:+: k) (cs : List Char) : cs.flatMap f = k ↔ cs = k := by
  constructor
  · intro he
    rw [← he, flatMap_eq_self]
    intro c hc
    refine (h c).resolve_right fun hfree => hfree ?_
    obtain ⟨before, after, rfl⟩ := List.append_of_mem hc
    exact ⟨before.flatMap f, after.flatMap f, by
      rw [← he, List.flatMap_append, List.flatMap_cons, List.append_assoc]⟩
  · rintro rfl
    exact flatMap_eq_self hk

/-- A word is a keyword only if it is one with all characters standing for themselves. -/
theorem flatMap_eq_iff (hf : StandsFor f) {k : List Char} (hk : k ∈ keywords) (cs : List Char) :
    cs.flatMap f = k ↔ cs = k := by
  have hall : keywords.all (fun w => w.all fun d => decide (d.toNat < standInBase)) = true := by
    decide
  have hplain : ∀ c ∈ k, f c = [c] := fun c hc => hf.eq_self c
    (of_decide_eq_true (List.all_eq_true.1 (List.all_eq_true.1 hall k hk) c hc))
  exact flatMap_eq_iff_of_not_isInfix hplain
    (fun c => (hf.eq_or c).imp_right fun hfree => hfree.2.not_isInfix k hk) cs

theorem isLetter (hf : StandsFor f) {c : Char} (hc : f c ≠ [c]) :
    Script.isLetter c = true ∧ IsName (f c) := by
  obtain ⟨hb, hn⟩ := (hf.eq_or c).resolve_left hc
  refine ⟨?_, hn.isName⟩
  rw [Script.isLetter, decide_eq_true (Nat.le_trans (by decide) hb), Bool.or_true]

end StandsFor

/-- A token with names in the places of what stands for them. -/
def Token.spell (f : Char → List Char) : Token → Token
  | .word cs => .word (cs.flatMap f)
  | t => t

namespace Lexing

variable {f : Char → List Char}

/-- What has been read with names in the places of what stands for them. -/
def spell (f : Char → List Char) : Lexing → Lexing
  | word cs => .word (cs.flatMap f)
  | s => s

theorem start_spell {c : Char} (hc : f c = [c]) :
    (start c).1.map (Token.spell f) = (start c).1 ∧ (start c).2.spell f = (start c).2 := by
  unfold start
  split
  · exact ⟨rfl, by rw [spell, List.flatMap_singleton, hc]⟩
  split
  · exact ⟨rfl, rfl⟩
  split
  · exact ⟨rfl, rfl⟩
  · exact ⟨rfl, rfl⟩

/-- A character that stands for itself is read alike in all texts. -/
theorem step_spell {c : Char} (hc : f c = [c]) (s : Lexing) :
    (s.spell f).step c = ((s.step c).1.map (Token.spell f), (s.step c).2.spell f) := by
  obtain ⟨htokens, hlexing⟩ := start_spell hc
  cases s with
  | between =>
    show start c = _
    rw [step, htokens, hlexing]
  | word cs =>
    show step (.word (cs.flatMap f)) c = _
    rw [step, step]
    split
    · rw [List.map_nil, spell, List.flatMap_append, List.flatMap_singleton, hc]
    · rw [List.map_cons, htokens, hlexing]
      rfl
  | quoted b =>
    show step (.quoted b) c = _
    rw [step]
    split
    · rfl
    · split <;> rfl
  | escaped b => rfl

/-- A name is read as the character that stands for it. -/
theorem run_name {c : Char} (hl : isLetter c = true) (hn : IsName (f c)) (s : Lexing) :
    (s.spell f).run (f c) = ((s.step c).1.map (Token.spell f), (s.step c).2.spell f) := by
  have hletters : ∀ d ∈ f c, isLetter d = true :=
    fun d hd => isLetter_of_isIdentifierChar (hn.2 d hd)
  obtain ⟨d, ds, hcs⟩ := List.exists_cons_of_ne_nil hn.1
  rw [hcs] at hletters
  obtain ⟨hd, hds⟩ := List.forall_mem_cons.1 hletters
  cases s with
  | between =>
    have hfirst : between.step d = ([], .word [d]) := by rw [step, start, if_pos hd]
    show between.run (f c) = _
    rw [step, start, if_pos hl, hcs, run, hfirst, run_word hds, List.map_nil, spell,
      List.flatMap_singleton, hcs]
    rfl
  | word cs =>
    show (word (cs.flatMap f)).run (f c) = _
    rw [step, if_pos hl, hcs, run_word hletters, List.map_nil, spell, List.flatMap_append,
      List.flatMap_singleton, hcs]
  | quoted b =>
    obtain ⟨hq, hb⟩ := ne_quoteMark hl b
    show (quoted b).run (f c) = _
    rw [hcs, run_quoted fun e he => ne_quoteMark (hletters e he) b, step,
      beq_eq_false_iff_ne.2 hq, if_neg Bool.false_ne_true, beq_eq_false_iff_ne.2 hb,
      if_neg Bool.false_ne_true]
    rfl
  | escaped b =>
    show (escaped b).run (f c) = _
    rw [hcs, run, step, run_quoted fun e he => ne_quoteMark (hds e he) b]
    rfl

/-- What a character stands for is read as the character is. -/
theorem run_spell (hf : StandsFor f) (s : Lexing) (c : Char) :
    (s.spell f).run (f c) = ((s.step c).1.map (Token.spell f), (s.step c).2.spell f) := by
  by_cases hc : f c = [c]
  · rw [hc, run, step_spell hc, run, List.append_nil]
  · obtain ⟨hl, hn⟩ := hf.isLetter hc
    exact run_name hl hn s

end Lexing

/-! ## Outlines of literals -/

/-- A text is read as characters are, from the end of a token to the end of a token. -/
def IsOutlined (s : String) (cs : List Char) : Prop :=
  Lexing.between.run s.toList = Lexing.between.run cs ∧ (Lexing.between.run cs).2 = .between

theorem isOutlined_ofList (cs : List Char) (h : (Lexing.between.run cs).2 = .between) :
    IsOutlined (String.ofList cs) cs := ⟨by rw [String.toList_ofList], h⟩

theorem IsOutlined.append {s t : String} {cs ds : List Char} (h : IsOutlined s cs)
    (h' : IsOutlined t ds) : IsOutlined (s ++ t) (cs ++ ds) := by
  refine ⟨?_, ?_⟩
  · rw [String.toList_append, Lexing.run_append, Lexing.run_append, h.1, h.2, h'.1]
  · rw [Lexing.run_append, h.2]
    exact h'.2

/-- The outline of a text in double quotes. -/
def quotes : List Char := ['"', '"']

theorem isOutlined_json_quote (s : String) : IsOutlined (Json.quote s) quotes :=
  ⟨run_json_quote s, rfl⟩

theorem isOutlined_quote (s : String) : IsOutlined (quote s) quotes := ⟨run_script_quote s, rfl⟩

theorem isOutlined_commaList {items : List String} {outlines : List (List Char)}
    (h : List.Forall₂ IsOutlined items outlines) :
    IsOutlined (commaList items) ([',', ' '].intercalate outlines) := by
  induction h with
  | nil => exact isOutlined_ofList [] rfl
  | @cons s cs items outlines hs h ih =>
    cases h with
    | nil =>
      have hone : commaList [s] = s := by
        apply String.toList_inj.1
        rw [Text.toList_commaList, List.map_singleton, List.intercalate_singleton]
      rw [hone, List.intercalate_singleton]
      exact hs
    | @cons t ds items outlines ht h =>
      have hmore : commaList (s :: t :: items) = s ++ (", " ++ commaList (t :: items)) := by
        apply String.toList_inj.1
        rw [String.toList_append, String.toList_append, Text.toList_commaList, Text.toList_commaList,
          List.map_cons, List.map_cons, List.intercalate_cons_cons]
        exact List.append_assoc _ _ _
      rw [hmore, List.intercalate_cons_cons, List.append_assoc]
      exact hs.append ((isOutlined_ofList [',', ' '] rfl).append ih)

/-- The outline of a record from the outlines of its parts. -/
def recordOutline (parts : List (List Char)) : List Char :=
  ['\x7b'] ++ ([',', ' '].intercalate (parts.map (quotes ++ [':', ' '] ++ ·)) ++ ['\x7d'])

theorem isOutlined_record {α : Type} {parts : List (String × α)} {f : α → Value} {o : α → List Char}
    (h : ∀ e ∈ parts, ∃ s, Json.write .line (f e.2) = .ok s ∧ IsOutlined s (o e.2)) :
    ∃ s, Json.write .line (Value.record (parts.map fun e => (e.1, f e.2))) = .ok s
      ∧ IsOutlined s (recordOutline (parts.map fun e => o e.2)) := by
  obtain ⟨items, hw, hp⟩ := Json.write_record (l := .line) (P := fun x s => IsOutlined s (o x)) h
  have hitems : List.Forall₂ IsOutlined items
      ((parts.map fun e => o e.2).map (quotes ++ [':', ' '] ++ ·)) := by
    rw [List.map_map, List.forall₂_map_right_iff]
    refine hp.flip.imp fun item e ⟨s, hi, hs⟩ => ?_
    rw [hi]
    exact ((isOutlined_json_quote e.1).append (isOutlined_ofList [':', ' '] rfl)).append hs
  have henclose : Json.Layout.line.enclose "\x7b" "\x7d" items
      = "\x7b" ++ (commaList items ++ "\x7d") := by
    cases items with
    | nil => rfl
    | cons item rest =>
      show "\x7b" ++ "" ++ commaList (item :: rest) ++ "" ++ "\x7d" = _
      rw [String.append_empty, String.append_empty, String.append_assoc]
  refine ⟨_, hw, ?_⟩
  rw [henclose]
  exact (isOutlined_ofList ['\x7b'] rfl).append
    ((isOutlined_commaList hitems).append (isOutlined_ofList ['\x7d'] rfl))

end Scaffold.Script
