import Scaffold.Proofs.Script.Line
import Scaffold.Proofs.Script.Scope

/-!
# Scripts of components

The names that the script of a component declares outside of all brackets, where the script stands
between two tags. Text in brackets declares nothing there, whatever names it has: only the brackets in it
count.
-/

namespace Scaffold.Script

/-! ## Reading -/

/-- The tag that the script of a component begins with. -/
def openingTag : List Char := "<script setup>".toList

/-- The tag that the script of a component ends with. -/
def closingTag : List Char := "</script>".toList

/-- What stands before a word, if the word comes up. -/
def before? (word : List Char) : List Char → Option (List Char)
  | [] => none
  | c :: rest =>
    if word.isPrefixOf (c :: rest) then some [] else (before? word rest).map fun cs => c :: cs

/-- The names that are declared in the script of a component, each as often as it is. -/
def componentNames? (content : String) : Option (List String) :=
  ((after? openingTag content.toList).bind (before? closingTag)).map fun cs =>
    (Reader.declared.run (.among 0) (tokens (String.ofList cs))).1.map String.ofList

/-! ## Whole parts -/

/-- Characters of a script, from the end of a token to the end of a token, that lead from one number of open
brackets to another and declare these names. -/
def Binds (d : Nat) (cs : List Char) (e : Nat) (names : List (List Char)) : Prop :=
  '<' ∉ cs ∧ (Lexing.between.run cs).2 = .between
    ∧ Reader.declared.run (.among d) (tokensOf cs) = (names, .among e)

instance (d : Nat) (cs : List Char) (e : Nat) (names : List (List Char)) : Decidable (Binds d cs e names) :=
  inferInstanceAs (Decidable (_ ∧ _ ∧ _))

theorem binds_nil (d : Nat) : Binds d [] d [] := ⟨List.not_mem_nil, rfl, rfl⟩

theorem Binds.append {d e k : Nat} {cs ds : List Char} {ns ms : List (List Char)} (h : Binds d cs e ns)
    (h' : Binds e ds k ms) : Binds d (cs ++ ds) k (ns ++ ms) := by
  obtain ⟨hm, hl, hr⟩ := h
  obtain ⟨hm', hl', hr'⟩ := h'
  refine ⟨fun hc => (List.mem_append.1 hc).elim hm hm', ?_, ?_⟩
  · rw [Lexing.run_append, hl]
    exact hl'
  · rw [tokensOf, Lexing.run_append, hl, Reader.run_append]
    unfold tokensOf at hr hr'
    rw [hr, hr']

theorem before?_append {word cs : List Char} {c : Char} (h : c ∉ cs) (more : List Char) :
    before? (c :: word) (cs ++ (c :: word ++ more)) = some cs := by
  induction cs with
  | nil =>
    have hp : (c :: word).isPrefixOf (c :: word ++ more) = true := by
      rw [List.isPrefixOf_iff_prefix]
      exact List.prefix_append _ _
    rw [List.nil_append, List.cons_append, before?, ← List.cons_append, if_pos hp]
  | cons d ds ih =>
    rw [List.mem_cons, not_or] at h
    have hp : (c :: word).isPrefixOf (d :: (ds ++ (c :: word ++ more))) = false := by
      rw [List.isPrefixOf_cons_cons, beq_eq_false_iff_ne.2 h.1, Bool.false_and]
    rw [List.cons_append, before?, hp, if_neg Bool.false_ne_true, ih h.2]
    rfl

/-- A component whose script declares these names. -/
theorem componentNames?_eq {content : String} {cs more : List Char} {names : List (List Char)}
    (hs : content.toList = openingTag ++ (cs ++ (closingTag ++ more))) (h : Binds 0 cs 0 names) :
    componentNames? content = some (names.map String.ofList) := by
  obtain ⟨hm, hl, hr⟩ := h
  have hbefore : before? closingTag (cs ++ (closingTag ++ more)) = some cs := before?_append hm more
  have htokens : tokens (String.ofList cs) = tokensOf cs := by
    rw [tokens, String.toList_ofList, hl]
    exact List.append_nil _
  rw [componentNames?, hs, after?_word_append, Option.bind_some, hbefore, Option.map_some, htokens, hr]

/-! ## Text in brackets -/

/-- The number of open brackets after tokens, besides one that is open all the time. -/
def nesting? (d : Nat) : List Token → Option Nat
  | [] => some d
  | t :: rest =>
    if t.opens then nesting? (d + 1) rest
    else if t.closes then if d = 0 then none else nesting? (d - 1) rest
    else nesting? d rest

theorem declared_of_nesting? {d e : Nat} {ts : List Token} (h : nesting? d ts = some e) :
    Reader.declared.run (.among (d + 1)) ts = ([], .among (e + 1)) := by
  have hstep (d : Nat) (t : Token) :
      Reader.declared (.among (d + 1)) t = ([], .among (t.level (d + 1))) := by
    rw [Reader.declared, if_neg fun h => absurd h.1 (Nat.succ_ne_zero d)]
  induction ts generalizing d with
  | nil =>
    cases h
    rfl
  | cons t rest ih =>
    rw [nesting?] at h
    rw [Reader.run, hstep, List.nil_append]
    split at h
    next ho =>
      rw [Token.level, if_pos ho]
      exact ih h
    next ho =>
      split at h
      next hc =>
        split at h
        next => cases h
        next hd =>
          rw [Token.level, if_neg ho, if_pos hc]
          have hsucc : d + 1 - 1 = d - 1 + 1 := by omega
          rw [hsucc]
          exact ih h
      next hc =>
        rw [Token.level, if_neg ho, if_neg hc]
        exact ih h

namespace Lexing

/-- Outside of quotes. -/
def isOutside : Lexing → Bool
  | between | word _ => true
  | _ => false

/-- The letters of a word before other characters do not matter for brackets. -/
theorem nesting?_run_word (w v : List Char) (d : Nat) (cs : List Char) :
    nesting? d ((word w).run cs).1 = nesting? d ((word v).run cs).1
      ∧ ((word w).run cs).2.isOutside = ((word v).run cs).2.isOutside := by
  induction cs generalizing w v with
  | nil => exact ⟨rfl, rfl⟩
  | cons c rest ih =>
    rw [run, run, step, step]
    split
    · exact ih _ _
    · exact ⟨rfl, rfl⟩

/-- What has been read outside of quotes does not matter for brackets. -/
theorem nesting?_run {s : Lexing} (h : s.isOutside = true) (d : Nat) (cs : List Char) :
    nesting? d (s.run cs).1 = nesting? d (between.run cs).1
      ∧ (s.run cs).2.isOutside = (between.run cs).2.isOutside := by
  cases s with
  | between => exact ⟨rfl, rfl⟩
  | word w =>
    cases cs with
    | nil => exact ⟨rfl, rfl⟩
    | cons c rest =>
      rw [run, run, step, step, start]
      split
      · exact nesting?_run_word _ _ d rest
      · exact ⟨rfl, rfl⟩
  | quoted b => cases h
  | escaped b => cases h

end Lexing

/-- Characters inside of brackets and outside of quotes, with the numbers of brackets that are open before
and after them. -/
def Passes (d : Nat) (cs : List Char) (e : Nat) : Prop :=
  '<' ∉ cs ∧ nesting? d (tokensOf cs) = some e ∧ (Lexing.between.run cs).2.isOutside = true

instance (d : Nat) (cs : List Char) (e : Nat) : Decidable (Passes d cs e) :=
  inferInstanceAs (Decidable (_ ∧ _ ∧ _))

theorem nesting?_append {d e : Nat} {ts : List Token} (h : nesting? d ts = some e) (us : List Token) :
    nesting? d (ts ++ us) = nesting? e us := by
  induction ts generalizing d with
  | nil =>
    cases h
    rfl
  | cons t rest ih =>
    rw [nesting?] at h
    rw [List.cons_append, nesting?]
    split at h
    next ho => rw [if_pos ho, ih h]
    next ho =>
      rw [if_neg ho]
      split at h
      next hc =>
        rw [if_pos hc]
        split at h
        next => cases h
        next hd => rw [if_neg hd, ih h]
      next hc => rw [if_neg hc, ih h]

theorem Passes.append {d e k : Nat} {cs ds : List Char} (h : Passes d cs e) (h' : Passes e ds k) :
    Passes d (cs ++ ds) k := by
  obtain ⟨hm, hn, ho⟩ := h
  obtain ⟨hm', hn', ho'⟩ := h'
  obtain ⟨hnesting, houtside⟩ := Lexing.nesting?_run ho e ds
  refine ⟨fun hc => (List.mem_append.1 hc).elim hm hm', ?_, ?_⟩
  · rw [tokensOf, Lexing.run_append]
    exact (nesting?_append hn _).trans (hnesting.trans hn')
  · rw [Lexing.run_append]
    exact houtside.trans ho'

theorem passes_name {cs : List Char} (h : IsName cs) (d : Nat) : Passes d cs d := by
  refine ⟨h.not_mem (by decide), ?_, ?_⟩
  · rw [tokensOf, run_name_between h]
    rfl
  · rw [run_name_between h]
    rfl

/-- A character that stands in quotes and in a script as it is. -/
def isQuotableChar (c : Char) : Bool := c != quoteMark false && c != '\\' && c != '<'

/-- Characters that stand in quotes and in a script as they are. -/
def IsQuotable (cs : List Char) : Prop := ∀ c ∈ cs, isQuotableChar c = true

theorem isQuotable_of_all {cs : List Char} (h : cs.all isQuotableChar = true) : IsQuotable cs :=
  List.all_eq_true.1 h

theorem ne_of_isQuotableChar {c : Char} (h : isQuotableChar c = true) :
    c ≠ quoteMark false ∧ c ≠ '\\' ∧ c ≠ '<' := by
  simpa only [isQuotableChar, Bool.and_eq_true, bne_iff_ne, and_assoc] using h

theorem IsQuotable.append {cs ds : List Char} (h : IsQuotable cs) (h' : IsQuotable ds) :
    IsQuotable (cs ++ ds) :=
  fun c hc => (List.mem_append.1 hc).elim (h c) (h' c)

theorem IsQuotable.run_eq {cs : List Char} (h : IsQuotable cs) :
    (Lexing.quoted false).run cs = ([], .quoted false) :=
  Lexing.run_quoted fun c hc => ⟨(ne_of_isQuotableChar (h c hc)).1, (ne_of_isQuotableChar (h c hc)).2.1⟩

theorem IsQuotable.not_mem {cs : List Char} (h : IsQuotable cs) : '<' ∉ cs :=
  fun hc => (ne_of_isQuotableChar (h _ hc)).2.2 rfl

/-- A text in quotes that needs no escapes. -/
theorem passes_quoted {cs : List Char} (h : IsQuotable cs) (d : Nat) :
    Passes d (['\''] ++ (cs ++ ['\''])) d := by
  have hopen : Lexing.between.run ['\''] = ([], .quoted false) := rfl
  have hclose : (Lexing.quoted false).run ['\''] = ([.quoted], .between) := rfl
  have hwhole := Lexing.run_append_of_eq hopen (Lexing.run_append_of_eq h.run_eq hclose)
  refine ⟨?_, ?_, ?_⟩
  · simp only [List.mem_append, not_or]
    exact ⟨by decide, h.not_mem, by decide⟩
  · rw [tokensOf, hwhole]
    rfl
  · rw [hwhole]
    rfl

theorem nesting?_add {d e : Nat} {ts : List Token} (h : nesting? d ts = some e) (k : Nat) :
    nesting? (k + d) ts = some (k + e) := by
  induction ts generalizing d with
  | nil =>
    cases h
    rfl
  | cons t rest ih =>
    rw [nesting?] at h ⊢
    split at h
    next ho =>
      rw [if_pos ho]
      exact ih h
    next ho =>
      rw [if_neg ho]
      split at h
      next hc =>
        split at h
        next => cases h
        next hd =>
          have hpred : k + d - 1 = k + (d - 1) := by omega
          rw [if_pos hc, if_neg (by omega), hpred]
          exact ih h
      next hc =>
        rw [if_neg hc]
        exact ih h

/-- Characters may stand inside of more brackets. -/
theorem Passes.inside {cs : List Char} {d e : Nat} (h : Passes d cs e) (k : Nat) :
    Passes (k + d) cs (k + e) :=
  ⟨h.1, nesting?_add h.2.1 k, h.2.2⟩

theorem passes_quote {s : String} (h : '<' ∉ s.toList) (d : Nat) : Passes d (quote s).toList d := by
  refine ⟨not_mem_quote (by decide) (by decide) h, ?_, ?_⟩
  · rw [tokensOf, run_script_quote]
    rfl
  · rw [run_script_quote]
    rfl

/-- A line inside of brackets declares nothing. -/
theorem Passes.binds {d e : Nat} {cs : List Char} (h : Passes d cs e) :
    Binds (d + 1) (cs ++ ['\n']) (e + 1) [] := by
  have hline : Passes e ['\n'] e := ⟨by decide, rfl, rfl⟩
  obtain ⟨hm, hn, -⟩ := h.append hline
  refine ⟨hm, ?_, declared_of_nesting? hn⟩
  obtain ⟨-, -, ho⟩ := h
  rw [Lexing.run_append]
  cases hs : (Lexing.between.run cs).2 with
  | between => rfl
  | word w => rfl
  | quoted b =>
    rw [hs] at ho
    cases ho
  | escaped b =>
    rw [hs] at ho
    cases ho

/-! ## Lines with names put in -/

/-- Names in braces with commas between them, up to the brace that closes them. -/
theorem exists_run_names {n : List Char} {names : List (List Char)} (hn : ∀ m ∈ n :: names, IsName m) :
    ∃ ts last, Lexing.between.run ([',', ' '].intercalate (n :: names)) = (ts, .word last)
      ∧ ∀ rest, Reader.declared.run (.listed none) (ts ++ (.word last :: .mark '\x7d' :: rest))
        = (n :: names ++ (Reader.declared.run (.among 0) rest).1,
          (Reader.declared.run (.among 0) rest).2) := by
  induction names generalizing n with
  | nil =>
    refine ⟨[], n, ?_, fun rest => rfl⟩
    rw [List.intercalate_singleton, run_name_between (hn n List.mem_cons_self)]
  | cons m names ih =>
    obtain ⟨ts, last, hrun, hread⟩ := ih fun k hk => hn k (List.mem_cons_of_mem n hk)
    have hcomma : (Lexing.word n).run [',', ' '] = ([.word n, .mark ','], .between) := rfl
    refine ⟨.word n :: .mark ',' :: ts, last, ?_, fun rest => ?_⟩
    · rw [List.intercalate_cons_cons]
      exact Lexing.run_append_of_eq (Lexing.run_append_of_eq
        (run_name_between (hn n List.mem_cons_self)) hcomma) hrun
    · have hlater := hread rest
      show (n :: (Reader.declared.run (.listed none) (ts ++ (.word last :: .mark '\x7d' :: rest))).1,
        (Reader.declared.run (.listed none) (ts ++ (.word last :: .mark '\x7d' :: rest))).2) = _
      rw [hlater]
      rfl

/-- The import of names in braces. -/
theorem binds_import {names : List (List Char)} (hne : names ≠ []) (hn : ∀ n ∈ names, IsName n)
    {source : List Char} (hs : IsQuotable source) :
    Binds 0 ("import \x7b ".toList ++ ([',', ' '].intercalate names
      ++ (" \x7d from '".toList ++ (source ++ ['\'', ';']))) ++ ['\n'])
      0 names := by
  obtain ⟨n, others, rfl⟩ := List.exists_cons_of_ne_nil hne
  obtain ⟨ts, last, hrun, hread⟩ := exists_run_names hn
  have hopen : Lexing.between.run "import \x7b ".toList
      = ([.word importWord, .mark '\x7b'], .between) := rfl
  have hfrom : (Lexing.word last).run " \x7d from '".toList
      = ([.word last, .mark '\x7d', .word "from".toList], .quoted false) := rfl
  have hend : (Lexing.quoted false).run ['\'', ';'] = ([.quoted, .mark ';'], .between) := rfl
  have hline : Lexing.between.run ['\n'] = ([], .between) := rfl
  have hwhole := Lexing.run_append_of_eq (Lexing.run_append_of_eq hopen (Lexing.run_append_of_eq hrun
    (Lexing.run_append_of_eq hfrom (Lexing.run_append_of_eq hs.run_eq hend)))) hline
  -- no tag begins in the line, no text stays open behind it, and only the braces hold names
  refine ⟨?_, ?_, ?_⟩
  · have hnames : '<' ∉ [',', ' '].intercalate (n :: others) :=
      Text.not_mem_intercalate (by decide) fun m h => (hn m h).not_mem (by decide)
    simp only [List.mem_append, not_or]
    exact ⟨⟨by decide, hnames, by decide, hs.not_mem, by decide⟩, by decide⟩
  · rw [hwhole]
  · have hbefore : Reader.declared.run (.among 0) [.word importWord, .mark '\x7b']
        = ([], .listed none) := rfl
    have hafter : Reader.declared.run (.among 0) [.word "from".toList, .quoted, .mark ';']
        = ([], .among 0) := rfl
    have hnames := hread [.word "from".toList, .quoted, .mark ';']
    rw [hafter, List.append_nil] at hnames
    rw [tokensOf, hwhole]
    dsimp only
    rw [List.append_nil, Reader.run_append, hbefore]
    exact hnames

/-- A constant with what a function gives for its value. -/
theorem binds_call {n f : List Char} (hn : IsName n) (hf : IsName f) (h : f ∉ declarators) :
    Binds 0 ("const ".toList ++ (n ++ (" = ".toList ++ (f ++ "();".toList))) ++ ['\n'])
      0 [n] := by
  have hopen : Lexing.between.run "const ".toList
      = ([.word "const".toList], .between) := rfl
  have hequals : (Lexing.word n).run " = ".toList = ([.word n, .mark '='], .between) := rfl
  have hcall : (Lexing.word f).run "();".toList
      = ([.word f, .mark '(', .mark ')', .mark ';'], .between) := rfl
  have hline : Lexing.between.run ['\n'] = ([], .between) := rfl
  have hwhole := Lexing.run_append_of_eq (Lexing.run_append_of_eq hopen (Lexing.run_append_of_eq
    (run_name_between hn) (Lexing.run_append_of_eq hequals (Lexing.run_append_of_eq
      (run_name_between hf) hcall)))) hline
  have hword : Reader.declared (.among 0) (.word f) = ([], .among 0) := by
    rw [Reader.declared, Token.isOneOf, List.contains_eq_mem, decide_eq_false h]
    rfl
  refine ⟨?_, ?_, ?_⟩
  · simp only [List.mem_append, not_or]
    exact ⟨⟨by decide, hn.not_mem (by decide), by decide, hf.not_mem (by decide), by decide⟩, by decide⟩
  · rw [hwhole]
  · have hbefore : Reader.declared.run (.among 0) [.word "const".toList, .word n, .mark '=']
        = ([n], .among 0) := rfl
    have hafter : Reader.declared.run (.among 0) [.word f, .mark '(', .mark ')', .mark ';']
        = ([], .among 0) := by
      rw [Reader.run, hword]
      rfl
    have htokens : tokensOf _ = [Token.word "const".toList, .word n, .mark '=']
        ++ [Token.word f, .mark '(', .mark ')', .mark ';'] := congrArg Prod.fst hwhole
    rw [htokens, Reader.run_append, hbefore, hafter]
    rfl

end Scaffold.Script
