import Mathlib.Data.List.Forall2
import Scaffold.Proofs.Json.Writing
import Scaffold.Proofs.Script.Unquote
import Scaffold.Proofs.Text.Parts

/-!
# Literals of texts

A text is put in single quotes by writing it as JSON, freeing its double quotes of their backslashes and
giving one to every apostrophe. The result is a literal that stands for the text and for no other one,
and literals in brackets stand for the list of their texts.
-/

namespace Scaffold.Script

/-! ## From JSON to single quotes -/

/-- The backslash in front of every double quote taken away, from the front to the end. -/
def freeQuotes : List Char → List Char
  | '\\' :: '"' :: rest => '"' :: freeQuotes rest
  | c :: rest => c :: freeQuotes rest
  | [] => []

/-- A backslash put in front of every apostrophe. -/
def guardApostrophes (cs : List Char) : List Char :=
  cs.flatMap fun c => if c == '\'' then ['\\', '\''] else [c]

theorem freeQuotes_cons {c : Char} (h : c ≠ '\\') (rest : List Char) :
    freeQuotes (c :: rest) = c :: freeQuotes rest := by
  rw [freeQuotes]
  rintro rest' hc -
  exact absurd hc h

/-- A backslash stays unless a double quote follows. -/
theorem freeQuotes_backslash {rest : List Char} (h : rest.head? ≠ some '"') :
    freeQuotes ('\\' :: rest) = '\\' :: freeQuotes rest := by
  rw [freeQuotes]
  rintro rest' - rfl
  exact h rfl

theorem freeQuotes_append {cs : List Char} (h : '\\' ∉ cs) (rest : List Char) :
    freeQuotes (cs ++ rest) = cs ++ freeQuotes rest := by
  induction cs with
  | nil => rfl
  | cons c cs ih =>
    rw [List.mem_cons, not_or] at h
    rw [List.cons_append, freeQuotes_cons (Ne.symm h.1), ih h.2, List.cons_append]

/-- JSON never begins a character with a double quote, so a backslash that ends an escape meets none. -/
theorem head?_escapeChars_ne (cs : List Char) : (Json.escapeChars cs).head? ≠ some '"' := by
  cases cs with
  | nil => exact nofun
  | cons c cs =>
    rw [Json.escapeChars_cons]
    have hc := Json.escaped_escapeChar c
    generalize Json.escapeChar c = e at hc
    cases hc with
    | short _ => simp
    | code _ => simp
    | plain hquote _ _ => simpa using hquote

theorem guardApostrophes_append (as bs : List Char) :
    guardApostrophes (as ++ bs) = guardApostrophes as ++ guardApostrophes bs :=
  List.flatMap_append

theorem guardApostrophes_eq_self {cs : List Char} (h : '\'' ∉ cs) : guardApostrophes cs = cs :=
  Text.flatMap_mark_eq_self h _

/-- The two kinds of quotes apart, a character is escaped as in JSON. -/
theorem escapeChar_eq_json {c : Char} (hdouble : c ≠ '"') (hsingle : c ≠ '\'') :
    escapeChar c = Json.escapeChar c := by
  simp [escapeChar, hdouble, hsingle]

/-- The letters of escapes are neither backslashes nor apostrophes, the one of the backslash apart. -/
theorem not_mem_hex {n : Nat} (h : n < 32) :
    '\\' ∉ (Quoted.hex 4 n).toList ∧ '\'' ∉ (Quoted.hex 4 n).toList := by
  have hdigits : ∀ m < 32, '\\' ∉ ['0', '0', Nat.digitChar (m / 16), Nat.digitChar (m % 16)]
      ∧ '\'' ∉ ['0', '0', Nat.digitChar (m / 16), Nat.digitChar (m % 16)] := by
    decide
  rw [Quoted.toList_hex h]
  exact hdigits n h

/-- One character through both replacements, in front of characters that do not begin with a double
quote. -/
theorem guard_free_escapeChar (c : Char) {rest : List Char} (h : rest.head? ≠ some '"') :
    guardApostrophes (freeQuotes (Json.escapeChar c ++ rest))
      = escapeChar c ++ guardApostrophes (freeQuotes rest) := by
  by_cases hdouble : c = '"'
  · subst hdouble
    rfl
  by_cases hsingle : c = '\''
  · subst hsingle
    rfl
  rw [escapeChar_eq_json hdouble hsingle]
  have hc := Json.escaped_escapeChar c
  generalize Json.escapeChar c = e at hc
  suffices hfree : freeQuotes (e ++ rest) = e ++ freeQuotes rest ∧ '\'' ∉ e by
    rw [hfree.1, guardApostrophes_append, guardApostrophes_eq_self hfree.2]
  cases hc with
  | short hl =>
    simp only [Json.shortEscapes, List.mem_cons, Prod.mk.injEq, List.not_mem_nil, or_false] at hl
    rcases hl with ⟨rfl, rfl⟩ | ⟨rfl, rfl⟩ | ⟨rfl, rfl⟩ | ⟨rfl, rfl⟩ | ⟨rfl, rfl⟩ | ⟨rfl, rfl⟩ | ⟨rfl, rfl⟩
    · exact absurd rfl hdouble
    · -- The second backslash ends the escape, and no double quote follows it.
      refine ⟨?_, by decide⟩
      show freeQuotes ('\\' :: '\\' :: rest) = '\\' :: '\\' :: freeQuotes rest
      rw [freeQuotes_backslash (by simp), freeQuotes_backslash h]
    all_goals exact ⟨rfl, by decide⟩
  | code hn =>
    obtain ⟨hslash, hquote⟩ := not_mem_hex hn
    refine ⟨?_, by simp [hquote]⟩
    have hu : '\\' ∉ 'u' :: (Quoted.hex 4 c.toNat).toList := by
      simp [hslash]
    rw [List.cons_append, freeQuotes_backslash (by simp), freeQuotes_append hu]
    rfl
  | plain _ hslash _ =>
    exact ⟨freeQuotes_cons hslash rest, by simp [Ne.symm hsingle]⟩

/-- What stands between single quotes is the JSON text with its quotes changed: the two replacements
never take a backslash for the escape of a quote that it does not belong to. -/
theorem guard_free_escapeChars (cs : List Char) :
    guardApostrophes (freeQuotes (Json.escapeChars cs)) = cs.flatMap escapeChar := by
  induction cs with
  | nil => rfl
  | cons c cs ih =>
    rw [Json.escapeChars_cons, guard_free_escapeChar c (head?_escapeChars_ne cs), ih, List.flatMap_cons]

/-! ## What stands between quotes -/

/-- The letters that stand for characters behind a backslash. -/
def shortEscapes : List (Char × Char) := [
  ('\\', '\\'), ('\'', '\''), ('n', '\n'), ('r', '\r'), ('t', '\t'), ('b', '\x08'), ('f', '\x0c')]

/-- The characters between single quotes and the text that they stand for: escapes with a letter or with
four digits, and other characters for themselves, among which there is no apostrophe, no backslash and no
control character. -/
inductive Denotes : List Char → List Char → Prop where
  | nil : Denotes [] []
  | plain {c : Char} {body text : List Char} (hquote : c ≠ '\'') (hslash : c ≠ '\\')
      (hvisible : 0x20 ≤ c.toNat) (h : Denotes body text) : Denotes (c :: body) (c :: text)
  | short {letter c : Char} {body text : List Char} (hl : (letter, c) ∈ shortEscapes)
      (h : Denotes body text) : Denotes ('\\' :: letter :: body) (c :: text)
  | code {c : Char} {digits body text : List Char} (hl : digits.length = 4)
      (hd : ofDigits? 16 digits = some c.toNat) (h : Denotes body text) :
      Denotes ('\\' :: 'u' :: (digits ++ body)) (c :: text)

theorem denotes_escapeChar (c : Char) {body text : List Char} (h : Denotes body text) :
    Denotes (escapeChar c ++ body) (c :: text) := by
  by_cases hdouble : c = '"'
  · subst hdouble
    exact .plain (by decide) (by decide) (by decide) h
  by_cases hsingle : c = '\''
  · subst hsingle
    exact .short (by decide) h
  rw [escapeChar_eq_json hdouble hsingle]
  have hc := Json.escaped_escapeChar c
  generalize Json.escapeChar c = e at hc
  cases hc with
  | short hl =>
    -- Only the double quote has an escape in JSON and none here.
    have hsub : ∀ p ∈ Json.shortEscapes, p.2 ≠ '"' → p ∈ shortEscapes := by
      decide
    exact .short (hsub _ hl hdouble) h
  | code hn => exact .code (Quoted.length_hex hn) (Quoted.ofDigits?_hex hn) h
  | plain _ hslash hn => exact .plain hsingle hslash hn h

theorem denotes_flatMap (cs : List Char) : Denotes (cs.flatMap escapeChar) cs := by
  induction cs with
  | nil => exact .nil
  | cons c cs ih =>
    rw [List.flatMap_cons]
    exact denotes_escapeChar c ih

/-! ## Reading what stands between quotes -/

theorem hexDigit?_of_digitValue? {c : Char} {d : Nat} (h : digitValue? 16 c = some d) :
    hexDigit? c = some d := by
  unfold digitValue? at h
  unfold hexDigit?
  dsimp only at h
  split_ifs at h ⊢
  all_goals first | exact h | omega

/-- Digits are read as the character whose code point they give. -/
theorem unquoteFrom_code {c : Char} {digits : List Char} (hne : digits ≠ []) {value : Nat}
    (hd : digitsFrom? 16 value digits = some c.toNat) (rest : List Char) :
    unquoteFrom (.code digits.length value) (digits ++ rest)
      = (unquoteFrom .plain rest).map fun r => (c :: r.1, r.2) := by
  induction digits generalizing value with
  | nil => exact absurd rfl hne
  | cons d ds ih =>
    obtain ⟨v, hv, hd⟩ := Option.bind_eq_some_iff.1 (digitsFrom?_cons 16 value d ds ▸ hd)
    rw [List.cons_append, unquoteFrom, hexDigit?_of_digitValue? hv, Option.bind_some, Nat.mul_comm]
    cases ds with
    | nil =>
      have hvalue : value * 16 + v = c.toNat := Option.some.inj hd
      rw [if_pos (by simp), hvalue, charOf?_toNat]
      rfl
    | cons e es =>
      rw [if_neg (by simp)]
      exact ih (List.cons_ne_nil e es) hd

/-- Reading finds what the characters stand for, and ends at the first apostrophe after them. -/
theorem unquoteFrom_of_denotes {body text : List Char} (h : Denotes body text) (rest : List Char) :
    unquoteFrom .plain (body ++ '\'' :: rest) = some (text, rest) := by
  induction h with
  | nil => rfl
  | @plain c body text hquote hslash hvisible h ih =>
    have hfeed : c ≠ '\n' := by
      rintro rfl
      exact absurd hvisible (by decide)
    have hreturn : c ≠ '\r' := by
      rintro rfl
      exact absurd hvisible (by decide)
    rw [List.cons_append, unquoteFrom]
    simp [hquote, hslash, hfeed, hreturn, ih]
  | @short letter c body text hl h ih =>
    simp only [shortEscapes, List.mem_cons, Prod.mk.injEq, List.not_mem_nil, or_false] at hl
    rcases hl with ⟨rfl, rfl⟩ | ⟨rfl, rfl⟩ | ⟨rfl, rfl⟩ | ⟨rfl, rfl⟩ | ⟨rfl, rfl⟩ | ⟨rfl, rfl⟩ | ⟨rfl, rfl⟩
    all_goals
      show (unquoteFrom .plain (body ++ '\'' :: rest)).map _ = _
      rw [ih]
      rfl
  | @code c digits body text hl hd h ih =>
    have hne : digits ≠ [] := by
      rintro rfl
      cases hl
    rw [ofDigits?, if_neg (by simpa using hne)] at hd
    show unquoteFrom (.code 4 0) (digits ++ body ++ '\'' :: rest) = _
    rw [List.append_assoc, ← hl, unquoteFrom_code hne hd, ih]
    rfl

/-- There is no control character between the quotes. -/
theorem Denotes.visible {body text : List Char} (h : Denotes body text) :
    ∀ c ∈ body, 0x20 ≤ c.toNat := by
  induction h with
  | nil => exact fun c hc => absurd hc List.not_mem_nil
  | plain _ _ hvisible _ ih => exact List.forall_mem_cons.2 ⟨hvisible, ih⟩
  | short hl _ ih =>
    have hletters : ∀ p ∈ shortEscapes, 0x20 ≤ p.1.toNat := by
      decide
    exact List.forall_mem_cons.2 ⟨by decide, List.forall_mem_cons.2 ⟨hletters _ hl, ih⟩⟩
  | code hl hd _ ih =>
    rw [ofDigits?, if_neg (by rw [List.isEmpty_iff_length_eq_zero, hl]; decide)] at hd
    intro d hm
    simp only [List.mem_cons, List.mem_append] at hm
    rcases hm with rfl | rfl | hm | hm
    · decide
    · decide
    · obtain ⟨v, hv⟩ := exists_digitValue?_of_mem hd hm
      exact visible_of_digitValue? hv
    · exact ih d hm

/-! ## Literals -/

/-- A literal in single quotes that stands for a text. -/
def IsTextLiteral (l s : String) : Prop :=
  ∃ body, l = "'" ++ String.ofList body ++ "'" ∧ Denotes body s.toList

/-- A literal in brackets that stands for a list of texts: their literals with commas between them. -/
def IsListLiteral (l : String) (xs : List String) : Prop :=
  ∃ ls, l = "[" ++ commaList ls ++ "]" ∧ List.Forall₂ IsTextLiteral ls xs

theorem isTextLiteral_quote (s : String) : IsTextLiteral (quote s) s :=
  ⟨_, rfl, denotes_flatMap s.toList⟩

/-- A literal is read as the text that it stands for, whatever follows it. -/
theorem IsTextLiteral.unquote_append {l s : String} (h : IsTextLiteral l s) (rest : List Char) :
    unquote (l.toList ++ rest) = some (s, rest) := by
  obtain ⟨body, rfl, hbody⟩ := h
  have hq : ("'" ++ String.ofList body ++ "'").toList ++ rest = '\'' :: (body ++ '\'' :: rest) := by
    simp [String.toList_append]
  rw [hq, unquote, beq_self_eq_true, if_pos rfl, unquoteFrom_of_denotes hbody, Option.map_some,
    String.ofList_toList]

theorem IsTextLiteral.unique {l s t : String} (hs : IsTextLiteral l s) (ht : IsTextLiteral l t) :
    t = s := by
  have he := (ht.unquote_append []).symm.trans (hs.unquote_append [])
  exact congrArg Prod.fst (Option.some.inj he)

theorem IsTextLiteral.head?_toList {l s : String} (h : IsTextLiteral l s) :
    l.toList.head? = some '\'' := by
  obtain ⟨body, rfl, -⟩ := h
  simp [String.toList_append]

/-- Literals with commas between them, up to the bracket that closes the list, are literals of one list
only: each of them ends where reading it ends. -/
theorem eq_of_commaList_eq {ls ks xs ys : List String} (hl : List.Forall₂ IsTextLiteral ls xs)
    (hk : List.Forall₂ IsTextLiteral ks ys) (rest : List Char)
    (h : [',', ' '].intercalate (ls.map String.toList) ++ ']' :: rest
      = [',', ' '].intercalate (ks.map String.toList) ++ ']' :: rest) : ys = xs := by
  -- No literal begins with the closing bracket.
  have hclosed {l s : String} (hs : IsTextLiteral l s) (tail : List Char) :
      ']' :: rest ≠ l.toList ++ tail := by
    intro e
    have hhead := congrArg List.head? e
    rw [List.head?_append, hs.head?_toList] at hhead
    exact absurd hhead (by simp)
  induction hl generalizing ks ys with
  | nil =>
    cases hk with
    | nil => rfl
    | cons hs _ =>
      rw [List.map_cons, Text.intercalate_cons_append] at h
      exact absurd h (hclosed hs _)
  | @cons l x ls xs hx hl ih =>
    cases hk with
    | nil =>
      rw [List.map_cons, Text.intercalate_cons_append] at h
      exact absurd h.symm (hclosed hx _)
    | @cons k y ks ys hy hk =>
      rw [List.map_cons, List.map_cons, Text.intercalate_cons_append, Text.intercalate_cons_append] at h
      have hread := congrArg unquote h
      rw [hx.unquote_append, hy.unquote_append, Option.some.injEq, Prod.mk.injEq] at hread
      obtain ⟨rfl, htail⟩ := hread
      cases hl with
      | nil =>
        cases hk with
        | nil => rfl
        | cons _ _ => simp at htail
      | cons hx' hl =>
        cases hk with
        | nil => simp at htail
        | cons hy' hk =>
          rw [ih (.cons hy' hk)]
          simpa using htail

theorem IsListLiteral.unique {l : String} {xs ys : List String} (hx : IsListLiteral l xs)
    (hy : IsListLiteral l ys) : ys = xs := by
  obtain ⟨ls, rfl, hl⟩ := hx
  obtain ⟨ks, he, hk⟩ := hy
  apply eq_of_commaList_eq hl hk []
  rw [← Text.toList_commaList, ← Text.toList_commaList]
  simpa [String.toList_append] using congrArg (fun l => l.toList.drop 1) he

theorem isListLiteral_textList (xs : List String) : IsListLiteral (textList xs) xs := by
  refine ⟨xs.map quote, rfl, ?_⟩
  rw [List.forall₂_map_left_iff]
  exact List.forall₂_same.2 fun x _ => isTextLiteral_quote x

/-! ## Literals of values -/

theorem literal_text (s : String) : literal (.text s) = .ok (quote s) := rfl

theorem literal_list (xs : List String) : literal (Value.texts xs) = .ok (textList xs) := by
  have hi : (Value.texts xs).items? = some (xs.map .text) := rfl
  unfold literal
  rw [hi, Option.bind_some, allTexts?_texts]
  rfl

/-- The literal of a text is in single quotes, and what stands between them is the text as JSON with its
quotes changed. It has no control character and stands for the text and for no other one. The literal of
a list of texts is in brackets and stands for the list and for no other one. So different texts have
different literals, and so have different lists. -/
theorem literal_stands_for_texts :
    (∀ s : String, ∃ l, literal (.text s) = .ok l
      ∧ l = "'" ++ String.ofList (guardApostrophes (freeQuotes (Json.escapeChars s.toList))) ++ "'"
      ∧ IsTextLiteral l s ∧ (∀ t, IsTextLiteral l t → t = s) ∧ ∀ c ∈ l.toList, 0x20 ≤ c.toNat)
    ∧ (∀ xs : List String, ∃ l, literal (Value.texts xs) = .ok l
      ∧ literal (.tuple (xs.map .text)) = .ok l
      ∧ IsListLiteral l xs ∧ (∀ ys, IsListLiteral l ys → ys = xs))
    ∧ (Function.Injective fun s => literal (.text s))
    ∧ Function.Injective fun xs => literal (Value.texts xs) := by
  -- a literal has one value, so the last two parts follow from the first two
  refine ⟨fun s => ?_, fun xs => ?_, fun s t h => ?_, fun xs ys h => ?_⟩
  · refine ⟨quote s, literal_text s, ?_, isTextLiteral_quote s, fun t => (isTextLiteral_quote s).unique, ?_⟩
    · rw [guard_free_escapeChars]
      rfl
    · have hvisible := (denotes_flatMap s.toList).visible
      intro c hc
      rw [quote, String.toList_append, String.toList_append, String.toList_ofList, List.mem_append,
        List.mem_append, String.toList_ofList] at hc
      rcases hc with (hc | hc) | hc
      · rw [List.mem_singleton.1 hc]
        decide
      · exact hvisible c hc
      · rw [List.mem_singleton.1 hc]
        decide
  · exact ⟨textList xs, literal_list xs, literal_list xs, isListLiteral_textList xs,
      fun ys => (isListLiteral_textList xs).unique⟩
  · have hl : quote s = quote t := Except.ok.inj h
    exact (isTextLiteral_quote t).unique (hl ▸ isTextLiteral_quote s)
  · have hl : textList xs = textList ys := by
      simpa [literal_list] using h
    exact (isListLiteral_textList ys).unique (hl ▸ isListLiteral_textList xs)

end Scaffold.Script
