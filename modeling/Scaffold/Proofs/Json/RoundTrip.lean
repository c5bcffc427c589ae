import Scaffold.Proofs.Json.Scalars
import Scaffold.Proofs.Json.Writing
import Scaffold.Proofs.Text.Parts
import Scaffold.Proofs.Value.Mapping
import Scaffold.Proofs.Value.Shown

/-!
# Reading what was written

Data is written as JSON in any layout and read as itself, unless a whole number has too many digits. Writing
then ends with a fault that says so, and there is no other one.
-/

namespace Scaffold.Json

/-! ## Blanks -/

theorem skipSpace_of_not_isSpace {c : Char} (h : isSpace c = false) (rest : List Char) :
    skipSpace (c :: rest) = c :: rest := by
  rw [skipSpace, List.dropWhile_cons_of_neg]
  rw [h]
  exact Bool.false_ne_true

/-- Blanks between tokens. -/
def IsGap (gap : List Char) : Prop := ∀ c ∈ gap, isSpace c = true

theorem IsGap.skipSpace_append {gap : List Char} (h : IsGap gap) (rest : List Char) :
    skipSpace (gap ++ rest) = skipSpace rest := by
  rw [skipSpace, List.dropWhile_append_of_pos h]
  rfl

/-- No blank goes on with a number. -/
theorem IsGap.endsNumber {gap rest : List Char} (h : IsGap gap) (hr : EndsNumber rest) :
    EndsNumber (gap ++ rest) := by
  cases gap with
  | nil => exact hr
  | cons c cs =>
    intro d hd
    obtain rfl : c = d := by
      simpa using hd
    have hc : c = ' ' ∨ c = '\t' ∨ c = '\n' ∨ c = '\r' := by
      simpa [isSpace, or_assoc] using h c List.mem_cons_self
    rcases hc with rfl | rfl | rfl | rfl <;> decide

theorem endsNumber_cons (c : Char) (h : c ∈ [',', ']', '\x7d']) (rest : List Char) :
    EndsNumber (c :: rest) := by
  intro d hd
  obtain rfl : c = d := by
    simpa using hd
  simp only [List.mem_cons, List.not_mem_nil, or_false] at h
  rcases h with rfl | rfl | rfl <;> decide

/-! ## Layouts -/

theorem isGap_lineBreak (l : Layout) : IsGap l.lineBreak.toList := by
  cases l with
  | line => exact fun c hc => absurd hc (by simp [Layout.lineBreak])
  | indented depth =>
    intro c hc
    rw [Layout.lineBreak, String.toList_append, List.mem_append] at hc
    rcases hc with hc | hc
    · rw [List.mem_singleton.1 hc]
      decide
    · rw [String.toList_ofList] at hc
      rw [List.eq_of_mem_replicate hc]
      decide

/-- Items are set apart by a comma and blanks. -/
theorem exists_separator_eq (l : Layout) :
    ∃ gap, l.separator.toList = ',' :: gap ∧ IsGap gap := by
  cases l with
  | line => exact ⟨[' '], rfl, by simp [IsGap, isSpace]⟩
  | indented depth =>
    refine ⟨_, ?_, isGap_lineBreak (.indented depth)⟩
    rw [Layout.separator, String.toList_append]
    rfl

/-! ## Texts of values -/

/-- Characters begin with one that is no blank, closes nothing and is no byte-order mark. -/
def Opens (cs : List Char) : Prop :=
  ∃ c rest, cs = c :: rest ∧ isSpace c = false ∧ c ∉ [']', '\x7d', '\uFEFF']

theorem Opens.skipSpace_append {cs : List Char} (h : Opens cs) (rest : List Char) :
    skipSpace (cs ++ rest) = cs ++ rest := by
  obtain ⟨c, cs, rfl, hc, -⟩ := h
  exact skipSpace_of_not_isSpace hc _

/-- A text from which a value is read, in front of everything that does not go on with a number. The steps
are bounded by the number of characters. -/
structure IsTextOf (v : Value) (s : String) : Prop where
  opens : Opens s.toList
  reads : ∀ (lone : Option Char) (fuel : Nat) {rest : List Char}, EndsNumber rest →
    2 * (s.toList ++ rest).length ≤ fuel → value lone fuel (s.toList ++ rest) = .ok (v, rest)

/-! ### Scalars -/

theorem value_eq_scalar {c : Char} (h : c ∉ ['"', '[', '\x7b']) (lone : Option Char) (fuel : Nat) (rest : List Char) :
    value lone (fuel + 1) (c :: rest) = scalar (c :: rest) := by
  simp only [List.mem_cons, List.not_mem_nil, or_false, not_or] at h
  rw [value]
  all_goals simp [h]

/-- A text that begins with none of the marks of texts, lists and mappings is that of a scalar. -/
theorem isTextOf_scalar {v : Value} {s : String} {c : Char} {cs : List Char} (hs : s.toList = c :: cs)
    (hopen : isSpace c = false ∧ c ∉ [']', '\x7d', '\uFEFF']) (hc : c ∉ ['"', '[', '\x7b'])
    (hr : ∀ {rest : List Char}, EndsNumber rest → scalar (s.toList ++ rest) = .ok (v, rest)) :
    IsTextOf v s where
  opens := ⟨c, cs, hs, hopen⟩
  reads lone fuel rest hend hfuel := by
    cases fuel with
    | zero => simp [hs] at hfuel
    | succ fuel =>
      have hscalar : value lone (fuel + 1) (s.toList ++ rest) = scalar (s.toList ++ rest) := by
        rw [hs]
        exact value_eq_scalar hc lone fuel _
      rw [hscalar]
      exact hr hend

theorem isTextOf_null : IsTextOf .null "null" :=
  isTextOf_scalar rfl (by decide) (by decide) fun {rest} _ => scalar_null rest

theorem isTextOf_bool (b : Bool) : IsTextOf (.bool b) (if b then "true" else "false") := by
  have hr : ∀ {rest : List Char}, EndsNumber rest →
      scalar ((if b then "true" else "false").toList ++ rest) = .ok (.bool b, rest) :=
    fun {rest} _ => scalar_bool b rest
  cases b with
  | true => exact isTextOf_scalar rfl (by decide) (by decide) hr
  | false => exact isTextOf_scalar rfl (by decide) (by decide) hr

theorem isTextOf_int {n : Int} (hn : (Value.int n).isShown = true) : IsTextOf (.int n) (toString n) := by
  have hd := toList_toString n
  cases hm : Nat.toDigits 10 n.natAbs with
  | nil => exact absurd hm Nat.toDigits_ne_nil
  | cons d ds =>
    have hdigit : isDecimalDigit d = true := isDecimalDigit_of_mem_toDigits (hm ▸ List.mem_cons_self)
    have hne : ∀ c, isDecimalDigit c = false → d ≠ c := fun c => ne_of_isDecimalDigit hdigit
    have hr : ∀ {rest : List Char}, EndsNumber rest →
        scalar ((toString n).toList ++ rest) = .ok (.int n, rest) := by
      intro rest hend
      have hscalar : scalar ((toString n).toList ++ rest) = number ((toString n).toList ++ rest) := by
        rw [hd, hm, List.append_assoc]
        exact scalar_eq_number hdigit _
      rw [hscalar, number_toString hn hend]
    rw [hm] at hd
    by_cases hneg : n < 0
    · rw [decide_eq_true hneg] at hd
      exact isTextOf_scalar hd (by decide) (by decide) hr
    · rw [decide_eq_false hneg] at hd
      refine isTextOf_scalar hd ⟨?_, ?_⟩ ?_ hr
      · simp [isSpace, hne ' ' (by decide), hne '\t' (by decide), hne '\n' (by decide),
          hne '\r' (by decide)]
      · simp [hne ']' (by decide), hne '\x7d' (by decide), hne '\uFEFF' (by decide)]
      · simp [hne '"' (by decide), hne '[' (by decide), hne '\x7b' (by decide)]

theorem isTextOf_text (s : String) : IsTextOf (.text s) (quote s) where
  opens := ⟨'"', _, toList_quote s, by decide, by decide⟩
  reads lone fuel rest _ hfuel := by
    rw [toList_quote, List.cons_append, List.append_assoc, List.singleton_append] at hfuel ⊢
    simp only [List.length_cons, List.length_append] at hfuel
    cases fuel with
    | zero => omega
    | succ fuel =>
      rw [value, text_quote s rest (by omega)]
      rfl

/-! ### Lists -/

/-- The items of a list are read from their texts, up to and with the bracket that closes the list. -/
theorem items_eq_ok {gap last : List Char} (hgap : IsGap gap) (hlast : IsGap last) {v : Value} {s : String}
    {vs : List Value} {ss : List String} (hv : IsTextOf v s) (h : List.Forall₂ IsTextOf vs ss)
    {lone : Option Char} {fuel : Nat} {rest cs : List Char}
    (hcs : (',' :: gap).intercalate ((s :: ss).map String.toList) ++ (last ++ ']' :: rest) = cs)
    (hfuel : 2 * cs.length < fuel) : items lone fuel cs = .ok (v :: vs, rest) := by
  have hclosed : skipSpace (last ++ ']' :: rest) = ']' :: rest := by
    rw [hlast.skipSpace_append, skipSpace_of_not_isSpace (by decide)]
  -- One step of fuel goes with each item; the first item is singled out, since a comma stands only
  -- between two items.
  induction h generalizing v s fuel cs with
  | nil =>
    obtain ⟨fuel, rfl⟩ : ∃ n, fuel = n + 1 := ⟨fuel - 1, by omega⟩
    rw [List.map_cons, List.map_nil, List.intercalate_singleton] at hcs
    have hend : EndsNumber (last ++ ']' :: rest) := hlast.endsNumber (endsNumber_cons ']' (by decide) rest)
    have hread := hv.reads lone fuel hend (by rw [hcs]; omega)
    rw [hcs] at hread
    rw [items, hread]
    dsimp only
    rw [hclosed]
    rfl
  | @cons w t ws ts hw h ih =>
    obtain ⟨fuel, rfl⟩ : ∃ n, fuel = n + 1 := ⟨fuel - 1, by omega⟩
    rw [List.map_cons, Text.intercalate_cons_append, if_neg (by simp)] at hcs
    generalize hnext : (',' :: gap).intercalate ((t :: ts).map String.toList) ++ (last ++ ']' :: rest)
      = next at hcs
    have hopen : skipSpace (gap ++ next) = next := by
      rw [hgap.skipSpace_append, ← hnext, List.map_cons, Text.intercalate_cons_append, hw.opens.skipSpace_append]
    have hlength : cs.length = s.toList.length + 1 + gap.length + next.length := by
      rw [← hcs]
      simp
      omega
    have hend : EndsNumber (',' :: gap ++ next) := endsNumber_cons ',' (by decide) _
    have hread := hv.reads lone fuel hend (by rw [hcs]; omega)
    have hrest := ih hw hnext (by omega : 2 * next.length < fuel)
    rw [hcs] at hread
    rw [items, hread]
    dsimp only
    rw [List.cons_append, skipSpace_of_not_isSpace (by decide)]
    show (items lone fuel (skipSpace (gap ++ next))).map _ = _
    rw [hopen, hrest]
    rfl

/-! ### Mappings -/

/-- A text of an entry: its key in quotes, a colon and a text of its value. -/
def IsEntryOf (e : String × Value) (p : String) : Prop :=
  ∃ s, p = quote e.1 ++ ": " ++ s ∧ IsTextOf e.2 s

/-- The key of an entry is read first, and then its value. -/
theorem entries_entry (key s : String) (hs : Opens s.toList) (tail : List Char) (lone : Option Char) (fuel : Nat)
    (hfuel : 2 * ((quote key ++ ": " ++ s).toList ++ tail).length ≤ fuel) :
    entries lone (fuel + 1) ((quote key ++ ": " ++ s).toList ++ tail)
      = match value lone fuel (s.toList ++ tail) with
        | .error e => .error e
        | .ok (v, rest) =>
          match skipSpace rest with
          | '\x7d' :: rest => .ok ([(.text key, v)], rest)
          | ',' :: rest => (entries lone fuel (skipSpace rest)).map fun (es, rest) =>
              ((.text key, v) :: es, rest)
          | rest => .error (.fault .comma rest.length) := by
  have hchars : (quote key ++ ": " ++ s).toList ++ tail
      = '"' :: (escapeChars key.toList ++ '"' :: ':' :: ' ' :: (s.toList ++ tail)) := by
    simp [String.toList_append, toList_quote]
  have hcolon : skipSpace (' ' :: (s.toList ++ tail)) = s.toList ++ tail := by
    rw [← List.singleton_append, IsGap.skipSpace_append (by simp [IsGap, isSpace]), hs.skipSpace_append]
  rw [hchars] at hfuel ⊢
  simp only [List.length_cons, List.length_append] at hfuel
  rw [entries, text_quote key _ (by omega)]
  dsimp only
  rw [skipSpace_of_not_isSpace (by decide)]
  conv_rhs => rw [← hcolon]
  rfl

/-- The entries of a mapping are read from their texts, up to and with the brace that closes the mapping. -/
theorem entries_eq_ok {gap last : List Char} (hgap : IsGap gap) (hlast : IsGap last) {e : String × Value}
    {p : String} {es : List (String × Value)} {ps : List String} (he : IsEntryOf e p)
    (h : List.Forall₂ IsEntryOf es ps) {lone : Option Char} {fuel : Nat} {rest cs : List Char}
    (hcs : (',' :: gap).intercalate ((p :: ps).map String.toList) ++ (last ++ '\x7d' :: rest) = cs)
    (hfuel : 2 * cs.length < fuel) :
    entries lone fuel cs = .ok ((e :: es).map fun e => (.text e.1, e.2), rest) := by
  have hclosed : skipSpace (last ++ '\x7d' :: rest) = '\x7d' :: rest := by
    rw [hlast.skipSpace_append, skipSpace_of_not_isSpace (by decide)]
  induction h generalizing e p fuel cs with
  | nil =>
    obtain ⟨fuel, rfl⟩ : ∃ n, fuel = n + 1 := ⟨fuel - 1, by omega⟩
    obtain ⟨s, rfl, hv⟩ := he
    rw [List.map_cons, List.map_nil, List.intercalate_singleton] at hcs
    have hend : EndsNumber (last ++ '\x7d' :: rest) :=
      hlast.endsNumber (endsNumber_cons '\x7d' (by decide) rest)
    have hlength : (s.toList ++ (last ++ '\x7d' :: rest)).length ≤ cs.length := by
      rw [← hcs]
      simp
      omega
    have hread := hv.reads lone fuel hend (by omega)
    rw [← hcs] at hfuel ⊢
    rw [entries_entry e.1 s hv.opens _ lone fuel (by omega), hread]
    dsimp only
    rw [hclosed]
    rfl
  | @cons e' p' es ps he' h ih =>
    obtain ⟨fuel, rfl⟩ : ∃ n, fuel = n + 1 := ⟨fuel - 1, by omega⟩
    obtain ⟨s, rfl, hv⟩ := he
    rw [List.map_cons, Text.intercalate_cons_append, if_neg (by simp)] at hcs
    generalize hnext : (',' :: gap).intercalate ((p' :: ps).map String.toList) ++ (last ++ '\x7d' :: rest)
      = next at hcs
    have hopen : skipSpace (gap ++ next) = next := by
      -- The next entry begins with the quote of its key.
      obtain ⟨s', rfl, -⟩ := he'
      have hquote : Opens (quote e'.1 ++ ": " ++ s').toList := by
        rw [String.toList_append, String.toList_append, toList_quote]
        exact ⟨'"', _, rfl, by decide, by decide⟩
      rw [hgap.skipSpace_append, ← hnext, List.map_cons, Text.intercalate_cons_append, hquote.skipSpace_append]
    have hlength : (s.toList ++ (',' :: gap ++ next)).length ≤ cs.length ∧ next.length < cs.length := by
      rw [← hcs]
      simp
      omega
    have hend : EndsNumber (',' :: gap ++ next) := endsNumber_cons ',' (by decide) _
    have hread := hv.reads lone fuel hend (by omega)
    have hrest := ih he' hnext (by omega : 2 * next.length < fuel)
    rw [← hcs] at hfuel ⊢
    rw [entries_entry e.1 s hv.opens _ lone fuel (by omega), hread]
    dsimp only
    rw [List.cons_append, skipSpace_of_not_isSpace (by decide)]
    show (entries lone fuel (skipSpace (gap ++ next))).map _ = _
    rw [hopen, hrest]
    rfl

/-! ### Containers -/

/-- A list with items is read from its first item on. -/
theorem value_list {gap cs : List Char} (hgap : IsGap gap) (hcs : Opens cs) (lone : Option Char) (fuel : Nat) :
    value lone (fuel + 1) ('[' :: (gap ++ cs)) = (items lone fuel cs).map fun r => (.list r.1, r.2) := by
  have hskip : skipSpace (gap ++ cs) = cs := by
    simpa [hgap.skipSpace_append] using hcs.skipSpace_append []
  obtain ⟨c, cs, rfl, -, hc⟩ := hcs
  rw [value, hskip]
  split
  next h => exact absurd (List.cons.inj h).1 (by simp_all)
  next => rfl

/-- A mapping with entries is read from its first entry on. -/
theorem value_map {gap cs : List Char} (hgap : IsGap gap) (hcs : Opens cs) (lone : Option Char) (fuel : Nat) :
    value lone (fuel + 1) ('\x7b' :: (gap ++ cs))
      = (entries lone fuel cs).map fun r => (.map (Value.mapping r.1), r.2) := by
  have hskip : skipSpace (gap ++ cs) = cs := by
    simpa [hgap.skipSpace_append] using hcs.skipSpace_append []
  obtain ⟨c, cs, rfl, -, hc⟩ := hcs
  rw [value, hskip]
  split
  next h => exact absurd (List.cons.inj h).1 (by simp_all)
  next => rfl

theorem isTextOf_list {vs : List Value} {ss : List String} (h : List.Forall₂ IsTextOf vs ss) (l : Layout) :
    IsTextOf (.list vs) (l.enclose "[" "]" ss) := by
  cases h with
  | nil =>
    have hs : (l.enclose "[" "]" []).toList = ['[', ']'] := toList_enclose_nil l "[" "]"
    refine ⟨⟨'[', _, hs, by decide, by decide⟩, fun lone fuel rest _ hfuel => ?_⟩
    rw [hs] at hfuel ⊢
    obtain ⟨fuel, rfl⟩ : ∃ n, fuel = n + 1 := ⟨fuel - 1, by simp at hfuel; omega⟩
    rfl
  | @cons v s vs ss hv h =>
    obtain ⟨gap, hsep, hgap⟩ := exists_separator_eq l.deeper
    have hs := toList_enclose l "[" "]" (List.cons_ne_nil s ss)
    rw [hsep] at hs
    refine ⟨⟨'[', _, hs, by decide, by decide⟩, fun lone fuel rest _ hfuel => ?_⟩
    generalize hcs : (',' :: gap).intercalate ((s :: ss).map String.toList)
      ++ (l.lineBreak.toList ++ ']' :: rest) = cs
    have hchars : (l.enclose "[" "]" (s :: ss)).toList ++ rest
        = '[' :: (l.deeper.lineBreak.toList ++ cs) := by
      rw [hs, ← hcs]
      simp
    rw [hchars] at hfuel ⊢
    simp only [List.length_cons, List.length_append] at hfuel
    obtain ⟨fuel, rfl⟩ : ∃ n, fuel = n + 1 := ⟨fuel - 1, by omega⟩
    -- no blank comes first, so the reader does not skip any part of the first item
    have hopen : Opens cs := by
      obtain ⟨c, tail, hc, hopen⟩ := hv.opens
      rw [← hcs, List.map_cons, Text.intercalate_cons_append, hc]
      exact ⟨c, _, rfl, hopen⟩
    rw [value_list (isGap_lineBreak l.deeper) hopen,
      items_eq_ok hgap (isGap_lineBreak l) hv h hcs (by omega : _ < fuel)]
    rfl

theorem isTextOf_record {es : List (String × Value)} {ps : List String} (hkeys : (es.map Prod.fst).Nodup)
    (h : List.Forall₂ IsEntryOf es ps) (l : Layout) :
    IsTextOf (Value.record es) (l.enclose "\x7b" "\x7d" ps) := by
  cases h with
  | nil =>
    have hs : (l.enclose "\x7b" "\x7d" []).toList = ['\x7b', '\x7d'] := toList_enclose_nil l _ _
    refine ⟨⟨'\x7b', _, hs, by decide, by decide⟩, fun lone fuel rest _ hfuel => ?_⟩
    rw [hs] at hfuel ⊢
    obtain ⟨fuel, rfl⟩ : ∃ n, fuel = n + 1 := ⟨fuel - 1, by simp at hfuel; omega⟩
    rfl
  | @cons e p es ps he h =>
    obtain ⟨gap, hsep, hgap⟩ := exists_separator_eq l.deeper
    have hs := toList_enclose l "\x7b" "\x7d" (List.cons_ne_nil p ps)
    rw [hsep] at hs
    refine ⟨⟨'\x7b', _, hs, by decide, by decide⟩, fun lone fuel rest _ hfuel => ?_⟩
    generalize hcs : (',' :: gap).intercalate ((p :: ps).map String.toList)
      ++ (l.lineBreak.toList ++ '\x7d' :: rest) = cs
    have hchars : (l.enclose "\x7b" "\x7d" (p :: ps)).toList ++ rest
        = '\x7b' :: (l.deeper.lineBreak.toList ++ cs) := by
      rw [hs, ← hcs]
      simp
    rw [hchars] at hfuel ⊢
    simp only [List.length_cons, List.length_append] at hfuel
    obtain ⟨fuel, rfl⟩ : ∃ n, fuel = n + 1 := ⟨fuel - 1, by omega⟩
    -- no blank comes first, so the reader does not skip any part of the first entry
    have hopen : Opens cs := by
      obtain ⟨s, rfl, -⟩ := he
      rw [← hcs, List.map_cons, Text.intercalate_cons_append, String.toList_append, String.toList_append,
        toList_quote]
      exact ⟨'"', _, rfl, by decide, by decide⟩
    rw [value_map (isGap_lineBreak l.deeper) hopen,
      entries_eq_ok hgap (isGap_lineBreak l) he h hcs (by omega : _ < fuel)]
    show Except.ok (Value.map (Value.mapping _), rest) = _
    rw [Value.mapping_record hkeys]
    rfl

/-! ## Writing -/

/-- What becomes of writing: a text with a property if everything can be shown, and else a fault that names
the digits. -/
inductive Written {α : Type} (P : α → Prop) : Bool → Except Unwritable α → Prop where
  | ok {a : α} (h : P a) : Written P true (.ok a)
  | digits : Written P false (.error .digits)

/-- The items of a list are written if each of them can be. -/
theorem written_items {l : Layout} {P : Value → String → Prop} {items : List Value}
    (h : ∀ v ∈ items, Written (P v) v.isShown (write l v)) :
    Written (List.Forall₂ P items) (Value.areShown items) (writeItems l items) := by
  induction items with
  | nil =>
    rw [writeItems, Value.areShown]
    exact .ok .nil
  | cons v rest ih =>
    obtain ⟨hv, hrest⟩ := List.forall_mem_cons.1 h
    have hrest := ih hrest
    rw [writeItems, Value.areShown_cons]
    generalize write l v = r, v.isShown = b at hv
    generalize writeItems l rest = rs, Value.areShown rest = bs at hrest
    cases hv with
    | ok hp =>
      cases hrest with
      | ok hps => exact .ok (.cons hp hps)
      | digits => exact .digits
    | digits => exact .digits

/-- The entries of a record are written if the value of each can be, each after its key. -/
theorem written_entries {l : Layout} {P : Value → String → Prop} {entries : List (String × Value)}
    (h : ∀ e ∈ entries, Written (P e.2) e.2.isShown (write l e.2)) :
    Written (List.Forall₂ (fun e item => ∃ s, item = quote e.1 ++ ": " ++ s ∧ P e.2 s) entries)
      (Value.entriesAreShown (entries.map fun e => (Value.text e.1, e.2)))
      (writeEntries l (entries.map fun e => (Value.text e.1, e.2))) := by
  induction entries with
  | nil =>
    rw [List.map_nil, writeEntries, Value.entriesAreShown]
    exact .ok .nil
  | cons e rest ih =>
    obtain ⟨he, hrest⟩ := List.forall_mem_cons.1 h
    have hrest := ih hrest
    have hkey : (Value.text e.1).isShown = true := rfl
    rw [List.map_cons, writeEntries, Value.entriesAreShown_cons, keyText, hkey, Bool.true_and]
    generalize write l e.2 = r, e.2.isShown = b at he
    generalize writeEntries l _ = rs, Value.entriesAreShown _ = bs at hrest
    cases he with
    | ok hp =>
      cases hrest with
      | ok hps => exact .ok (.cons ⟨_, rfl, hp⟩ hps)
      | digits => exact .digits
    | digits => exact .digits

/-- Data that can be shown is written in every layout, and what is written is a text of the data. -/
theorem written_data {v : Value} (h : v.IsData) (l : Layout) : Written (IsTextOf v) v.isShown (write l v) := by
  induction h generalizing l with
  | null =>
    rw [write]
    exact .ok isTextOf_null
  | bool b =>
    rw [write]
    exact .ok (isTextOf_bool b)
  | int n =>
    rw [write, wholeNumber]
    cases hn : (Value.int n).isShown with
    | true => exact .ok (isTextOf_int hn)
    | false => exact .digits
  | text s =>
    rw [write]
    exact .ok (isTextOf_text s)
  | @list items _ ih =>
    have hitems := written_items fun v hv => ih v hv l.deeper
    rw [write, Value.isShown]
    generalize writeItems l.deeper items = r, Value.areShown items = b at hitems
    cases hitems with
    | ok hp => exact .ok (isTextOf_list hp l)
    | digits => exact .digits
  | @record entries hkeys _ ih =>
    have hentries := written_entries fun e he => ih e he l.deeper
    rw [Value.record, write, Value.isShown]
    generalize writeEntries l.deeper _ = r, Value.entriesAreShown _ = b at hentries
    cases hentries with
    | ok hp => exact .ok (isTextOf_record hkeys hp l)
    | digits => exact .digits

/-! ## Reading whole texts -/

/-- What stands in a whole text is read. -/
theorem read_of_isTextOf {v : Value} {s : String} (h : IsTextOf v s) : read s = .ok v := by
  have hskip : skipSpace s.toList = s.toList := by
    simpa using h.opens.skipSpace_append []
  have hend : EndsNumber [] := fun _ hd => nomatch hd
  have hread := h.reads none (2 * s.toList.length + 2) hend (by rw [List.append_nil]; omega)
  rw [List.append_nil] at hread
  have hmark : read s = (document s.toList).mapError (Stop.locate s.toList.length s.toList.take) := by
    obtain ⟨c, cs, hs, -, hc⟩ := h.opens
    rw [read, hs]
    split
    next hc' => simp_all
    next => rfl
  rw [hmark, document, documentWith, hskip, hread]
  rfl

end Scaffold.Json
