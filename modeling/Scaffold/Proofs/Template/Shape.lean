import Scaffold.Proofs.Script.Declaration
import Scaffold.Proofs.Text.Ascii
import Scaffold.Template.Render

/-!
# Shapes of values

What a template may count on: a shape says of a value that it is there and how it can stand in a text.
Expressions are given shapes from the shapes of variables; an expression with a shape always has a
value, and the value has the shape.
-/

namespace Scaffold

/-! ## Texts on one line -/

/-- A text that stays in its line. -/
def Inline (s : String) : Prop := '\n' ∉ s.toList

theorem inline_ofList {cs : List Char} (h : cs.contains '\n' = false) :
    Inline (String.ofList cs) := by
  unfold Inline
  rw [String.toList_ofList]
  intro hm
  rw [List.contains_iff_mem.2 hm] at h
  cases h

theorem inline_append {s t : String} (hs : Inline s) (ht : Inline t) : Inline (s ++ t) := by
  unfold Inline
  rw [String.toList_append, List.mem_append, not_or]
  exact ⟨hs, ht⟩

theorem inline_intercalate {sep : String} {l : List String} (hs : Inline sep)
    (h : ∀ s ∈ l, Inline s) : Inline (sep.intercalate l) := by
  induction l with
  | nil =>
    rw [String.intercalate_nil]
    exact inline_ofList rfl
  | cons s rest ih =>
    have hi : Inline s := h s List.mem_cons_self
    cases rest with
    | nil =>
      rw [String.intercalate_singleton]
      exact hi
    | cons t rest =>
      rw [String.intercalate_cons_cons]
      exact inline_append (inline_append hi hs) (ih fun u hu => h u (List.mem_cons_of_mem s hu))

theorem inline_commaList {l : List String} (h : ∀ s ∈ l, Inline s) : Inline (commaList l) :=
  inline_intercalate (inline_ofList rfl) h

/-! ## Shapes -/

/-- The shape of a value. -/
inductive Shape where
  /-- Any value, to ask whether it counts as true. -/
  | any
  /-- A value whose text stays in its line. -/
  | inline
  /-- A text that stays in its line. -/
  | line
  /-- This text, which stays in its line. -/
  | exact (s : String)
  /-- One of these texts, all of which stay in their line. -/
  | oneOf (l : List String)
  /-- The list of these texts. -/
  | texts (l : List String)
  /-- A value with a literal that stays in its line. -/
  | literal
  /-- A text of several lines, none of which begins as a declaration could. -/
  | block
  /-- A number of a place among `n` places. -/
  | index (n : Nat)
  /-- A list of `n` items. -/
  | list (n : Nat) (item : Shape)
  /-- A mapping with a value for each of these texts. -/
  | keyed (keys : List String) (item : Shape)
  /-- A mapping with these parts. -/
  | record (parts : List (String × Shape))
  /-- A value that counts as true exactly if `b` is true. -/
  | flag (b : Bool)
  /-- A value that has a shape if it counts as true. -/
  | optional (shape : Shape)

mutual

/-- A value has a shape. -/
def Shape.Fits : Shape → Value → Prop
  | .any, _ => True
  | .inline, v => Inline v.display
  | .line, v => ∃ s, v = .text s ∧ Inline s
  | .exact s, v => v = .text s ∧ Inline s
  | .oneOf l, v => ∃ s ∈ l, v = .text s ∧ Inline s
  | .texts l, v => v = Value.texts l
  | .literal, v => ∃ s, Script.literal v = .ok s ∧ Inline s
  | .block, v => Script.quietFrom true v.display.toList = some false
  | .index n, v => ∃ i : Nat, v = .int i ∧ i < n
  | .list n item, v =>
    ∃ items, v = .list items ∧ items.length = n ∧ ∀ w ∈ items, item.Fits w
  | .keyed keys item, v => ∀ s ∈ keys, ∃ w, Expr.lookup? v (.text s) = some w ∧ item.Fits w
  | .record parts, v => Shape.PartsFit parts v
  | .flag b, v => v.truthy = b
  | .optional shape, v => v.truthy = true → shape.Fits v

/-- A value has parts of the given shapes. -/
def Shape.PartsFit : List (String × Shape) → Value → Prop
  | [], _ => True
  | (n, shape) :: rest, v =>
    (∃ w, Expr.partOf v n = .value w ∧ shape.Fits w) ∧ Shape.PartsFit rest v

end

/-- The shapes of variables. -/
abbrev Context := List (String × Shape)

/-- The variables of a scope have the shapes of a context. -/
def Context.Fits (Γ : Context) (scope : Scope) : Prop :=
  ∀ b ∈ Γ, ∃ v, scope.lookup b.1 = some (.value v) ∧ b.2.Fits v

/-- A shape under a name in a list. -/
inductive Shape.Among : List (String × Shape) → String → Shape → Prop where
  | here {n : String} {shape : Shape} {rest : List (String × Shape)} :
    Among ((n, shape) :: rest) n shape
  | later {n : String} {shape : Shape} {b : String × Shape} {rest : List (String × Shape)}
    (h : Among rest n shape) : Among (b :: rest) n shape

theorem Shape.Among.mem {l : List (String × Shape)} {n : String} {shape : Shape}
    (h : Among l n shape) : (n, shape) ∈ l := by
  induction h with
  | here => exact List.mem_cons_self
  | later h ih => exact List.mem_cons_of_mem _ ih

theorem Shape.PartsFit.of_among {l : List (String × Shape)} {n : String} {shape : Shape} {v : Value}
    (h : Shape.PartsFit l v) (hm : Among l n shape) :
    ∃ w, Expr.partOf v n = .value w ∧ shape.Fits w := by
  induction hm with
  | here =>
    rw [Shape.PartsFit] at h
    exact h.1
  | later hm ih =>
    rw [Shape.PartsFit] at h
    exact ih h.2

theorem Shape.fits_line {s : String} (h : Inline s) : Shape.line.Fits (.text s) := by
  rw [Shape.Fits]
  exact ⟨s, rfl, h⟩

/-- Values of a shape stay in their line when they are printed. -/
inductive Shape.Prints : Shape → Prop where
  | inline : Prints .inline
  | line : Prints .line
  | exact {s : String} : Prints (.exact s)
  | oneOf {l : List String} : Prints (.oneOf l)

theorem Shape.Prints.display {shape : Shape} (h : shape.Prints) {v : Value} (hv : shape.Fits v) :
    Inline v.display := by
  cases h with
  | inline =>
    rw [Shape.Fits] at hv
    exact hv
  | line =>
    rw [Shape.Fits] at hv
    obtain ⟨s, rfl, hs⟩ := hv
    exact hs
  | exact =>
    rw [Shape.Fits] at hv
    obtain ⟨rfl, hs⟩ := hv
    exact hs
  | oneOf =>
    rw [Shape.Fits] at hv
    obtain ⟨s, -, rfl, hs⟩ := hv
    exact hs

/-! ## Records -/

theorem Value.field?_record (parts : List (String × Value)) (n : String) :
    Value.field? (parts.map fun e => (.text e.1, e.2)) n = parts.lookup n := by
  induction parts with
  | nil => rfl
  | cons part rest ih =>
    obtain ⟨m, v⟩ := part
    have hs : (Value.text m).same (.text n) = (n == m) := by
      rw [Value.same, Bool.eq_iff_iff, beq_iff_eq, beq_iff_eq, eq_comm]
    rw [List.map_cons, Value.field?, Value.lookup, hs, List.lookup_cons]
    cases n == m with
    | true => rfl
    | false => exact ih

theorem Expr.partOf_record {parts : List (String × Value)} {n : String} {v : Value}
    (h : parts.lookup n = some v) : Expr.partOf (Value.record parts) n = .value v := by
  have he : (Value.record parts).entries? = some (parts.map fun e => (.text e.1, e.2)) := rfl
  rw [partOf, he, Option.bind_some, Value.field?_record, h]

/-! ## Literals -/

/-- The characters that escapes are written with. -/
def Script.escapeLetters : List Char := [
  '\\', '"', '\'', 'n', 'r', 't', 'f', 'b', 'u', '0', '1', '2', '3', '4', '5', '6', '7', '8', '9',
  'a', 'c', 'd', 'e']

theorem Quoted.mem_escapeLetters_of_hex {n : Nat} (h : n < 32) {d : Char}
    (hm : d ∈ (Quoted.hex 4 n).toList) : d ∈ Script.escapeLetters := by
  have hd : ∀ m < 32, ((Nat.toDigits 16 m).all fun e => decide (e ∈ Script.escapeLetters)) = true := by
    decide
  unfold Quoted.hex at hm
  rw [String.toList_append, String.toList_ofList, String.toList_ofList, List.mem_append] at hm
  rcases hm with hm | hm
  · rw [List.eq_of_mem_replicate hm]
    decide
  · exact Text.forall_mem_of_all (hd n h) d hm

/-- A character that no escape is written with comes only from itself. -/
theorem Json.eq_of_mem_escapeChar {c d : Char} (hd : d ∉ Script.escapeLetters)
    (h : d ∈ Json.escapeChar c) : c = d ∧ c ≠ '\n' := by
  have hnone : ∀ l : List Char, (∀ e ∈ l, e ∈ Script.escapeLetters) → d ∉ l :=
    fun l hl hm => hd (hl d hm)
  unfold Json.escapeChar at h
  split at h
  · exact absurd h (hnone _ (Text.forall_mem_of_all (by decide)))
  split at h
  · exact absurd h (hnone _ (Text.forall_mem_of_all (by decide)))
  split at h
  · exact absurd h (hnone _ (Text.forall_mem_of_all (by decide)))
  next hn =>
    have hc : c ≠ '\n' := fun e => hn (beq_iff_eq.2 e)
    split at h
    · exact absurd h (hnone _ (Text.forall_mem_of_all (by decide)))
    split at h
    · exact absurd h (hnone _ (Text.forall_mem_of_all (by decide)))
    split at h
    · exact absurd h (hnone _ (Text.forall_mem_of_all (by decide)))
    split at h
    · exact absurd h (hnone _ (Text.forall_mem_of_all (by decide)))
    split at h
    next hx =>
      rcases List.mem_append.1 h with h | h
      · exact absurd h (hnone _ (Text.forall_mem_of_all (by decide)))
      · exact absurd (Quoted.mem_escapeLetters_of_hex hx h) hd
    next => exact ⟨(List.mem_singleton.1 h).symm, hc⟩

theorem Script.eq_of_mem_escapeChar {c d : Char} (hd : d ∉ escapeLetters)
    (h : d ∈ Script.escapeChar c) : c = d ∧ c ≠ '\n' := by
  unfold Script.escapeChar at h
  split at h
  next hc =>
    refine ⟨(List.mem_singleton.1 h).symm, ?_⟩
    rintro rfl
    exact absurd hc (by decide)
  split at h
  · have hl : ∀ e ∈ ['\\', '\''], e ∈ escapeLetters := Text.forall_mem_of_all (by decide)
    exact absurd (hl d h) hd
  · exact Json.eq_of_mem_escapeChar hd h

theorem Script.toList_quote (s : String) :
    (quote s).toList = '\'' :: (s.toList.flatMap escapeChar ++ ['\'']) := by
  unfold quote
  rw [String.toList_append, String.toList_append, String.toList_ofList, String.toList_ofList]
  rfl

/-- A character that neither quotes nor escapes are written with is in a quoted text only if it is in the
text. -/
theorem Script.not_mem_quote {s : String} {d : Char} (hd : d ∉ escapeLetters) (hq : d ≠ '\'')
    (h : d ∉ s.toList) : d ∉ (quote s).toList := by
  rw [toList_quote, List.mem_cons, List.mem_append, List.mem_singleton, not_or, not_or]
  refine ⟨hq, fun hm => ?_, hq⟩
  obtain ⟨c, hc, hm⟩ := List.mem_flatMap.1 hm
  exact h ((eq_of_mem_escapeChar hd hm).1 ▸ hc)

theorem Json.lineFeed_not_mem_escapeChar (c : Char) : '\n' ∉ Json.escapeChar c := by
  intro h
  obtain ⟨hc, hn⟩ := Json.eq_of_mem_escapeChar (by decide) h
  exact hn hc

theorem Script.lineFeed_not_mem_escapeChar (c : Char) : '\n' ∉ Script.escapeChar c := by
  intro h
  obtain ⟨hc, hn⟩ := eq_of_mem_escapeChar (by decide) h
  exact hn hc

/-- A quoted text stays in its line, whatever it holds. -/
theorem Script.inline_quote (s : String) : Inline (Script.quote s) := by
  refine inline_append (inline_append (inline_ofList rfl) ?_) (inline_ofList rfl)
  unfold Inline
  rw [String.toList_ofList]
  intro hm
  obtain ⟨c, -, hm⟩ := List.mem_flatMap.1 hm
  exact Script.lineFeed_not_mem_escapeChar c hm

theorem Script.allTexts?_texts (l : List String) :
    Script.allTexts? (l.map .text) = some l := by
  unfold Script.allTexts?
  induction l with
  | nil => rfl
  | cons s rest ih =>
    rw [List.map_cons, List.mapM_cons, ih]
    rfl

/-- A list of texts is written on one line, whatever the texts hold. -/
theorem Script.literal_texts (l : List String) :
    ∃ s, Script.literal (Value.texts l) = .ok s ∧ Inline s := by
  refine ⟨Script.textList l, ?_, ?_⟩
  · unfold Script.literal
    have hi : (Value.texts l).items? = some (l.map .text) := rfl
    rw [hi, Option.bind_some, Script.allTexts?_texts]
    rfl
  · have hl : Inline (commaList (l.map Script.quote)) := by
      apply inline_commaList
      intro s hs
      obtain ⟨t, -, rfl⟩ := List.mem_map.1 hs
      exact Script.inline_quote t
    exact inline_append (inline_append (inline_ofList rfl) hl) (inline_ofList rfl)

/-- Values of a shape have a literal that stays in its line. -/
inductive Shape.HasLiteral : Shape → Prop where
  | line : HasLiteral .line
  | exact {s : String} : HasLiteral (.exact s)
  | oneOf {l : List String} : HasLiteral (.oneOf l)
  | texts {l : List String} : HasLiteral (.texts l)
  | literal : HasLiteral .literal

theorem Shape.HasLiteral.literal_eq {shape : Shape} (h : shape.HasLiteral) {v : Value}
    (hv : shape.Fits v) : ∃ s, Script.literal v = .ok s ∧ Inline s := by
  cases h with
  | line =>
    rw [Shape.Fits] at hv
    obtain ⟨s, rfl, -⟩ := hv
    exact ⟨_, rfl, Script.inline_quote s⟩
  | exact =>
    rw [Shape.Fits] at hv
    obtain ⟨rfl, -⟩ := hv
    exact ⟨_, rfl, Script.inline_quote _⟩
  | oneOf =>
    rw [Shape.Fits] at hv
    obtain ⟨s, -, rfl, -⟩ := hv
    exact ⟨_, rfl, Script.inline_quote s⟩
  | texts =>
    rw [Shape.Fits] at hv
    rw [hv]
    exact Script.literal_texts _
  | literal =>
    rw [Shape.Fits] at hv
    exact hv

/-- Values of a shape count as true exactly if `b` is true. -/
inductive Shape.Decides : Shape → Bool → Prop where
  | flag {b : Bool} : Decides (.flag b) b
  | texts {l : List String} : Decides (.texts l) (!l.isEmpty)

theorem Shape.Decides.truthy_eq {shape : Shape} {b : Bool} (h : shape.Decides b) {v : Value}
    (hv : shape.Fits v) : v.truthy = b := by
  cases h with
  | flag =>
    rw [Shape.Fits] at hv
    exact hv
  | texts =>
    rw [Shape.Fits] at hv
    rw [hv]
    show (!(List.map Value.text _).isEmpty) = _
    rw [List.isEmpty_map]

/-! ## Expressions -/

/-- What stands in the place of an element: a value of the shape `item`. -/
inductive Shape.At : Shape → Shape → Shape → Prop where
  | list {n : Nat} {item : Shape} : At (.list n item) (.index n) item
  | keyed {keys : List String} {item : Shape} : At (.keyed keys item) (.oneOf keys) item

/-- The shape that an expression has from the shapes of variables. -/
inductive Expr.Has (Γ : Context) : Expr → Shape → Prop where
  | name {n : String} {shape : Shape} (h : Shape.Among Γ n shape) : Has Γ (.name n) shape
  | part {e : Expr} {parts : List (String × Shape)} {n : String} {shape : Shape}
    (he : Has Γ e (.record parts)) (h : Shape.Among parts n shape) : Has Γ (.part e n) shape
  | element {e i : Expr} {owner index item : Shape} (he : Has Γ e owner) (hi : Has Γ i index)
    (h : Shape.At owner index item) : Has Γ (.element e i) item
  | text {cs : List Char} (h : cs.contains '\n' = false) :
    Has Γ (.text (String.ofList cs)) (.exact (String.ofList cs))
  | script {e : Expr} {shape : Shape} (he : Has Γ e shape) (h : shape.HasLiteral) :
    Has Γ (.script e) .line
  | commas {e : Expr} {l : List String} (he : Has Γ e (.texts l)) (hl : ∀ s ∈ l, Inline s) :
    Has Γ (.commas e) (.exact (commaList l))
  | append {a b : Expr} {first second : Shape} (ha : Has Γ a first) (hb : Has Γ b second)
    (hf : first.Prints) (hs : second.Prints) : Has Γ (.append a b) .line
  | either {a b : Expr} {first second : Shape} (ha : Has Γ a first) (hb : Has Γ b second) :
    Has Γ (.either a b) .any

/-- What an expression stands for in a scope is there. -/
def Expr.Gives (scope : Scope) (e : Expr) (v : Value) : Prop := e.eval scope = .ok (.value v)

/-! ### What an expression that has a value is made of -/

namespace Expr

variable {scope : Scope} {e e' : Expr} {v x : Value} {n : String}

theorem require_eq_ok_iff : e.require scope = .ok v ↔ e.Gives scope v := by
  unfold require Gives
  rcases e.eval scope with fault | w | message
  · exact ⟨(fun h => by cases h), (fun h => by cases h)⟩
  · exact ⟨(fun h => by cases h; rfl), (fun h => by cases h; rfl)⟩
  · exact ⟨(fun h => by cases h), (fun h => by cases h)⟩

theorem gives_name_iff : (Expr.name n).Gives scope v ↔ scope.lookup n = some (.value v) := by
  unfold Gives
  rw [eval]
  cases scope.lookup n with
  | none => exact ⟨(fun h => by cases h), (fun h => by cases h)⟩
  | some slot => exact ⟨(fun h => by cases h; rfl), (fun h => by cases h; rfl)⟩

theorem gives_part_iff : (Expr.part e n).Gives scope x ↔ ∃ v, e.Gives scope v ∧ partOf v n = .value x := by
  unfold Gives
  rw [eval]
  constructor
  · intro h
    split at h
    next v he => exact ⟨v, he, Except.ok.inj h⟩
    all_goals cases h
  · rintro ⟨v, he, hx⟩
    rw [he]
    exact congrArg Except.ok hx

theorem gives_element_iff : (Expr.element e e').Gives scope x
    ↔ ∃ v i, e.Gives scope v ∧ e'.Gives scope i ∧ lookup? v i = some x := by
  unfold Gives
  rw [eval]
  constructor
  · intro h
    split at h
    next v i he hi =>
      split at h
      next y hl =>
        cases h
        exact ⟨v, i, he, hi, hl⟩
      next => cases h
    all_goals cases h
  · rintro ⟨v, i, he, hi, hx⟩
    rw [he, hi]
    dsimp only
    rw [hx]

theorem gives_script_iff : (Expr.script e).Gives scope x
    ↔ ∃ v s, e.Gives scope v ∧ Script.literal v = .ok s ∧ x = .text s := by
  unfold Gives
  rw [eval]
  constructor
  · intro h
    split at h
    next v he =>
      split at h
      next s hs =>
        cases h
        exact ⟨v, s, he, hs, rfl⟩
      next => cases h
    all_goals cases h
  · rintro ⟨v, s, he, hs, rfl⟩
    rw [he]
    dsimp only
    rw [hs]

theorem gives_commas_iff : (Expr.commas e).Gives scope x
    ↔ ∃ v items, e.Gives scope v ∧ elements v = .ok items
      ∧ x = .text (commaList (items.map Value.display)) := by
  unfold Gives
  rw [eval]
  constructor
  · intro h
    rcases he : e.eval scope with fault | v | message
    · rw [he] at h
      cases h
    · rw [he] at h
      change (elements v).map _ = _ at h
      cases hi : elements v with
      | error fault =>
        rw [hi] at h
        cases h
      | ok items =>
        rw [hi] at h
        cases h
        exact ⟨v, items, rfl, hi, rfl⟩
    · rw [he] at h
      cases h
  · rintro ⟨v, items, he, hi, rfl⟩
    rw [he]
    show (elements v).map _ = _
    rw [hi]
    rfl

theorem gives_append_iff : (Expr.append e e').Gives scope x
    ↔ ∃ v w, e.Gives scope v ∧ e'.Gives scope w ∧ x = .text (v.display ++ w.display) := by
  unfold Gives
  rw [eval]
  constructor
  · intro h
    split at h
    next first second hf hs =>
      split at h
      next v w hv hw =>
        cases first <;> cases hv
        cases second <;> cases hw
        cases h
        exact ⟨v, w, hf, hs, rfl⟩
      all_goals cases h
    all_goals cases h
  · rintro ⟨v, w, he, hi, rfl⟩
    rw [he, hi]
    rfl

theorem gives_either_iff : (Expr.either e e').Gives scope x
    ↔ ∃ v, e.Gives scope v ∧ (v.truthy = true ∧ x = v ∨ v.truthy = false ∧ e'.Gives scope x) := by
  unfold Gives
  rw [eval]
  constructor
  · intro h
    split at h
    next slot he =>
      split at h
      next v hv =>
        cases slot <;> cases hv
        refine ⟨v, he, ?_⟩
        split at h
        next ht =>
          cases h
          exact .inl ⟨ht, rfl⟩
        next ht => exact .inr ⟨Bool.not_eq_true _ ▸ ht, h⟩
      next => cases h
    next => cases h
  · rintro ⟨v, he, h⟩
    rw [he]
    dsimp only [Slot.get]
    rcases h with ⟨ht, rfl⟩ | ⟨ht, hx⟩
    · rw [if_pos ht]
    · rw [ht, if_neg Bool.false_ne_true, hx]

end Expr

/-! ### Values of a shape -/

/-- The element at a place of a list. -/
theorem Expr.lookup?_index {items : List Value} {i : Nat} (hi : i < items.length) :
    Expr.lookup? (.list items) (.int i) = some items[i] := by
  have he : Expr.elementOf? (.list items) (.int i) = some items[i] := by
    show Expr.itemAt? items (i : Int) = some items[i]
    unfold Expr.itemAt?
    rw [if_pos (Int.natCast_nonneg i), Int.toNat_natCast, List.getElem?_eq_getElem hi]
  rw [Expr.lookup?, he]
  rfl

/-- Texts with commas between them. -/
theorem Expr.Gives.commas_of_texts {scope : Scope} {e : Expr} {l : List String}
    (h : e.Gives scope (Value.texts l)) : (Expr.commas e).Gives scope (.text (commaList l)) := by
  have hd : (l.map Value.text).map Value.display = l := by
    rw [List.map_map]
    exact List.map_id l
  refine gives_commas_iff.2 ⟨_, l.map Value.text, h, rfl, ?_⟩
  rw [hd]

theorem Shape.At.exists_lookup? {owner index item : Shape} (h : Shape.At owner index item) {v i : Value}
    (hv : owner.Fits v) (hi : index.Fits i) : ∃ w, Expr.lookup? v i = some w ∧ item.Fits w := by
  cases h with
  | list =>
    rw [Shape.Fits] at hv
    rw [Shape.Fits] at hi
    obtain ⟨items, rfl, hn, hall⟩ := hv
    obtain ⟨k, rfl, hk⟩ := hi
    have hb : k < items.length := hn ▸ hk
    exact ⟨items[k], Expr.lookup?_index hb, hall _ (List.getElem_mem _)⟩
  | keyed =>
    rw [Shape.Fits] at hv
    rw [Shape.Fits] at hi
    obtain ⟨s, hm, rfl, -⟩ := hi
    exact hv s hm

/-- An expression with a shape has a value, and the value has the shape. -/
theorem Expr.Has.sound {Γ : Context} {e : Expr} {shape : Shape} (h : Has Γ e shape) {scope : Scope}
    (hs : Γ.Fits scope) : ∃ v, e.Gives scope v ∧ shape.Fits v := by
  induction h with
  | name h =>
    obtain ⟨v, hl, hv⟩ := hs _ h.mem
    exact ⟨v, gives_name_iff.2 hl, hv⟩
  | part he h ih =>
    obtain ⟨v, hg, hv⟩ := ih
    rw [Shape.Fits] at hv
    obtain ⟨w, hp, hw⟩ := hv.of_among h
    exact ⟨w, gives_part_iff.2 ⟨v, hg, hp⟩, hw⟩
  | element he hi h ihe ihi =>
    obtain ⟨v, hgv, hv⟩ := ihe
    obtain ⟨i, hgi, hx⟩ := ihi
    obtain ⟨w, hl, hw⟩ := h.exists_lookup? hv hx
    exact ⟨w, gives_element_iff.2 ⟨v, i, hgv, hgi, hl⟩, hw⟩
  | text h =>
    refine ⟨_, rfl, ?_⟩
    rw [Shape.Fits]
    exact ⟨rfl, inline_ofList h⟩
  | script he h ih =>
    obtain ⟨v, hg, hv⟩ := ih
    obtain ⟨s, hl, hn⟩ := h.literal_eq hv
    refine ⟨.text s, gives_script_iff.2 ⟨v, s, hg, hl, rfl⟩, ?_⟩
    rw [Shape.Fits]
    exact ⟨s, rfl, hn⟩
  | @commas e l he hn ih =>
    obtain ⟨v, hg, hv⟩ := ih
    rw [Shape.Fits] at hv
    subst hv
    refine ⟨.text (commaList l), hg.commas_of_texts, ?_⟩
    rw [Shape.Fits]
    exact ⟨rfl, inline_commaList hn⟩
  | append ha hb hf hs iha ihb =>
    obtain ⟨v, hgv, hv⟩ := iha
    obtain ⟨w, hgw, hw⟩ := ihb
    refine ⟨.text (v.display ++ w.display), gives_append_iff.2 ⟨v, w, hgv, hgw, rfl⟩, ?_⟩
    rw [Shape.Fits]
    exact ⟨_, rfl, inline_append (hf.display hv) (hs.display hw)⟩
  | either ha hb iha ihb =>
    obtain ⟨v, hgv, -⟩ := iha
    obtain ⟨w, hgw, -⟩ := ihb
    -- nothing is known of the value, except that there is one
    have hany (x : Value) : Shape.any.Fits x := by
      rw [Shape.Fits]
      trivial
    cases ht : v.truthy with
    | true => exact ⟨v, gives_either_iff.2 ⟨v, hgv, .inl ⟨ht, rfl⟩⟩, hany v⟩
    | false => exact ⟨w, gives_either_iff.2 ⟨v, hgv, .inr ⟨ht, hgw⟩⟩, hany w⟩

end Scaffold
