import Mathlib.Data.List.Forall2
import Scaffold.Proofs.Collection.Normal
import Scaffold.Proofs.Name.Respelling
import Scaffold.Proofs.Value.Shown

/-!
# The grammar of declarations

Which values hold declarations of collections, said without the reader: by what is left of a name when
everything but its letters and digits is deleted, by the pattern of a field name and of a type tag, and
by the shapes that fields may have. Intake accepts the values of the grammar and no others.
-/

namespace Scaffold

/-! ## Patterns -/

/-- A text of one character of a first class and any number of characters of a second one. -/
def Text.Matches (first rest : Char → Bool) (s : String) : Prop :=
  ∃ c cs, s.toList = c :: cs ∧ first c = true ∧ ∀ d ∈ cs, rest d = true

namespace Intake

open Text (Matches)

theorem isIdentifier_iff {s : String} :
    isIdentifier s = true ↔ Matches isIdentifierStart isIdentifierChar s := by
  unfold isIdentifier Matches
  cases s.toList with
  | nil => simp
  | cons c cs => simp [List.all_eq_true]

theorem isTypeTag_iff {s : String} :
    isTypeTag s = true ↔ Matches Text.isLowerAscii isTagChar s := by
  unfold isTypeTag Matches
  cases s.toList with
  | nil => simp
  | cons c cs => simp [List.all_eq_true]

/-! ## The grammar -/

/-- The name of a field: an identifier without the blanks around it, and not that of the document. -/
structure IsFieldName (v : Value) : Prop where
  given : v ≠ .null
  isIdentifier : Matches isIdentifierStart isIdentifierChar (Text.trim v.display)
  ne_id : Text.trim v.display ≠ "id"

/-- The type of a field: none, blank, or a plain word without the blanks around it, in any capitals. -/
def IsTag (v : Value) : Prop :=
  v = .null ∨ Text.trim v.display = ""
    ∨ Matches Text.isLowerAscii isTagChar (Text.lower (Text.trim v.display))

/-- An item of a list of fields with the name and the type it stands for. -/
inductive IsPair (item : Value) : Value × Value → Prop where
  | named {entries : List (Value × Value)} {name : Value} (h : item.entries? = some entries)
    (hn : Value.field? entries "name" = some name) :
    IsPair item (name, (Value.field? entries "type").getD .null)
  | pair {name type : Value} (h : item.items? = some [name, type]) : IsPair item (name, type)

/-- Fields with their names and types: a mapping, or a list or tuple of items. -/
inductive HasFields (v : Value) : List (Value × Value) → Prop where
  | mapping {pairs : List (Value × Value)} (h : v.entries? = some pairs) : HasFields v pairs
  | listed {items : List Value} {pairs : List (Value × Value)} (h : v.items? = some items)
    (hp : List.Forall₂ IsPair items pairs) : HasFields v pairs

/-- Fields that can stand in generated code. -/
def AreFields (v : Value) : Prop :=
  ∃ pairs, HasFields v pairs ∧ ∀ p ∈ pairs, IsFieldName p.1 ∧ IsTag p.2

/-- The declaration of a collection: a mapping with a name and with fields. If the name has letters or
digits, it begins with a letter, and the fields can stand in generated code. -/
structure IsDeclaration (entry : Value) (entries : List (Value × Value)) (name fields : Value) :
    Prop where
  isMapping : entry.entries? = some entries
  name_eq : Value.field? entries "name" = some name
  name_ne : name ≠ .null
  fields_eq : Value.field? entries "fields" = some fields
  fields_ne : fields ≠ .null
  body : Name.letters name.display ≠ [] →
    (Name.letters name.display).head?.any Text.isDigitAscii = false ∧ AreFields fields

/-- The key of a declaration: its name with everything but letters and digits deleted, in small letters.
A declaration without letters and digits in its name is dropped and has no key. -/
def declaredKey? (entry : Value) : Option String :=
  ((entry.entries?.bind fun entries => Value.field? entries "name").map fun name =>
    String.ofList ((Name.letters name.display).map Text.lowerAscii)).filter (!·.isEmpty)

/-- Declarations side by side, no two with one key. -/
structure AreDeclarations (entries : List Value) : Prop where
  each : ∀ e ∈ entries, ∃ parts name fields, IsDeclaration e parts name fields
  keys_nodup : (entries.filterMap declaredKey?).Nodup

/-- What is gone through for declarations: the items of a list or a tuple, the keys of a mapping, the members
of a set, and what any other object gives that can be gone through. Texts and bytes are not gone through. -/
inductive Gives : Given → List Value → Prop where
  | sequence {raw : Value} {entries : List Value} (h : raw.items? = some entries) : Gives (.value raw) entries
  | keys {raw : Value} {parts : List (Value × Value)} (h : raw.entries? = some parts) :
    Gives (.value raw) (parts.map Prod.fst)
  | members {raw : Value} {entries : List Value} (h : raw.opened = .set entries) : Gives (.value raw) entries
  | object (entries : List Value) : Gives (.object (some entries)) entries

/-- All parts of what is given can be shown. -/
def Given.AreShown : Given → Prop
  | value v => v.isShown = true
  | object elements? => ∀ entries, elements? = some entries → ∀ v ∈ entries, v.isShown = true

/-! ## Parts of the grammar -/

theorem isFieldName_iff {v : Value} :
    IsFieldName v ↔ isIdentifier (fieldName v) = true ∧ reservedNames.contains (fieldName v) = false := by
  have hreserved (s : String) : reservedNames.contains s = false ↔ s ≠ "id" := by
    simp [reservedNames]
  rw [isIdentifier_iff, hreserved]
  by_cases hv : v = .null
  · subst hv
    constructor
    · exact fun h => absurd rfl h.given
    · rintro ⟨⟨c, cs, h, -⟩, -⟩
      exact absurd h (List.cons_ne_nil c cs).symm
  · have hn : fieldName v = Text.trim v.display := by
      cases v with
      | null => exact absurd rfl hv
      | _ => rfl
    rw [hn]
    exact ⟨fun h => ⟨h.isIdentifier, h.ne_id⟩, fun h => ⟨hv, h.1, h.2⟩⟩

/-- Small letters keep a text that has any characters. -/
theorem lower_isEmpty_iff {s : String} : (Text.lower s).isEmpty = true ↔ s = "" := by
  rw [String.isEmpty_iff, Text.lower, ← String.toList_eq_nil_iff, String.toList_ofList,
    ← String.toList_eq_nil_iff]
  cases s.toList with
  | nil => exact ⟨fun _ => rfl, fun _ => rfl⟩
  | cons c rest =>
    rw [Text.lowerFrom]
    constructor
    · intro h
      rw [List.append_eq_nil_iff] at h
      have hne := h.1
      split at hne
      · split at hne <;> cases hne
      · split at hne <;> cases hne
    · exact fun h => absurd h (List.cons_ne_nil c rest)

theorem isTag_iff {v : Value} : IsTag v ↔ isTypeTag (Kind.resolve v).2 = true := by
  have huntyped : isTypeTag Kind.untypedTag = true := by decide
  have hresolve : (Kind.resolve v).2
      = if (Kind.declaredText v).isEmpty then Kind.untypedTag else Kind.declaredText v := by
    unfold Kind.resolve
    dsimp only
    split <;> rfl
  by_cases hv : v = .null
  · subst hv
    exact ⟨fun _ => huntyped, fun _ => .inl rfl⟩
  · have hd : Kind.declaredText v = Text.lower (Text.trim v.display) := by
      cases v with
      | null => exact absurd rfl hv
      | _ => rfl
    unfold IsTag
    rw [hresolve, hd, or_iff_right hv]
    by_cases hb : Text.trim v.display = ""
    · rw [if_pos (lower_isEmpty_iff.2 hb)]
      exact ⟨fun _ => huntyped, fun _ => .inl hb⟩
    · rw [if_neg (mt lower_isEmpty_iff.1 hb), isTypeTag_iff, or_iff_right hb]

/-- A value is not a mapping and a sequence at once. -/
theorem items?_of_entries? {v : Value} {entries : List (Value × Value)}
    (h : v.entries? = some entries) : v.items? = none := by
  unfold Value.entries? at h
  unfold Value.items?
  cases ho : v.opened with
  | map parts => rfl
  | _ => simp only [ho, reduceCtorEq] at h

theorem pairOf?_eq_some_iff {item : Value} {p : Value × Value} :
    pairOf? item = some p ↔ IsPair item p := by
  unfold pairOf?
  -- a mapping is never read as a pair of two items, so the two shapes are told apart by the entries
  cases he : item.entries? with
  | some entries =>
    have hi := items?_of_entries? he
    rw [hi]
    dsimp only
    cases hn : Value.field? entries "name" with
    | some name =>
      constructor
      · intro h
        cases h
        exact .named he hn
      · intro h
        cases h with
        | named h' hn' =>
          rw [he] at h'
          cases h'
          rw [hn] at hn'
          cases hn'
          rfl
        | pair h' =>
          rw [hi] at h'
          cases h'
    | none =>
      constructor
      · intro h
        cases h
      · intro h
        cases h with
        | named h' hn' =>
          rw [he] at h'
          cases h'
          rw [hn] at hn'
          cases hn'
        | pair h' =>
          rw [hi] at h'
          cases h'
  | none =>
    dsimp only
    constructor
    · intro h
      split at h
      · next h' => cases h'
      · next hi =>
          cases h
          exact .pair hi
      · cases h
    · intro h
      cases h with
      | named h' _ =>
        rw [he] at h'
        cases h'
      | pair h' => rw [h']

theorem pairsOf_eq_ok_iff {index : Nat} {name : String} {items : List Value}
    {pairs : List (Value × Value)} :
    pairsOf index name items = .ok pairs ↔ List.Forall₂ IsPair items pairs := by
  -- an item that is no pair fails the whole list, so there is a pair for each item or none at all
  induction items generalizing pairs with
  | nil =>
    rw [List.forall₂_nil_left_iff]
    show Except.ok [] = Except.ok pairs ↔ _
    rw [Except.ok.injEq, eq_comm]
  | cons item rest ih =>
    rw [pairsOf, List.forall₂_cons_left_iff]
    cases hp : pairOf? item with
    | none =>
      constructor
      · intro h
        cases h
      · rintro ⟨p, _, h, -⟩
        rw [← pairOf?_eq_some_iff, hp] at h
        cases h
    | some p =>
      dsimp only
      constructor
      · intro h
        cases hr : pairsOf index name rest with
        | error e =>
          rw [hr] at h
          cases h
        | ok others =>
          rw [hr] at h
          cases h
          exact ⟨p, others, pairOf?_eq_some_iff.1 hp, ih.1 hr, rfl⟩
      · rintro ⟨p', others, h, hr, rfl⟩
        rw [← pairOf?_eq_some_iff, hp] at h
        cases h
        rw [ih.2 hr]
        rfl

theorem fieldPairs_eq_ok_iff {index : Nat} {name : String} {fields : Value}
    {pairs : List (Value × Value)} :
    fieldPairs index name fields = .ok pairs ↔ HasFields fields pairs := by
  unfold fieldPairs
  -- the shape of the fields decides which of the two constructors there can be
  cases he : fields.entries? with
  | some entries =>
    constructor
    · intro h
      cases h
      exact .mapping he
    · intro h
      cases h with
      | mapping h' =>
        rw [he] at h'
        cases h'
        rfl
      | listed h' _ =>
        rw [items?_of_entries? he] at h'
        cases h'
  | none =>
    cases hi : fields.items? with
    | some items =>
      dsimp only
      rw [pairsOf_eq_ok_iff]
      constructor
      · exact .listed hi
      · intro h
        cases h with
        | mapping h' =>
          rw [he] at h'
          cases h'
        | listed h' hp =>
          rw [hi] at h'
          cases h'
          exact hp
    | none =>
      constructor
      · intro h
        cases h
      · intro h
        cases h with
        | mapping h' =>
          rw [he] at h'
          cases h'
        | listed h' _ =>
          rw [hi] at h'
          cases h'

/-- A value has its fields in one way. -/
theorem HasFields.unique {v : Value} {ps qs : List (Value × Value)} (hp : HasFields v ps)
    (hq : HasFields v qs) : ps = qs := by
  have hp : fieldPairs 0 "" v = .ok ps := fieldPairs_eq_ok_iff.2 hp
  rw [fieldPairs_eq_ok_iff.2 hq] at hp
  exact (Except.ok.inj hp).symm

/-- Names and types of fields that can be shown can be shown. -/
theorem HasFields.isShown {v : Value} (hv : v.isShown = true) {pairs : List (Value × Value)}
    (h : HasFields v pairs) : ∀ p ∈ pairs, p.1.isShown = true ∧ p.2.isShown = true := by
  cases h with
  | mapping h => exact Value.isShown_of_entries? hv h
  | @listed items _ h hp =>
    have hi := Value.isShown_of_items? hv h
    clear h
    induction hp with
    | nil => exact fun p hp => absurd hp List.not_mem_nil
    | @cons item p rest others hpair _ ih =>
      refine List.forall_mem_cons.2 ⟨?_, ih fun i hm => hi i (List.mem_cons_of_mem item hm)⟩
      have hs := hi item List.mem_cons_self
      cases hpair with
      | @named entries name h hn =>
        have he := Value.isShown_of_entries? hs h
        refine ⟨Value.isShown_of_field? he hn, ?_⟩
        cases ht : Value.field? entries "type" with
        | none => rfl
        | some type => exact Value.isShown_of_field? he ht
      | pair h =>
        have hl := Value.isShown_of_items? hs h
        exact ⟨hl _ List.mem_cons_self, hl _ (List.mem_cons_of_mem _ List.mem_cons_self)⟩

end Intake

end Scaffold
