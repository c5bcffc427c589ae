import Scaffold.Collection.Intake
import Scaffold.Proofs.Name.Spelling

/-!
# Collections that intake accepts

What holds of every collection that intake returns: its spellings come from its name, it does not
begin with a digit, and the names and type tags of its fields are plain. Of a whole list it holds that
no two collections have the same spelling, whatever their capitals. Everything that is proved of
generated files rests on these facts only.
-/

namespace Scaffold

open Text

/-! ## Normal collections -/

/-- A collection with the spellings of its name, and with fields that can stand in generated code. -/
structure Collection.IsNormal (c : Collection) : Prop where
  camel_eq : c.camelName = Name.camel c.name
  pascal_eq : c.pascalName = Name.pascal c.name
  words_ne_nil : Name.words c.name ≠ []
  head_not_digit : c.camelName.toList.head?.any isDigitAscii = false
  fields_plain : ∀ f ∈ c.fields, Intake.isIdentifier f.name = true ∧ Intake.isTypeTag f.declared = true

/-- Collections that can be generated side by side. -/
structure Collection.AreNormal (all : List Collection) : Prop where
  each : ∀ c ∈ all, c.IsNormal
  keys_nodup : (all.map fun c => Intake.collisionKey c.camelName).Nodup

/-! ## Results with notes -/

/-- What goes on with a result has one only after a result. -/
theorem Noted.andThen_eq_ok {α β : Type} {m : Noted α} {f : α → Noted β} {b : β} :
    (m.andThen f).2 = .ok b ↔ ∃ a, m.2 = .ok a ∧ (f a).2 = .ok b := by
  obtain ⟨notes, r⟩ := m
  cases r with
  | error e =>
    constructor
    · intro h
      cases h
    · rintro ⟨a, h, -⟩
      cases h
  | ok a =>
    constructor
    · intro h
      exact ⟨a, rfl, h⟩
    · rintro ⟨a', h, hb⟩
      cases h
      exact hb

/-- What goes on with a result keeps its notes. -/
theorem Noted.andThen_eq_iff {α β : Type} {m : Noted α} {f : α → Noted β} {notes : List Note} {b : β} :
    m.andThen f = (notes, .ok b)
      ↔ ∃ a before after, m = (before, .ok a) ∧ f a = (after, .ok b) ∧ notes = before ++ after := by
  obtain ⟨before, r⟩ := m
  cases r with
  | error e =>
    refine ⟨fun h => (by cases congrArg Prod.snd h), ?_⟩
    rintro ⟨a, before', after, h, -, -⟩
    cases congrArg Prod.snd h
  | ok a =>
    constructor
    · intro h
      have hnotes := congrArg Prod.fst h
      have hresult := congrArg Prod.snd h
      exact ⟨a, before, (f a).1, rfl, Prod.ext rfl hresult, hnotes.symm⟩
    · rintro ⟨a', before', after, h, hf, rfl⟩
      cases h
      show (before ++ (f a).1, (f a).2) = _
      rw [hf]

namespace Intake

/-! ## Fields -/

/-- The field that a name and a type mention. -/
def mention (pair : Value × Value) : Field :=
  ⟨fieldName pair.1, (Kind.resolve pair.2).1, (Kind.resolve pair.2).2⟩

/-- The note about a field of a collection, if it falls back to text. -/
def fieldNotes (collection : String) (f : Field) : List Note :=
  if f.declared == Kind.untypedTag then [.untyped collection f.name]
  else if f.isFallback then [.unknownType collection f.name f.declared]
  else []

/-- A field that is read is the one that is mentioned, and its name and its tag passed every check. -/
theorem checks_of_readField {index : Nat} {name : String} {rawName rawType : Value} {notes : List Note}
    {f : Field} (h : readField index name rawName rawType = (notes, .ok f)) :
    f = mention (rawName, rawType) ∧ notes = fieldNotes name f ∧ isIdentifier f.name = true
      ∧ reservedNames.contains f.name = false ∧ isTypeTag f.declared = true := by
  unfold readField at h
  dsimp only at h
  split at h
  · cases congrArg Prod.snd h
  split at h
  · cases congrArg Prod.snd h
  split at h
  · cases congrArg Prod.snd h
  next hid =>
    split at h
    · cases congrArg Prod.snd h
    next hreserved =>
      split at h
      · cases congrArg Prod.snd h
      split at h
      · cases congrArg Prod.snd h
      next htag =>
        obtain ⟨rfl, hf⟩ := Prod.mk.inj h
        obtain rfl := Except.ok.inj hf
        rw [Bool.not_eq_true', Bool.not_eq_false] at hid htag
        exact ⟨rfl, rfl, hid, eq_false_of_ne_true hreserved, htag⟩

/-- A field that is read has an identifier for its name and a plain word for its type tag. -/
theorem plain_of_readField {index : Nat} {name : String} {rawName rawType : Value} {f : Field}
    (h : (readField index name rawName rawType).2 = .ok f) :
    isIdentifier f.name = true ∧ isTypeTag f.declared = true := by
  obtain ⟨-, -, hid, -, htag⟩ := checks_of_readField (Prod.ext rfl h)
  exact ⟨hid, htag⟩

theorem plain_of_readFields {index : Nat} {name : String} {pairs : List (Value × Value)}
    {fs : List Field} (h : (readFields index name pairs).2 = .ok fs) :
    ∀ f ∈ fs, isIdentifier f.name = true ∧ isTypeTag f.declared = true := by
  induction pairs generalizing fs with
  | nil =>
    cases h
    exact fun f hf => absurd hf List.not_mem_nil
  | cons pair rest ih =>
    obtain ⟨f, hf, h⟩ := Noted.andThen_eq_ok.1 h
    obtain ⟨others, ho, h⟩ := Noted.andThen_eq_ok.1 h
    cases h
    intro g hg
    rcases List.mem_cons.1 hg with rfl | hg
    · exact plain_of_readField hf
    · exact ih ho g hg

/-- Putting a field among others adds no other field. -/
theorem mem_putField {f g : Field} {fs : List Field} (h : g ∈ putField f fs) : g = f ∨ g ∈ fs := by
  induction fs with
  | nil =>
    rw [putField, List.mem_singleton] at h
    exact .inl h
  | cons k rest ih =>
    rw [putField] at h
    split at h
    · rcases List.mem_cons.1 h with h | h
      · exact .inl h
      · exact .inr (List.mem_cons_of_mem k h)
    · rcases List.mem_cons.1 h with h | h
      · exact .inr (h ▸ List.mem_cons_self)
      · rcases ih h with h | h
        · exact .inl h
        · exact .inr (List.mem_cons_of_mem k h)

/-- Merged fields are among the fields that were read. -/
theorem mem_mergeFields {g : Field} {fs : List Field} (h : g ∈ mergeFields fs) : g ∈ fs := by
  -- The accumulator of the fold is generalised: a field comes from it or from the list.
  have step : ∀ acc : List Field, g ∈ fs.foldl (fun acc f => putField f acc) acc →
      g ∈ acc ∨ g ∈ fs := by
    clear h
    induction fs with
    | nil => exact fun acc h => .inl h
    | cons f rest ih =>
      intro acc h
      rcases ih (putField f acc) h with h | h
      · rcases mem_putField h with h | h
        · exact .inr (h ▸ List.mem_cons_self)
        · exact .inl h
      · exact .inr (List.mem_cons_of_mem f h)
  rcases step [] h with h | h
  · exact absurd h List.not_mem_nil
  · exact h

/-! ## Entries -/

/-- A collection that is read has the spellings of its name, its merged fields and the tag of its shape, and
its name passed every check. -/
theorem checks_of_readNamed {index : Nat} {seen : Seen} {identity : List String} {name : String}
    {entries : List (Value × Value)} {fields : Value} {notes : List Note} {c : Collection}
    (h : readNamed index seen identity name entries fields = (notes, .ok c)) :
    (Name.camel name).toList.head?.any isDigitAscii = false
      ∧ seen.lookup (collisionKey (Name.camel name)) = none
      ∧ ∃ pairs before fs, fieldPairs index name fields = .ok pairs
        ∧ readFields index name pairs = (before, .ok fs)
        ∧ c = {
          name := name, camelName := Name.camel name, pascalName := Name.pascal name,
          fields := mergeFields fs, dataType := (rawDataType entries).display }
        ∧ notes = before ++ if c.isIdentity identity then [Note.identity c.camelName] else [] := by
  unfold readNamed at h
  dsimp only at h
  split at h
  · cases congrArg Prod.snd h
  next hd =>
    split at h
    · cases congrArg Prod.snd h
    next hs =>
      obtain ⟨pairs, _, others, hp, hrest, rfl⟩ := Noted.andThen_eq_iff.1 h
      obtain ⟨fs, before, after, hf, hlast, rfl⟩ := Noted.andThen_eq_iff.1 hrest
      split at hlast
      · cases congrArg Prod.snd hlast
      obtain ⟨rfl, hpairs⟩ := Prod.mk.inj hp
      obtain ⟨rfl, hc⟩ := Prod.mk.inj hlast
      obtain rfl := Except.ok.inj hc
      exact ⟨Bool.not_eq_true _ ▸ hd, hs, pairs, before, fs, hpairs, hf, rfl, rfl⟩

/-- A collection that is read from an entry with a name that has words. -/
theorem isNormal_of_readNamed {index : Nat} {seen : Seen} {identity : List String} {name : String}
    {entries : List (Value × Value)} {fields : Value} {c : Collection}
    (hw : Name.words name ≠ [])
    (h : (readNamed index seen identity name entries fields).2 = .ok c) :
    c.IsNormal ∧ seen.lookup (collisionKey c.camelName) = none := by
  obtain ⟨hd, hs, pairs, before, fs, -, hf, rfl, -⟩ := checks_of_readNamed (Prod.ext rfl h)
  refine ⟨⟨rfl, rfl, hw, hd, fun f hm => ?_⟩, hs⟩
  exact plain_of_readFields (congrArg Prod.snd hf) f (mem_mergeFields hm)

/-- What a collection that is read keeps of its declaration. -/
theorem parts_of_readNamed {index : Nat} {seen : Seen} {identity : List String} {name : String}
    {entries : List (Value × Value)} {fields : Value} {c : Collection}
    (h : (readNamed index seen identity name entries fields).2 = .ok c) :
    c.name = name ∧ c.camelName = Name.camel name
      ∧ ∃ pairs fs, fieldPairs index name fields = .ok pairs
        ∧ (readFields index name pairs).2 = .ok fs ∧ c.fields = mergeFields fs := by
  obtain ⟨-, -, pairs, before, fs, hp, hf, rfl, -⟩ := checks_of_readNamed (Prod.ext rfl h)
  exact ⟨rfl, rfl, pairs, fs, hp, congrArg Prod.snd hf, rfl⟩

theorem isNormal_of_readEntry {index : Nat} {seen : Seen} {identity : List String} {entry : Value}
    {c : Collection} (h : (readEntry index seen identity entry).2 = .ok (some c)) :
    c.IsNormal ∧ seen.lookup (collisionKey c.camelName) = none := by
  unfold readEntry at h
  split at h
  · split at h
    · cases h
    · split at h
      · cases h
      split at h
      · cases h
      dsimp only at h
      split at h
      · cases h
      next hw =>
        obtain ⟨c', hc, h⟩ := Noted.andThen_eq_ok.1 h
        cases h
        refine isNormal_of_readNamed (fun e => hw ?_) hc
        exact Name.camel_eq_empty_iff.2 e
  · cases h

/-! ## Lists of entries -/

/-- The collections from a place on are normal, they differ from each other, and none has a key that
was seen before. -/
theorem areNormal_of_readFrom {identity : List String} {entries : List Value} {index : Nat}
    {seen : Seen} {all : List Collection} (h : (readFrom identity index seen entries).2 = .ok all) :
    Collection.AreNormal all ∧
      ∀ c ∈ all, seen.lookup (collisionKey c.camelName) = none := by
  induction entries generalizing index seen all with
  | nil =>
    cases h
    exact ⟨⟨fun c hc => absurd hc List.not_mem_nil, List.nodup_nil⟩,
      fun c hc => absurd hc List.not_mem_nil⟩
  | cons entry rest ih =>
    obtain ⟨found, hf, h⟩ := Noted.andThen_eq_ok.1 h
    cases found with
    | none => exact ih h
    | some c =>
      obtain ⟨others, ho, h⟩ := Noted.andThen_eq_ok.1 h
      cases h
      obtain ⟨hc, hs⟩ := isNormal_of_readEntry hf
      obtain ⟨hn, hseen⟩ := ih ho
      -- The keys after this entry are looked up among those seen with its own key in front.
      have apart : ∀ d ∈ others, collisionKey d.camelName ≠ collisionKey c.camelName
          ∧ seen.lookup (collisionKey d.camelName) = none := by
        intro d hd
        have hl := hseen d hd
        rw [List.lookup_cons] at hl
        cases hb : collisionKey d.camelName == collisionKey c.camelName with
        | true =>
          rw [hb] at hl
          cases hl
        | false =>
          rw [hb] at hl
          exact ⟨beq_eq_false_iff_ne.1 hb, hl⟩
      refine ⟨⟨?_, ?_⟩, ?_⟩
      · intro d hd
        rcases List.mem_cons.1 hd with rfl | hd
        · exact hc
        · exact hn.each d hd
      · rw [List.map_cons, List.nodup_cons]
        refine ⟨fun hm => ?_, hn.keys_nodup⟩
        obtain ⟨d, hd, e⟩ := List.mem_map.1 hm
        exact (apart d hd).1 e
      · intro d hd
        rcases List.mem_cons.1 hd with rfl | hd
        · exact hs
        · exact (apart d hd).2

/-- Of a value intake reads the declarations. -/
theorem read_eq (identity : List String) (raw : Value) : read identity raw = match entriesOf? raw with
    | none => .fail .notAList
    | some entries => readFrom identity 0 [] entries := rfl

/-- Whatever intake accepts, the collections it returns are normal. -/
theorem areNormal_of_read {identity : List String} {raw : Value} {notes : List Note}
    {all : List Collection} (h : read identity raw = (notes, .ok all)) :
    Collection.AreNormal all := by
  rw [read_eq] at h
  split at h
  · cases h
  · exact (areNormal_of_readFrom (congrArg Prod.snd h)).1

/-- A declaration as it stands in a definition: a name, and fields with their types. -/
def declaration (name : String) (fields : List (String × String)) : Value :=
  Value.record [("name", .text name),
    ("fields", Value.record (fields.map fun f => (f.1, .text f.2)))]

/-- What is read, told by the collections alone. -/
theorem read_eq_of_toOption {identity : List String} {raw : Value} {all : List Collection}
    (h : (read identity raw).2.toOption = some all) :
    read identity raw = ((read identity raw).1, .ok all) := by
  refine Prod.ext rfl ?_
  cases hr : (read identity raw).2 with
  | error e =>
    rw [hr] at h
    cases h
  | ok cs =>
    rw [hr] at h
    cases h
    rfl

end Intake

/-! ## Spellings of normal collections -/

namespace Collection

variable {c : Collection}

theorem IsNormal.isWord_camelName (h : c.IsNormal) : Name.IsWord c.camelName.toList :=
  h.camel_eq ▸ Name.isWord_camel c.name

theorem IsNormal.isWord_pascalName (h : c.IsNormal) : Name.IsWord c.pascalName.toList :=
  h.pascal_eq ▸ Name.isWord_pascal c.name

theorem IsNormal.pascalName_eq_capitalize (h : c.IsNormal) :
    c.pascalName.toList = Name.capitalize c.camelName.toList := by
  rw [h.camel_eq, h.pascal_eq, Name.toList_pascal_eq_capitalize_camel]

/-- The camel spelling in small letters is what normal collections are told apart by. -/
theorem IsNormal.lower_camelName (h : c.IsNormal) :
    Text.lower c.camelName = Intake.collisionKey c.camelName := by
  have hascii : ∀ d ∈ c.camelName.toList, d.toNat < 128 := fun d hd =>
    toNat_lt_of_isWordAscii (h.isWord_camelName d hd)
  refine String.toList_inj.1 ?_
  rw [toList_lower_of_ascii hascii, Intake.collisionKey, String.toList_ofList]

/-- The camel spelling of a normal collection begins with a small letter. -/
theorem IsNormal.exists_head (h : c.IsNormal) :
    ∃ first rest, c.camelName.toList = first :: rest ∧ isLowerAscii first = true := by
  cases hl : c.camelName.toList with
  | nil =>
    have he : (Name.camel c.name).isEmpty = true := by
      rw [String.isEmpty_iff, ← String.toList_eq_nil_iff, ← h.camel_eq]
      exact hl
    exact absurd (Name.camel_eq_empty_iff.1 he) h.words_ne_nil
  | cons first rest =>
    refine ⟨first, rest, rfl, ?_⟩
    have hd := h.head_not_digit
    rw [hl, List.head?_cons, Option.any_some] at hd
    rcases Name.small_head_camel (h.camel_eq ▸ hl) with hs | hs
    · exact hs
    · rw [hd] at hs
      cases hs

end Collection

end Scaffold
