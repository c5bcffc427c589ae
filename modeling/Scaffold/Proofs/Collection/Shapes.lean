import Scaffold.Proofs.Collection.Warnings

/-!
# Shapes of fields

The fields of a collection may be given as a list of pairs, as a list of mappings with a name and a type, or
as a mapping of names to types. All shapes of the same pairs are read alike, with the same notes and faults;
then the fields are merged the way assignments are.
-/

namespace Scaffold.Intake

/-! ## The shapes -/

/-- Fields as a list of lists of a name and a type. -/
def listedFields (pairs : List (Value × Value)) : Value :=
  .list (pairs.map fun p => .list [p.1, p.2])

/-- Fields as a list of mappings with a name and a type. -/
def namedFields (pairs : List (Value × Value)) : Value :=
  .list (pairs.map fun p => .record [("name", p.1), ("type", p.2)])

/-- Fields as a mapping that gives names their types one after the other. -/
def keyedFields (pairs : List (Value × Value)) : Value := .map (Value.mapping pairs)

/-- A declaration with other fields. -/
def withFields (parts : List (Value × Value)) (fields : Value) : Value :=
  .map (Value.insert (.text "fields") fields parts)

theorem hasFields_listedFields (pairs : List (Value × Value)) : HasFields (listedFields pairs) pairs :=
  .listed rfl (List.forall₂_map_left_iff.2 (List.forall₂_same.2 fun _ _ => .pair rfl))

theorem hasFields_namedFields (pairs : List (Value × Value)) : HasFields (namedFields pairs) pairs := by
  refine .listed rfl (List.forall₂_map_left_iff.2 (List.forall₂_same.2 fun p _ => ?_))
  have hname : Value.field? [(.text "name", p.1), (.text "type", p.2)] "name" = some p.1 := by
    simp [Value.field?, Value.lookup, Value.text_same_text]
  have htype : Value.field? [(.text "name", p.1), (.text "type", p.2)] "type" = some p.2 := by
    simp [Value.field?, Value.lookup, Value.text_same_text]
  have h : IsPair (.record [("name", p.1), ("type", p.2)])
      (p.1, (Value.field? [(.text "name", p.1), (.text "type", p.2)] "type").getD .null) := .named rfl hname
  rwa [htype] at h

/-- A mapping holds the pairs that it was made of only if no key came twice. -/
theorem hasFields_keyedFields {pairs : List (Value × Value)}
    (h : pairs.Pairwise fun p q => p.1.same q.1 = false) : HasFields (keyedFields pairs) pairs :=
  .mapping (congrArg some (Value.mapping_of_pairwise h))

theorem HasFields.isNull_eq {fields : Value} {pairs : List (Value × Value)} (h : HasFields fields pairs) :
    fields.isNull = false := by
  cases fields with
  | null => rcases h with h | h <;> cases h
  | _ => rfl

/-! ## Declarations with other fields -/

section

variable {index : Nat} {seen : Seen} {identity : List String} {parts pairs : List (Value × Value)}
  {v w : Value}

theorem field?_insert_fields {key : String} (h : key ≠ "fields") (parts : List (Value × Value)) (v : Value) :
    Value.field? (Value.insert (.text "fields") v parts) key = Value.field? parts key := by
  rw [Value.field?_insert, if_neg h.symm]

/-- The tag of the shape of records does not depend on the fields. -/
theorem rawDataType_insert_fields (parts : List (Value × Value)) (v : Value) :
    rawDataType (Value.insert (.text "fields") v parts) = rawDataType parts := by
  unfold rawDataType
  dsimp only
  rw [field?_insert_fields (by decide), field?_insert_fields (by decide)]

theorem readNamed_congr {name : String} (h : fieldPairs index name v = fieldPairs index name w) :
    readNamed index seen identity name (Value.insert (.text "fields") v parts) v
      = readNamed index seen identity name (Value.insert (.text "fields") w parts) w := by
  unfold readNamed
  rw [rawDataType_insert_fields, rawDataType_insert_fields, h]

/-- What a declaration is read as depends on the names and the types of its fields, not on their shape. -/
theorem readEntry_congr (hv : HasFields v pairs) (hw : HasFields w pairs) (index : Nat) (seen : Seen) :
    readEntry index seen identity (withFields parts v) = readEntry index seen identity (withFields parts w) := by
  have hname (u : Value) :
      Value.field? (Value.insert (.text "fields") u parts) "name" = Value.field? parts "name" :=
    field?_insert_fields (by decide) parts u
  have hfields (u : Value) : Value.field? (Value.insert (.text "fields") u parts) "fields" = some u := by
    rw [Value.field?_insert, if_pos rfl]
  have hpairs (name : String) : fieldPairs index name v = fieldPairs index name w := by
    rw [fieldPairs_eq_ok_iff.2 hv, fieldPairs_eq_ok_iff.2 hw]
  by_cases hnone : (Value.field? parts "name").getD .null = .null
  · -- a declaration without a name is refused before its fields are looked at
    rw [readEntry_of_no_name rfl (by rw [hname, hnone]), readEntry_of_no_name rfl (by rw [hname, hnone])]
  · obtain ⟨rawName, hn, hne⟩ := exists_of_getD_ne hnone
    rw [readEntry_of_name rfl ((hname v).trans hn) hne, readEntry_of_name rfl ((hname w).trans hn) hne,
      hfields, hfields, Option.getD_some, Option.getD_some, hv.isNull_eq, hw.isNull_eq,
      readNamed_congr (hpairs _)]

/-- Entries that are read alike at every place can stand for each other in a list. -/
theorem readFrom_congr {x y : Value}
    (h : ∀ index seen, readEntry index seen identity x = readEntry index seen identity y)
    (before after : List Value) (index : Nat) (seen : Seen) :
    readFrom identity index seen (before ++ x :: after) = readFrom identity index seen (before ++ y :: after) := by
  induction before generalizing index seen with
  | nil => rw [List.nil_append, List.nil_append, readFrom, readFrom, h]
  | cons entry rest ih =>
    rw [List.cons_append, List.cons_append, readFrom, readFrom]
    simp only [ih]

end

/-! ## Fields like assignments -/

/-- The fields of a collection that was read from pairs: their distinct names in the order of the first
mentions, each with the type and the tag of the last one. -/
structure AreAssigned (fs : List Field) (pairs : List (Value × Value)) : Prop where
  names : fs.map Field.name = Text.distinct (pairs.map fun p => fieldName p.1)
  last : ∀ f ∈ fs, ∃ earlier p later, pairs = earlier ++ p :: later
    ∧ (∀ q ∈ later, fieldName q.1 ≠ fieldName p.1)
    ∧ f.name = fieldName p.1 ∧ (f.kind, f.declared) = Kind.resolve p.2

theorem areAssigned_mergeFields (pairs : List (Value × Value)) :
    AreAssigned (mergeFields (pairs.map mention)) pairs := by
  constructor
  · rw [names_mergeFields, List.map_map]
    rfl
  · intro f hf
    obtain ⟨before, after, hsplit, hlast⟩ := mem_mergeFields_iff.1 hf
    obtain ⟨earlier, rest, rfl, rfl, hrest⟩ := List.map_eq_append_iff.1 hsplit
    obtain ⟨p, later, rfl, rfl, rfl⟩ := List.map_eq_cons_iff.1 hrest
    -- a later mention of the name would be a later pair of that name
    exact ⟨earlier, p, later, rfl, fun q hq => hlast _ (List.mem_map_of_mem hq), rfl, rfl⟩

/-- A declaration whose name has letters or digits is read as a collection with the fields of its pairs. -/
theorem areAssigned_of_readEntry {index : Nat} {seen : Seen} {identity : List String}
    {parts pairs : List (Value × Value)} {fields name : Value} {found : Option Collection}
    (hf : HasFields fields pairs) (hn : Value.field? parts "name" = some name)
    (hletters : Name.letters name.display ≠ [])
    (h : (readEntry index seen identity (withFields parts fields)).2 = .ok found) :
    ∃ c, found = some c ∧ c.name = Text.trim name.display ∧ AreAssigned c.fields pairs := by
  have hname : Value.field? (Value.insert (.text "fields") fields parts) "name" = some name := by
    rwa [field?_insert_fields (by decide)]
  have hempty : ¬ (Name.camel (Text.trim name.display)).isEmpty = true := by
    rwa [Name.camel_isEmpty_iff, Name.letters_trim]
  have hpairs : fieldPairs 0 "" ((Value.field? (Value.insert (.text "fields") fields parts)
      "fields").getD .null) = .ok pairs := by
    rw [Value.field?_insert, if_pos rfl, Option.getD_some, fieldPairs_eq_ok_iff]
    exact hf
  -- what the declaration declares is known: its name, and a mention for each pair
  have hdeclared : declared? (withFields parts fields)
      = some ⟨Text.trim name.display, pairs.map mention⟩ := by
    rw [declared?_of_name rfl hname, if_neg hempty, hpairs]
    rfl
  rcases isReadAs_of_readEntry (Prod.ext rfl h) with ⟨hnone, -⟩ | ⟨d, c, hd, rfl, hread⟩
  · rw [hdeclared] at hnone
    cases hnone
  · rw [hdeclared] at hd
    cases hd
    obtain ⟨hcname, hcfields⟩ := Prod.mk.inj hread.merged_eq
    exact ⟨c, rfl, hcname.symm, hcfields ▸ areAssigned_mergeFields pairs⟩

/-! ## All shapes -/

/-- A list of declarations is read alike, whether the fields of one of them are given as a list of pairs, as
a list of mappings, or as a mapping whose keys are the names and differ. If it is accepted, that declaration
has a name; if the name has letters or digits, its collection comes after those of the declarations before,
and its fields are those of the pairs, merged like assignments. -/
theorem read_shapes (identity : List String) (before after : List Value)
    (parts pairs : List (Value × Value)) :
    let given (fields : Value) := read identity (.list (before ++ withFields parts fields :: after))
    given (namedFields pairs) = given (listedFields pairs)
      ∧ (pairs.Pairwise (fun p q => p.1.same q.1 = false) →
        given (keyedFields pairs) = given (listedFields pairs))
      ∧ ∀ notes all, given (listedFields pairs) = (notes, .ok all) →
        ∃ name, Value.field? parts "name" = some name ∧ (Name.letters name.display ≠ [] →
          ∃ first c others, all = first ++ c :: others ∧ (read identity (.list before)).2 = .ok first
            ∧ c.name = Text.trim name.display ∧ AreAssigned c.fields pairs) := by
  intro given
  have hread (fields : Value) :
      given fields = readFrom identity 0 [] (before ++ withFields parts fields :: after) := rfl
  have hlisted := hasFields_listedFields pairs
  -- a shape matters only through the pairs that it holds
  have hcongr {fields : Value} (h : HasFields fields pairs) : given fields = given (listedFields pairs) := by
    rw [hread, hread]
    exact readFrom_congr (readEntry_congr h hlisted) before after 0 []
  refine ⟨hcongr (hasFields_namedFields pairs), fun h => hcongr (hasFields_keyedFields h), ?_⟩
  intro notes all h
  rw [hread] at h
  obtain ⟨first, found, others, hfirst, hfound, rfl⟩ := exists_found (congrArg Prod.snd h)
  obtain ⟨entries, name, he, hn, -⟩ := parts_of_readEntry hfound
  cases he
  rw [field?_insert_fields (by decide)] at hn
  refine ⟨name, hn, fun hletters => ?_⟩
  obtain ⟨c, rfl, hname, hassigned⟩ := areAssigned_of_readEntry hlisted hn hletters hfound
  exact ⟨first, c, others, by simp, hfirst, hname, hassigned⟩

/-- Books after users, with a due date that is given twice: the keys differ in their blanks only. -/
theorem read_shapes_of_books :
    let pairs : List (Value × Value) :=
      [(.text "due", .text "date"), (.text "title", .null), (.text " due", .text "Email ")]
    let given (fields : Value) :=
      read [] (.list ([declaration "users" []] ++ withFields [(.text "name", .text " my books")] fields :: []))
    given (namedFields pairs) = given (listedFields pairs)
      ∧ given (keyedFields pairs) = given (listedFields pairs)
      ∧ ∃ users c, (given (listedFields pairs)).2 = .ok [users, c] ∧ c.name = "my books"
        ∧ AreAssigned c.fields pairs ∧ c.fields.map Field.name = ["due", "title"] := by
  intro pairs given
  let users : Collection := ⟨"users", "users", "Users", [], "object"⟩
  let books : Collection := ⟨"my books", "myBooks", "MyBooks",
    [⟨"due", .email, "email"⟩, ⟨"title", .text, Kind.untypedTag⟩], "object"⟩
  obtain ⟨hnamed, hkeyed, hfields⟩ :=
    read_shapes [] [declaration "users" []] [] [(.text "name", .text " my books")] pairs
  have hkeys : pairs.Pairwise fun p q => p.1.same q.1 = false := by
    simp [pairs, Value.text_same_text]
  have hread : given (listedFields pairs) = ((given (listedFields pairs)).1, .ok [users, books]) :=
    read_eq_of_toOption (by decide +kernel)
  obtain ⟨name, hname, hbooks⟩ := hfields _ _ hread
  obtain rfl : name = .text " my books" := by
    simpa [Value.field?, Value.lookup, Value.text_same_text] using hname.symm
  obtain ⟨first, c, others, hall, hfirst, hcname, hassigned⟩ := hbooks (by decide +kernel)
  have hone : (read [] (.list [declaration "users" []])).2 = .ok [users] :=
    toOption_eq_some_iff.1 (by decide +kernel)
  rw [hone] at hfirst
  cases hfirst
  cases hall
  exact ⟨hnamed, hkeyed hkeys, users, books, congrArg Prod.snd hread, rfl, hassigned, rfl⟩

end Scaffold.Intake
