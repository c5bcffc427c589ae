import Scaffold.Proofs.Collection.Grammar

/-!
# What intake accepts

Intake accepts exactly the values of the grammar of declarations. In all others it finds a fault, which
is about the declarations as long as every part of the value can be shown.
-/

namespace Scaffold

/-! ## Decisions -/

namespace Noted

/-- There is a result exactly if something holds; else there is a fault, and not just a number that is
too long to be shown. -/
def Decides {α : Type} (r : Noted α) (P : Prop) : Prop :=
  (P ∧ ∃ a, r.2 = .ok a) ∨ (¬ P ∧ ∃ e, r.2 = .error e ∧ e ≠ .longNumber)

variable {α β : Type} {P Q : Prop}

theorem decides_pure {a : α} (h : P) : (pure a).Decides P := .inl ⟨h, a, rfl⟩

theorem decides_fail {e : SchemaFault} (he : e ≠ .longNumber) (h : ¬ P) :
    (fail e : Noted α).Decides P :=
  .inr ⟨h, e, rfl, he⟩

theorem Decides.congr {r : Noted α} (h : r.Decides P) (hq : P ↔ Q) : r.Decides Q := by
  rwa [propext hq] at h

/-- One decision after another one. -/
theorem Decides.andThen {r : Noted α} {f : α → Noted β} (h : r.Decides P)
    (hf : ∀ a, r.2 = .ok a → (f a).Decides Q) : (r.andThen f).Decides (P ∧ Q) := by
  obtain ⟨notes, r⟩ := r
  rcases h with ⟨hp, a, rfl⟩ | ⟨hp, e, rfl, he⟩
  · rcases hf a rfl with ⟨hq, b, hb⟩ | ⟨hq, e, hb, he⟩
    · exact .inl ⟨⟨hp, hq⟩, b, hb⟩
    · exact .inr ⟨fun h => hq h.2, e, hb, he⟩
  · exact .inr ⟨fun h => hp h.1, e, rfl, he⟩

/-- What is made of a result changes no decision. -/
theorem Decides.andThen_pure {r : Noted α} {f : α → β} (h : r.Decides P) :
    (r.andThen fun a => pure (f a)).Decides P :=
  (h.andThen fun _ _ => decides_pure trivial).congr (and_iff_left trivial)

end Noted

namespace Intake

open Noted

/-! ## Fields -/

section

variable (index : Nat) (name : String)

theorem decides_readField {rawName rawType : Value} (hn : rawName.isShown = true)
    (ht : rawType.isShown = true) :
    (readField index name rawName rawType).Decides (IsFieldName rawName ∧ IsTag rawType) := by
  rw [isFieldName_iff, isTag_iff]
  unfold readField
  dsimp only
  rw [hn, ht, Bool.not_true, if_neg Bool.false_ne_true, if_neg Bool.false_ne_true]
  by_cases hb : (fieldName rawName).isEmpty = true
  · rw [if_pos hb]
    refine decides_fail nofun fun h => ?_
    obtain ⟨c, cs, hc, -⟩ := isIdentifier_iff.1 h.1.1
    rw [String.isEmpty_iff.1 hb] at hc
    exact List.cons_ne_nil c cs hc.symm
  rw [if_neg hb]
  by_cases hid : isIdentifier (fieldName rawName) = true
  · rw [hid, Bool.not_true, if_neg Bool.false_ne_true]
    by_cases hr : reservedNames.contains (fieldName rawName) = true
    · rw [if_pos hr]
      exact decides_fail nofun fun h => Bool.false_ne_true (h.1.2.symm.trans hr)
    · rw [if_neg hr]
      by_cases htag : isTypeTag (Kind.resolve rawType).2 = true
      · rw [htag, Bool.not_true, if_neg Bool.false_ne_true]
        exact .inl ⟨⟨⟨rfl, eq_false_of_ne_true hr⟩, rfl⟩, _, rfl⟩
      · rw [eq_false_of_ne_true htag, Bool.not_false, if_pos rfl]
        exact decides_fail nofun fun h => Bool.false_ne_true h.2
  · rw [eq_false_of_ne_true hid, Bool.not_false, if_pos rfl]
    exact decides_fail nofun fun h => Bool.false_ne_true h.1.1

theorem decides_readFields {pairs : List (Value × Value)}
    (hs : ∀ p ∈ pairs, p.1.isShown = true ∧ p.2.isShown = true) :
    (readFields index name pairs).Decides (∀ p ∈ pairs, IsFieldName p.1 ∧ IsTag p.2) := by
  induction pairs with
  | nil => exact decides_pure fun p hp => absurd hp List.not_mem_nil
  | cons p rest ih =>
    obtain ⟨hp, hr⟩ := List.forall_mem_cons.1 hs
    refine ((decides_readField index name hp.1 hp.2).andThen fun f _ =>
      (ih hr).andThen_pure).congr ?_
    rw [List.forall_mem_cons]

theorem decides_pairsOf {items : List Value} (hs : ∀ i ∈ items, i.isShown = true) :
    (Noted.lift (pairsOf index name items)).Decides (∃ pairs, List.Forall₂ IsPair items pairs) := by
  cases hp : pairsOf index name items with
  | ok pairs => exact .inl ⟨⟨pairs, pairsOf_eq_ok_iff.1 hp⟩, pairs, rfl⟩
  | error e =>
    refine .inr ⟨?_, e, rfl, ?_⟩
    · rintro ⟨pairs, h⟩
      rw [pairsOf_eq_ok_iff.2 h] at hp
      cases hp
    · induction items with
      | nil => cases hp
      | cons item rest ih =>
        obtain ⟨hi, hr⟩ := List.forall_mem_cons.1 hs
        rw [pairsOf] at hp
        split at hp
        · rw [if_pos hi] at hp
          cases hp
          intro hlong
          cases hlong
        · cases hr' : pairsOf index name rest with
          | ok others =>
            rw [hr'] at hp
            cases hp
          | error e' =>
            rw [hr'] at hp
            cases hp
            exact ih hr hr'

theorem decides_fieldPairs {fields : Value} (hs : fields.isShown = true) :
    (Noted.lift (fieldPairs index name fields)).Decides (∃ pairs, HasFields fields pairs) := by
  cases hp : fieldPairs index name fields with
  | ok pairs => exact .inl ⟨⟨pairs, fieldPairs_eq_ok_iff.1 hp⟩, pairs, rfl⟩
  | error e =>
    refine .inr ⟨?_, e, rfl, ?_⟩
    · rintro ⟨pairs, h⟩
      rw [fieldPairs_eq_ok_iff.2 h] at hp
      cases hp
    · unfold fieldPairs at hp
      split at hp
      · cases hp
      · next items hi =>
          rcases decides_pairsOf index name (Value.isShown_of_items? hs hi) with
            ⟨-, pairs, h⟩ | ⟨-, e', h, he⟩
          · rw [Noted.lift, hp] at h
            cases h
          · rw [Noted.lift, hp] at h
            cases h
            exact he
      · cases hp
        exact nofun

end

/-! ## Entries -/

/-- The shape of records can be shown if the entries can. -/
theorem isShown_rawDataType {entries : List (Value × Value)}
    (hs : ∀ e ∈ entries, e.1.isShown = true ∧ e.2.isShown = true) :
    (rawDataType entries).isShown = true := by
  have given {key : String} {v : Value} (h : (Value.field? entries key).filter Value.truthy = some v) :
      v.isShown = true :=
    Value.isShown_of_field? hs (Option.filter_eq_some_iff.1 h).1
  unfold rawDataType
  dsimp only
  cases hf : (Value.field? entries "dataType").filter Value.truthy with
  | some v => exact given hf
  | none =>
    cases hg : (Value.field? entries "data_type").filter Value.truthy with
    | some v => exact given hg
    | none => rfl

theorem decides_readNamed (index : Nat) (seen : Seen) (identity : List String) (name : String)
    {entries : List (Value × Value)} {fields : Value}
    (he : ∀ e ∈ entries, e.1.isShown = true ∧ e.2.isShown = true) (hf : fields.isShown = true) :
    (readNamed index seen identity name entries fields).Decides
      ((Name.letters name).head?.any Text.isDigitAscii = false
        ∧ seen.lookup (collisionKey (Name.camel name)) = none ∧ AreFields fields) := by
  unfold readNamed
  dsimp only
  rw [Name.head_camel_isDigit]
  by_cases hd : (Name.letters name).head?.any Text.isDigitAscii = true
  · rw [if_pos hd]
    exact decides_fail nofun fun h => Bool.false_ne_true (h.1.symm.trans hd)
  rw [if_neg hd]
  cases hl : seen.lookup (collisionKey (Name.camel name)) with
  | some earlier => exact decides_fail nofun fun h => Option.some_ne_none _ h.2.1
  | none =>
    have hfields : (Noted.lift (fieldPairs index name fields)).Decides (∃ pairs, HasFields fields pairs) :=
      decides_fieldPairs index name hf
    refine (hfields.andThen (Q := ∀ pairs, HasFields fields pairs →
      ∀ p ∈ pairs, IsFieldName p.1 ∧ IsTag p.2) fun pairs hp => ?_).congr ?_
    · have hp := fieldPairs_eq_ok_iff.1 hp
      refine ((decides_readFields index name (hp.isShown hf)).andThen (Q := True) fun fs _ => ?_).congr ?_
      · rw [isShown_rawDataType he, Bool.not_true, if_neg Bool.false_ne_true]
        exact .inl ⟨trivial, _, rfl⟩
      · rw [and_true]
        exact ⟨fun h others ho => hp.unique ho ▸ h, fun h => h pairs hp⟩
    · constructor
      · rintro ⟨⟨pairs, hp⟩, h⟩
        exact ⟨eq_false_of_ne_true hd, rfl, pairs, hp, h pairs hp⟩
      · rintro ⟨-, -, pairs, hp, h⟩
        exact ⟨⟨pairs, hp⟩, fun others ho => hp.unique ho ▸ h⟩

theorem exists_of_getD_ne {o : Option Value} (h : o.getD .null ≠ .null) :
    ∃ v, o = some v ∧ v ≠ .null := by
  cases o with
  | none => exact absurd rfl h
  | some v => exact ⟨v, rfl, h⟩

section

variable {index : Nat} {seen : Seen} {identity : List String} {entry name : Value}
  {entries : List (Value × Value)}

theorem readEntry_of_no_name (he : entry.entries? = some entries)
    (hn : (Value.field? entries "name").getD .null = .null) :
    readEntry index seen identity entry = Noted.fail (.noName index) := by
  unfold readEntry
  rw [he]
  dsimp only
  rw [hn]

/-- The reader of an entry after a look at its name. -/
theorem readEntry_of_name (he : entry.entries? = some entries)
    (hn : Value.field? entries "name" = some name) (hne : name ≠ .null) :
    readEntry index seen identity entry
      = if !name.isShown then Noted.fail .longNumber
        else if ((Value.field? entries "fields").getD .null).isNull then
          Noted.fail (.noFields index name.display)
        else if (Name.camel (Text.trim name.display)).isEmpty then
          ([.skipped index (Text.trim name.display)], .ok none)
        else
          (readNamed index seen identity (Text.trim name.display) entries
            ((Value.field? entries "fields").getD .null)).andThen fun c => Noted.pure (some c) := by
  unfold readEntry
  rw [he]
  dsimp only
  rw [hn, Option.getD_some]
  split
  · exact absurd rfl hne
  · rfl

/-- The key of an entry is that of the collection it is read as. -/
theorem declaredKey?_of_name (he : entry.entries? = some entries)
    (hn : Value.field? entries "name" = some name) :
    declaredKey? entry = if (Name.camel (Text.trim name.display)).isEmpty then none
      else some (collisionKey (Name.camel (Text.trim name.display))) := by
  have hkey : (String.ofList ((Name.letters name.display).map Text.lowerAscii)).isEmpty
      = (Name.camel (Text.trim name.display)).isEmpty := by
    rw [Bool.eq_iff_iff, Name.camel_isEmpty_iff, Name.letters_trim, String.isEmpty_iff,
      ← String.toList_eq_nil_iff, String.toList_ofList, List.map_eq_nil_iff]
  unfold declaredKey?
  rw [he, Option.bind_some, hn, Option.map_some, Option.filter_some, hkey, Name.collisionKey_camel,
    Name.letters_trim]
  cases (Name.camel (Text.trim name.display)).isEmpty <;> rfl

theorem IsDeclaration.eq_of_name {parts : List (Value × Value)} {name' fields : Value}
    (h : IsDeclaration entry parts name' fields) (he : entry.entries? = some entries)
    (hn : Value.field? entries "name" = some name) : parts = entries ∧ name' = name := by
  have hp := h.isMapping
  rw [he] at hp
  cases hp
  have hn' := h.name_eq
  rw [hn] at hn'
  exact ⟨rfl, (Option.some.inj hn').symm⟩

theorem IsDeclaration.eq_of_fields {parts : List (Value × Value)} {name' fields fields' : Value}
    (h : IsDeclaration entry parts name' fields') (he : entry.entries? = some entries)
    (hn : Value.field? entries "name" = some name) (hf : Value.field? entries "fields" = some fields) :
    fields' = fields := by
  obtain ⟨rfl, rfl⟩ := h.eq_of_name he hn
  have hf' := h.fields_eq
  rw [hf] at hf'
  exact (Option.some.inj hf').symm

/-- An entry with a name and fields is dropped if there are no letters in the name. Otherwise it is accepted as
what it declares is. -/
theorem decides_readEntry_of_fields {fields : Value} (hs : entry.isShown = true)
    (he : entry.entries? = some entries) (hn : Value.field? entries "name" = some name) (hne : name ≠ .null)
    (hf : Value.field? entries "fields" = some fields) (hfne : fields ≠ .null) :
    (readEntry index seen identity entry).Decides
      ((∃ parts name fields, IsDeclaration entry parts name fields)
        ∧ ∀ k, declaredKey? entry = some k → seen.lookup k = none) := by
  have hparts := Value.isShown_of_entries? hs he
  have hnull : fields.isNull = false := by
    cases fields with
    | null => exact absurd rfl hfne
    | _ => rfl
  have hletters : (Name.camel (Text.trim name.display)).isEmpty = true ↔ Name.letters name.display = [] := by
    rw [Name.camel_isEmpty_iff, Name.letters_trim]
  rw [readEntry_of_name he hn hne, declaredKey?_of_name he hn, Value.isShown_of_field? hparts hn,
    Bool.not_true, if_neg Bool.false_ne_true, hf, Option.getD_some, hnull, if_neg Bool.false_ne_true]
  by_cases hl : (Name.camel (Text.trim name.display)).isEmpty = true
  · rw [if_pos hl, if_pos hl]
    exact .inl ⟨⟨⟨entries, name, fields, he, hn, hne, hf, hfne,
      fun h => absurd (hletters.1 hl) h⟩, nofun⟩, none, rfl⟩
  · rw [if_neg hl, if_neg hl]
    refine (decides_readNamed index seen identity _ hparts
      (Value.isShown_of_field? hparts hf)).andThen_pure.congr ?_
    rw [Name.letters_trim]
    constructor
    · rintro ⟨hd, hk, ha⟩
      exact ⟨⟨entries, name, fields, he, hn, hne, hf, hfne, fun _ => ⟨hd, ha⟩⟩,
        fun k hkey => Option.some.inj hkey ▸ hk⟩
    · rintro ⟨⟨parts, name', fields', h⟩, hk⟩
      obtain rfl := h.eq_of_fields he hn hf
      obtain ⟨rfl, rfl⟩ := h.eq_of_name he hn
      have hbody := h.body (mt hletters.2 hl)
      exact ⟨hbody.1, hk _ rfl, hbody.2⟩

/-- An entry is accepted if it is a declaration and its key was not seen. -/
theorem decides_readEntry (hs : entry.isShown = true) :
    (readEntry index seen identity entry).Decides
      ((∃ parts name fields, IsDeclaration entry parts name fields)
        ∧ ∀ k, declaredKey? entry = some k → seen.lookup k = none) := by
  cases he : entry.entries? with
  | none =>
    unfold readEntry
    rw [he]
    refine decides_fail nofun ?_
    rintro ⟨⟨parts, name, fields, h⟩, -⟩
    rw [h.isMapping] at he
    cases he
  | some entries =>
    by_cases hname : (Value.field? entries "name").getD .null = .null
    · rw [readEntry_of_no_name he hname]
      refine decides_fail nofun ?_
      rintro ⟨⟨parts, name, fields, h⟩, -⟩
      have hp := h.isMapping
      rw [he] at hp
      cases hp
      rw [h.name_eq] at hname
      exact h.name_ne hname
    obtain ⟨name, hn, hne⟩ := exists_of_getD_ne hname
    by_cases hfields : (Value.field? entries "fields").getD .null = .null
    · have hnull : Value.null.isNull = true := rfl
      rw [readEntry_of_name he hn hne, Value.isShown_of_field? (Value.isShown_of_entries? hs he) hn,
        Bool.not_true, if_neg Bool.false_ne_true, hfields, if_pos hnull]
      refine decides_fail nofun ?_
      rintro ⟨⟨parts, name', fields, h⟩, -⟩
      obtain ⟨rfl, rfl⟩ := h.eq_of_name he hn
      rw [h.fields_eq] at hfields
      exact h.fields_ne hfields
    · obtain ⟨fields, hf, hfne⟩ := exists_of_getD_ne hfields
      exact decides_readEntry_of_fields hs he hn hne hf hfne

/-- An entry that is read is a mapping with a name. If the name has letters or digits, the entry is
read as a collection of that name, else it is dropped. -/
theorem parts_of_readEntry {found : Option Collection}
    (h : (readEntry index seen identity entry).2 = .ok found) :
    ∃ entries name, entry.entries? = some entries ∧ Value.field? entries "name" = some name
      ∧ (((Name.camel (Text.trim name.display)).isEmpty = true ∧ found = none)
        ∨ (¬ (Name.camel (Text.trim name.display)).isEmpty = true ∧ ∃ fields c, found = some c
          ∧ (readNamed index seen identity (Text.trim name.display) entries fields).2 = .ok c)) := by
  cases he : entry.entries? with
  | none =>
    unfold readEntry at h
    rw [he] at h
    cases h
  | some entries =>
    by_cases hname : (Value.field? entries "name").getD .null = .null
    · rw [readEntry_of_no_name he hname] at h
      cases h
    obtain ⟨name, hn, hne⟩ := exists_of_getD_ne hname
    refine ⟨entries, name, rfl, hn, ?_⟩
    rw [readEntry_of_name he hn hne] at h
    split at h
    · cases h
    split at h
    · cases h
    split at h
    next hl =>
      cases h
      exact .inl ⟨hl, rfl⟩
    next hl =>
      obtain ⟨c, hc, h⟩ := Noted.andThen_eq_ok.1 h
      cases h
      exact .inr ⟨hl, _, c, rfl, hc⟩

/-- A collection has the key of its declaration, and a declaration that is dropped has none. -/
theorem declaredKey?_of_readEntry {found : Option Collection}
    (h : (readEntry index seen identity entry).2 = .ok found) :
    declaredKey? entry = found.map fun c => collisionKey c.camelName := by
  obtain ⟨entries, name, he, hn, ⟨hl, rfl⟩ | ⟨hl, fields, c, rfl, hc⟩⟩ := parts_of_readEntry h
  · rw [declaredKey?_of_name he hn, if_pos hl]
    rfl
  · rw [declaredKey?_of_name he hn, if_neg hl, Option.map_some, (parts_of_readNamed hc).2.1]

end

/-! ## Lists of entries -/

/-- Entries can stand after the keys that were seen: they are declarations with different keys, and
none of the keys was seen. -/
def CanFollow (seen : Seen) (entries : List Value) : Prop :=
  AreDeclarations entries ∧ ∀ k ∈ entries.filterMap declaredKey?, seen.lookup k = none

/-- An entry that is dropped has no key, so that it is enough if it is a declaration. -/
theorem canFollow_cons_of_none {seen : Seen} {entry : Value} {rest : List Value} (hk : declaredKey? entry = none) :
    CanFollow seen (entry :: rest)
      ↔ (∃ parts name fields, IsDeclaration entry parts name fields) ∧ CanFollow seen rest := by
  have hkeys := List.filterMap_cons_none hk (l := rest)
  unfold CanFollow
  rw [hkeys]
  constructor
  · rintro ⟨ha, hseen⟩
    obtain ⟨hd, heach⟩ := List.forall_mem_cons.1 ha.each
    exact ⟨hd, ⟨heach, hkeys ▸ ha.keys_nodup⟩, hseen⟩
  · rintro ⟨hd, ha, hseen⟩
    exact ⟨⟨List.forall_mem_cons.2 ⟨hd, ha.each⟩, hkeys.symm ▸ ha.keys_nodup⟩, hseen⟩

/-- The key of an entry must not have been seen, and is seen by the entries after it. -/
theorem canFollow_cons_of_some {seen : Seen} {entry : Value} {rest : List Value} {key : String}
    (hk : declaredKey? entry = some key) (index : Nat) : CanFollow seen (entry :: rest)
      ↔ ((∃ parts name fields, IsDeclaration entry parts name fields) ∧ seen.lookup key = none)
        ∧ CanFollow ((key, index) :: seen) rest := by
  have hlookup (k : String) : ((key, index) :: seen).lookup k = none ↔ k ≠ key ∧ seen.lookup k = none := by
    rw [List.lookup_cons]
    by_cases hkey : k = key
    · rw [beq_iff_eq.2 hkey]
      exact ⟨nofun, fun h => absurd hkey h.1⟩
    · rw [beq_eq_false_iff_ne.2 hkey]
      exact (and_iff_right hkey).symm
  have hkeys := List.filterMap_cons_some hk (l := rest)
  unfold CanFollow
  rw [hkeys, List.forall_mem_cons]
  constructor
  · rintro ⟨ha, hfree, hseen⟩
    obtain ⟨hd, heach⟩ := List.forall_mem_cons.1 ha.each
    have hnodup := ha.keys_nodup
    rw [hkeys, List.nodup_cons] at hnodup
    refine ⟨⟨hd, hfree⟩, ⟨heach, hnodup.2⟩, fun k hm => ?_⟩
    exact (hlookup k).2 ⟨fun e => hnodup.1 (e ▸ hm), hseen k hm⟩
  · rintro ⟨⟨hd, hfree⟩, ha, hseen⟩
    refine ⟨⟨List.forall_mem_cons.2 ⟨hd, ha.each⟩, ?_⟩, hfree, fun k hm => ((hlookup k).1 (hseen k hm)).2⟩
    rw [hkeys, List.nodup_cons]
    exact ⟨fun hm => ((hlookup key).1 (hseen key hm)).1 rfl, ha.keys_nodup⟩

/-- Entries are accepted if they can stand after the keys that were seen. -/
theorem decides_readFrom (identity : List String) {entries : List Value}
    (hs : ∀ e ∈ entries, e.isShown = true) (index : Nat) (seen : Seen) :
    (readFrom identity index seen entries).Decides (CanFollow seen entries) := by
  -- the keys that were seen grow along the list, so they are not fixed for the induction
  induction entries generalizing index seen with
  | nil =>
    exact decides_pure ⟨⟨fun e he => absurd he List.not_mem_nil, List.nodup_nil⟩,
      fun k hk => absurd hk List.not_mem_nil⟩
  | cons entry rest ih =>
    obtain ⟨hentry, hrest⟩ := List.forall_mem_cons.1 hs
    rw [readFrom]
    cases hk : declaredKey? entry with
    | none =>
      rw [canFollow_cons_of_none hk]
      refine ((decides_readEntry hentry).andThen (Q := CanFollow seen rest) fun found hf => ?_).congr ?_
      · have hfound := declaredKey?_of_readEntry hf
        rw [hk, eq_comm, Option.map_eq_none_iff] at hfound
        subst hfound
        exact ih hrest (index + 1) seen
      · rw [hk]
        exact and_congr_left' (and_iff_left nofun)
    | some key =>
      rw [canFollow_cons_of_some hk index]
      refine ((decides_readEntry hentry).andThen (Q := CanFollow ((key, index) :: seen) rest)
        fun found hf => ?_).congr ?_
      · have hfound := declaredKey?_of_readEntry hf
        rw [hk, eq_comm, Option.map_eq_some_iff] at hfound
        obtain ⟨c, rfl, hc⟩ := hfound
        dsimp only
        rw [hc]
        exact (ih hrest (index + 1) ((key, index) :: seen)).andThen_pure
      · rw [hk]
        refine and_congr_left' (and_congr_right' ⟨fun h => h key rfl, ?_⟩)
        rintro h k ⟨⟩
        exact h

end Intake

/-! ## What is given -/

/-- A value as it comes up in definitions: what is a key or a member of a set can be one. -/
structure Value.IsBuilt (v : Value) : Prop where
  keys : ∀ entries, v.opened = .map entries → ∀ e ∈ entries, e.1.isKey = true
  members : ∀ items, v.opened = .set items → ∀ i ∈ items, i.isKey = true

/-- Whether a value can be a declaration is told by its being a key: a key is no mapping. -/
theorem Value.not_isDeclaration_of_isKey {v : Value} (h : v.isKey = true) {parts : List (Value × Value)}
    {name fields : Value} : ¬ Intake.IsDeclaration v parts name fields := by
  intro hd
  have hp := hd.isMapping
  rw [entries?_eq_none_of_isKey h] at hp
  cases hp

namespace Intake

open Noted

theorem gives_value_iff {raw : Value} {entries : List Value} :
    Gives (.value raw) entries ↔ raw.opened = .list entries ∨ raw.opened = .tuple entries
      ∨ (∃ parts, raw.opened = .map parts ∧ parts.map Prod.fst = entries) ∨ raw.opened = .set entries := by
  have hitems : raw.items? = some entries ↔ raw.opened = .list entries ∨ raw.opened = .tuple entries := by
    unfold Value.items?
    cases raw.opened <;> simp
  have hentries {parts : List (Value × Value)} : raw.entries? = some parts ↔ raw.opened = .map parts := by
    unfold Value.entries?
    cases raw.opened <;> simp
  constructor
  · intro h
    cases h with
    | sequence h => exact (hitems.1 h).imp_right .inl
    | keys h => exact .inr (.inr (.inl ⟨_, hentries.1 h, rfl⟩))
    | members h => exact .inr (.inr (.inr h))
  · rintro (h | h | ⟨parts, h, rfl⟩ | h)
    · exact .sequence (hitems.2 (.inl h))
    · exact .sequence (hitems.2 (.inr h))
    · exact .keys (hentries.2 h)
    · exact .members h

/-- Intake goes through what there is to go through. -/
theorem declarations?_eq_some_iff {raw : Given} {entries : List Value} :
    raw.declarations? = some entries ↔ Gives raw entries := by
  cases raw with
  | value v =>
    rw [gives_value_iff]
    show entriesOf? v = some entries ↔ _
    unfold entriesOf? Value.elements?
    cases v.opened <;> simp
  | object elements? =>
    constructor
    · rintro rfl
      exact .object entries
    · intro h
      cases h
      rfl

theorem Gives.isShown {raw : Given} {entries : List Value} (h : Gives raw entries) (hs : raw.AreShown) :
    ∀ v ∈ entries, v.isShown = true := by
  cases h with
  | sequence h => exact Value.isShown_of_items? hs h
  | keys h => exact List.forall_mem_map.2 fun e he => (Value.isShown_of_entries? hs h e he).1
  | members h =>
    have ho := Value.isShown_opened hs
    rw [h, Value.isShown, Value.areShown_iff] at ho
    exact ho
  | object entries => exact hs entries rfl

/-- Of a mapping and of a set there is nothing to go through that can be a declaration. -/
theorem Gives.eq_nil {raw : Value} (hb : raw.IsBuilt) {entries : List Value} (hg : Gives (.value raw) entries)
    (ha : AreDeclarations entries) : raw.items? = some entries ∨ entries = [] := by
  have hkeys (hk : ∀ v ∈ entries, v.isKey = true) : entries = [] := by
    cases entries with
    | nil => rfl
    | cons v rest =>
      obtain ⟨parts, name, fields, hd⟩ := ha.each v List.mem_cons_self
      exact absurd hd (Value.not_isDeclaration_of_isKey (hk v List.mem_cons_self))
  rcases gives_value_iff.1 hg with h | h | ⟨parts, h, rfl⟩ | h
  · exact .inl (by rw [Value.items?, h])
  · exact .inl (by rw [Value.items?, h])
  · exact .inr (hkeys (List.forall_mem_map.2 (hb.keys parts h)))
  · exact .inr (hkeys (hb.members entries h))

/-- Intake decides whether there are declarations that can stand side by side. -/
theorem decides_readGiven (identity : List String) {raw : Given} (hs : raw.AreShown) :
    (readGiven identity raw).Decides (∃ entries, Gives raw entries ∧ AreDeclarations entries) := by
  unfold readGiven
  cases hd : raw.declarations? with
  | none =>
    refine decides_fail nofun ?_
    rintro ⟨entries, h, -⟩
    cases hd.symm.trans (declarations?_eq_some_iff.2 h)
  | some entries =>
    have hgives := declarations?_eq_some_iff.1 hd
    refine (decides_readFrom identity (hgives.isShown hs) 0 []).congr ?_
    constructor
    · exact fun h => ⟨entries, hgives, h.1⟩
    · rintro ⟨others, ho, ha⟩
      cases hd.symm.trans (declarations?_eq_some_iff.2 ho)
      exact ⟨ha, fun _ _ => rfl⟩

/-- Intake accepts what is given exactly if going through it gives declarations that can stand side by side;
of the values that are no lists and no tuples it accepts only those that hold nothing. In every other case it
finds a fault of the declarations. -/
theorem read_accepts_grammar (identity : List String) {raw : Given} (hs : raw.AreShown) :
    ((∃ all, (readGiven identity raw).2 = .ok all) ↔ ∃ entries, Gives raw entries ∧ AreDeclarations entries)
      ∧ (∀ e, (readGiven identity raw).2 = .error e → e ≠ .longNumber)
      ∧ ∀ v entries, raw = .value v → v.IsBuilt → Gives raw entries → AreDeclarations entries →
        v.items? = some entries ∨ entries = [] := by
  have hempty (v : Value) (entries : List Value) (hv : raw = .value v) (hb : v.IsBuilt)
      (hg : Gives raw entries) (ha : AreDeclarations entries) : v.items? = some entries ∨ entries = [] := by
    subst hv
    exact hg.eq_nil hb ha
  rcases decides_readGiven identity hs with ⟨hp, all, ha⟩ | ⟨hp, e, he, hne⟩
  · refine ⟨iff_of_true ⟨all, ha⟩ hp, fun e he => ?_, hempty⟩
    cases ha.symm.trans he
  · refine ⟨iff_of_false ?_ hp, fun e' he' => ?_, hempty⟩
    · rintro ⟨all, ha⟩
      cases ha.symm.trans he
    · cases he.symm.trans he'
      exact hne

/-- Books with a type in capitals, and a declaration that is dropped, from an object that is gone through
once. -/
theorem read_accepts_books :
    let raw : Given :=
      .object (some [declaration " Books! " [("due ", "Time-Stamp")], declaration "?" []])
    raw.AreShown ∧ ∃ entries, Gives raw entries ∧ AreDeclarations entries := by
  intro raw
  have hs : raw.AreShown := by
    rintro entries ⟨⟩
    exact Value.areShown_iff.1 (by decide +kernel)
  have hread : read [] (.list [declaration " Books! " [("due ", "Time-Stamp")], declaration "?" []])
      = (_, .ok [⟨"Books!", "books", "Books", [⟨"due", .text, "time-stamp"⟩], "object"⟩]) :=
    read_eq_of_toOption (by decide +kernel)
  refine ⟨hs, (read_accepts_grammar [] hs).1.1 ?_⟩
  exact ⟨_, congrArg Prod.snd hread⟩

/-- An empty set is accepted, though it is no list, no tuple and no empty mapping. -/
theorem empty_set_accepted :
    (Value.set []).isShown = true ∧ (∃ all, (read [] (.set [])).2 = .ok all)
      ∧ ¬ ∃ entries, ((Value.set []).items? = some entries
        ∨ ((Value.set []).entries? = some [] ∧ entries = [])) ∧ AreDeclarations entries := by
  refine ⟨rfl, ⟨[], rfl⟩, ?_⟩
  rintro ⟨entries, h | ⟨h, -⟩, -⟩ <;> cases h

end Intake

end Scaffold
