import Scaffold.Proofs.Collection.Composition
import Scaffold.Proofs.Collection.Invariants
import Scaffold.Proofs.Name.Respelling
import Scaffold.Proofs.Value.Shown

/-!
# Declaring collections again

What is read from declarations can be declared again as it was read. Intake gives the same collections
back, because nothing is left to trim, to merge or to resolve. Under one of its spellings in the place of
its name a collection stays what it is but for the name.
-/

namespace Scaffold

/-! ## Types -/

namespace Intake

theorem visible_of_isIdentifierChar {c : Char} (h : isIdentifierChar c = true) :
    33 ≤ c.toNat ∧ c.toNat ≤ 126 := by
  unfold isIdentifierChar isIdentifierStart at h
  simp only [Bool.or_eq_true, Text.isLowerAscii_iff, Text.isUpperAscii_iff, Text.isDigitAscii_iff,
    beq_iff_eq] at h
  rcases h with (((h | h) | rfl) | rfl) | h
  case inl.inl.inr | inl.inr => decide
  all_goals omega

/-- A character of a type tag is visible and no capital. -/
theorem visible_of_isTagChar {c : Char} (h : isTagChar c = true) :
    (33 ≤ c.toNat ∧ c.toNat ≤ 126) ∧ Text.lowerAscii c = c := by
  unfold isTagChar at h
  simp only [Bool.or_eq_true, Text.isLowerAscii_iff, Text.isDigitAscii_iff, beq_iff_eq] at h
  have hsmall (hn : ¬ (65 ≤ c.toNat ∧ c.toNat ≤ 90)) : Text.lowerAscii c = c := by
    refine Text.lowerAscii_of_not_isUpper ?_
    rwa [← Bool.not_eq_true, Text.isUpperAscii_iff]
  rcases h with ((h | h) | rfl) | rfl
  case inl.inr | inr => decide
  all_goals exact ⟨by omega, hsmall (by omega)⟩

theorem isTagChar_of_isTypeTag {s : String} (h : isTypeTag s = true) :
    ∀ c ∈ s.toList, isTagChar c = true := by
  obtain ⟨c, cs, hs, hc, hcs⟩ := isTypeTag_iff.1 h
  rw [hs]
  refine List.forall_mem_cons.2 ⟨?_, hcs⟩
  unfold isTagChar
  rw [hc, Bool.true_or, Bool.true_or, Bool.true_or]

end Intake

/-- A type tag is recorded as it stands. -/
theorem Kind.resolve_of_isTypeTag {tag : String} (h : Intake.isTypeTag tag = true) :
    Kind.resolve (.text tag) = ((Kind.ofTag? tag).getD .text, tag) := by
  have hchars (c : Char) (hc : c ∈ tag.toList) :=
    Intake.visible_of_isTagChar (Intake.isTagChar_of_isTypeTag h c hc)
  have htrim : Text.trim tag = tag := Text.trim_of_visible fun c hc => (hchars c hc).1
  have hlower : Text.lower tag = tag := by
    refine String.toList_inj.1 ?_
    rw [Text.toList_lower_of_ascii fun c hc => by have := hchars c hc; omega,
      List.map_congr_left (g := id) fun c hc => (hchars c hc).2, List.map_id]
  have hdeclared : Kind.declaredText (.text tag) = tag := by
    show Text.lower (Text.trim tag) = tag
    rw [htrim, hlower]
  have hne : ¬ tag.isEmpty = true := by
    rw [String.isEmpty_iff]
    rintro rfl
    exact Bool.false_ne_true h
  unfold Kind.resolve
  rw [hdeclared]
  exact if_neg hne

/-- The kind of an accepted field is the one that its tag is resolved to. -/
theorem Field.IsNormal.kind_eq {f : Field} (h : f.IsNormal) :
    f.kind = (Kind.ofTag? f.declared).getD .text := by
  cases hf : f.isFallback with
  | true =>
    rw [h.kind_of_isFallback hf]
    cases hk : Kind.ofTag? f.declared with
    | none => rfl
    | some k => exact absurd (Kind.ofTag?_eq_some_iff.1 hk).symm (h.isFallback_iff.1 hf k)
  | false =>
    -- A tag that is not empty and does not fall back is the tag of the kind.
    have htag : f.kind.tag = f.declared := by
      obtain ⟨c, cs, hd, -⟩ := h.declared
      have hne : f.declared.isEmpty = false := by
        rw [← Bool.not_eq_true, String.isEmpty_iff, ← String.toList_eq_nil_iff, hd]
        exact List.cons_ne_nil c cs
      rw [Field.isFallback, hne, Bool.not_false, Bool.true_and, bne_eq_false_iff_eq] at hf
      exact hf.symm
    rw [Kind.ofTag?_eq_some_iff.2 htag, Option.getD_some]

/-! ## Fields -/

namespace Intake

variable (index : Nat) (name : String)

/-- An accepted field is read from its name and its tag. -/
theorem readField_of_isNormal {f : Field} (h : f.IsNormal) :
    (readField index name (.text f.name) (.text f.declared)).2 = .ok f := by
  have hid : isIdentifier f.name = true := isIdentifier_iff.2 h.name
  have htag : isTypeTag f.declared = true := isTypeTag_iff.2 h.declared
  have hname : fieldName (.text f.name) = f.name := by
    obtain ⟨c, cs, hs, hc, hcs⟩ := h.name
    show Text.trim f.name = f.name
    refine Text.trim_of_visible fun d hd => visible_of_isIdentifierChar ?_
    rw [hs] at hd
    rcases List.mem_cons.1 hd with rfl | hd
    · unfold isIdentifierChar
      rw [hc, Bool.true_or]
    · exact hcs d hd
  have hempty : ¬ f.name.isEmpty = true := by
    rw [String.isEmpty_iff]
    intro e
    rw [e] at hid
    exact Bool.false_ne_true hid
  have hreserved : ¬ reservedNames.contains f.name = true := by simp [reservedNames, h.name_ne]
  unfold readField
  dsimp only
  rw [hname, Kind.resolve_of_isTypeTag htag, ← h.kind_eq, if_neg hempty, hid, if_neg hreserved, htag]
  rfl

theorem readFields_of_isNormal {fs : List Field} (h : ∀ f ∈ fs, f.IsNormal) :
    (readFields index name (fs.map fun f => (.text f.name, .text f.declared))).2 = .ok fs := by
  induction fs with
  | nil => rfl
  | cons f rest ih =>
    obtain ⟨hf, hrest⟩ := List.forall_mem_cons.1 h
    exact Noted.andThen_eq_ok.2 ⟨f, readField_of_isNormal index name hf,
      Noted.andThen_eq_ok.2 ⟨rest, ih hrest, rfl⟩⟩

/-- A field with a new name is put last. -/
theorem putField_of_not_mem {f : Field} {fs : List Field} (h : f.name ∉ fs.map Field.name) :
    putField f fs = fs ++ [f] := by
  induction fs with
  | nil => rfl
  | cons g rest ih =>
    rw [List.map_cons, List.mem_cons, not_or] at h
    rw [putField, if_neg fun e => h.1 (beq_iff_eq.1 e).symm, ih h.2, List.cons_append]

/-- Fields with different names are merged already. -/
theorem mergeFields_of_nodup {fs : List Field} (h : (fs.map Field.name).Nodup) : mergeFields fs = fs := by
  -- The fields that are there before are generalised: the others come after them.
  have step : ∀ before : List Field, ((before ++ fs).map Field.name).Nodup →
      fs.foldl (fun acc f => putField f acc) before = before ++ fs := by
    clear h
    induction fs with
    | nil => exact fun before _ => (List.append_nil before).symm
    | cons f rest ih =>
      intro before hn
      have hnew : f.name ∉ before.map Field.name := by
        rw [List.map_append, List.nodup_append] at hn
        exact fun hm => hn.2.2 f.name hm f.name List.mem_cons_self rfl
      rw [List.append_cons] at hn
      rw [List.foldl_cons, putField_of_not_mem hnew, ih _ hn, ← List.append_cons]
  exact step [] h

end Intake

/-! ## Collections -/

/-- The declaration of a collection under a name, with its fields as a list of pairs. -/
def Collection.redeclaration (c : Collection) (name : String) : Value :=
  Value.record [
    ("name", .text name),
    ("fields", .list (c.fields.map fun f => .list [.text f.name, .text f.declared])),
    ("dataType", .text c.dataType)]

namespace Intake

/-- A collection has the text of a value that counts as true for the tag of its shape. -/
theorem dataType_ne_empty_of_readNamed {index : Nat} {seen : Seen} {identity : List String} {name : String}
    {entries : List (Value × Value)} {fields : Value} {c : Collection}
    (h : (readNamed index seen identity name entries fields).2 = .ok c) : c.dataType ≠ "" := by
  have htruthy : (rawDataType entries).truthy = true := by
    have given {key : String} {v : Value} (h : (Value.field? entries key).filter Value.truthy = some v) :
        v.truthy = true := (Option.filter_eq_some_iff.1 h).2
    unfold rawDataType
    dsimp only
    cases hf : (Value.field? entries "dataType").filter Value.truthy with
    | some v => exact given hf
    | none =>
      cases hg : (Value.field? entries "data_type").filter Value.truthy with
      | some v => exact given hg
      | none => decide
  obtain ⟨-, -, pairs, before, fs, -, -, rfl, -⟩ := checks_of_readNamed (Prod.ext rfl h)
  exact Value.display_ne_empty htruthy

/-- Each collection is read from one of the entries. -/
theorem exists_entry_of_mem {identity : List String} {entries : List Value} {index : Nat} {seen : Seen}
    {all : List Collection} (h : (readFrom identity index seen entries).2 = .ok all) {c : Collection}
    (hc : c ∈ all) : ∃ entry ∈ entries, (readEntry 0 [] identity entry).2 = .ok (some c) := by
  induction entries generalizing index seen all with
  | nil =>
    cases h
    exact absurd hc List.not_mem_nil
  | cons entry rest ih =>
    obtain ⟨found, others, hf, ho, rfl⟩ := (readFrom_cons_eq_ok_iff index).1 h
    rcases List.mem_append.1 hc with hm | hm
    · rw [Option.mem_toList] at hm
      exact ⟨entry, List.mem_cons_self, Option.mem_def.1 hm ▸ ((readEntry_eq_ok_iff index).1 hf).1⟩
    · obtain ⟨e, he, hread⟩ := ih ho hm
      exact ⟨e, List.mem_cons_of_mem entry he, hread⟩

end Intake

/-- A collection that can be declared again: it is accepted, its name has its spellings and no blanks
around it, and its shape has a tag. -/
structure Collection.IsSettled (c : Collection) : Prop where
  isNormal : c.IsNormal
  isAccepted : c.IsAccepted
  trim_name : Text.trim c.name = c.name
  dataType_ne : c.dataType ≠ ""

namespace Collection.IsSettled

variable {c : Collection} {s : String}

/-- The spellings of a collection have the spellings of its name. -/
theorem spellings (h : c.IsSettled) (hs : s ∈ [c.name, c.camelName, c.pascalName]) :
    Text.trim s = s ∧ Name.camel s = c.camelName ∧ Name.pascal s = c.pascalName := by
  suffices Text.trim s = s ∧ Name.camel s = c.camelName by
    refine ⟨this.1, this.2, ?_⟩
    rw [h.isNormal.pascal_eq]
    exact Name.pascal_eq_of_camel_eq (this.2.trans h.isNormal.camel_eq)
  have hcamel := h.isNormal.camel_eq
  have hpascal := h.isNormal.pascal_eq
  simp only [List.mem_cons, List.not_mem_nil, or_false] at hs
  rcases hs with rfl | rfl | rfl
  · exact ⟨h.trim_name, hcamel.symm⟩
  · exact ⟨Name.trim_of_isWord h.isNormal.isWord_camelName, by rw [hcamel, Name.camel_camel]⟩
  · exact ⟨Name.trim_of_isWord h.isNormal.isWord_pascalName, by rw [hpascal, Name.camel_pascal, hcamel]⟩

/-- A collection that is declared again is read as it is, under the name it is declared with. -/
theorem readEntry_redeclaration (h : c.IsSettled) (hs : s ∈ [c.name, c.camelName, c.pascalName])
    (identity : List String) :
    (Intake.readEntry 0 [] identity (c.redeclaration s)).2 = .ok (some { c with name := s }) := by
  obtain ⟨htrim, hcamel, hpascal⟩ := h.spellings hs
  have hempty : ¬ (Name.camel s).isEmpty = true := by
    rw [hcamel, h.isNormal.camel_eq, Name.camel_eq_empty_iff]
    exact h.isNormal.words_ne_nil
  let fields : Value := .list (c.fields.map fun f => .list [.text f.name, .text f.declared])
  let entries : List (Value × Value) :=
    [(.text "name", .text s), (.text "fields", fields), (.text "dataType", .text c.dataType)]
  have hfields : Value.field? entries "fields" = some fields := by
    simp [entries, Value.field?, Value.lookup, Value.text_same_text]
  have hpairs : Intake.fieldPairs 0 s fields
      = .ok (c.fields.map fun f => (.text f.name, .text f.declared)) := by
    refine Intake.fieldPairs_eq_ok_iff.2 (.listed rfl ?_)
    rw [List.forall₂_map_left_iff, List.forall₂_map_right_iff, List.forall₂_same]
    exact fun f _ => .pair rfl
  -- the data type is not empty, so it is not taken for one that is left out
  have hraw : Intake.rawDataType entries = .text c.dataType := by
    have hgiven : Value.field? entries "dataType" = some (.text c.dataType) := by
      simp [entries, Value.field?, Value.lookup, Value.text_same_text]
    have htruthy : (Value.text c.dataType).truthy = true := by
      rw [Value.truthy, Bool.not_eq_true', ← Bool.not_eq_true, String.isEmpty_iff]
      exact h.dataType_ne
    unfold Intake.rawDataType
    dsimp only
    rw [hgiven, Option.filter_some, if_pos htruthy]
    rfl
  -- none of the checks of a named declaration fails, and merging leaves different names as they are
  have hread : (Intake.readNamed 0 [] identity s entries fields).2 = .ok { c with name := s } := by
    have hdigit : ¬ c.camelName.toList.head?.any Text.isDigitAscii = true := by
      rw [h.isNormal.head_not_digit]
      exact Bool.false_ne_true
    unfold Intake.readNamed
    dsimp only
    rw [hcamel, if_neg hdigit, List.lookup_nil]
    dsimp only
    refine Noted.andThen_eq_ok.2 ⟨_, hpairs, Noted.andThen_eq_ok.2 ⟨c.fields,
      Intake.readFields_of_isNormal 0 s h.isAccepted.fields, ?_⟩⟩
    rw [hraw, hpascal, Intake.mergeFields_of_nodup h.isAccepted.fieldNames_nodup]
    rfl
  have hname : Value.field? entries "name" = some (.text s) := by
    simp [entries, Value.field?, Value.lookup, Value.text_same_text]
  have hgiven : Value.text s ≠ .null := fun e => by cases e
  have hlong : ¬ (!(Value.text s).isShown) = true := Bool.false_ne_true
  have hnull : ¬ fields.isNull = true := Bool.false_ne_true
  have hentries : (c.redeclaration s).entries? = some entries := rfl
  have htext : Text.trim (Value.text s).display = s := htrim
  rw [Intake.readEntry_of_name hentries hname hgiven, hfields, Option.getD_some, if_neg hlong,
    if_neg hnull, htext, if_neg hempty]
  exact Noted.andThen_eq_ok.2 ⟨_, hread, rfl⟩

end Collection.IsSettled

namespace Intake

theorem isSettled_of_readFrom {identity : List String} {entries : List Value} {index : Nat} {seen : Seen}
    {all : List Collection} (h : (readFrom identity index seen entries).2 = .ok all) :
    ∀ c ∈ all, c.IsSettled := by
  intro c hc
  obtain ⟨entry, -, hread⟩ := exists_entry_of_mem h hc
  obtain ⟨parts, name, -, -, ⟨-, hnone⟩ | ⟨-, fields, c', hfound, hnamed⟩⟩ := parts_of_readEntry hread
  · cases hnone
  · cases hfound
    refine ⟨(isNormal_of_readEntry hread).1, isAccepted_of_readEntry hread, ?_,
      dataType_ne_empty_of_readNamed hnamed⟩
    rw [(parts_of_readNamed hnamed).1, Text.trim_trim]

/-- Settled collections with different keys are read as they are when they are declared again. -/
theorem readFrom_redeclarations {all : List Collection} (h : ∀ c ∈ all, c.IsSettled)
    (hkeys : (all.map fun c => collisionKey c.camelName).Nodup) {spell : Collection → String}
    (hs : ∀ c ∈ all, spell c ∈ [c.name, c.camelName, c.pascalName]) (identity : List String) :
    (readFrom identity 0 [] (all.map fun c => c.redeclaration (spell c))).2
      = .ok (all.map fun c => { c with name := spell c }) := by
  induction all with
  | nil => rfl
  | cons c rest ih =>
    obtain ⟨hc, hrest⟩ := List.forall_mem_cons.1 h
    obtain ⟨hsc, hsrest⟩ := List.forall_mem_cons.1 hs
    rw [List.map_cons, List.nodup_cons] at hkeys
    refine (readFrom_cons_eq_ok_iff 0).2 ⟨_, _, hc.readEntry_redeclaration hsc identity,
      (readFrom_eq_ok_iff 1).2 ⟨ih hrest hkeys.2 hsrest, ?_⟩, rfl⟩
    rw [List.forall_mem_map]
    refine fun d hd => (lookup_seenAfter_eq_none_iff 0).2 ⟨?_, rfl⟩
    intro e he hkey
    cases he
    exact hkeys.1 (List.mem_map.2 ⟨d, hd, hkey.symm⟩)

/-- Intake is settled by one pass. What it returns, declared again with the names, the names and tags of
the fields, and the tags of the shapes, is returned as it is. If collections are declared under their camel
or Pascal spelling, their names change and nothing else. -/
theorem read_redeclarations {identity : List String} {raw : Value} {notes : List Note}
    {all : List Collection} (h : read identity raw = (notes, .ok all)) (others : List String) :
    (read others (.list (all.map fun c => c.redeclaration c.name))).2 = .ok all
      ∧ ∀ spell : Collection → String, (∀ c ∈ all, spell c ∈ [c.name, c.camelName, c.pascalName]) →
        (read others (.list (all.map fun c => c.redeclaration (spell c)))).2
          = .ok (all.map fun c => { c with name := spell c }) := by
  have hsettled : ∀ c ∈ all, c.IsSettled := by
    rw [read_eq] at h
    split at h
    · cases h
    · exact isSettled_of_readFrom (congrArg Prod.snd h)
  -- No key comes up again, since the keys belong to the camel spellings, which stay.
  have hkeys := (areNormal_of_read h).keys_nodup
  have hown : ∀ c ∈ all, c.name ∈ [c.name, c.camelName, c.pascalName] := fun c _ => List.mem_cons_self
  refine ⟨?_, fun spell hs => readFrom_redeclarations hsettled hkeys hs others⟩
  exact (readFrom_redeclarations hsettled hkeys hown others).trans (congrArg Except.ok (List.map_id' all))

/-- A shelf of books with an unknown type, a field without a type and a tag for its shape, declared again
under its name and under its Pascal spelling. -/
theorem read_redeclarations_of_books :
    let raw : Value := .list [declaration "?" [], .map [(.text "name", .text " my 2nd bookShelf"),
      (.text "fields", .list [.list [.text "due", .text "Date "], .tuple [.text " tags", .null]]),
      (.text "data_type", .int 7)]]
    let c : Collection := {
      name := "my 2nd bookShelf", camelName := "my2ndBookShelf", pascalName := "My2ndBookShelf",
      fields := [⟨"due", .text, "date"⟩, ⟨"tags", .text, "untyped"⟩], dataType := "7" }
    (∃ notes, read [] raw = (notes, .ok [c]))
      ∧ (read ["books"] (.list [c.redeclaration c.name])).2 = .ok [c]
      ∧ (read [] (.list [c.redeclaration "My2ndBookShelf"])).2
        = .ok [{ c with name := "My2ndBookShelf" }] := by
  intro raw c
  have h : read [] raw = (_, .ok [c]) := read_eq_of_toOption (by decide +kernel)
  have hpascal : ∀ d ∈ [c], "My2ndBookShelf" ∈ [d.name, d.camelName, d.pascalName] := by decide
  exact ⟨⟨_, h⟩, (read_redeclarations h ["books"]).1,
    (read_redeclarations h []).2 (fun _ => "My2ndBookShelf") hpascal⟩

end Intake

end Scaffold
