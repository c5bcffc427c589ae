import Scaffold.Proofs.Collection.Acceptance

/-!
# What accepted collections look like

The patterns that the spellings of accepted collections and the names and types of their fields match,
which of them differ from each other, and in which order they come.
-/

namespace Scaffold

open Text

/-! ## Camel case -/

namespace Name

/-- A small letter, more small letters or digits, and then parts that begin with a capital. -/
def IsCamelCase (cs : List Char) : Prop :=
  ∃ (first : Char) (rest : List Char) (parts : List (List Char)),
    cs = first :: rest ++ parts.flatten ∧ isLowerAscii first = true
      ∧ (∀ c ∈ rest, isSmall c = true)
      ∧ ∀ part ∈ parts, ∃ capital more, part = capital :: more ∧ isUpperAscii capital = true
        ∧ ∀ c ∈ more, isSmall c = true

/-- Letters and digits are small ones, and parts that begin with a capital. -/
theorem exists_parts {cs : List Char} (h : IsWord cs) :
    ∃ (rest : List Char) (parts : List (List Char)), cs = rest ++ parts.flatten
      ∧ (∀ c ∈ rest, isSmall c = true)
      ∧ ∀ part ∈ parts, ∃ capital more, part = capital :: more ∧ isUpperAscii capital = true
        ∧ ∀ c ∈ more, isSmall c = true := by
  induction cs with
  | nil =>
    exact ⟨[], [], rfl, fun c hc => absurd hc List.not_mem_nil,
      fun part hp => absurd hp List.not_mem_nil⟩
  | cons c cs ih =>
    obtain ⟨hc, hcs⟩ := List.forall_mem_cons.1 h
    obtain ⟨rest, parts, rfl, hr, hp⟩ := ih hcs
    cases hs : isSmall c with
    | true => exact ⟨c :: rest, parts, rfl, List.forall_mem_cons.2 ⟨hs, hr⟩, hp⟩
    | false =>
      -- A letter or digit that is not small is a capital, and what follows it goes into its part.
      have hu := isUpperAscii_of_not_isSmall hc hs
      exact ⟨[], (c :: rest) :: parts, rfl, fun d hd => absurd hd List.not_mem_nil,
        List.forall_mem_cons.2 ⟨⟨c, rest, rfl, hu, hr⟩, hp⟩⟩

end Name

/-- The camel spelling of a normal collection is in camel case. -/
theorem Collection.IsNormal.isCamelCase {c : Collection} (h : c.IsNormal) :
    Name.IsCamelCase c.camelName.toList := by
  obtain ⟨first, tail, hc, hf⟩ := h.exists_head
  have hw := h.isWord_camelName
  rw [hc] at hw
  obtain ⟨rest, parts, rfl, hr, hp⟩ :=
    Name.exists_parts fun c hm => hw c (List.mem_cons_of_mem first hm)
  exact ⟨first, rest, parts, hc, hf, hr, hp⟩

/-! ## Fields -/

/-- A field that stands in an accepted collection. -/
structure Field.IsNormal (f : Field) : Prop where
  name : Text.Matches Intake.isIdentifierStart Intake.isIdentifierChar f.name
  name_ne : f.name ≠ "id"
  declared : Text.Matches Text.isLowerAscii Intake.isTagChar f.declared
  isFallback_iff : f.isFallback = true ↔ ∀ k : Kind, f.declared ≠ k.tag
  kind_of_isFallback : f.isFallback = true → f.kind = .text

/-- The kind of a tag is the one that has it. -/
theorem Kind.ofTag?_eq_some_iff {s : String} {k : Kind} : Kind.ofTag? s = some k ↔ k.tag = s := by
  constructor
  · intro h
    exact beq_iff_eq.1 (List.find?_some (p := fun k : Kind => k.tag == s) h)
  · rintro rfl
    cases k <;> rfl

/-- A declared type falls back exactly if it is no tag. -/
theorem Kind.resolve_isFallback (rawType : Value) (name : String) :
    let f : Field := ⟨name, (Kind.resolve rawType).1, (Kind.resolve rawType).2⟩
    (f.isFallback = true ↔ ∀ k : Kind, f.declared ≠ k.tag)
      ∧ (f.isFallback = true → f.kind = .text) := by
  have huntyped : ∀ k : Kind, Kind.untypedTag ≠ k.tag := by
    intro k
    cases k <;> decide
  intro f
  have hf : f.isFallback = (!f.declared.isEmpty && f.declared != f.kind.tag) := rfl
  -- a blank type is stored as a tag of its own that no kind has, so that it falls back too
  by_cases hb : (Kind.declaredText rawType).isEmpty = true
  · have hr : Kind.resolve rawType = (.text, Kind.untypedTag) := by
      unfold Kind.resolve
      dsimp only
      rw [if_pos hb]
    have hd : f = ⟨name, .text, Kind.untypedTag⟩ := by
      show Field.mk name (Kind.resolve rawType).1 (Kind.resolve rawType).2 = _
      rw [hr]
    rw [hd]
    exact ⟨⟨fun _ => huntyped, fun _ => (by decide :
      (!Kind.untypedTag.isEmpty && Kind.untypedTag != Kind.text.tag) = true)⟩, fun _ => rfl⟩
  · have hr : Kind.resolve rawType
        = ((Kind.ofTag? (Kind.declaredText rawType)).getD .text, Kind.declaredText rawType) := by
      unfold Kind.resolve
      dsimp only
      rw [if_neg hb]
    have hd : f = ⟨name, (Kind.ofTag? (Kind.declaredText rawType)).getD .text,
        Kind.declaredText rawType⟩ := by
      show Field.mk name (Kind.resolve rawType).1 (Kind.resolve rawType).2 = _
      rw [hr]
    rw [hf, hd]
    dsimp only
    rw [eq_false_of_ne_true hb, Bool.not_false, Bool.true_and, bne_iff_ne]
    cases hk : Kind.ofTag? (Kind.declaredText rawType) with
    | some k =>
      have ht := Kind.ofTag?_eq_some_iff.1 hk
      rw [Option.getD_some, ht]
      exact ⟨iff_of_false (fun h => h rfl) fun h => h k ht.symm, fun h => absurd rfl h⟩
    | none =>
      have hne : ∀ k : Kind, Kind.declaredText rawType ≠ k.tag := by
        intro k e
        rw [Kind.ofTag?_eq_some_iff.2 e.symm] at hk
        cases hk
      rw [Option.getD_none]
      exact ⟨⟨fun _ => hne, fun _ => hne .text⟩, fun _ => rfl⟩

namespace Intake

theorem isNormal_of_readField {index : Nat} {name : String} {rawName rawType : Value} {f : Field}
    (h : (readField index name rawName rawType).2 = .ok f) : f.IsNormal := by
  obtain ⟨rfl, -, hid, hreserved, htag⟩ := checks_of_readField (Prod.ext rfl h)
  obtain ⟨hiff, hkind⟩ := Kind.resolve_isFallback rawType (fieldName rawName)
  refine ⟨isIdentifier_iff.1 hid, fun e => ?_, isTypeTag_iff.1 htag, hiff, hkind⟩
  rw [e] at hreserved
  cases hreserved

theorem isNormal_of_readFields {index : Nat} {name : String} {pairs : List (Value × Value)}
    {fs : List Field} (h : (readFields index name pairs).2 = .ok fs) : ∀ f ∈ fs, f.IsNormal := by
  induction pairs generalizing fs with
  | nil =>
    cases h
    exact fun f hf => absurd hf List.not_mem_nil
  | cons pair rest ih =>
    obtain ⟨f, hf, h⟩ := Noted.andThen_eq_ok.1 h
    obtain ⟨others, ho, h⟩ := Noted.andThen_eq_ok.1 h
    cases h
    exact List.forall_mem_cons.2 ⟨isNormal_of_readField hf, ih ho⟩

/-- The names after a field is put among others: a new name comes last. -/
theorem names_putField (f : Field) (fs : List Field) :
    (putField f fs).map Field.name
      = if f.name ∈ fs.map Field.name then fs.map Field.name else fs.map Field.name ++ [f.name] := by
  induction fs with
  | nil => rfl
  | cons g rest ih =>
    rw [putField]
    by_cases hg : g.name = f.name
    · rw [if_pos (beq_iff_eq.2 hg), List.map_cons, List.map_cons, hg,
        if_pos List.mem_cons_self]
    · rw [if_neg fun h => hg (beq_iff_eq.1 h), List.map_cons, List.map_cons, ih]
      simp only [List.mem_cons, Ne.symm hg, false_or, List.cons_append]
      split <;> rfl

/-- No two merged fields have one name. -/
theorem nodup_mergeFields (fs : List Field) : ((mergeFields fs).map Field.name).Nodup := by
  -- Putting one field keeps names different, so the fold does from any different names on.
  have step : ∀ acc : List Field, (acc.map Field.name).Nodup →
      ((fs.foldl (fun acc f => putField f acc) acc).map Field.name).Nodup := by
    induction fs with
    | nil => exact fun acc h => h
    | cons f rest ih =>
      intro acc h
      refine ih (putField f acc) ?_
      rw [names_putField]
      split
      · exact h
      next hm =>
        rw [List.nodup_append]
        refine ⟨h, List.pairwise_singleton _ _, ?_⟩
        rintro a ha b hb rfl
        rw [List.mem_singleton] at hb
        exact hm (hb ▸ ha)
  exact step [] List.nodup_nil

end Intake

/-! ## Accepted collections -/

/-- A collection whose spellings and fields match their patterns. -/
structure Collection.IsAccepted (c : Collection) : Prop where
  isCamelCase : Name.IsCamelCase c.camelName.toList
  pascalName_eq : c.pascalName.toList = Name.capitalize c.camelName.toList
  fieldNames_nodup : (c.fields.map Field.name).Nodup
  fields : ∀ f ∈ c.fields, f.IsNormal

namespace Intake

/-- The camel spelling of the name of a declaration. A declaration that is dropped has none. -/
def declaredName? (entry : Value) : Option String :=
  ((entry.entries?.bind fun entries => Value.field? entries "name").map fun name =>
    Name.camel (Text.trim name.display)).filter (!·.isEmpty)

section

variable {index : Nat} {seen : Seen} {identity : List String}

/-- A declaration is read as a collection with its name, or dropped. -/
theorem declaredName?_of_readEntry {entry : Value} {found : Option Collection}
    (h : (readEntry index seen identity entry).2 = .ok found) :
    declaredName? entry = found.map Collection.camelName := by
  obtain ⟨entries, name, he, hn, hfound⟩ := parts_of_readEntry h
  unfold declaredName?
  rw [he, Option.bind_some, hn, Option.map_some, Option.filter_some]
  rcases hfound with ⟨hl, rfl⟩ | ⟨hl, fields, c, rfl, hc⟩
  · rw [hl]
    rfl
  · rw [eq_false_of_ne_true hl, Option.map_some, (parts_of_readNamed hc).2.1]
    rfl

theorem isAccepted_of_readEntry {entry : Value} {c : Collection}
    (h : (readEntry index seen identity entry).2 = .ok (some c)) : c.IsAccepted := by
  have hn := (isNormal_of_readEntry h).1
  obtain ⟨entries, name, -, -, ⟨-, hnone⟩ | ⟨-, fields, c', hfound, hc⟩⟩ := parts_of_readEntry h
  · cases hnone
  · cases hfound
    obtain ⟨-, -, pairs, fs, -, hf, hm⟩ := parts_of_readNamed hc
    refine ⟨hn.isCamelCase, hn.pascalName_eq_capitalize, ?_, fun f hfm => ?_⟩
    · rw [hm]
      exact nodup_mergeFields fs
    · rw [hm] at hfm
      exact isNormal_of_readFields hf f (mem_mergeFields hfm)

/-- Collections come in the order of their declarations. -/
theorem isAccepted_of_readFrom {entries : List Value} {all : List Collection}
    (h : (readFrom identity index seen entries).2 = .ok all) :
    (∀ c ∈ all, c.IsAccepted) ∧ all.map Collection.camelName = entries.filterMap declaredName? := by
  induction entries generalizing index seen all with
  | nil =>
    cases h
    exact ⟨fun c hc => absurd hc List.not_mem_nil, rfl⟩
  | cons entry rest ih =>
    obtain ⟨found, hf, h⟩ := Noted.andThen_eq_ok.1 h
    have hname := declaredName?_of_readEntry hf
    cases found with
    | none =>
      rw [List.filterMap_cons_none hname]
      exact ih h
    | some c =>
      obtain ⟨others, ho, h⟩ := Noted.andThen_eq_ok.1 h
      cases h
      obtain ⟨hall, hnames⟩ := ih ho
      rw [List.filterMap_cons_some hname, List.map_cons, hnames]
      exact ⟨List.forall_mem_cons.2 ⟨isAccepted_of_readEntry hf, hall⟩, rfl⟩

end

theorem isAccepted_of_read {identity : List String} {raw : Value} {notes : List Note}
    {all : List Collection} (h : read identity raw = (notes, .ok all)) : ∀ c ∈ all, c.IsAccepted := by
  rw [read_eq] at h
  split at h
  · cases h
  · exact (isAccepted_of_readFrom (congrArg Prod.snd h)).1

/-- Collections that intake returns match their patterns, come in the order of their declarations, and
have names that differ also without regard to capitals. -/
theorem accepted_collections {identity : List String} {raw : Value} {notes : List Note}
    {all : List Collection} (h : read identity raw = (notes, .ok all)) :
    (∀ c ∈ all, c.IsAccepted)
      ∧ (all.map fun c => Text.lower c.camelName).Nodup
      ∧ ∃ entries, entriesOf? raw = some entries
        ∧ all.map Collection.camelName = entries.filterMap declaredName? := by
  have hn := areNormal_of_read h
  have hlower : (all.map fun c => Text.lower c.camelName)
      = all.map fun c => collisionKey c.camelName :=
    List.map_congr_left fun c hc => (hn.each c hc).lower_camelName
  rw [hlower]
  rw [read_eq] at h
  split at h
  · cases h
  next entries he =>
    obtain ⟨hall, hnames⟩ := isAccepted_of_readFrom (congrArg Prod.snd h)
    exact ⟨hall, hn.keys_nodup, entries, he, hnames⟩

/-- Books with two fields of one name, and a declaration that is dropped. -/
theorem accepted_books :
    let raw : Value := .list [declaration "?" [], .map [(.text "name", .text "my 2nd bookShelf"),
      (.text "fields", .list [.list [.text "due", .text "date"], .tuple [.text "tags", .null],
        .list [.text " due", .text "TimeStamp "]])]]
    let c : Collection := {
      name := "my 2nd bookShelf", camelName := "my2ndBookShelf", pascalName := "My2ndBookShelf",
      fields := [⟨"due", .timestamp, "timestamp"⟩, ⟨"tags", .text, "untyped"⟩] }
    ∃ notes, read [] raw = (notes, .ok [c]) ∧ c.IsAccepted := by
  intro raw c
  have h : read [] raw = (_, .ok [c]) := read_eq_of_toOption (by decide +kernel)
  exact ⟨_, h, (accepted_collections h).1 c List.mem_cons_self⟩

end Intake

end Scaffold
