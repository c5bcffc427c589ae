import Scaffold.Proofs.Field.Blank
import Scaffold.Proofs.Field.Moments
import Scaffold.Proofs.Field.Objects
import Scaffold.Proofs.Validation.Records

/-!
# Records that are saved again

A form shows every field of a record as form text, and saving it unchanged reads the texts back. A valid
record is valid again unless a moment is cut where it cannot be cut, or an object is one that has no text.
-/

namespace Scaffold

open Plan (Record valueOf)

/-! ## Values -/

namespace Kind

/-- The value that is saved when a value is shown in a form and left alone. -/
def resaved (k : Kind) (v : Value) : Option Value :=
  (k.encode v).toOption.bind fun shown => (k.decode shown).toOption

/-- A value that a field of the kind may have: it is filled in and of the kind. -/
def Admits (k : Kind) (v : Value) : Prop := v.isBlank = .ok false ∧ k.accepts v = true

/-- What data of the kind needs to be valid again. A moment has to be one after the first sixteen characters,
and an object must not hold a number of too many digits. -/
def Survives : Kind → Value → Prop
  | timestamp, v => ∃ s, momentInput v = .ok s ∧ isMomentText s = true
  | object, v => v.isShown = true
  | _, _ => True

/-! ### Lists -/

/-- A list that is filled in is read back as a list of texts that is filled in. -/
theorem exists_resaved_list {items : List Value} (h : (Value.list items).isBlank = .ok false) :
    ∃ w, list.resaved (.list items) = some w ∧ list.Admits w := by
  rw [isBlank_list] at h
  cases hparts : Value.scriptTexts items with
  | error e =>
    rw [hparts] at h
    cases h
  | ok parts =>
    rw [hparts] at h
    have hencode : list.encode (.list items) = .ok (.text (commaList parts)) := by
      show ((listText items).mapError EncodeFault.text).map Value.text = _
      rw [listText, hparts]
      rfl
    refine ⟨Value.texts (listEntries (commaList parts)), ?_, ?_, rfl⟩
    · rw [resaved, hencode]
      show (list.decode (.text (commaList parts))).toOption = _
      rw [decode_list_text]
      rfl
    · rw [Value.texts, isBlank_list, scriptTexts_texts]
      exact congrArg Except.ok (isBlankText_listEntries (isBlankText_commaList (Except.ok.inj h)))

/-! ### Objects -/

theorem exists_resaved_object_iff {o : List (String × Value)} (h : (Value.record o).IsData) :
    (∃ w, object.resaved (Value.record o) = some w ∧ object.Admits w) ↔ object.Survives (Value.record o) := by
  rcases decode_encode_object_cases h with ⟨hshown, s, hencode, hdecode⟩ | ⟨hshown, hencode⟩
  · -- A mapping is always filled in, also one without entries.
    refine ⟨fun _ => hshown, fun _ => ⟨Value.record o, ?_, Value.isBlank_map _, rfl⟩⟩
    rw [resaved, hencode]
    show (object.decode (.text s)).toOption = _
    rw [hdecode]
    rfl
  · rw [resaved, hencode]
    exact ⟨fun ⟨w, hw, _⟩ => (nomatch hw), fun hs => absurd (hshown.symm.trans hs) Bool.false_ne_true⟩

/-! ### Moments -/

theorem admits_timestamp_text_iff {s : String} : timestamp.Admits (.text s) ↔ isMomentText s = true :=
  ⟨fun h => h.2, fun h => ⟨congrArg Except.ok (isBlankText_of_isMomentText h), h⟩⟩

theorem survives_timestamp_text_iff {s : String} :
    timestamp.Survives (.text s) ↔ isMomentText (inputStart s) = true := by
  constructor
  · rintro ⟨t, ht, h⟩
    cases ht
    exact h
  · exact fun h => ⟨_, momentInput_text s, h⟩

/-- A moment text that fits the input, or that begins in the form of the input, is one in the input. -/
theorem survives_timestamp {s : String} (h : isMomentText s = true)
    (hs : s.toList.length ≤ inputLength ∨ Iso.beginsExtended s.toList = true) :
    timestamp.Survives (.text s) := by
  rw [survives_timestamp_text_iff]
  rcases hs with hs | hs
  · rw [inputStart, List.take_of_length_le hs, String.ofList_toList]
    exact h
  · exact isMomentText_inputStart hs h

/-! ### All kinds -/

/-- A valid value is valid again exactly if it outlasts the form. -/
theorem exists_resaved_iff {k : Kind} {v : Value} (hd : v.IsData) (h : k.Admits v) :
    (∃ w, k.resaved v = some w ∧ k.Admits w) ↔ k.Survives v := by
  cases k with
  | text | number | boolean | email => exact ⟨fun _ => trivial, fun _ => ⟨v, rfl, h⟩⟩
  | list =>
    refine ⟨fun _ => trivial, fun _ => ?_⟩
    -- Data that is accepted here is a list; there are no tuples among data.
    cases hd with
    | list hitems => exact exists_resaved_list h.1
    | _ => cases h.2
  | object =>
    cases hd with
    | record hkeys hitems => exact exists_resaved_object_iff (.record hkeys hitems)
    | _ => cases h.2
  | timestamp =>
    cases hd with
    | text s =>
      rw [survives_timestamp_text_iff]
      refine ⟨fun ⟨w, hw, hadmits⟩ => ?_, fun hs => ⟨_, rfl, admits_timestamp_text_iff.2 hs⟩⟩
      cases hw
      exact admits_timestamp_text_iff.1 hadmits
    | _ => cases h.2

end Kind

/-! ## Records -/

/-- A record with a field's value shown and read back, and put where the old one was. -/
def Field.resaveIn (record back : Record) (f : Field) : Option Record :=
  (f.kind.resaved (valueOf record f.name)).map fun v => Value.insert (.text f.name) v back

/-- The record that is saved when a record is shown in a form and left alone. -/
def Collection.resaved (c : Collection) (record : Record) : Option Record :=
  c.fields.foldlM (Field.resaveIn record) record

theorem valueOf_insert (key : String) (v : Value) (record : Record) (name : String) :
    valueOf (Value.insert (.text key) v record) name = if key = name then v else valueOf record name := by
  rw [valueOf, Value.field?_insert]
  split <;> rfl

section

variable {record : Record}

/-- Saving fields again leaves all other values alone. -/
theorem valueOf_foldlM_resaveIn {fields : List Field} {name : String} (h : name ∉ fields.map Field.name)
    {back last : Record} (hl : fields.foldlM (Field.resaveIn record) back = some last) :
    valueOf last name = valueOf back name := by
  induction fields generalizing back with
  | nil =>
    cases hl
    rfl
  | cons f rest ih =>
    rw [List.map_cons, List.mem_cons, not_or] at h
    rw [List.foldlM_cons] at hl
    obtain ⟨next, hnext, hrest⟩ := Option.bind_eq_some_iff.1 hl
    obtain ⟨w, -, rfl⟩ := Option.map_eq_some_iff.1 hnext
    rw [ih h.2 hrest, valueOf_insert, if_neg (Ne.symm h.1)]

/-- Fields with different names are saved again independently of one another. -/
theorem exists_foldlM_resaveIn_iff {fields : List Field} (hn : (fields.map Field.name).Nodup) (back : Record) :
    (∃ last, fields.foldlM (Field.resaveIn record) back = some last
        ∧ ∀ f ∈ fields, f.kind.Admits (valueOf last f.name))
      ↔ ∀ f ∈ fields, ∃ w, f.kind.resaved (valueOf record f.name) = some w ∧ f.kind.Admits w := by
  induction fields generalizing back with
  | nil =>
    exact ⟨fun _ f hf => absurd hf List.not_mem_nil,
      fun _ => ⟨back, rfl, fun f hf => absurd hf List.not_mem_nil⟩⟩
  | cons f rest ih =>
    rw [List.map_cons, List.nodup_cons] at hn
    cases hw : f.kind.resaved (valueOf record f.name) with
    | none =>
      constructor
      · rintro ⟨last, hl, -⟩
        rw [List.foldlM_cons, Field.resaveIn, hw] at hl
        cases hl
      · intro h
        obtain ⟨w, hsome, -⟩ := h f List.mem_cons_self
        rw [hw] at hsome
        cases hsome
    | some w =>
      have hstep : (f :: rest).foldlM (Field.resaveIn record) back
          = rest.foldlM (Field.resaveIn record) (Value.insert (.text f.name) w back) := by
        rw [List.foldlM_cons, Field.resaveIn, hw]
        rfl
      -- The fields that follow have other names and leave the value of this one alone.
      have hfirst : ∀ last, rest.foldlM (Field.resaveIn record) (Value.insert (.text f.name) w back) = some last →
          valueOf last f.name = w := fun last hl => by
        rw [valueOf_foldlM_resaveIn hn.1 hl, valueOf_insert, if_pos rfl]
      rw [hstep, List.forall_mem_cons, ← ih hn.2 (Value.insert (.text f.name) w back)]
      constructor
      · rintro ⟨last, hl, h⟩
        rw [List.forall_mem_cons, hfirst last hl] at h
        exact ⟨⟨w, hw, h.1⟩, last, hl, h.2⟩
      · rintro ⟨⟨w', hw', hadmits⟩, last, hl, h⟩
        rw [hw] at hw'
        cases hw'
        refine ⟨last, hl, List.forall_mem_cons.2 ⟨?_, h⟩⟩
        rw [hfirst last hl]
        exact hadmits

end

namespace Plan

variable {c : Collection} {record : Record}

/-- A valid record of data that is opened in a form and saved unchanged is valid again exactly if its moments
are moments after their first sixteen characters, and its objects hold no number of too many digits. A moment
of at most sixteen characters, or one that begins with the day and the time to the minute as date-time inputs
write them, is one of these. -/
theorem check_resaved_iff {identity : List String} {raw : Value} {notes : List Note} {all : List Collection}
    (h : Intake.read identity raw = (notes, .ok all)) (hc : c ∈ all)
    (hdata : ∀ f ∈ c.fields, (valueOf record f.name).IsData) (hvalid : (ofCollection c).check record = .ok []) :
    ((∃ back, c.resaved record = some back ∧ (ofCollection c).check back = .ok [])
      ↔ ∀ f ∈ c.fields, f.kind.Survives (valueOf record f.name))
    ∧ ∀ f ∈ c.fields, ∀ s, f.kind = .timestamp → valueOf record f.name = .text s →
      (s.toList.length ≤ inputLength ∨ Iso.beginsExtended s.toList = true) →
        f.kind.Survives (valueOf record f.name) := by
  have hadmits : ∀ f ∈ c.fields, f.kind.Admits (valueOf record f.name) := check_eq_nil_iff.1 hvalid
  constructor
  · calc (∃ back, c.resaved record = some back ∧ (ofCollection c).check back = .ok [])
      _ ↔ ∃ back, c.resaved record = some back ∧ ∀ f ∈ c.fields, f.kind.Admits (valueOf back f.name) :=
        exists_congr fun back => and_congr_right fun _ => check_eq_nil_iff
      _ ↔ ∀ f ∈ c.fields, ∃ w, f.kind.resaved (valueOf record f.name) = some w ∧ f.kind.Admits w :=
        exists_foldlM_resaveIn_iff ((Intake.accepted_collections h).1 c hc).fieldNames_nodup record
      _ ↔ ∀ f ∈ c.fields, f.kind.Survives (valueOf record f.name) :=
        forall₂_congr fun f hf => Kind.exists_resaved_iff (hdata f hf) (hadmits f hf)
  · intro f hf s hkind htext hs
    have ha := hadmits f hf
    rw [hkind, htext] at ha ⊢
    exact Kind.survives_timestamp (Kind.admits_timestamp_text_iff.1 ha) hs

/-- An event with a moment, a list and an object, which come back as they can. -/
theorem check_resaved_of_events :
    let raw : Value := .list [Intake.declaration "event"
      [("when", "timestamp"), ("tags", "array"), ("place", "object"), ("seats", "number")]]
    let c : Collection := {
      name := "event", camelName := "event", pascalName := "Event",
      fields := [⟨"when", .timestamp, "timestamp"⟩, ⟨"tags", .list, "array"⟩, ⟨"place", .object, "object"⟩,
        ⟨"seats", .number, "number"⟩] }
    let record : Record := [(.text "seats", .int 3), (.text "when", .text "2024-05-01T09:05:30.5+02:00"),
      (.text "tags", .list [.text " a,", .null, .bool true]),
      (.text "place", Value.record [("city", .text "Oslo"), ("open", .list [.bool false])])]
    (∃ notes, Intake.read [] raw = (notes, .ok [c])) ∧ (∀ f ∈ c.fields, (valueOf record f.name).IsData)
      ∧ (ofCollection c).check record = .ok []
      ∧ ∃ back, c.resaved record = some back ∧ (ofCollection c).check back = .ok [] := by
  intro raw c record
  have h : Intake.read [] raw = (_, .ok [c]) := Intake.read_eq_of_toOption (by decide +kernel)
  have hvalid : (ofCollection c).check record = .ok [] := by decide +kernel
  have hwhen : valueOf record "when" = .text "2024-05-01T09:05:30.5+02:00" := by
    simp [record, valueOf, Value.field?, Value.lookup, Value.text_same_text]
  have htags : valueOf record "tags" = .list [.text " a,", .null, .bool true] := by
    simp [record, valueOf, Value.field?, Value.lookup, Value.text_same_text]
  have hplace : valueOf record "place"
      = Value.record [("city", .text "Oslo"), ("open", .list [.bool false])] := by
    simp [record, valueOf, Value.field?, Value.lookup, Value.text_same_text]
  have hseats : valueOf record "seats" = .int 3 := by
    simp [record, valueOf, Value.field?, Value.lookup, Value.text_same_text]
  have hdata : ∀ f ∈ c.fields, (valueOf record f.name).IsData := by
    simp only [c, List.forall_mem_cons, hwhen, htags, hplace, hseats]
    refine ⟨.text _, .list ?_, .record (by decide) ?_, .int 3, fun f hf => absurd hf List.not_mem_nil⟩
    · simp only [List.forall_mem_cons]
      exact ⟨.text _, .null, .bool true, fun v hv => absurd hv List.not_mem_nil⟩
    · simp only [List.forall_mem_cons]
      exact ⟨.text _, .list (List.forall_mem_singleton.2 (.bool false)), fun e he => absurd he List.not_mem_nil⟩
  refine ⟨⟨_, h⟩, hdata, hvalid, (check_resaved_iff h List.mem_cons_self hdata hvalid).1.2 ?_⟩
  simp only [c, List.forall_mem_cons, hwhen, htags, hplace, hseats]
  -- a moment must still be one after it is cut to the length of an input
  refine ⟨Kind.survives_timestamp (by decide +kernel) (.inr (by decide)), trivial, rfl, trivial,
    fun f hf => absurd hf List.not_mem_nil⟩

/-- A moment behind two blanks is cut within its minutes, and is no moment any more. -/
theorem check_resaved_of_blank_start :
    let raw : Value := .list [Intake.declaration "event" [("when", "timestamp")]]
    let c : Collection := {
      name := "event", camelName := "event", pascalName := "Event",
      fields := [⟨"when", .timestamp, "timestamp"⟩] }
    let record : Record := [(.text "when", .text "  2024-05-01T09:05")]
    (∃ notes, Intake.read [] raw = (notes, .ok [c])) ∧ (∀ e ∈ record, e.2.IsData)
      ∧ (ofCollection c).check record = .ok []
      ∧ c.resaved record = some [(.text "when", .text "  2024-05-01T09:")]
      ∧ (ofCollection c).check [(.text "when", .text "  2024-05-01T09:")]
        = .ok ["when must be a valid date."] := by
  intro raw c record
  have h : Intake.read [] raw = (_, .ok [c]) := Intake.read_eq_of_toOption (by decide +kernel)
  refine ⟨⟨_, h⟩, List.forall_mem_singleton.2 (.text _), by decide +kernel, ?_, by decide +kernel⟩
  have hwhen : valueOf record "when" = .text "  2024-05-01T09:05" := by
    simp [record, valueOf, Value.field?, Value.lookup, Value.text_same_text]
  have hcut : inputStart "  2024-05-01T09:05" = "  2024-05-01T09:" := by decide +kernel
  show (Field.resaveIn record record ⟨"when", .timestamp, "timestamp"⟩).bind some = _
  rw [Field.resaveIn, hwhen]
  show some (Value.insert (.text "when") (.text (inputStart "  2024-05-01T09:05")) record) = _
  rw [hcut, Value.insert, Value.text_same_text]
  rfl

end Plan

end Scaffold
