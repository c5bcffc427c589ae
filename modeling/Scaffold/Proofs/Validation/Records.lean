import Mathlib.Data.List.Perm.Basic
import Scaffold.Proofs.Collection.Invariants
import Scaffold.Proofs.Field.Blank
import Scaffold.Validation.Plan

/-!
# Messages for records

A plan goes through the fields of a record twice, first for those that are not filled in and then for values
of another kind. In the end a field has at most one message, which depends on the value of the field alone.
A value of which it cannot be told whether it is filled in ends the check.
-/

namespace Scaffold

open Plan (Record valueOf)

/-! ## The message of a field -/

namespace Field

/-- It can be told whether the field is filled in. -/
def IsTold (record : Record) (f : Field) : Prop := ∃ blank, (valueOf record f.name).isBlank = .ok blank

/-- The fault of the first field of which it cannot be told whether it is filled in. -/
def firstFault? (record : Record) (fields : List Field) : Option TextFault :=
  fields.findSome? fun f =>
    match (valueOf record f.name).isBlank with
    | .ok _ => none
    | .error e => some e

/-- The field is not filled in. -/
def isMissing (record : Record) (f : Field) : Bool :=
  match (valueOf record f.name).isBlank with
  | .ok blank => blank
  | .error _ => false

/-- The field is filled in with a value of another kind. -/
def isMistyped (record : Record) (f : Field) : Bool :=
  !f.isMissing record && !f.kind.accepts (valueOf record f.name)

/-- The message for a field: that it is required, or what it must be. -/
def message? (record : Record) (f : Field) : Option String :=
  if f.isMissing record then some (requiredMessage f.name)
  else if f.isMistyped record then some (f.kind.typeMessage f.name)
  else none

variable {record : Record}

theorem message?_cases (record : Record) (f : Field) :
    (f.isMissing record = true ∧ f.isMistyped record = false
        ∧ f.message? record = some (requiredMessage f.name))
      ∨ (f.isMissing record = false ∧ f.isMistyped record = true
        ∧ f.message? record = some (f.kind.typeMessage f.name))
      ∨ (f.isMissing record = false ∧ f.isMistyped record = false ∧ f.message? record = none) := by
  unfold message? isMistyped
  cases f.isMissing record with
  | true => exact .inl ⟨rfl, rfl, rfl⟩
  | false =>
    cases f.kind.accepts (valueOf record f.name) with
    | true => exact .inr (.inr ⟨rfl, rfl, rfl⟩)
    | false => exact .inr (.inl ⟨rfl, rfl, rfl⟩)

/-- A field without a message is filled in with a value of its kind. -/
theorem message?_eq_none_iff {f : Field} (h : f.IsTold record) : f.message? record = none
    ↔ (valueOf record f.name).isBlank = .ok false ∧ f.kind.accepts (valueOf record f.name) = true := by
  obtain ⟨blank, hb⟩ := h
  have hmissing : f.isMissing record = blank := by
    rw [isMissing, hb]
  unfold message? isMistyped
  rw [hmissing, hb]
  cases blank <;> cases f.kind.accepts (valueOf record f.name) <;> simp

theorem firstFault?_cons (record : Record) (f : Field) (rest : List Field) :
    firstFault? record (f :: rest) = match (valueOf record f.name).isBlank with
      | .ok _ => firstFault? record rest
      | .error e => some e := by
  rw [firstFault?, List.findSome?_cons]
  cases (valueOf record f.name).isBlank <;> rfl

theorem firstFault?_congr {other : Record} {fields : List Field}
    (h : ∀ f ∈ fields, valueOf other f.name = valueOf record f.name) :
    firstFault? other fields = firstFault? record fields := by
  induction fields with
  | nil => rfl
  | cons f rest ih =>
    obtain ⟨hf, hrest⟩ := List.forall_mem_cons.1 h
    rw [firstFault?_cons, firstFault?_cons, hf, ih hrest]

theorem firstFault?_eq_none_iff {fields : List Field} :
    firstFault? record fields = none ↔ ∀ f ∈ fields, f.IsTold record := by
  rw [firstFault?, List.findSome?_eq_none_iff]
  refine forall₂_congr fun f _ => ?_
  unfold IsTold
  cases (valueOf record f.name).isBlank with
  | ok blank => exact ⟨fun _ => ⟨blank, rfl⟩, fun _ => rfl⟩
  | error e => exact ⟨nofun, nofun⟩

/-- The messages of missing fields and those of mistyped ones are the messages of all fields in another
order. -/
theorem perm_filterMap_message? (record : Record) (fields : List Field) :
    ((fields.filter (isMissing record)).map (fun f => requiredMessage f.name)
        ++ (fields.filter (isMistyped record)).map fun f => f.kind.typeMessage f.name).Perm
      (fields.filterMap (message? record)) := by
  induction fields with
  | nil => exact .nil
  | cons f rest ih =>
    obtain ⟨hm, ht, h⟩ | ⟨hm, ht, h⟩ | ⟨hm, ht, h⟩ := message?_cases record f
    · rw [List.filter_cons_of_pos hm, List.filter_cons_of_neg (Bool.eq_false_iff.1 ht),
        List.filterMap_cons_some h]
      exact ih.cons _
    · rw [List.filter_cons_of_neg (Bool.eq_false_iff.1 hm), List.filter_cons_of_pos ht,
        List.filterMap_cons_some h]
      exact List.perm_middle.trans (ih.cons _)
    · rw [List.filter_cons_of_neg (Bool.eq_false_iff.1 hm),
        List.filter_cons_of_neg (Bool.eq_false_iff.1 ht), List.filterMap_cons_none h]
      exact ih

end Field

/-! ## The field of a message -/

theorem Field.IsNormal.blank_not_mem_name {f : Field} (h : f.IsNormal) : ' ' ∉ f.name.toList := by
  obtain ⟨c, cs, hs, hc, hcs⟩ := h.name
  rw [hs]
  intro hm
  rcases List.mem_cons.1 hm with rfl | hm
  · exact absurd hc (by decide)
  · exact absurd (hcs _ hm) (by decide)

/-- What stands in front of the first blank. -/
def firstWordOf (message : String) : List Char := message.toList.takeWhile (· != ' ')

theorem firstWordOf_append {name rest : String} {cs : List Char} (h : ' ' ∉ name.toList)
    (hr : rest.toList = ' ' :: cs) : firstWordOf (name ++ rest) = name.toList := by
  have hall : ∀ c ∈ name.toList, (c != ' ') = true := fun c hc => bne_iff_ne.2 fun e => h (e ▸ hc)
  rw [firstWordOf, String.toList_append, hr, List.takeWhile_append_of_pos hall,
    List.takeWhile_cons_of_neg (by decide), List.append_nil]

theorem firstWordOf_requiredMessage {name : String} (h : ' ' ∉ name.toList) :
    firstWordOf (requiredMessage name) = name.toList := firstWordOf_append h rfl

theorem Kind.firstWordOf_typeMessage (k : Kind) {name : String} (h : ' ' ∉ name.toList) :
    firstWordOf (k.typeMessage name) = name.toList := by
  rw [Kind.typeMessage, String.append_assoc, String.append_assoc]
  exact firstWordOf_append h String.toList_append

namespace Field

variable {record : Record}

/-- The name of a field is the first word of its message. -/
theorem firstWordOf_message {f : Field} (h : f.IsNormal) {m : String} (hm : f.message? record = some m) :
    firstWordOf m = f.name.toList := by
  obtain ⟨-, -, e⟩ | ⟨-, -, e⟩ | ⟨-, -, e⟩ := message?_cases record f
  all_goals
    rw [hm] at e
    cases e
  · exact firstWordOf_requiredMessage h.blank_not_mem_name
  · exact f.kind.firstWordOf_typeMessage h.blank_not_mem_name

/-- Fields with different names have different messages. -/
theorem nodup_filterMap_message? {fields : List Field} (h : ∀ f ∈ fields, f.IsNormal)
    (hn : (fields.map Field.name).Nodup) : (fields.filterMap (message? record)).Nodup := by
  rw [List.Nodup, List.pairwise_filterMap]
  refine (List.pairwise_map.1 hn).imp_of_mem fun {f g} hf hg hne m hm m' hm' => ?_
  rintro rfl
  exact hne (String.toList_inj.1 ((firstWordOf_message (h f hf) hm).symm.trans
    (firstWordOf_message (h g hg) hm')))

end Field

namespace Plan

variable {c : Collection} {record : Record}

/-! ## Checking -/

/-- The missing fields are found unless there is one of which it cannot be told. -/
theorem blanksOf_required (record : Record) (fields : List Field) :
    blanksOf record (fields.map fun f => ⟨f.name, requiredMessage f.name⟩)
      = match Field.firstFault? record fields with
        | some e => .error e
        | none => .ok ((fields.filter (Field.isMissing record)).map
            fun f => ⟨f.name, requiredMessage f.name⟩) := by
  induction fields with
  | nil => rfl
  | cons f rest ih =>
    rw [List.map_cons, blanksOf, ih, Field.firstFault?_cons]
    dsimp only
    cases hb : (valueOf record f.name).isBlank with
    | error e => rfl
    | ok blank =>
      dsimp only
      cases Field.firstFault? record rest with
      | some e => rfl
      | none =>
        have hmissing : f.isMissing record = blank := by
          rw [Field.isMissing, hb]
        cases blank with
        | true =>
          rw [List.filter_cons_of_pos hmissing]
          rfl
        | false =>
          rw [List.filter_cons_of_neg (Bool.eq_false_iff.1 hmissing)]
          rfl

/-- Whether a field is missing depends on its name only, so that it is enough to keep the names. -/
theorem contains_missing {f : Field} (hf : f ∈ c.fields) :
    ((c.fields.filter (Field.isMissing record)).map Field.name).contains f.name = f.isMissing record := by
  rw [Bool.eq_iff_iff, List.contains_iff_mem, List.mem_map]
  constructor
  · rintro ⟨g, hg, hname⟩
    have hmissing := (List.mem_filter.1 hg).2
    rw [Field.isMissing, hname] at hmissing
    exact hmissing
  · intro h
    exact ⟨f, List.mem_filter.2 ⟨hf, h⟩, rfl⟩

theorem mistyped_ofCollection (c : Collection) (record : Record) :
    (ofCollection c).mistyped record ((c.fields.filter (Field.isMissing record)).map Field.name)
      = (c.fields.filter (Field.isMistyped record)).map TypeCheck.ofField := by
  rw [mistyped]
  show (c.fields.map TypeCheck.ofField).filter _ = _
  rw [List.filter_map]
  refine congrArg (List.map TypeCheck.ofField) (List.filter_congr fun f hf => ?_)
  show (!((c.fields.filter (Field.isMissing record)).map Field.name).contains f.name && _) = _
  rw [contains_missing hf]
  rfl

/-- The messages for the missing fields of a collection, then those for the mistyped ones. -/
def messagesFor (c : Collection) (record : Record) : List String :=
  (c.fields.filter (Field.isMissing record)).map (fun f => requiredMessage f.name)
    ++ (c.fields.filter (Field.isMistyped record)).map fun f => f.kind.typeMessage f.name

/-- The messages of a plan are those of the missing fields, then those of the mistyped ones. -/
theorem check_ofCollection (c : Collection) (record : Record) : (ofCollection c).check record
    = match Field.firstFault? record c.fields with
      | some e => .error e
      | none => .ok (messagesFor c record) := by
  have hblanks := blanksOf_required record c.fields
  have hmistyped := mistyped_ofCollection c record
  have hrequired : (ofCollection c).required = c.fields.map fun f => ⟨f.name, requiredMessage f.name⟩ := rfl
  rw [check, hrequired, hblanks]
  cases Field.firstFault? record c.fields with
  | some e => rfl
  | none =>
    have hnames : ((c.fields.filter (Field.isMissing record)).map fun f =>
        (⟨f.name, requiredMessage f.name⟩ : RequiredCheck)).map RequiredCheck.field
          = (c.fields.filter (Field.isMissing record)).map Field.name := List.map_map
    refine congrArg Except.ok ?_
    dsimp only
    rw [hnames, hmistyped, List.map_map, List.map_map]
    rfl

theorem check_of_told (h : ∀ f ∈ c.fields, f.IsTold record) :
    (ofCollection c).check record = .ok (messagesFor c record) := by
  rw [check_ofCollection, Field.firstFault?_eq_none_iff.2 h]

/-- Records that agree on the fields of a collection have the same messages. -/
theorem check_congr {other : Record} (h : ∀ f ∈ c.fields, valueOf other f.name = valueOf record f.name) :
    (ofCollection c).check other = (ofCollection c).check record := by
  have hmissing : ∀ f ∈ c.fields, f.isMissing other = f.isMissing record := fun f hf => by
    rw [Field.isMissing, h f hf, Field.isMissing]
  have hmistyped : ∀ f ∈ c.fields, f.isMistyped other = f.isMistyped record := fun f hf => by
    rw [Field.isMistyped, hmissing f hf, h f hf, Field.isMistyped]
  rw [check_ofCollection, check_ofCollection, Field.firstFault?_congr h, messagesFor, messagesFor,
    List.filter_congr hmissing, List.filter_congr hmistyped]

/-- There is no message exactly if every field is filled in with a value of its kind. -/
theorem check_eq_nil_iff : (ofCollection c).check record = .ok [] ↔ ∀ f ∈ c.fields,
    (valueOf record f.name).isBlank = .ok false ∧ f.kind.accepts (valueOf record f.name) = true := by
  have hmessages (htold : ∀ f ∈ c.fields, f.IsTold record) : messagesFor c record = [] ↔ ∀ f ∈ c.fields,
      (valueOf record f.name).isBlank = .ok false ∧ f.kind.accepts (valueOf record f.name) = true := by
    rw [messagesFor, ← List.perm_nil, (Field.perm_filterMap_message? record c.fields).congr_left,
      List.perm_nil, List.filterMap_eq_nil_iff]
    exact forall₂_congr fun f hf => Field.message?_eq_none_iff (htold f hf)
  constructor
  · intro h
    rw [check_ofCollection] at h
    cases hfault : Field.firstFault? record c.fields with
    | some e =>
      rw [hfault] at h
      cases h
    | none =>
      rw [hfault] at h
      exact (hmessages (Field.firstFault?_eq_none_iff.1 hfault)).1 (Except.ok.inj h)
  · intro h
    have htold : ∀ f ∈ c.fields, f.IsTold record := fun f hf => ⟨false, (h f hf).1⟩
    rw [check_of_told htold, (hmessages htold).2 h]

/-! ## Given records -/

end Plan

/-- The entries of a record as it is given: those of a mapping, and none for null. -/
inductive Value.Holds : Value → Record → Prop
  | nothing : Holds .null []
  | mapping {v : Value} {entries : Record} (h : v.entries? = some entries) : Holds v entries

namespace Plan

variable {c : Collection} {record : Record}

/-- What a plan takes a given record for has the same values of fields. -/
theorem exists_recordOf? {v : Value} (h : v.Holds record) : ∃ taken,
    (ofCollection c).recordOf? v = some taken
      ∧ ∀ f ∈ c.fields, valueOf taken f.name = valueOf record f.name := by
  rw [recordOf?]
  cases h with
  | nothing => exact ⟨[], rfl, fun _ _ => rfl⟩
  | mapping h =>
    split
    next => exact ⟨record, h, fun _ _ => rfl⟩
    next hskip =>
      -- The entries are passed over: there are none, or there is no field to look for.
      refine ⟨[], rfl, fun f hf => ?_⟩
      have hchecks : (ofCollection c).required.isEmpty = false := by
        rw [List.isEmpty_eq_false_iff]
        exact List.ne_nil_of_mem (List.mem_map_of_mem hf)
      rw [Value.truthy_eq_of_entries? h, hchecks, Bool.false_and, Bool.not_false, Bool.and_true,
        Bool.not_eq_true', Bool.not_eq_false, List.isEmpty_iff] at hskip
      rw [hskip]

end Plan

end Scaffold
