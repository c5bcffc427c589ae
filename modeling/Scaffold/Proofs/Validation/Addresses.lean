import Mathlib.Data.List.Nodup
import Scaffold.Proofs.Validation.Records

/-!
# Addresses that are taken

After its own checks a plan asks about the email addresses in a record. It asks once for each field that holds
one, in the order of the fields, and for nothing else. Without an answer it goes on as if the address were
free. A record that cannot be checked is not asked about.
-/

namespace Scaffold

open Plan (Record valueOf Lookup Findings findAddress findField findFields)

/-! ## Addresses -/

/-- The address in a field: the text that the field is filled in with, if it is an email address. -/
def Field.address? (record : Record) (f : Field) : Option String :=
  if !f.isMissing record && Kind.email.accepts (valueOf record f.name) then
    (valueOf record f.name).text?
  else none

/-- The addresses in a record with the names of their fields, in the order of the fields. -/
def Collection.addresses (c : Collection) (record : Record) : List (String × String) :=
  (c.fieldsOf [.email]).filterMap fun f => (f.address? record).map fun address => (f.name, address)

namespace Plan

variable {lookup : Lookup}

/-! ## Findings -/

/-- What a lookup tells about addresses: messages for those that it knows, and the ones without an answer. All
addresses are asked about. -/
def findingsOf (lookup : Lookup) (addresses : List (String × String)) : Findings where
  messages := (addresses.filter fun a => lookup a.2 matches .ok true).map fun a => inUseMessage a.1
  asked := addresses.map Prod.snd
  failures := addresses.filterMap fun a =>
    match lookup a.2 with
    | .ok _ => none
    | .error reason => some (a.1, reason)

theorem findingsOf_cons (lookup : Lookup) (field address : String) (rest : List (String × String)) :
    findingsOf lookup ((field, address) :: rest)
      = (findAddress lookup field address).append (findingsOf lookup rest) := by
  unfold findAddress findingsOf
  cases h : lookup address with
  | error reason => simp [h, Findings.append]
  | ok taken => cases taken <;> simp [h, Findings.append]

/-- Two lookups find the same if one says no where the other fails, but for the failures. -/
theorem findingsOf_congr {other : Lookup} (h : ∀ address, other address = lookup address
      ∨ (∃ reason, lookup address = .error reason) ∧ other address = .ok false)
    (addresses : List (String × String)) :
    findingsOf other addresses
      = { findingsOf lookup addresses with failures := (findingsOf other addresses).failures } := by
  have hmessages : (findingsOf other addresses).messages = (findingsOf lookup addresses).messages := by
    refine congrArg (List.map _) (List.filter_congr fun a _ => ?_)
    obtain e | ⟨⟨reason, hf⟩, e⟩ := h a.2
    · rw [e]
    · rw [e, hf]
  exact congrArg (Findings.mk · (addresses.map Prod.snd) (findingsOf other addresses).failures) hmessages

/-! ## Missing fields -/

theorem typeMessage_ne_requiredMessage (k : Kind) (name : String) :
    k.typeMessage name ≠ requiredMessage name := by
  rw [Kind.typeMessage, requiredMessage, String.append_assoc, String.append_assoc, Ne, String.append_right_inj]
  cases k <;> decide

section

variable {c : Collection} {record : Record}

/-- The messages for a record tell which of its fields are missing. -/
theorem requiredMessage_mem_messagesFor_iff (h : c.IsAccepted) {f : Field} (hf : f ∈ c.fields) :
    requiredMessage f.name ∈ messagesFor c record ↔ f.isMissing record = true := by
  rw [messagesFor, (Field.perm_filterMap_message? record c.fields).mem_iff, List.mem_filterMap]
  constructor
  · -- The message names its field, so it is that of the field itself and not of another one.
    rintro ⟨g, hg, hm⟩
    have hname : g.name = f.name := String.toList_inj.1
      ((Field.firstWordOf_message (h.fields g hg) hm).symm.trans
        (firstWordOf_requiredMessage (h.fields f hf).blank_not_mem_name))
    obtain rfl : g = f := List.inj_on_of_nodup_map h.fieldNames_nodup hg hf hname
    obtain ⟨hmissing, -⟩ | ⟨-, -, e⟩ | ⟨-, -, e⟩ := Field.message?_cases record g
    · exact hmissing
    · exact absurd (Option.some.inj (e.symm.trans hm)) (typeMessage_ne_requiredMessage g.kind g.name)
    · cases e.symm.trans hm
  · intro hmissing
    exact ⟨f, hf, by rw [Field.message?, if_pos hmissing]⟩

/-! ## Asking -/

/-- A field is asked about if it has an address. -/
theorem findField_eq (h : c.IsAccepted) {f : Field} (hf : f ∈ c.fields) (lookup : Lookup) :
    findField lookup record (messagesFor c record) f.name
      = match f.address? record with
        | some address => findAddress lookup f.name address
        | none => {} := by
  have hfound : (messagesFor c record).contains (requiredMessage f.name)
      = f.isMissing record := by
    rw [Bool.eq_iff_iff, List.contains_iff_mem, requiredMessage_mem_messagesFor_iff h hf]
  unfold findField Field.address?
  rw [hfound]
  cases hv : valueOf record f.name with
  | text s =>
    have haccepts : Kind.email.accepts (.text s) = isEmail s := rfl
    rw [haccepts]
    show (if f.isMissing record || !isEmail s then _ else _) = _
    cases f.isMissing record <;> cases isEmail s <;> rfl
  | _ => simp [Value.text?]

theorem findFields_eq (h : c.IsAccepted) (lookup : Lookup) {fields : List Field}
    (hf : ∀ f ∈ fields, f ∈ c.fields) :
    findFields lookup record (messagesFor c record) (fields.map Field.name)
      = findingsOf lookup
        (fields.filterMap fun f => (f.address? record).map fun address => (f.name, address)) := by
  induction fields with
  | nil => rfl
  | cons f rest ih =>
    obtain ⟨hfc, hrest⟩ := List.forall_mem_cons.1 hf
    rw [List.map_cons, findFields, findField_eq h hfc, ih hrest]
    cases ha : f.address? record with
    | none =>
      rw [List.filterMap_cons_none (by rw [ha]; rfl)]
      rfl
    | some address =>
      rw [List.filterMap_cons_some (b := (f.name, address)) (by rw [ha]; rfl), findingsOf_cons]

theorem addresses_congr {other : Record}
    (h : ∀ f ∈ c.fields, valueOf other f.name = valueOf record f.name) :
    c.addresses other = c.addresses record := by
  refine List.filterMap_congr fun f hf => ?_
  rw [Field.address?, Field.isMissing, h f (List.mem_filter.1 hf).1]
  rfl

/-- A plan that asks finds what the addresses in a record bring, if the record can be checked. -/
theorem validate_ofCollection (h : c.IsAccepted) (lookup : Lookup) (record : Record) :
    (ofCollection c).validate lookup record = ((ofCollection c).check record).map fun messages =>
      (messages ++ (findingsOf lookup (c.addresses record)).messages,
        findingsOf lookup (c.addresses record)) := by
  have hfind : findFields lookup record (messagesFor c record) (ofCollection c).emailFields
      = findingsOf lookup (c.addresses record) :=
    findFields_eq h lookup fun f hf => (List.mem_filter.1 hf).1
  rw [validate, check_ofCollection]
  cases Field.firstFault? record c.fields with
  | some e => rfl
  | none =>
    show Except.ok (messagesFor c record ++ (findFields _ _ _ _).messages, findFields _ _ _ _) = _
    rw [hfind]
    rfl

end

end Plan

end Scaffold
