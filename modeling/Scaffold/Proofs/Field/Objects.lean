import Scaffold.Proofs.Field.Lists
import Scaffold.Proofs.Json.RoundTrip

/-!
# Objects as form texts

An object is shown as indented JSON, and its text is read as JSON. Everything that JSON writes without loss
comes back, with the keys in their order. There is no text for an object that holds a number of too many
digits.
-/

namespace Scaffold

/-! ## Texts of objects -/

/-- A text that begins with a brace is not blank. -/
theorem isBlankText_of_brace {s : String} {rest : List Char} (h : s.toList = '\x7b' :: rest) :
    Text.isBlankText s = false := by
  have hbrace : Text.isBlank '\x7b' = false := by decide
  simp [Text.isBlankText, h, hbrace]

/-- A text that begins with a brace is read as JSON, and has to give a mapping. -/
theorem decode_object_of_brace {s : String} {rest : List Char} (h : s.toList = '\x7b' :: rest) :
    Kind.object.decode (.text s)
      = match (Json.read s).mapError .json with
        | .error e => .error e
        | .ok (.map entries) => .ok (.map entries)
        | .ok _ => .error .notAnObject := by
  show decodeObject (.text s) = _
  rw [decodeObject, decodedText_text]
  dsimp only
  rw [isBlankText_of_brace h]
  rfl

/-! ## Through the form and back -/

/-- A mapping is shown as its JSON. -/
theorem encode_object_record (o : List (String × Value)) : Kind.object.encode (Value.record o)
    = ((Json.write (.indented 0) (Value.record o)).mapError EncodeFault.json).map Value.text := rfl

/-- What becomes of an object that is shown and read: it comes back, or one of its numbers has too many
digits and it has no text. -/
theorem decode_encode_object_cases {o : List (String × Value)} (h : (Value.record o).IsData) :
    ((Value.record o).isShown = true ∧ ∃ s, Kind.object.encode (Value.record o) = .ok (.text s)
        ∧ Kind.object.decode (.text s) = .ok (Value.record o))
      ∨ ((Value.record o).isShown = false
        ∧ Kind.object.encode (Value.record o) = .error (.json .digits)) := by
  have hwritten := Json.written_data h (.indented 0)
  rw [encode_object_record]
  generalize hr : Json.write (.indented 0) (Value.record o) = r, (Value.record o).isShown = b at hwritten
  cases hwritten with
  | digits => exact .inr ⟨rfl, rfl⟩
  | @ok s hs =>
    obtain ⟨rest, hbrace⟩ := Json.exists_toList_eq_of_write_map hr
    refine .inl ⟨rfl, s, rfl, ?_⟩
    rw [decode_object_of_brace hbrace, Json.read_of_isTextOf hs]
    rfl

/-- An object comes back from its text with all its keys in their order, whole numbers as whole numbers and
truth values as truth values. -/
theorem decode_encode_object {o : List (String × Value)} (h : (Value.record o).IsData)
    (hshown : (Value.record o).isShown = true) :
    ∃ s, Kind.object.encode (Value.record o) = .ok (.text s)
      ∧ Kind.object.decode (.text s) = .ok (Value.record o) := by
  rcases decode_encode_object_cases h with ⟨-, hback⟩ | ⟨hno, -⟩
  · exact hback
  · cases hshown.symm.trans hno

/-- An object with data of every kind, some of it inside lists and mappings. -/
def mixedObject : List (String × Value) :=
  [("b", .bool true), ("a", .int 1), ("lines", .list [.text "\"\n", .null, Value.record [("", .int (-7))]])]

theorem isData_mixedObject : (Value.record mixedObject).IsData := by
  have hinner : (Value.record [("", .int (-7))]).IsData := .record (by decide) (by simpa using .int (-7))
  refine .record (by decide) fun e he => ?_
  simp only [mixedObject, List.mem_cons, List.not_mem_nil, or_false] at he
  rcases he with rfl | rfl | rfl
  · exact .bool true
  · exact .int 1
  · refine .list fun v hv => ?_
    simp only [List.mem_cons, List.not_mem_nil, or_false] at hv
    rcases hv with rfl | rfl | rfl
    · exact .text _
    · exact .null
    · exact hinner

theorem isShown_mixedObject : (Value.record mixedObject).isShown = true := by
  have hone : (Value.int 1).isShown = true := (Json.length_toDigits_natAbs_iff 1).1 (by decide)
  have hseven : (Value.int (-7)).isShown = true := (Json.length_toDigits_natAbs_iff (-7)).1 (by decide)
  simp only [mixedObject, Value.record, List.map_cons, List.map_nil, Value.isShown.eq_def (.map _),
    Value.isShown.eq_def (.list _), Value.isShown.eq_def (.text _), Value.isShown.eq_def (.bool _),
    Value.isShown.eq_def .null, Value.entriesAreShown, Value.areShown, hone, hseven, Bool.and_self]

theorem decode_encode_mixedObject : ∃ s, Kind.object.encode (Value.record mixedObject) = .ok (.text s)
    ∧ Kind.object.decode (.text s) = .ok (Value.record mixedObject) :=
  decode_encode_object isData_mixedObject isShown_mixedObject

end Scaffold
