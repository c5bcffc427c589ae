import Scaffold.Proofs.Collection.Acceptance
import Scaffold.Proofs.Value.Mapping

/-!
# Lists of declarations, one after the other

Intake goes through declarations with a place and the keys that it has seen. Neither changes what an
entry is read as: the place only stands in faults, and a seen key only refuses an entry. So intake of
two lists is intake of each of them, as long as no key of the second one comes up in the first. A fault
in the first list is the fault of both, and declarations that are dropped can be deleted.
-/

namespace Scaffold

/-! ## Results without their faults -/

namespace Noted

variable {α β : Type} {r s : Noted α} {f g : α → Noted β}

/-- What goes on with equal results to equal results has equal results. -/
theorem toOption_andThen (h : r.2.toOption = s.2.toOption)
    (hf : ∀ a, (f a).2.toOption = (g a).2.toOption) :
    (r.andThen f).2.toOption = (s.andThen g).2.toOption := by
  obtain ⟨notes, r⟩ := r
  obtain ⟨others, s⟩ := s
  cases r with
  | error e =>
    cases s with
    | error e' => rfl
    | ok b => cases h
  | ok a =>
    cases s with
    | error e => cases h
    | ok b =>
      have hab : a = b := Option.some.inj h
      subst hab
      exact hf a

/-- What goes on with a result fails where one of the two parts does. -/
theorem andThen_eq_error {e : SchemaFault} :
    (r.andThen f).2 = .error e ↔ r.2 = .error e ∨ ∃ a, r.2 = .ok a ∧ (f a).2 = .error e := by
  obtain ⟨notes, r⟩ := r
  cases r with
  | error e' =>
    constructor
    · intro h
      cases h
      exact .inl rfl
    · rintro (h | ⟨a, h, -⟩)
      · cases h
        rfl
      · cases h
  | ok a =>
    refine ⟨fun h => .inr ⟨a, rfl, h⟩, ?_⟩
    rintro (h | ⟨a', h, he⟩)
    · cases h
    · cases h
      exact he

end Noted

namespace Intake

open Noted (andThen_eq_ok)

theorem toOption_eq_some_iff {ε α : Type} {r : Except ε α} {a : α} :
    r.toOption = some a ↔ r = .ok a := by
  cases r with
  | error e => exact ⟨nofun, nofun⟩
  | ok b => exact ⟨fun h => congrArg Except.ok (Option.some.inj h), fun h => congrArg some (Except.ok.inj h)⟩

/-! ## Single entries -/

section

variable (i j : Nat) {seen : Seen} {identity : List String} {name : String}

/-- The place of a declaration stands in the faults of its fields only. -/
theorem toOption_readField (rawName rawType : Value) :
    (readField i name rawName rawType).2.toOption
      = (readField j name rawName rawType).2.toOption := by
  unfold readField
  dsimp only
  split
  · rfl
  split
  · rfl
  split
  · rfl
  split
  · rfl
  split
  · rfl
  split <;> rfl

theorem toOption_readFields (pairs : List (Value × Value)) :
    (readFields i name pairs).2.toOption = (readFields j name pairs).2.toOption := by
  induction pairs with
  | nil => rfl
  | cons pair rest ih =>
    rw [readFields, readFields]
    refine Noted.toOption_andThen (toOption_readField i j pair.1 pair.2) fun f => ?_
    exact Noted.toOption_andThen ih fun fs => rfl

theorem toOption_fieldPairs (fields : Value) :
    (fieldPairs i name fields).toOption = (fieldPairs j name fields).toOption := by
  refine Option.ext fun pairs => ?_
  rw [toOption_eq_some_iff, toOption_eq_some_iff, fieldPairs_eq_ok_iff, fieldPairs_eq_ok_iff]

/-- An entry with a name is read as it is on its own, unless its key was seen. -/
theorem readNamed_eq_ok_iff {entries : List (Value × Value)} {fields : Value} {c : Collection} :
    (readNamed i seen identity name entries fields).2 = .ok c
      ↔ seen.lookup (collisionKey (Name.camel name)) = none
        ∧ (readNamed 0 [] identity name entries fields).2 = .ok c := by
  unfold readNamed
  dsimp only
  by_cases hd : (Name.camel name).toList.head?.any Text.isDigitAscii = true
  · rw [if_pos hd, if_pos hd]
    exact ⟨nofun, fun h => nomatch h.2⟩
  rw [if_neg hd, if_neg hd]
  cases hs : seen.lookup (collisionKey (Name.camel name)) with
  | some earlier => exact ⟨nofun, fun h => nomatch h.1⟩
  | none =>
    rw [List.lookup_nil, and_iff_right rfl, ← toOption_eq_some_iff, ← toOption_eq_some_iff]
    -- Both readers go on in one way from equal pairs and equal fields.
    refine iff_of_eq (congrArg (· = some c) ?_)
    exact Noted.toOption_andThen (toOption_fieldPairs i 0 fields) fun pairs =>
      Noted.toOption_andThen (toOption_readFields i 0 pairs) fun fs => rfl

/-- An entry is read as it is on its own, unless its key was seen. -/
theorem readEntry_eq_ok_iff {entry : Value} {found : Option Collection} :
    (readEntry i seen identity entry).2 = .ok found
      ↔ (readEntry 0 [] identity entry).2 = .ok found
        ∧ ∀ c ∈ found, seen.lookup (collisionKey c.camelName) = none := by
  cases he : entry.entries? with
  | none =>
    unfold readEntry
    rw [he]
    exact ⟨nofun, fun h => nomatch h.1⟩
  | some entries =>
    by_cases hname : (Value.field? entries "name").getD .null = .null
    · rw [readEntry_of_no_name he hname, readEntry_of_no_name he hname]
      exact ⟨nofun, fun h => nomatch h.1⟩
    obtain ⟨name, hn, hne⟩ := exists_of_getD_ne hname
    rw [readEntry_of_name he hn hne, readEntry_of_name he hn hne]
    by_cases hshown : (!name.isShown) = true
    · rw [if_pos hshown, if_pos hshown]
      exact ⟨nofun, fun h => nomatch h.1⟩
    rw [if_neg hshown, if_neg hshown]
    by_cases hfields : ((Value.field? entries "fields").getD .null).isNull = true
    · rw [if_pos hfields, if_pos hfields]
      exact ⟨nofun, fun h => nomatch h.1⟩
    rw [if_neg hfields, if_neg hfields]
    by_cases hempty : (Name.camel (Text.trim name.display)).isEmpty = true
    · rw [if_pos hempty, if_pos hempty]
      refine ⟨fun h => ⟨h, fun c hc => ?_⟩, And.left⟩
      cases h
      cases hc
    rw [if_neg hempty, if_neg hempty]
    -- what was seen is looked at once only, after the name is known to have letters
    constructor
    · intro h
      obtain ⟨c, hc, h⟩ := andThen_eq_ok.1 h
      cases h
      obtain ⟨hs, hc⟩ := (readNamed_eq_ok_iff i).1 hc
      refine ⟨andThen_eq_ok.2 ⟨c, hc, rfl⟩, fun d hd => ?_⟩
      cases hd
      rw [(parts_of_readNamed hc).2.1]
      exact hs
    · rintro ⟨h, hs⟩
      obtain ⟨c, hc, h⟩ := andThen_eq_ok.1 h
      cases h
      have hkey := hs c rfl
      rw [(parts_of_readNamed hc).2.1] at hkey
      exact andThen_eq_ok.2 ⟨c, (readNamed_eq_ok_iff i).2 ⟨hkey, hc⟩, rfl⟩

/-! ## Lists of entries -/

/-- The keys that were seen after an entry. -/
def seenAfter (index : Nat) (seen : Seen) (found : Option Collection) : Seen :=
  (found.map fun c => (collisionKey c.camelName, index)).toList ++ seen

theorem lookup_seenAfter_eq_none_iff {found : Option Collection} {k : String} :
    (seenAfter i seen found).lookup k = none
      ↔ (∀ c ∈ found, collisionKey c.camelName ≠ k) ∧ seen.lookup k = none := by
  cases found with
  | none => simp [seenAfter]
  | some c =>
    show ((collisionKey c.camelName, i) :: seen).lookup k = none ↔ _
    rw [List.lookup_cons]
    by_cases hk : k = collisionKey c.camelName
    · simp [hk]
    · rw [beq_eq_false_iff_ne.2 hk]
      refine ⟨fun h => ⟨fun d hd => ?_, h⟩, And.right⟩
      cases hd
      exact fun e => hk e.symm

/-- One step of intake: an entry, then the entries after it. -/
theorem readFrom_cons_eq_ok_iff {entry : Value} {rest : List Value} {all : List Collection} :
    (readFrom identity i seen (entry :: rest)).2 = .ok all
      ↔ ∃ found others, (readEntry i seen identity entry).2 = .ok found
        ∧ (readFrom identity (i + 1) (seenAfter i seen found) rest).2 = .ok others
        ∧ all = found.toList ++ others := by
  rw [readFrom, andThen_eq_ok]
  constructor
  · rintro ⟨found, hf, h⟩
    cases found with
    | none => exact ⟨none, all, hf, h, rfl⟩
    | some c =>
      obtain ⟨others, ho, h⟩ := andThen_eq_ok.1 h
      cases h
      exact ⟨some c, others, hf, ho, rfl⟩
  · rintro ⟨found, others, hf, ho, rfl⟩
    refine ⟨found, hf, ?_⟩
    cases found with
    | none => exact ho
    | some c => exact andThen_eq_ok.2 ⟨others, ho, rfl⟩

/-- Entries are read as they are on their own, unless one of their keys was seen. -/
theorem readFrom_eq_ok_iff {entries : List Value} {all : List Collection} :
    (readFrom identity i seen entries).2 = .ok all
      ↔ (readFrom identity 0 [] entries).2 = .ok all
        ∧ ∀ c ∈ all, seen.lookup (collisionKey c.camelName) = none := by
  -- the index is used in messages only, and the keys that were seen only for a comparison
  induction entries generalizing i seen all with
  | nil =>
    refine ⟨fun h => ⟨h, fun c hc => ?_⟩, And.left⟩
    cases h
    exact absurd hc List.not_mem_nil
  | cons entry rest ih =>
    rw [readFrom_cons_eq_ok_iff, readFrom_cons_eq_ok_iff]
    constructor
    · rintro ⟨found, others, hf, ho, rfl⟩
      obtain ⟨hf, hkey⟩ := (readEntry_eq_ok_iff i).1 hf
      obtain ⟨ho, hkeys⟩ := (ih (i + 1)).1 ho
      have hfree : ∀ c ∈ others, (∀ d ∈ found, collisionKey d.camelName ≠ collisionKey c.camelName)
          ∧ seen.lookup (collisionKey c.camelName) = none :=
        fun c hc => (lookup_seenAfter_eq_none_iff i).1 (hkeys c hc)
      refine ⟨⟨found, others, hf, (ih 1).2 ⟨ho, fun c hc => ?_⟩, rfl⟩, fun c hc => ?_⟩
      · exact (lookup_seenAfter_eq_none_iff 0).2 ⟨(hfree c hc).1, rfl⟩
      · rcases List.mem_append.1 hc with hc | hc
        · exact hkey c (Option.mem_toList.1 hc)
        · exact (hfree c hc).2
    · rintro ⟨⟨found, others, hf, ho, rfl⟩, hseen⟩
      obtain ⟨ho, hkeys⟩ := (ih 1).1 ho
      have hf : (readEntry i seen identity entry).2 = .ok found :=
        (readEntry_eq_ok_iff i).2 ⟨hf, fun c hc =>
          hseen c (List.mem_append_left _ (Option.mem_toList.2 hc))⟩
      refine ⟨found, others, hf, (ih (i + 1)).2 ⟨ho, fun c hc => ?_⟩, rfl⟩
      have hfree := ((lookup_seenAfter_eq_none_iff 0).1 (hkeys c hc)).1
      exact (lookup_seenAfter_eq_none_iff i).2 ⟨hfree, hseen c (List.mem_append_right _ hc)⟩

/-- Two lists of entries are read one after the other as each of them is, if the keys of the second one
are neither seen before nor those of the first one. -/
theorem readFrom_append_eq_ok_iff {xs ys : List Value} {all : List Collection} :
    (readFrom identity i seen (xs ++ ys)).2 = .ok all
      ↔ ∃ as bs, (readFrom identity i seen xs).2 = .ok as ∧ (readFrom identity 0 [] ys).2 = .ok bs
        ∧ (∀ b ∈ bs, (∀ a ∈ as, collisionKey a.camelName ≠ collisionKey b.camelName)
          ∧ seen.lookup (collisionKey b.camelName) = none)
        ∧ all = as ++ bs := by
  -- the keys that were seen grow with each entry of the first list, and are asked of the second one in the end
  induction xs generalizing i seen all with
  | nil =>
    rw [List.nil_append, readFrom_eq_ok_iff]
    constructor
    · rintro ⟨h, hseen⟩
      exact ⟨[], all, rfl, h, fun b hb => ⟨fun a ha => absurd ha List.not_mem_nil, hseen b hb⟩, rfl⟩
    · rintro ⟨as, bs, ha, hb, hfree, rfl⟩
      cases ha
      exact ⟨hb, fun b hm => (hfree b hm).2⟩
  | cons entry rest ih =>
    rw [List.cons_append, readFrom_cons_eq_ok_iff]
    constructor
    · rintro ⟨found, others, hf, ho, rfl⟩
      obtain ⟨as, bs, ha, hb, hfree, rfl⟩ := (ih (i + 1)).1 ho
      refine ⟨found.toList ++ as, bs, ?_, hb, fun b hm => ?_, (List.append_assoc _ _ _).symm⟩
      · exact (readFrom_cons_eq_ok_iff i).2 ⟨found, as, hf, ha, rfl⟩
      · obtain ⟨hown, hseen⟩ := hfree b hm
        obtain ⟨hfound, hseen⟩ := (lookup_seenAfter_eq_none_iff i).1 hseen
        refine ⟨fun a ham => ?_, hseen⟩
        rcases List.mem_append.1 ham with ham | ham
        · exact hfound a (Option.mem_toList.1 ham)
        · exact hown a ham
    · rintro ⟨as, bs, ha, hb, hfree, rfl⟩
      obtain ⟨found, others, hf, ho, rfl⟩ := (readFrom_cons_eq_ok_iff i).1 ha
      refine ⟨found, others ++ bs, hf, (ih (i + 1)).2 ⟨others, bs, ho, hb, fun b hm => ?_, rfl⟩,
        List.append_assoc _ _ _⟩
      obtain ⟨hown, hseen⟩ := hfree b hm
      refine ⟨fun a ham => hown a (List.mem_append_right _ ham), ?_⟩
      exact (lookup_seenAfter_eq_none_iff i).2
        ⟨fun c hc => hown c (List.mem_append_left _ (Option.mem_toList.2 hc)), hseen⟩

/-- An entry among others is read as it is on its own, and what it is read as comes after the collections
of the entries before it. -/
theorem exists_found {before after : List Value} {entry : Value} {all : List Collection}
    (h : (readFrom identity 0 [] (before ++ entry :: after)).2 = .ok all) :
    ∃ first found others, (readFrom identity 0 [] before).2 = .ok first
      ∧ (readEntry 0 [] identity entry).2 = .ok found ∧ all = first ++ found.toList ++ others := by
  obtain ⟨first, bs, hfirst, hbs, -, rfl⟩ := (readFrom_append_eq_ok_iff 0).1 h
  obtain ⟨found, others, hfound, -, rfl⟩ := (readFrom_cons_eq_ok_iff 0).1 hbs
  exact ⟨first, found, others, hfirst, hfound, (List.append_assoc _ _ _).symm⟩

/-- The fault of entries is the fault of any list that begins with them. -/
theorem readFrom_append_of_error {xs : List Value} {e : SchemaFault} (ys : List Value)
    (h : (readFrom identity i seen xs).2 = .error e) :
    (readFrom identity i seen (xs ++ ys)).2 = .error e := by
  induction xs generalizing i seen with
  | nil => cases h
  | cons entry rest ih =>
    rw [readFrom] at h
    rw [List.cons_append, readFrom]
    rcases Noted.andThen_eq_error.1 h with h | ⟨found, hf, h⟩
    · exact Noted.andThen_eq_error.2 (.inl h)
    · refine Noted.andThen_eq_error.2 (.inr ⟨found, hf, ?_⟩)
      cases found with
      | none => exact ih (i + 1) h
      | some c =>
        rcases Noted.andThen_eq_error.1 h with h | ⟨others, -, h⟩
        · exact Noted.andThen_eq_error.2 (.inl (ih (i + 1) h))
        · cases h

end

/-! ## Whole lists -/

/-- A declaration that is not dropped is read as a collection with its name. -/
theorem exists_collection {identity : List String} {raw entry name : Value} {notes : List Note}
    {all : List Collection} {declarations : List Value} {parts : List (Value × Value)}
    (h : read identity raw = (notes, .ok all)) (hd : entriesOf? raw = some declarations)
    (hm : entry ∈ declarations) (hp : entry.entries? = some parts)
    (hn : Value.field? parts "name" = some name) (hl : Name.letters name.display ≠ []) :
    ∃ c ∈ all, c.name = Text.trim name.display := by
  obtain ⟨before, after, rfl⟩ := List.append_of_mem hm
  have hread : (readFrom identity 0 [] (before ++ entry :: after)).2 = .ok all := by
    rw [read_eq, hd] at h
    exact congrArg Prod.snd h
  obtain ⟨first, found, others, -, hfound, rfl⟩ := exists_found hread
  obtain ⟨parts', name', hp', hn', hcases⟩ := parts_of_readEntry hfound
  rw [hp] at hp'
  cases hp'
  rw [hn] at hn'
  cases hn'
  rcases hcases with ⟨hempty, -⟩ | ⟨-, fields, c, rfl, hc⟩
  · rw [Name.camel_isEmpty_iff, Name.letters_trim] at hempty
    exact absurd hempty hl
  · exact ⟨c, by simp, (parts_of_readNamed hc).1⟩

/-- A declaration without letters and digits in its name. -/
def IsDropped (entry : Value) : Prop :=
  ∃ parts name fields, IsDeclaration entry parts name fields ∧ name.isShown = true
    ∧ Name.letters name.display = []

theorem IsDropped.readEntry_eq {entry : Value} (h : IsDropped entry) (index : Nat) (seen : Seen)
    (identity : List String) : (readEntry index seen identity entry).2 = .ok none := by
  obtain ⟨parts, name, fields, hd, hs, hl⟩ := h
  have hnull : fields.isNull = false := by
    cases fields with
    | null => exact absurd rfl hd.fields_ne
    | _ => rfl
  have hempty : (Name.camel (Text.trim name.display)).isEmpty = true := by
    rw [Name.camel_isEmpty_iff, Name.letters_trim, hl]
  rw [readEntry_of_name hd.isMapping hd.name_eq hd.name_ne, hs, Bool.not_true,
    if_neg Bool.false_ne_true, hd.fields_eq, Option.getD_some, hnull, if_neg Bool.false_ne_true,
    if_pos hempty]

/-- Two lists of declarations are accepted one after the other exactly if each of them is and no name
of the second one is a name of the first one, whatever the capitals; then the collections of the second
one come after those of the first one. If the first list has a fault, both have that fault. A
declaration that is dropped can be deleted from a list. -/
theorem read_append (identity : List String) (xs ys : List Value) :
    (∀ all, (read identity (.list (xs ++ ys))).2 = .ok all
        ↔ ∃ as bs, (read identity (.list xs)).2 = .ok as ∧ (read identity (.list ys)).2 = .ok bs
          ∧ (∀ a ∈ as, ∀ b ∈ bs, Text.lower a.camelName ≠ Text.lower b.camelName)
          ∧ all = as ++ bs)
      ∧ (∀ e, (read identity (.list xs)).2 = .error e →
        (read identity (.list (xs ++ ys))).2 = .error e)
      ∧ ∀ entry, IsDropped entry → ∀ all,
        (read identity (.list (xs ++ entry :: ys))).2 = .ok all
          ↔ (read identity (.list (xs ++ ys))).2 = .ok all := by
  have hread (entries : List Value) :
      read identity (.list entries) = readFrom identity 0 [] entries := rfl
  refine ⟨fun all => ?_, fun e h => ?_, fun entry hd all => ?_⟩
  · rw [hread, hread, hread, readFrom_append_eq_ok_iff]
    refine exists_congr fun as => exists_congr fun bs => and_congr_right fun ha =>
      and_congr_right fun hb => and_congr_left fun _ => ?_
    -- for collections that were read, the key is the name in small letters
    have hlower {c : Collection} {entries : List Value} {cs : List Collection}
        (h : (readFrom identity 0 [] entries).2 = .ok cs) (hc : c ∈ cs) :
        Text.lower c.camelName = collisionKey c.camelName :=
      ((areNormal_of_readFrom h).1.each c hc).lower_camelName
    constructor
    · intro h a ham b hbm
      rw [hlower ha ham, hlower hb hbm]
      exact (h b hbm).1 a ham
    · intro h b hbm
      refine ⟨fun a ham => ?_, rfl⟩
      rw [← hlower ha ham, ← hlower hb hbm]
      exact h a ham b hbm
  · exact readFrom_append_of_error 0 ys h
  · have hdropped (all : List Collection) :
        (readFrom identity 0 [] (entry :: ys)).2 = .ok all
          ↔ (readFrom identity 0 [] ys).2 = .ok all := by
      rw [readFrom_cons_eq_ok_iff, hd.readEntry_eq]
      constructor
      · rintro ⟨found, others, hf, ho, rfl⟩
        cases hf
        exact ((readFrom_eq_ok_iff 1).1 ho).1
      · intro h
        exact ⟨none, all, rfl, (readFrom_eq_ok_iff 1).2 ⟨h, fun c _ => rfl⟩, rfl⟩
    rw [hread, hread, readFrom_append_eq_ok_iff, readFrom_append_eq_ok_iff]
    simp only [hdropped]

/-- Notes after books, with a declaration in between that is dropped; books twice; and a declaration
that is at fault in front of others. -/
theorem read_append_books :
    let books : Value := declaration "Books" [("due", "date")]
    let mark : Value := declaration "?!" []
    (∃ all, (read [] (.list ([books] ++ mark :: [declaration "my notes" []]))).2 = .ok all
        ∧ all.map Collection.camelName = ["books", "myNotes"])
      ∧ (¬ ∃ all, (read [] (.list ([books] ++ [declaration "BOOKS" []]))).2 = .ok all)
      ∧ ∃ e, (read [] (.list ([books, declaration "2 many" []] ++ [books]))).2 = .error e
        ∧ e.message = "Collection #1 ('2 many') must not start with a digit" := by
  intro books mark
  let shelf : Collection := ⟨"Books", "books", "Books", [⟨"due", .text, "date"⟩], "object"⟩
  let notes : Collection := ⟨"my notes", "myNotes", "MyNotes", [], "object"⟩
  let again : Collection := ⟨"BOOKS", "bOOKS", "BOOKS", [], "object"⟩
  have hshelf : (read [] (.list [books])).2 = .ok [shelf] := toOption_eq_some_iff.1 (by decide +kernel)
  have hnotes : (read [] (.list [declaration "my notes" []])).2 = .ok [notes] :=
    toOption_eq_some_iff.1 (by decide +kernel)
  have hagain : (read [] (.list [declaration "BOOKS" []])).2 = .ok [again] :=
    toOption_eq_some_iff.1 (by decide +kernel)
  have hletters : Name.letters (Value.text "?!").display = [] := by decide +kernel
  have hmark : IsDropped mark := by
    refine ⟨_, .text "?!", .record [], ⟨rfl, ?_, (by simp), ?_, (by simp [Value.record]), ?_⟩,
      by decide +kernel, hletters⟩
    · simp [Value.field?, Value.lookup, Value.text_same_text]
    · simp [Value.field?, Value.lookup, Value.text_same_text]
    · exact fun h => absurd hletters h
  refine ⟨⟨[shelf, notes], ?_, rfl⟩, ?_, ?_⟩
  · refine ((read_append [] [books] [declaration "my notes" []]).2.2 mark hmark _).2 ?_
    refine ((read_append [] [books] [declaration "my notes" []]).1 _).2
      ⟨[shelf], [notes], hshelf, hnotes, ?_, rfl⟩
    decide +kernel
  · rintro ⟨all, h⟩
    obtain ⟨as, bs, ha, hb, hne, -⟩ :=
      ((read_append [] [books] [declaration "BOOKS" []]).1 all).1 h
    rw [hshelf] at ha
    rw [hagain] at hb
    cases ha
    cases hb
    exact hne shelf (List.mem_singleton_self _) again (List.mem_singleton_self _) (by decide +kernel)
  · have hdigit : (read [] (.list [books, declaration "2 many" []])).2.mapError SchemaFault.message
        = .error "Collection #1 ('2 many') must not start with a digit" := by decide +kernel
    cases he : (read [] (.list [books, declaration "2 many" []])).2 with
    | ok all =>
      rw [he] at hdigit
      cases hdigit
    | error e =>
      rw [he] at hdigit
      exact ⟨e, (read_append [] [books, declaration "2 many" []] [books]).2.1 e he,
        Except.error.inj hdigit⟩

end Intake

end Scaffold
