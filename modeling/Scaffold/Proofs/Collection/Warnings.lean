import Scaffold.Proofs.Collection.Merging
import Scaffold.Proofs.Collection.Redeclaration
import Scaffold.Run

/-!
# Warnings about types

Intake warns about each mention of a field without a type or with an unknown one, as it reads the
declarations. The fields of the collections that it returns are merged from these mentions. So the warnings
are those that the returned fields call for only as long as no mention with a warning is taken back by a
later one, and the mentions with warnings come in the order of the merged fields.
-/

namespace Scaffold

open scoped List

/-! ## The text of a warning -/

namespace Field

/-- What is wrong with the type of a field, by the tag that was recorded for it. -/
def complaint (tag : String) : String :=
  if tag = Kind.untypedTag then ": no type declared, treated as string"
  else ": unknown type '" ++ tag ++ "', treated as string"

/-- The warning about a field of a collection: the names of both, and what is wrong with its type. -/
def warning (collection : String) (f : Field) : String :=
  collection ++ "." ++ f.name ++ complaint f.declared

/-- The warnings that the fields of a collection call for, one for each that falls back to text. -/
def warnings (collection : String) (fs : List Field) : List String :=
  (fs.filter isFallback).map (warning collection)

end Field

/-- A text with a mark that does not come again after it is cut there in one way. -/
theorem Text.append_mark_inj {mark : Char} {as bs cs ds : List Char} (hb : mark ∉ bs) (hd : mark ∉ ds)
    (h : as ++ mark :: bs = cs ++ mark :: ds) : as = cs ∧ bs = ds := by
  rcases List.append_eq_append_iff.1 h with ⟨between, rfl, hbs⟩ | ⟨between, rfl, hds⟩
  · cases between with
    | nil => exact ⟨(List.append_nil as).symm, (List.cons.inj hbs).2⟩
    | cons c rest => exact absurd ((List.cons.inj hbs).2 ▸ List.mem_append_right rest List.mem_cons_self) hb
  · cases between with
    | nil => exact ⟨List.append_nil cs, (List.cons.inj hds).2.symm⟩
    | cons c rest => exact absurd ((List.cons.inj hds).2 ▸ List.mem_append_right rest List.mem_cons_self) hd

namespace Field

variable {f g : Field} {collection other : String}

/-- A complaint is a colon and a text without colons. -/
theorem exists_complaint (h : f.IsNormal) :
    ∃ cs, (complaint f.declared).toList = ':' :: cs ∧ ':' ∉ cs := by
  unfold complaint
  split
  · exact ⟨_, rfl, by decide⟩
  · have htag : ':' ∉ f.declared.toList := fun hm =>
      absurd (Intake.isTagChar_of_isTypeTag (Intake.isTypeTag_iff.2 h.declared) _ hm) (by decide)
    refine ⟨" unknown type '".toList ++ f.declared.toList ++ "', treated as string".toList, ?_, ?_⟩
    · rw [String.toList_append, String.toList_append]
      rfl
    · rw [List.mem_append, List.mem_append]
      exact not_or.2 ⟨not_or.2 ⟨by decide, htag⟩, by decide⟩

theorem point_not_mem_name (h : f.IsNormal) : '.' ∉ f.name.toList := by
  obtain ⟨first, rest, hname, hfirst, hrest⟩ := h.name
  rw [hname]
  intro hm
  rcases List.mem_cons.1 hm with rfl | hm
  · exact absurd hfirst (by decide)
  · exact absurd (hrest _ hm) (by decide)

/-- A complaint quotes the tag, unless it says that there was no type. -/
theorem complaint_inj {tag tag' : String} (h : complaint tag = complaint tag') : tag = tag' := by
  have hapart (t : String) : ": no type declared, treated as string"
      ≠ ": unknown type '" ++ t ++ "', treated as string" := by
    intro e
    have hthird := congrArg (fun s : String => s.toList[2]?) e
    simp [String.toList_append] at hthird
  unfold complaint at h
  split at h <;> split at h
  next htag htag' => rw [htag, htag']
  next => exact absurd h (hapart tag')
  next => exact absurd h.symm (hapart tag)
  next =>
    have h := congrArg String.toList h
    simp only [String.toList_append] at h
    exact String.toList_inj.1 (List.append_cancel_left (List.append_cancel_right h))

/-- The warning about an accepted field tells its collection, its name and its tag. -/
theorem warning_inj (hf : f.IsNormal) (hg : g.IsNormal) (h : warning collection f = warning other g) :
    collection = other ∧ f.name = g.name ∧ f.declared = g.declared := by
  obtain ⟨cs, hcs, hc⟩ := exists_complaint hf
  obtain ⟨ds, hds, hd⟩ := exists_complaint hg
  have h := congrArg String.toList h
  simp only [warning, String.toList_append, hcs, hds] at h
  -- the last colon ends the names, and the last point before it the name of the collection
  obtain ⟨hnames, hrest⟩ := Text.append_mark_inj hc hd h
  rw [List.append_assoc, List.append_assoc] at hnames
  obtain ⟨hcollection, hname⟩ := Text.append_mark_inj (point_not_mem_name hf) (point_not_mem_name hg) hnames
  refine ⟨String.toList_inj.1 hcollection, String.toList_inj.1 hname, complaint_inj ?_⟩
  rw [← String.toList_inj, hcs, hds, hrest]

theorem warnings_append (collection : String) (fs gs : List Field) :
    warnings collection (fs ++ gs) = warnings collection fs ++ warnings collection gs := by
  rw [warnings, List.filter_append, List.map_append]
  rfl

/-- A warning about a field of one collection is none about a field of another. -/
theorem disjoint_warnings {fs gs : List Field} (hf : ∀ f ∈ fs, f.IsNormal) (hg : ∀ g ∈ gs, g.IsNormal)
    (h : collection ≠ other) : (warnings collection fs).Disjoint (warnings other gs) := by
  intro text hl hr
  obtain ⟨f, hfm, rfl⟩ := List.mem_map.1 hl
  obtain ⟨g, hgm, he⟩ := List.mem_map.1 hr
  exact h (warning_inj (hg g (List.mem_of_mem_filter hgm)) (hf f (List.mem_of_mem_filter hfm)) he).1.symm

/-- Accepted fields with the same warnings are the same as far as they fall back. -/
theorem warnings_eq_warnings_iff {fs gs : List Field} (hf : ∀ f ∈ fs, f.IsNormal)
    (hg : ∀ g ∈ gs, g.IsNormal) :
    warnings collection fs = warnings collection gs ↔ fs.filter isFallback = gs.filter isFallback := by
  refine ⟨fun h => Intake.eq_of_map_eq h fun f hfm g hgm he => ?_,
    fun h => congrArg (List.map (warning collection)) h⟩
  obtain ⟨hfm, hff⟩ := List.mem_filter.1 hfm
  obtain ⟨hgm, hgf⟩ := List.mem_filter.1 hgm
  obtain ⟨-, hname, hdeclared⟩ := warning_inj (hf f hfm) (hg g hgm) he
  have hkind : f.kind = g.kind :=
    ((hf f hfm).kind_of_isFallback hff).trans ((hg g hgm).kind_of_isFallback hgf).symm
  obtain ⟨n, k, d⟩ := f
  obtain ⟨n', k', d'⟩ := g
  exact Field.mk.injEq .. ▸ ⟨hname, hkind, hdeclared⟩

end Field

/-! ## Notes -/

namespace Note

/-- The texts of notes about types. -/
def texts (notes : List Note) : List String := notes.filterMap warning?

theorem texts_append (notes others : List Note) : texts (notes ++ others) = texts notes ++ texts others :=
  List.filterMap_append

end Note

/-! ## Declarations with all mentions of fields -/

/-- A collection as declared: its name, and its fields as often as they are mentioned. -/
structure Declared where
  name : String
  mentions : List Field
  deriving DecidableEq, Repr

namespace Declared

/-- The warnings on the way to a collection. -/
def warnings (d : Declared) : List String := Field.warnings d.name d.mentions

/-- The name and the fields of the collection that is made of a declaration. -/
def merged (d : Declared) : String × List Field := (d.name, Intake.mergeFields d.mentions)

/-- The warnings that the fields of the collection call for. -/
def annotations (d : Declared) : List String := Field.warnings d.merged.1 d.merged.2

/-- A declaration is read as a collection with notes. -/
structure IsReadAs (d : Declared) (notes : List Note) (c : Collection) : Prop where
  merged_eq : d.merged = (c.name, c.fields)
  texts_eq : Note.texts notes = d.warnings
  mentions : ∀ f ∈ d.mentions, f.IsNormal

/-- Warnings stay true: no mention with a warning is followed by one of the same name, and the names of
these mentions come in the order in which they are first mentioned. -/
structure KeepsWarnings (d : Declared) : Prop where
  last : d.mentions.Pairwise fun f g => f.isFallback = true → f.name ≠ g.name
  inOrder : (d.mentions.filter Field.isFallback).map Field.name <+ Text.distinct (d.mentions.map Field.name)

end Declared

namespace Intake

/-- The collection that an entry declares, none if its name has no words. -/
def declared? (entry : Value) : Option Declared :=
  (entry.entries?.bind fun entries => (Value.field? entries "name").map fun name =>
    ⟨Text.trim name.display,
      ((fieldPairs 0 "" ((Value.field? entries "fields").getD .null)).toOption.getD []).map mention⟩).filter
    fun d => !(Name.camel d.name).isEmpty

/-- The collections that a value declares. -/
def declared (raw : Value) : List Declared := ((entriesOf? raw).getD []).filterMap declared?

/-! ## Reading declarations -/

section

variable {index : Nat} {seen : Seen} {identity : List String} {name : String} {notes : List Note}

theorem isFallback_of_untyped {f : Field} (h : f.declared = Kind.untypedTag) : f.isFallback = true := by
  unfold Field.isFallback
  rw [h]
  cases f.kind <;> decide

/-- A field gets a note with the text of its warning if it falls back. -/
theorem texts_fieldNotes (name : String) (f : Field) :
    Note.texts (fieldNotes name f) = Field.warnings name [f] := by
  unfold Field.warnings fieldNotes
  by_cases hu : f.declared = Kind.untypedTag
  · rw [if_pos (beq_iff_eq.2 hu), List.filter_cons_of_pos (isFallback_of_untyped hu), List.filter_nil,
      List.map_singleton, Field.warning, Field.complaint, if_pos hu]
    rfl
  · rw [if_neg fun e => hu (beq_iff_eq.1 e)]
    cases hf : f.isFallback with
    | false => rw [List.filter_cons_of_neg (by rw [hf]; exact Bool.false_ne_true)]; rfl
    | true =>
      rw [if_pos rfl, List.filter_cons_of_pos hf, List.filter_nil, List.map_singleton, Field.warning,
        Field.complaint, if_neg hu, ← String.append_assoc, ← String.append_assoc]
      rfl

theorem texts_of_readFields {pairs : List (Value × Value)} {fs : List Field}
    (h : readFields index name pairs = (notes, .ok fs)) :
    fs = pairs.map mention ∧ Note.texts notes = Field.warnings name fs := by
  induction pairs generalizing notes fs with
  | nil =>
    cases h
    exact ⟨rfl, rfl⟩
  | cons pair rest ih =>
    obtain ⟨f, before, others, hf, hrest, rfl⟩ := Noted.andThen_eq_iff.1 h
    obtain ⟨gs, between, after, hg, hlast, rfl⟩ := Noted.andThen_eq_iff.1 hrest
    cases hlast
    obtain ⟨rfl, rfl, -⟩ := checks_of_readField hf
    obtain ⟨rfl, hbetween⟩ := ih hg
    refine ⟨rfl, ?_⟩
    rw [Note.texts_append, texts_fieldNotes, Note.texts_append, hbetween, ← List.append_assoc,
      ← Field.warnings_append]
    exact List.append_nil _

theorem isReadAs_of_readNamed {entries : List (Value × Value)} {fields : Value} {c : Collection}
    (h : readNamed index seen identity name entries fields = (notes, .ok c)) :
    ∃ pairs, fieldPairs 0 "" fields = .ok pairs ∧ Declared.IsReadAs ⟨name, pairs.map mention⟩ notes c := by
  obtain ⟨-, -, pairs, before, fs, hp, hf, rfl, rfl⟩ := checks_of_readNamed h
  have hnormal := isNormal_of_readFields (congrArg Prod.snd hf)
  obtain ⟨rfl, hbefore⟩ := texts_of_readFields hf
  refine ⟨pairs, fieldPairs_eq_ok_iff.2 (fieldPairs_eq_ok_iff.1 hp), rfl, ?_, hnormal⟩
  rw [Note.texts_append, hbefore]
  split <;> exact List.append_nil _

theorem declared?_of_name {entry rawName : Value} {entries : List (Value × Value)}
    (he : entry.entries? = some entries) (hn : Value.field? entries "name" = some rawName) :
    declared? entry = if (Name.camel (Text.trim rawName.display)).isEmpty then none
      else some ⟨Text.trim rawName.display,
        ((fieldPairs 0 "" ((Value.field? entries "fields").getD .null)).toOption.getD []).map mention⟩ := by
  unfold declared?
  rw [he, Option.bind_some, hn, Option.map_some, Option.filter_some]
  cases (Name.camel (Text.trim rawName.display)).isEmpty <;> rfl

/-- An entry is read as the collection that it declares, or it declares none and nothing is said about
types. -/
theorem isReadAs_of_readEntry {entry : Value} {found : Option Collection}
    (h : readEntry index seen identity entry = (notes, .ok found)) :
    (declared? entry = none ∧ found = none ∧ Note.texts notes = [])
      ∨ ∃ d c, declared? entry = some d ∧ found = some c ∧ d.IsReadAs notes c := by
  obtain ⟨entries, name, he, hn, -⟩ := parts_of_readEntry (congrArg Prod.snd h)
  have hne : name ≠ .null := by
    rintro rfl
    rw [readEntry_of_no_name he (by rw [hn]; rfl)] at h
    cases congrArg Prod.snd h
  rw [declared?_of_name he hn]
  rw [readEntry_of_name he hn hne] at h
  split at h
  · cases congrArg Prod.snd h
  split at h
  · cases congrArg Prod.snd h
  split at h
  next hl =>
    obtain ⟨rfl, hf⟩ := Prod.mk.inj h
    exact .inl ⟨if_pos hl, (Except.ok.inj hf).symm, rfl⟩
  next hl =>
    obtain ⟨c, before, after, hc, hlast, rfl⟩ := Noted.andThen_eq_iff.1 h
    cases hlast
    obtain ⟨pairs, hp, hread⟩ := isReadAs_of_readNamed hc
    rw [hp, if_neg hl, List.append_nil]
    exact .inr ⟨_, c, rfl, rfl, hread⟩

/-- What is read from entries has the names and the merged fields of what they declare, with the warnings of
all mentions. -/
theorem merged_of_readFrom {entries : List Value} {all : List Collection}
    (h : readFrom identity index seen entries = (notes, .ok all)) :
    all.map (fun c => (c.name, c.fields)) = (entries.filterMap declared?).map Declared.merged
      ∧ Note.texts notes = (entries.filterMap declared?).flatMap Declared.warnings
      ∧ ∀ d ∈ entries.filterMap declared?, ∀ f ∈ d.mentions, f.IsNormal := by
  induction entries generalizing index seen notes all with
  | nil =>
    cases h
    exact ⟨rfl, rfl, fun d hd => absurd hd List.not_mem_nil⟩
  | cons entry rest ih =>
    obtain ⟨found, before, others, hf, hrest, rfl⟩ := Noted.andThen_eq_iff.1 h
    rw [Note.texts_append]
    rcases isReadAs_of_readEntry hf with ⟨hd, rfl, hbefore⟩ | ⟨d, c, hd, rfl, hread⟩
    · obtain ⟨hmerged, hothers, hmentions⟩ := ih hrest
      rw [List.filterMap_cons_none hd, hbefore]
      exact ⟨hmerged, hothers, hmentions⟩
    · obtain ⟨cs, between, after, hcs, hlast, rfl⟩ := Noted.andThen_eq_iff.1 hrest
      cases hlast
      obtain ⟨hmerged, hbetween, hmentions⟩ := ih hcs
      rw [List.filterMap_cons_some hd, List.append_nil, List.map_cons, List.map_cons, hmerged,
        List.flatMap_cons, hbetween]
      refine ⟨?_, ?_, List.forall_mem_cons.2 ⟨hread.mentions, hmentions⟩⟩
      · rw [← hread.merged_eq]
      · rw [← hread.texts_eq]

end

end Intake

/-! ## Lists block by block -/

section

variable {α β : Type}

theorem append_inj_of_disjoint {as bs cs ds : List α} (h : as ++ bs = cs ++ ds) (hd : as.Disjoint ds)
    (hb : cs.Disjoint bs) : as = cs ∧ bs = ds := by
  rcases List.append_eq_append_iff.1 h with ⟨between, rfl, rfl⟩ | ⟨between, rfl, rfl⟩
  · cases between with
    | nil => exact ⟨(List.append_nil as).symm, rfl⟩
    | cons b rest => exact absurd List.mem_cons_self (hb (List.mem_append_right as List.mem_cons_self))
  · cases between with
    | nil => exact ⟨List.append_nil cs, rfl⟩
    | cons b rest => exact absurd List.mem_cons_self (hd (List.mem_append_right cs List.mem_cons_self))

/-- Blocks of elements that come in no other block are compared one by one. -/
theorem flatMap_eq_flatMap_iff {f g : α → List β} {xs : List α}
    (h : xs.Pairwise fun x y => (f x).Disjoint (g y) ∧ (g x).Disjoint (f y)) :
    xs.flatMap f = xs.flatMap g ↔ ∀ x ∈ xs, f x = g x := by
  induction xs with
  | nil => exact ⟨fun _ x hx => absurd hx List.not_mem_nil, fun _ => rfl⟩
  | cons x rest ih =>
    obtain ⟨hx, hrest⟩ := List.pairwise_cons.1 h
    rw [List.flatMap_cons, List.flatMap_cons, List.forall_mem_cons, ← ih hrest]
    refine ⟨fun he => append_inj_of_disjoint he ?_ ?_, fun he => congrArg₂ (· ++ ·) he.1 he.2⟩
    · intro b hb hm
      obtain ⟨y, hy, hby⟩ := List.mem_flatMap.1 hm
      exact (hx y hy).1 hb hby
    · intro b hb hm
      obtain ⟨y, hy, hby⟩ := List.mem_flatMap.1 hm
      exact (hx y hy).2 hb hby

end

/-! ## Warnings that stay true -/

namespace Declared

instance (d : Declared) : Decidable d.KeepsWarnings :=
  decidable_of_iff
    ((d.mentions.Pairwise fun f g => f.isFallback = true → f.name ≠ g.name)
      ∧ (d.mentions.filter Field.isFallback).map Field.name <+ Text.distinct (d.mentions.map Field.name))
    ⟨fun h => ⟨h.1, h.2⟩, fun h => ⟨h.last, h.inOrder⟩⟩

/-- The warnings of a declaration are those of its merged fields exactly if they stay true. -/
theorem warnings_eq_annotations_iff {d : Declared} (h : ∀ f ∈ d.mentions, f.IsNormal) :
    d.warnings = d.annotations ↔ d.KeepsWarnings := by
  have hmerged : ∀ f ∈ Intake.mergeFields d.mentions, f.IsNormal := fun f hf => h f (Intake.mem_mergeFields hf)
  refine (Field.warnings_eq_warnings_iff h hmerged).trans (Intake.filter_eq_filter_mergeFields_iff.trans ?_)
  exact ⟨fun h => ⟨h.1, h.2⟩, fun h => ⟨h.last, h.inOrder⟩⟩

/-- Declarations of different names are compared one by one, since each warning tells its collection. -/
theorem flatMap_warnings_eq_iff {ds : List Declared} (hnames : (ds.map Declared.name).Nodup)
    (hm : ∀ d ∈ ds, ∀ f ∈ d.mentions, f.IsNormal) :
    ds.flatMap warnings = ds.flatMap annotations ↔ ∀ d ∈ ds, d.KeepsWarnings := by
  have hmerged : ∀ d ∈ ds, ∀ f ∈ Intake.mergeFields d.mentions, f.IsNormal := fun d hd f hf =>
    hm d hd f (Intake.mem_mergeFields hf)
  refine (flatMap_eq_flatMap_iff ((List.pairwise_map.1 hnames).imp_of_mem fun hd he hne => ?_)).trans
    (forall₂_congr fun d hd => warnings_eq_annotations_iff (hm d hd))
  exact ⟨Field.disjoint_warnings (hm _ hd) (hmerged _ he) hne,
    Field.disjoint_warnings (hmerged _ hd) (hm _ he) hne⟩

end Declared

/-- Collections with different keys have different names. -/
theorem Collection.AreNormal.names_nodup {all : List Collection} (h : Collection.AreNormal all) :
    (all.map Collection.name).Nodup := by
  refine List.Nodup.of_map (fun name => Intake.collisionKey (Name.camel name)) ?_
  rw [List.map_map]
  have hkeys : all.map ((fun name => Intake.collisionKey (Name.camel name)) ∘ Collection.name)
      = all.map fun c => Intake.collisionKey c.camelName :=
    List.map_congr_left fun c hc => congrArg Intake.collisionKey (h.each c hc).camel_eq.symm
  rw [hkeys]
  exact h.keys_nodup

/-! ## Runs -/

namespace Run

/-- The collections that a run takes in are the declared ones with their fields merged, and the warnings are
those of all mentions. They are the warnings that the fields of the collections call for exactly if the
warnings of each declaration stay true. -/
theorem warnings_of_intake {o : Options} {raw : Value} {log : List LogEntry} {all : List Collection}
    {warnings : List String} (h : intake o raw = (log, .ok (all, warnings))) :
    all.map (fun c => (c.name, c.fields)) = (Intake.declared raw).map Declared.merged
      ∧ warnings = (Intake.declared raw).flatMap Declared.warnings
      ∧ (warnings = all.flatMap (fun c => Field.warnings c.name c.fields)
        ↔ ∀ d ∈ Intake.declared raw, d.KeepsWarnings) := by
  unfold intake at h
  cases hr : Intake.read o.identityNames raw with | mk notes result
  rw [hr] at h
  cases result with
  | error e => cases congrArg Prod.snd h
  | ok cs =>
    cases h
    have hnormal := Intake.areNormal_of_read hr
    rw [Intake.read_eq] at hr
    cases he : Intake.entriesOf? raw with
    | none =>
      rw [he] at hr
      cases congrArg Prod.snd hr
    | some entries =>
      rw [he] at hr
      -- declarations that are dropped bring neither a collection nor warnings
      obtain ⟨hmerged, htexts, hmentions⟩ := Intake.merged_of_readFrom hr
      have hdeclared : Intake.declared raw = entries.filterMap Intake.declared? := by
        rw [Intake.declared, he, Option.getD_some]
      rw [hdeclared]
      refine ⟨hmerged, htexts, ?_⟩
      have hnames : ((entries.filterMap Intake.declared?).map Declared.name).Nodup := by
        have h := congrArg (List.map Prod.fst) hmerged
        rw [List.map_map, List.map_map] at h
        exact h ▸ hnormal.names_nodup
      have hannotations : all.flatMap (fun c => Field.warnings c.name c.fields)
          = (entries.filterMap Intake.declared?).flatMap Declared.annotations := by
        have h := congrArg (List.flatMap fun p => Field.warnings p.1 p.2) hmerged
        rwa [List.flatMap_map, List.flatMap_map] at h
      rw [hannotations, ← Declared.flatMap_warnings_eq_iff hnames hmentions, ← htexts]
      rfl

theorem intake_of_read {o : Options} {raw : Value} {notes : List Note} {all : List Collection}
    (h : Intake.read o.identityNames raw = (notes, .ok all)) :
    intake o raw = (notes.filterMap Note.entry?, .ok (all, Note.texts notes)) := by
  unfold intake
  rw [h]
  rfl

/-- Books with an unknown type and a field without a type, and notes with a field whose last mention is the
one with a warning. -/
theorem warnings_of_books_and_notes :
    let o : Options := { identityNames := [] }
    let raw : Value := .list [
      Intake.declaration "book" [("title", "string"), ("price", "money"), ("shelf", " ")],
      Intake.declaration "?" [("x", "y")],
      .map [(.text "name", .text "my notes"), (.text "fields", .list [
        .list [.text "due", .text "timestamp"], .list [.text "due", .text "Date"]])]]
    let all : List Collection := [
      { name := "book", camelName := "book", pascalName := "Book",
        fields := [⟨"title", .text, "string"⟩, ⟨"price", .text, "money"⟩, ⟨"shelf", .text, "untyped"⟩] },
      { name := "my notes", camelName := "myNotes", pascalName := "MyNotes",
        fields := [⟨"due", .text, "date"⟩] }]
    let warnings : List String := ["book.price: unknown type 'money', treated as string",
      "book.shelf: no type declared, treated as string", "my notes.due: unknown type 'date', treated as string"]
    ∃ log, intake o raw = (log, .ok (all, warnings))
      ∧ warnings = all.flatMap fun c => Field.warnings c.name c.fields := by
  intro o raw all warnings
  have hread : Intake.read [] raw = (_, .ok all) := Intake.read_eq_of_toOption (by decide +kernel)
  have h := intake_of_read (o := o) hread
  have htexts : Note.texts (Intake.read [] raw).1 = warnings := by decide +kernel
  rw [htexts] at h
  have hkeeps : ∀ d ∈ Intake.declared raw, d.KeepsWarnings := by decide +kernel
  exact ⟨_, h, (warnings_of_intake h).2.2.2 hkeeps⟩

/-- The type of a field is unknown at first and then mended: the warning stays, about a field that does not
fall back. -/
theorem warnings_of_mended_note :
    let o : Options := { identityNames := [] }
    let raw : Value := .list [.map [(.text "name", .text "note"), (.text "fields", .list [
      .list [.text "due", .text "date"], .list [.text "due", .text "timestamp"]])]]
    let c : Collection := {
      name := "note", camelName := "note", pascalName := "Note", fields := [⟨"due", .timestamp, "timestamp"⟩] }
    let warnings : List String := ["note.due: unknown type 'date', treated as string"]
    (∃ log, intake o raw = (log, .ok ([c], warnings)))
      ∧ [c].flatMap (fun c => Field.warnings c.name c.fields) = [] := by
  intro o raw c warnings
  have hread : Intake.read [] raw = (_, .ok [c]) := Intake.read_eq_of_toOption (by decide +kernel)
  have h := intake_of_read (o := o) hread
  have htexts : Note.texts (Intake.read [] raw).1 = warnings := by decide +kernel
  rw [htexts] at h
  exact ⟨⟨_, h⟩, by decide⟩

end Run

end Scaffold
