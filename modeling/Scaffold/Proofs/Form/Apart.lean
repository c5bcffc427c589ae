import Scaffold.Proofs.Collection.Invariants
import Scaffold.Proofs.Form.Names
import Scaffold.Proofs.Name.Respelling

/-!
# Names of the views are apart

The function that gives access to the store is called after the store, whose name is free, and stands next
to functions of libraries in both views: only stores that are called after what routes a view bring one of
these names again.
-/

namespace Scaffold.Form

variable {c : Collection} {o : Options}

/-! ## The name of the store -/

/-- The name of the store is spelled in camel case. -/
theorem camel_storeName (o : Options) :
    Name.camel (StoreNames.ofOptions o).storeName = (StoreNames.ofOptions o).storeName :=
  Name.camel_camelOr (by decide) o.storeName

/-- The function that gives access to the store is called after the store. -/
theorem hook_eq_iff {o : Options} {n f : String} (hn : Name.camel n = n) (hf : "use" ++ Name.pascal n = f) :
    (StoreNames.ofOptions o).hook = f ↔ (StoreNames.ofOptions o).storeName = n := by
  constructor
  · intro h
    have hpascal : Name.pascal (StoreNames.ofOptions o).storeName = Name.pascal n := by
      rwa [← hf, StoreNames.hook, String.append_right_inj] at h
    rw [← camel_storeName o, ← Name.camel_pascal, hpascal, Name.camel_pascal, hn]
  · intro h
    rw [StoreNames.hook, h, hf]

theorem head?_hook (o : Options) : (StoreNames.ofOptions o).hook.toList.head? = some 'u' := by
  rw [StoreNames.hook, String.toList_append, String.toList_ofList]
  rfl

theorem hook_ne_of_head? {s : String} (o : Options) (h : s.toList.head? ≠ some 'u') :
    (StoreNames.ofOptions o).hook ≠ s := by
  rintro rfl
  exact h (head?_hook o)

/-! ## Names around the imports -/

theorem head?_validatorFunction (c : Collection) (o : Options) :
    (CollectionNames.ofCollection c o).validatorFunction.toList.head? = some 'v' := by
  rw [CollectionNames.validatorFunction, String.toList_append, String.toList_ofList]
  rfl

theorem head?_of_mem_codecNames {s : String} (h : s ∈ codecNames) :
    s.toList.head? ≠ some 'u' ∧ s.toList.head? ≠ some 'v' :=
  Text.Spells.forall_mem (p := fun cs => cs.head? ≠ some 'u' ∧ cs.head? ≠ some 'v')
    (by repeat constructor) (by decide) s h

/-- Names around those from other generated modules are apart from them, but for the function that gives
access to the store. -/
theorem nodup_names_iff {before after codecs : List String} (h : (before ++ after).Nodup)
    (hfirst : ∀ s ∈ before ++ after, s.toList.head? ≠ some 'v')
    (hafter : ∀ s ∈ after, s.toList.head? ≠ some 'u') (hc : codecs.Nodup)
    (hcodecs : ∀ s ∈ codecs, s ∈ codecNames) (hfree : ∀ s ∈ codecNames, s ∉ before ++ after) :
    (before ++ (importedNames c o codecs ++ after)).Nodup ↔ (StoreNames.ofOptions o).hook ∉ before := by
  -- the order of the names does not matter, so the two names of functions are looked at first
  have hperm : (before ++ (importedNames c o codecs ++ after)).Perm
      ((StoreNames.ofOptions o).hook :: (CollectionNames.ofCollection c o).validatorFunction
        :: (codecs ++ (before ++ after))) := List.perm_append_comm_assoc _ _ _
  have hvalidator : (CollectionNames.ofCollection c o).validatorFunction ∉ codecs ++ (before ++ after) := by
    rw [List.mem_append, not_or]
    exact ⟨fun hm => (head?_of_mem_codecNames (hcodecs _ hm)).2 (head?_validatorFunction c o),
      fun hm => hfirst _ hm (head?_validatorFunction c o)⟩
  have hothers :
      ((CollectionNames.ofCollection c o).validatorFunction :: (codecs ++ (before ++ after))).Nodup :=
    List.nodup_cons.2 ⟨hvalidator, List.nodup_append.2 ⟨hc, h, fun a ha b hb e =>
      hfree a (hcodecs a ha) (e ▸ hb)⟩⟩
  have hhook : (StoreNames.ofOptions o).hook
      ∈ (CollectionNames.ofCollection c o).validatorFunction :: (codecs ++ (before ++ after))
        ↔ (StoreNames.ofOptions o).hook ∈ before := by
    rw [List.mem_cons, List.mem_append, List.mem_append]
    constructor
    · rintro (e | hm | hm | hm)
      · have hheads := head?_hook o
        rw [e, head?_validatorFunction] at hheads
        exact absurd hheads (by decide)
      · exact absurd (head?_hook o) (head?_of_mem_codecNames (hcodecs _ hm)).1
      · exact hm
      · exact absurd (head?_hook o) (hafter _ hm)
    · exact fun hm => .inr (.inr (.inl hm))
  rw [hperm.nodup_iff, List.nodup_cons, hhook]
  exact and_iff_left hothers

/-- The names of the view for creating a record are apart unless the store is called `router`. -/
theorem nodup_createNames_iff (c : Collection) (o : Options) :
    (createNames c o).Nodup ↔ (StoreNames.ofOptions o).storeName ≠ "router" := by
  have hnames : (["ref", "useRouter"] ++ (importedNames c o (createImports c.formFields)
      ++ (["router", "store"] ++ (formNames ++ submitNames)))).Nodup
        ↔ (StoreNames.ofOptions o).hook ∉ ["ref", "useRouter"] :=
    nodup_names_iff (Text.Spells.nodup (by repeat constructor) (by decide))
      (Text.Spells.forall_mem (p := fun cs => cs.head? ≠ some 'v') (by repeat constructor) (by decide))
      (Text.Spells.forall_mem (p := fun cs => cs.head? ≠ some 'u') (by repeat constructor) (by decide))
      (Text.nodup_distinct _)
      (fun s hm => mem_codecNames_of_editImports (mem_editImports_of_createImports hm))
      (by decide)
  have href : (StoreNames.ofOptions o).hook ≠ "ref" := hook_ne_of_head? o (by
    rw [String.toList_ofList]
    decide)
  have hrouter : (StoreNames.ofOptions o).hook = "useRouter"
      ↔ (StoreNames.ofOptions o).storeName = "router" := hook_eq_iff (by decide) (by decide)
  simp only [createNames, List.append_assoc]
  rw [hnames, List.mem_cons, List.mem_singleton, not_or, hrouter]
  exact and_iff_right href

/-- The names of the view for editing a record are apart unless the store is called `router` or `route`. -/
theorem nodup_editNames_iff (c : Collection) (o : Options) :
    (editNames c o).Nodup ↔ (StoreNames.ofOptions o).storeName ≠ "router"
      ∧ (StoreNames.ofOptions o).storeName ≠ "route" := by
  have hnames : (["onMounted", "ref", "useRoute", "useRouter"]
      ++ (importedNames c o (editImports c.formFields)
        ++ (["props", "route", "router", "store", "recordId", "loading"]
          ++ (formNames ++ (["leaveWith"] ++ submitNames))))).Nodup
        ↔ (StoreNames.ofOptions o).hook ∉ ["onMounted", "ref", "useRoute", "useRouter"] :=
    nodup_names_iff (Text.Spells.nodup (by repeat constructor) (by decide))
      (Text.Spells.forall_mem (p := fun cs => cs.head? ≠ some 'v') (by repeat constructor) (by decide))
      (Text.Spells.forall_mem (p := fun cs => cs.head? ≠ some 'u') (by repeat constructor) (by decide))
      (Text.nodup_distinct _) (fun s hm => mem_codecNames_of_editImports hm) (by decide)
  -- of the imported names only the two of the router begin as the hook of the store does
  have hmounted : (StoreNames.ofOptions o).hook ≠ "onMounted" := hook_ne_of_head? o (by
    rw [String.toList_ofList]
    decide)
  have href : (StoreNames.ofOptions o).hook ≠ "ref" := hook_ne_of_head? o (by
    rw [String.toList_ofList]
    decide)
  have hroute : (StoreNames.ofOptions o).hook = "useRoute"
      ↔ (StoreNames.ofOptions o).storeName = "route" := hook_eq_iff (by decide) (by decide)
  have hrouter : (StoreNames.ofOptions o).hook = "useRouter"
      ↔ (StoreNames.ofOptions o).storeName = "router" := hook_eq_iff (by decide) (by decide)
  simp only [editNames, List.append_assoc]
  rw [hnames, List.mem_cons, List.mem_cons, List.mem_cons, List.mem_singleton, not_or, not_or, not_or,
    hroute, hrouter]
  constructor
  · rintro ⟨-, -, he, hr⟩
    exact ⟨hr, he⟩
  · rintro ⟨hr, he⟩
    exact ⟨hmounted, href, he, hr⟩

/-- The scripts of both views declare each of their names once exactly if the store is not called after
what routes the views. -/
theorem names_are_apart_iff {identity : List String} {raw : Value} {notes : List Note}
    {all : List Collection} (hread : Intake.read identity raw = (notes, .ok all)) (o : Options) :
    ∀ c ∈ all, ∃ created edited, createFile c o = .ok created ∧ editFile c o = .ok edited
      ∧ Script.componentNames? created.content = some (createNames c o)
      ∧ Script.componentNames? edited.content = some (editNames c o)
      ∧ ((createNames c o).Nodup ↔ (StoreNames.ofOptions o).storeName ≠ "router")
      ∧ ((editNames c o).Nodup ↔ (StoreNames.ofOptions o).storeName ≠ "router"
        ∧ (StoreNames.ofOptions o).storeName ≠ "route") := by
  intro c hm
  have hc : c.IsNormal := (Intake.areNormal_of_read hread).each c hm
  obtain ⟨created, hcreated, hcreate⟩ := componentNames?_createFile hc o
  obtain ⟨edited, hedited, hedit⟩ := componentNames?_editFile hc o
  exact ⟨created, edited, hcreated, hedited, hcreate, hedit, nodup_createNames_iff c o,
    nodup_editNames_iff c o⟩

/-- For books in a store of the usual name nothing is declared twice. -/
theorem names_of_books :
    let books : Collection := {
      name := "book", camelName := "book", pascalName := "Book",
      fields := [⟨"title", .text, "string"⟩] }
    ∃ notes created edited, Intake.read [] (.list [Intake.declaration "book" [("title", "string")]])
        = (notes, .ok [books])
      ∧ createFile books {} = .ok created ∧ editFile books {} = .ok edited
      ∧ (∃ names, Script.componentNames? created.content = some names ∧ names.Nodup)
      ∧ ∃ names, Script.componentNames? edited.content = some names ∧ names.Nodup := by
  intro books
  have hread : Intake.read [] (.list [Intake.declaration "book" [("title", "string")]])
      = (_, .ok [books]) := Intake.read_eq_of_toOption (by decide +kernel)
  have hrouter : (StoreNames.ofOptions {}).storeName ≠ "router" := by decide
  have hroute : (StoreNames.ofOptions {}).storeName ≠ "route" := by decide
  obtain ⟨created, edited, hcreated, hedited, hcreate, hedit, hnew, hold⟩ :=
    names_are_apart_iff hread {} books List.mem_cons_self
  exact ⟨_, created, edited, hread, hcreated, hedited, ⟨_, hcreate, hnew.2 hrouter⟩,
    ⟨_, hedit, hold.2 ⟨hrouter, hroute⟩⟩⟩

/-- In a store that is called `router`, the function that gives access to it has the name of the one that
gives access to the router, and in one that is called `route`, that of the one for the route. -/
theorem names_of_router_and_route :
    let books : Collection := {
      name := "book", camelName := "book", pascalName := "Book",
      fields := [⟨"title", .text, "string"⟩] }
    ∃ notes created edited, Intake.read [] (.list [Intake.declaration "book" [("title", "string")]])
        = (notes, .ok [books])
      ∧ createFile books { storeName := "router" } = .ok created
      ∧ editFile books { storeName := "route" } = .ok edited
      ∧ (∃ names, Script.componentNames? created.content = some names ∧ ¬ names.Nodup)
      ∧ ∃ names, Script.componentNames? edited.content = some names ∧ ¬ names.Nodup := by
  intro books
  have hread : Intake.read [] (.list [Intake.declaration "book" [("title", "string")]])
      = (_, .ok [books]) := Intake.read_eq_of_toOption (by decide +kernel)
  have hnormal : books.IsNormal := (Intake.areNormal_of_read hread).each books List.mem_cons_self
  have hrouter : (StoreNames.ofOptions { storeName := "router" }).storeName = "router" := by decide
  have hroute : (StoreNames.ofOptions { storeName := "route" }).storeName = "route" := by decide
  obtain ⟨created, hcreated, hcreate⟩ := componentNames?_createFile hnormal { storeName := "router" }
  obtain ⟨edited, hedited, hedit⟩ := componentNames?_editFile hnormal { storeName := "route" }
  refine ⟨_, created, edited, hread, hcreated, hedited, ⟨_, hcreate, ?_⟩, ⟨_, hedit, ?_⟩⟩
  · rw [nodup_createNames_iff]
    exact fun hne => hne hrouter
  · rw [nodup_editNames_iff]
    exact fun hne => hne.2 hroute

end Scaffold.Form
