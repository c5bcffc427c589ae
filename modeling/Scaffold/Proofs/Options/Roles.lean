import Mathlib.Data.List.Basic
import Mathlib.Data.List.Forall2
import Scaffold.Name.Layout
import Scaffold.Proofs.Name.Respelling
import Scaffold.Proofs.Text.Parts

/-!
# Roles and the name of the store

Roles are read from a text with commas or from whatever a value is gone through by. Each text that is given
for a role is trimmed, blank ones are left out, and of equal ones the first counts. Roles that were read are
read as they are, and so is the name of the store: options that are made once more from both of them have
the same roles and the same name.

* `Text.firstMentions_distinct`: texts without repetitions, in the order of their first mention;
* `Options.roleTexts_iff`: the texts that a value gives for roles are those that are read from it;
* `Options.roles_settle`: the roles that are read, and what is read from them again.
-/

namespace Scaffold

/-! ## First mentions -/

namespace Text

/-- The texts of a list, each of them once and in the order in which they are first mentioned. -/
structure FirstMentions (l firsts : List String) : Prop where
  mem_iff : ∀ s, s ∈ firsts ↔ s ∈ l
  nodup : firsts.Nodup
  ordered : firsts.Pairwise fun s t => l.idxOf s < l.idxOf t

/-- The first mentions in a longer list: the text in front comes first, and the others keep their order. -/
theorem pairwise_idxOf_cons {l firsts : List String} {t : String} (ht : t ∉ firsts)
    (h : firsts.Pairwise fun s s' => l.idxOf s < l.idxOf s') :
    (t :: firsts).Pairwise fun s s' => (t :: l).idxOf s < (t :: l).idxOf s' := by
  have hne : ∀ s ∈ firsts, t ≠ s := fun s hs e => ht (e ▸ hs)
  rw [List.pairwise_cons]
  constructor
  · intro s hs
    rw [List.idxOf_cons_self, List.idxOf_cons_ne l (hne s hs)]
    exact Nat.succ_pos _
  · refine h.imp_of_mem fun hs hs' hlt => ?_
    rw [List.idxOf_cons_ne l (hne _ hs), List.idxOf_cons_ne l (hne _ hs')]
    exact Nat.succ_lt_succ hlt

theorem firstMentions_distinct (l : List String) : FirstMentions l (distinct l) where
  mem_iff _ := mem_distinct
  nodup := nodup_distinct l
  ordered := by
    induction l with
    | nil => exact .nil
    | cons t rest ih =>
      have ht : t ∉ (distinct rest).filter (· != t) := fun hm =>
        bne_iff_ne.1 (List.mem_filter.1 hm).2 rfl
      exact pairwise_idxOf_cons ht (ih.filter _)

end Text

namespace Input

/-- Two parts are read exactly if both of them are. -/
theorem both_eq_ok_iff {α β : Type} {a : Checked α} {b : Checked β} {x : α} {y : β} :
    both a b = .ok (x, y) ↔ a = .ok x ∧ b = .ok y := by
  cases a <;> cases b <;> simp [both]

end Input

namespace Options

variable {given : List (String × Value)} {v : Value} {o : Options} {texts roles : List String}

/-! ## What is given for roles -/

/-- The texts that a value gives for roles: null gives none, a text gives those that stand in it with commas
between them, and a value that is gone through, such as a list or a tuple, gives what is shown of its
items. Whole numbers of too many digits are not shown. -/
inductive RoleTexts : Value → List String → Prop where
  | null : RoleTexts .null []
  | text {texts : List String} (hne : texts ≠ []) (h : ∀ t ∈ texts, ',' ∉ t.toList) :
    RoleTexts (.text (",".intercalate texts)) texts
  | items {v : Value} {items : List Value} (htext : v.text? = none) (h : v.elements? = some items)
    (hshown : Value.areShown items = true) : RoleTexts v (items.map Value.display)

/-- The texts without the blank ones, trimmed. -/
def roleNames (texts : List String) : List String :=
  (texts.filter fun t => !Text.isBlankText t).map Text.trim

/-! ### Texts -/

theorem areShown_texts (texts : List String) : Value.areShown (texts.map Value.text) = true := by
  induction texts with
  | nil => rfl
  | cons t rest ih => exact ih

theorem display_texts (texts : List String) : (texts.map Value.text).map Value.display = texts := by
  rw [List.map_map]
  exact List.map_id texts

/-- Texts without commas come back when they are put together with commas and cut there. -/
theorem partsBetween_intercalate_texts (hne : texts ≠ []) (h : ∀ t ∈ texts, ',' ∉ t.toList) :
    Text.partsBetween ',' (",".intercalate texts).toList = texts.map String.toList := by
  have hparts : ∀ part ∈ texts.map String.toList, ',' ∉ part := by
    intro part hp
    obtain ⟨t, ht, rfl⟩ := List.mem_map.1 hp
    exact h t ht
  rw [String.toList_intercalate]
  exact Text.partsBetween_intercalate (mt List.map_eq_nil_iff.1 hne) hparts

/-- A text is what stands between its commas, with commas between. -/
theorem roleTexts_text (s : String) :
    RoleTexts (.text s) ((Text.partsBetween ',' s.toList).map String.ofList) := by
  have hs : ",".intercalate ((Text.partsBetween ',' s.toList).map String.ofList) = s := by
    rw [← String.toList_inj, String.toList_intercalate, Text.map_toList_ofList]
    exact Text.intercalate_partsBetween ',' s.toList
  have hcommas : ∀ t ∈ (Text.partsBetween ',' s.toList).map String.ofList, ',' ∉ t.toList := by
    intro t ht
    obtain ⟨part, hp, rfl⟩ := List.mem_map.1 ht
    rw [String.toList_ofList]
    exact Text.not_mem_of_mem_partsBetween hp
  have h := RoleTexts.text (mt List.map_eq_nil_iff.1 (Text.partsBetween_ne_nil ',' s.toList)) hcommas
  rwa [hs] at h

/-! ### Values -/

/-- Besides null and texts, the entries of a value are what comes up when it is gone through. -/
theorem roleEntries?_eq_elements? {items : List Value} (htext : v.text? = none)
    (h : v.elements? = some items) : roleEntries? v = some items := by
  cases v with
  | null => cases h
  | text s => cases htext
  | _ => exact h

/-- The texts that a value gives for roles are what is shown of its entries. -/
theorem roleTexts_iff : RoleTexts v texts ↔ ∃ entries, roleEntries? v = some entries
    ∧ Value.areShown entries = true ∧ texts = entries.map Value.display := by
  constructor
  · intro h
    cases h with
    | null => exact ⟨[], rfl, rfl, rfl⟩
    | text hne h =>
      refine ⟨texts.map Value.text, ?_, areShown_texts texts, (display_texts texts).symm⟩
      rw [roleEntries?, partsBetween_intercalate_texts hne h, List.map_map]
      simp
    | items htext h hshown => exact ⟨_, roleEntries?_eq_elements? htext h, hshown, rfl⟩
  · rintro ⟨entries, he, hshown, rfl⟩
    cases v with
    | null =>
      cases he
      exact .null
    | text s =>
      cases he
      rw [List.map_map]
      exact roleTexts_text s
    | _ => exact .items rfl he hshown

/-- Roles are given as they are by a tuple of their texts. -/
theorem roleTexts_tuple (texts : List String) : RoleTexts (.tuple (texts.map Value.text)) texts :=
  roleTexts_iff.2 ⟨texts.map Value.text, rfl, areShown_texts texts, (display_texts texts).symm⟩

/-! ## Roles that are read -/

theorem cleanRoles_eq (texts : List String) : cleanRoles texts = Text.distinct (roleNames texts) := by
  have hblank : ((!·.isEmpty) ∘ Text.trim) = fun t => !Text.isBlankText t := by
    funext t
    rw [Function.comp_apply, Text.isEmpty_trim]
  rw [cleanRoles, List.filter_map, hblank, roleNames]

/-- Each text that is not blank is trimmed, in its place. -/
theorem forall₂_roleNames (texts : List String) :
    List.Forall₂ Text.IsTrimOf (texts.filter fun t => !Text.isBlankText t) (roleNames texts) := by
  unfold roleNames
  rw [List.forall₂_map_right_iff, List.forall₂_same]
  exact fun t _ => Text.isTrimOf_trim t

/-- Roles that were read are neither blank nor in blanks. -/
theorem roleNames_cleanRoles (texts : List String) : roleNames (cleanRoles texts) = cleanRoles texts := by
  have h : ∀ r ∈ cleanRoles texts, (!Text.isBlankText r) = true ∧ Text.trim r = r := by
    intro r hr
    rw [cleanRoles_eq, Text.mem_distinct, roleNames] at hr
    obtain ⟨t, ht, rfl⟩ := List.mem_map.1 hr
    rw [← Text.isEmpty_trim, Text.trim_trim, Text.isEmpty_trim]
    exact ⟨(List.mem_filter.1 ht).2, rfl⟩
  rw [roleNames, List.filter_eq_self.2 fun r hr => (h r hr).1]
  conv => rhs; rw [← List.map_id (cleanRoles texts)]
  exact List.map_congr_left fun r hr => (h r hr).2

theorem cleanRoles_cleanRoles (texts : List String) : cleanRoles (cleanRoles texts) = cleanRoles texts := by
  have hn : (cleanRoles texts).Nodup := cleanRoles_eq texts ▸ Text.nodup_distinct (roleNames texts)
  rw [cleanRoles_eq (cleanRoles texts), roleNames_cleanRoles, Text.distinct_eq_self hn]

/-! ## Options that are read -/

/-- What options that were read owe to the roles and to the name that were given. -/
theorem read_eq_ok (h : read given = .ok o) :
    (∃ entries, roleEntries? ((given.lookup "roles").getD (.tuple [])) = some entries
        ∧ readRoles [.field "roles"] entries = .ok o.roles)
      ∧ Input.withDefault "store_name" given defaultStoreName readStoreName = .ok o.storeName := by
  unfold read at h
  split at h
  next => cases h
  next entries he =>
    dsimp only at h
    split at h
    next => cases h
    next hchecked =>
      cases h
      obtain ⟨hname, hrest⟩ := Input.both_eq_ok_iff.1 hchecked
      exact ⟨⟨entries, he, (Input.both_eq_ok_iff.1 hrest).1⟩, hname⟩

theorem readRoles_eq_ok_iff {steps : List Input.Step} {entries : List Value} :
    readRoles steps entries = .ok roles
      ↔ Value.areShown entries = true ∧ roles = cleanRoles (entries.map Value.display) := by
  unfold readRoles
  split
  next h => simp [h, eq_comm]
  next h => simp [h, Input.fail]

/-- The roles of options that were read are those of the texts that were given. -/
theorem exists_roleTexts (h : read given = .ok o) :
    ∃ texts, RoleTexts ((given.lookup "roles").getD (.tuple [])) texts ∧ o.roles = cleanRoles texts := by
  obtain ⟨⟨entries, he, hr⟩, -⟩ := read_eq_ok h
  obtain ⟨hshown, hroles⟩ := readRoles_eq_ok_iff.1 hr
  exact ⟨_, roleTexts_iff.2 ⟨entries, he, hshown, rfl⟩, hroles⟩

/-- The name of the store stays when it is spelled again. -/
theorem camelOr_storeName (h : read given = .ok o) :
    Name.camelOr defaultStoreName o.storeName = o.storeName := by
  have hdefault : Name.camel defaultStoreName = defaultStoreName := by decide
  obtain ⟨-, hname⟩ := read_eq_ok h
  unfold Input.withDefault at hname
  split at hname
  next v _ =>
    unfold readStoreName at hname
    cases ht : Input.text [.field "store_name"] v with
    | error e =>
      rw [ht] at hname
      cases hname
    | ok s =>
      rw [ht] at hname
      rw [← Except.ok.inj hname]
      exact Name.camelOr_camelOr hdefault s
  next =>
    rw [← Except.ok.inj hname]
    decide

/-- The files of the store are called after the name as it was read. -/
theorem storeName_ofOptions (h : read given = .ok o) : (StoreNames.ofOptions o).storeName = o.storeName := by
  rw [StoreNames.ofOptions, camelOr_storeName h]

/-- Options from a name and from texts for roles. -/
theorem read_of_roleTexts (h : RoleTexts v texts) (name : String) :
    read [("store_name", .text name), ("roles", v)]
      = .ok { storeName := Name.camelOr defaultStoreName name, roles := cleanRoles texts } := by
  obtain ⟨entries, he, hshown, rfl⟩ := roleTexts_iff.1 h
  have hroles : readRoles [.field "roles"] entries = .ok (cleanRoles (entries.map Value.display)) :=
    readRoles_eq_ok_iff.2 ⟨hshown, rfl⟩
  have hv : (List.lookup "roles" [("store_name", Value.text name), ("roles", v)]).getD (.tuple []) = v := rfl
  rw [read, hv, he]
  dsimp only
  rw [hroles]
  rfl

/-- Options from the name and the roles of options that were read have both of them again. -/
theorem read_again (h : read given = .ok o) :
    read [("store_name", .text o.storeName), ("roles", .tuple (o.roles.map Value.text))]
      = .ok { storeName := o.storeName, roles := o.roles } := by
  obtain ⟨texts, -, hroles⟩ := exists_roleTexts h
  rw [read_of_roleTexts (roleTexts_tuple o.roles), camelOr_storeName h, hroles, cleanRoles_cleanRoles]

/-- Options are read exactly from those values for roles that give texts.
The roles are then the texts that are not blank, trimmed, each once and in the order of first mention.
Options that are made once more from the roles and the name of the store have the same roles and the same
name, and the name is also the one that all files of the store are called after. -/
theorem roles_settle (name : String) (v : Value) :
    ((∃ o, read [("store_name", .text name), ("roles", v)] = .ok o) ↔ ∃ texts, RoleTexts v texts)
      ∧ ∀ (given : List (String × Value)) (o : Options),
        given.lookup "roles" = some v → read given = .ok o →
          (∃ texts names, RoleTexts v texts
              ∧ List.Forall₂ Text.IsTrimOf (texts.filter fun t => !Text.isBlankText t) names
              ∧ Text.FirstMentions names o.roles)
            ∧ read [("store_name", .text o.storeName), ("roles", .tuple (o.roles.map Value.text))]
              = .ok { storeName := o.storeName, roles := o.roles }
            ∧ (StoreNames.ofOptions o).storeName = o.storeName := by
  have hgiven : ∀ {given : List (String × Value)} {o : Options}, given.lookup "roles" = some v →
      read given = .ok o → ∃ texts, RoleTexts v texts ∧ o.roles = cleanRoles texts := by
    intro given o hv h
    have hroles := exists_roleTexts h
    rwa [hv, Option.getD_some] at hroles
  constructor
  · constructor
    · rintro ⟨o, h⟩
      obtain ⟨texts, ht, -⟩ := hgiven rfl h
      exact ⟨texts, ht⟩
    · rintro ⟨texts, ht⟩
      exact ⟨_, read_of_roleTexts ht name⟩
  · intro given o hv h
    obtain ⟨texts, ht, hroles⟩ := hgiven hv h
    refine ⟨⟨texts, roleNames texts, ht, forall₂_roleNames texts, ?_⟩, read_again h, storeName_ofOptions h⟩
    rw [hroles, cleanRoles_eq]
    exact Text.firstMentions_distinct (roleNames texts)

/-- Roles in a text with commas: one is blank, and one comes up twice with different blanks around it. -/
theorem roles_settle_of_text :
    let given : List (String × Value) :=
      [("store_name", .text "Shop Store"), ("roles", .text "\u3000admin\u00a0, editor,,admin ")]
    let o : Options := { storeName := "shopStore", roles := ["admin", "editor"] }
    given.lookup "roles" = some (.text "\u3000admin\u00a0, editor,,admin ") ∧ read given = .ok o
      ∧ (∃ texts names, RoleTexts (.text "\u3000admin\u00a0, editor,,admin ") texts
        ∧ List.Forall₂ Text.IsTrimOf (texts.filter fun t => !Text.isBlankText t) names
        ∧ Text.FirstMentions names ["admin", "editor"])
      ∧ read [("store_name", .text "shopStore"), ("roles", .tuple [.text "admin", .text "editor"])] = .ok o
      ∧ (StoreNames.ofOptions o).storeName = "shopStore" := by
  intro given o
  have hv : given.lookup "roles" = some (.text "\u3000admin\u00a0, editor,,admin ") := rfl
  have hread : read given = .ok o := rfl
  exact ⟨hv, hread, (roles_settle "Shop Store" _).2 given o hv hread⟩

end Options

end Scaffold
