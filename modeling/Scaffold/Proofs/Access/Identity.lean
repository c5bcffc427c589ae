import Scaffold.Proofs.Access.Operations
import Scaffold.Proofs.Collection.Shapes
import Scaffold.Proofs.Name.Respelling

/-!
# Collections that are named as holding users

A collection holds users if its camel spelling is among the identity names, whatever the capitals. A name as it
was declared has that spelling in small letters only if it is written with nothing but ASCII letters and digits,
so other names have no effect when they are given as declared. Where it has one, and there are roles, only
administrators may delete records and give and take roles.
-/

namespace Scaffold

/-! ## Declared names in small letters -/

namespace Text

/-- Small letters are no fewer than the letters they stand for. -/
theorem length_le_length_lowerFrom (before cs : List Char) : cs.length ≤ (lowerFrom before cs).length := by
  induction cs generalizing before with
  | nil => exact Nat.zero_le _
  | cons c rest ih =>
    rw [lowerFrom, List.length_append, List.length_cons]
    have hrest := ih (c :: before)
    have hsmall : 1 ≤ (if c = 'Σ' then
        if startsCased before && !startsCased rest then ['ς'] else ['σ']
      else if c = 'İ' then ['i', Char.ofNat 0x307] else [lowerChar c]).length := by
      split
      · split <;> simp
      · split <;> simp
    omega

/-- A text in small letters is what is left of it when all but its letters and digits are deleted exactly if
there is nothing to delete. -/
theorem lower_eq_letters_iff (s : String) :
    lower s = String.ofList ((Name.letters s).map lowerAscii) ↔ ∀ d ∈ s.toList, isWordAscii d = true := by
  constructor
  · intro h
    -- a deleted character makes the right side shorter than the left one
    have hlength := congrArg (fun t : String => t.toList.length) h
    simp only [lower, String.toList_ofList, List.length_map, Name.letters] at hlength
    have hle := length_le_length_lowerFrom [] s.toList
    have hfilter := List.length_filter_le isWordAscii s.toList
    exact List.length_filter_eq_length_iff.1 (by omega)
  · intro h
    refine String.toList_inj.1 ?_
    rw [toList_lower_of_ascii fun c hc => toNat_lt_of_isWordAscii (h c hc), String.toList_ofList, Name.letters,
      List.filter_eq_self.2 h]

end Text

namespace Collection

variable {c : Collection}

/-- A collection holds users if one of the identity names is, in small letters, what is left of its name. -/
theorem IsNormal.isIdentity_iff (h : c.IsNormal) (names : List String) :
    c.isIdentity names = true ↔ ∃ n ∈ names,
      Text.lower (Text.trim n) = String.ofList ((Name.letters c.name).map Text.lowerAscii) := by
  have hfold : Identity.fold c.camelName = String.ofList ((Name.letters c.name).map Text.lowerAscii) := by
    rw [Identity.fold, Name.trim_of_isWord h.isWord_camelName, h.lower_camelName, h.camel_eq,
      Name.collisionKey_camel]
  rw [isIdentity, Identity.isMember, List.contains_iff_mem, List.mem_map, hfold]
  rfl

end Collection

namespace Access

/-- With roles on a collection that holds users, three operations ask for the role of an administrator before
they do anything else. -/
theorem guarded_actionOperations (c : Collection) (o : Options) :
    Script.guarded "admin" (actionOperations c o)
      = if c.isRoleGated o then ["remove", "assignRoles", "revokeRoles"] else [] := by
  unfold actionOperations recordLines roleLines
  cases o.activityLogging <;> cases c.isRoleGated o <;> rfl

/-- Whatever is recorded, no role is asked for. -/
theorem asks_not_mem_recordLines (o : Options) (role : String) : .asks role ∉ recordLines o := by
  unfold recordLines
  split <;> simp

/-- No step of any other operation asks for a role, and no step of these three asks for another one. -/
theorem asks_mem_steps_iff {c : Collection} {o : Options} {p : Script.Operation} (hp : p ∈ actionOperations c o)
    (role : String) : .asks role ∈ p.steps
      ↔ c.isRoleGated o = true ∧ role = "admin" ∧ p.name ∈ ["remove", "assignRoles", "revokeRoles"] := by
  have hrecord := asks_not_mem_recordLines o role
  unfold actionOperations roleLines at hp
  -- operations are gone through one by one: the flag decides how many there are
  cases hgated : c.isRoleGated o with
  | true =>
    simp only [hgated, if_true, List.cons_append, List.nil_append, List.mem_cons, List.not_mem_nil,
      or_false] at hp
    rcases hp with rfl | rfl | rfl | rfl | rfl | rfl | rfl | rfl | rfl | rfl <;> simp [hrecord]
  | false =>
    simp only [hgated, Bool.false_eq_true, if_false, List.append_nil, List.mem_cons, List.not_mem_nil,
      or_false] at hp
    rcases hp with rfl | rfl | rfl | rfl | rfl | rfl | rfl | rfl <;> simp [hrecord]

variable {c : Collection} (h : c.IsNormal) (o : Options)

include h

/-- With roles on a collection that holds users, three operations ask for the role of an administrator, and they
do so first. No other step of an operation asks for a role. -/
theorem roles_actionsFile :
    ∃ f, actionsFile c o = .ok f
      ∧ Script.guarded "admin" (Script.operations f.content)
        = (if c.isRoleGated o then ["remove", "assignRoles", "revokeRoles"] else [])
      ∧ ∀ p ∈ Script.operations f.content, ∀ role, .asks role ∈ p.steps
        ↔ c.isRoleGated o = true ∧ role = "admin" ∧ p.name ∈ ["remove", "assignRoles", "revokeRoles"] := by
  obtain ⟨f, hf, hoperations, -⟩ := operations_actionsFile o h
  refine ⟨f, hf, ?_⟩
  rw [hoperations]
  exact ⟨guarded_actionOperations c o, fun p hp => asks_mem_steps_iff hp⟩

end Access

namespace Intake

/-- A declared name that has letters or digits is that of a collection. The collection holds users exactly if an
identity name is, without blanks around it and in small letters, what is left of the declared name when all but
its ASCII letters and digits are deleted. So giving the name as declared always takes effect exactly if, but for
blanks around it, the name has no other characters. Where a collection holds users and there are roles, deleting
and giving and taking roles ask for the role of an administrator first. No step of any other operation asks for
a role, and elsewhere no step of any operation does. -/
theorem naming_takes_effect_iff {identity : List String} {raw entry name : Value} {notes : List Note}
    {all : List Collection} {declarations : List Value} {parts : List (Value × Value)}
    (h : read identity raw = (notes, .ok all)) (hd : entriesOf? raw = some declarations)
    (hm : entry ∈ declarations) (hp : entry.entries? = some parts)
    (hn : Value.field? parts "name" = some name) (hl : Name.letters name.display ≠ []) :
    ∃ c ∈ all, c.name = Text.trim name.display
      ∧ (∀ names, c.isIdentity names = true ↔ ∃ n ∈ names, Text.lower (Text.trim n)
        = String.ofList ((Name.letters name.display).map Text.lowerAscii))
      ∧ ((∀ o : Options, name.display ∈ o.identityNames → c.isIdentity o.identityNames = true)
        ↔ ∀ d ∈ (Text.trim name.display).toList, Text.isWordAscii d = true)
      ∧ ∀ o : Options, ∃ f, Access.actionsFile c o = .ok f
        ∧ Script.guarded "admin" (Script.operations f.content)
          = (if o.hasRoles && c.isIdentity o.identityNames then ["remove", "assignRoles", "revokeRoles"] else [])
        ∧ ∀ p ∈ Script.operations f.content, ∀ role, .asks role ∈ p.steps
          ↔ (o.hasRoles && c.isIdentity o.identityNames) = true ∧ role = "admin"
            ∧ p.name ∈ ["remove", "assignRoles", "revokeRoles"] := by
  obtain ⟨c, hc, hname⟩ := exists_collection h hd hm hp hn hl
  have hnormal := (areNormal_of_read h).each c hc
  have hletters : Name.letters c.name = Name.letters name.display := by rw [hname, Name.letters_trim]
  have hidentity := hletters ▸ hnormal.isIdentity_iff
  refine ⟨c, hc, hname, hidentity, ?_, Access.roles_actionsFile hnormal⟩
  rw [← Text.lower_eq_letters_iff, Name.letters_trim]
  constructor
  · intro heffect
    -- the name as declared may be the only one that is given
    have honly := heffect { identityNames := [name.display] } (List.mem_singleton_self _)
    obtain ⟨n, hmem, heq⟩ := (hidentity _).1 honly
    rwa [List.mem_singleton.1 hmem] at heq
  · intro heq o hmem
    exact (hidentity _).2 ⟨name.display, hmem, heq⟩

/-- Members that are declared with a capital and a blank, and named in the same way. -/
theorem naming_takes_effect_of_members :
    let raw : Value := .list [declaration "Members " []]
    let o : Options := { roles := ["admin"], identityNames := ["Members "] }
    ∃ c, (read [] raw).2 = .ok [c] ∧ c.isIdentity o.identityNames = true
      ∧ ∃ f, Access.actionsFile c o = .ok f
        ∧ Script.guarded "admin" (Script.operations f.content) = ["remove", "assignRoles", "revokeRoles"]
        ∧ ∀ p ∈ Script.operations f.content, .asks "admin" ∈ p.steps
          ↔ p.name ∈ ["remove", "assignRoles", "revokeRoles"] := by
  intro raw o
  let members : Collection := ⟨"Members", "members", "Members", [], "object"⟩
  have h : read [] raw = (_, .ok [members]) := read_eq_of_toOption (by decide +kernel)
  have hname : Value.field? [(.text "name", .text "Members "), (.text "fields", .record [])] "name"
      = some (.text "Members ") := by
    simp [Value.field?, Value.lookup, Value.text_same_text]
  obtain ⟨c, hc, -, -, heffect, hguarded⟩ := naming_takes_effect_iff h rfl (List.mem_singleton_self _) rfl hname
    (by decide +kernel)
  rw [List.mem_singleton.1 hc] at heffect hguarded
  have htrim : Text.trim (Value.text "Members ").display = "Members" := by decide +kernel
  have hplain : ∀ d ∈ (Text.trim (Value.text "Members ").display).toList, Text.isWordAscii d = true := by
    rw [htrim]
    exact Text.forall_mem_of_all (by decide)
  have hidentity := heffect.2 hplain o (List.mem_singleton_self _)
  obtain ⟨f, hf, hfirst, hsteps⟩ := hguarded o
  have hgated : (o.hasRoles && members.isIdentity o.identityNames) = true := by rw [hidentity]; rfl
  rw [if_pos hgated] at hfirst
  exact ⟨members, congrArg Prod.snd h, hidentity, f, hf, hfirst, fun p hp =>
    (hsteps p hp "admin").trans ⟨fun h => h.2.2, fun h => ⟨hgated, rfl, h⟩⟩⟩

/-- Team members that are named as they are declared hold no users, and everybody may delete them. -/
theorem naming_without_effect_of_team_members :
    let raw : Value := .list [declaration "team members" []]
    let o : Options := { roles := ["admin"], identityNames := ["team members"] }
    ∃ c, (read [] raw).2 = .ok [c] ∧ c.name ∈ o.identityNames ∧ c.isIdentity o.identityNames = false
      ∧ ∃ f, Access.actionsFile c o = .ok f ∧ Script.guarded "admin" (Script.operations f.content) = []
        ∧ ∀ p ∈ Script.operations f.content, ∀ role, .asks role ∉ p.steps := by
  intro raw o
  let team : Collection := ⟨"team members", "teamMembers", "TeamMembers", [], "object"⟩
  have h : read [] raw = (_, .ok [team]) := read_eq_of_toOption (by decide +kernel)
  have hidentity : team.isIdentity o.identityNames = false := by decide +kernel
  obtain ⟨f, hf, hfirst, hsteps⟩ :=
    Access.roles_actionsFile ((areNormal_of_read h).each team (List.mem_singleton_self _)) o
  have hgated : team.isRoleGated o = false := by rw [Collection.isRoleGated, hidentity, Bool.and_false]
  rw [hgated, if_neg Bool.false_ne_true] at hfirst
  refine ⟨team, congrArg Prod.snd h, List.mem_singleton_self _, hidentity, f, hf, hfirst, fun p hp role hasks => ?_⟩
  exact Bool.false_ne_true (hgated.symm.trans ((hsteps p hp role).1 hasks).1)

end Intake

end Scaffold
