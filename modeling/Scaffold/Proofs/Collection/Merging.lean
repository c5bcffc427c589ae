import Mathlib.Data.List.Induction
import Mathlib.Data.List.Nodup
import Mathlib.Data.List.Perm.Subperm
import Scaffold.Proofs.Collection.Invariants

/-!
# Merged fields

Fields that are mentioned more than once are merged: the names stay in the order of their first mention, and
of each name the last mention counts.
-/

namespace Scaffold

/-! ## Distinct texts -/

namespace Text

/-- One more text is a new one at the end, unless it came up before. -/
theorem distinct_concat (l : List String) (x : String) :
    distinct (l ++ [x]) = if x ∈ l then distinct l else distinct l ++ [x] := by
  induction l with
  | nil => rfl
  | cons t rest ih =>
    rw [List.cons_append, distinct, distinct, ih]
    by_cases hx : x ∈ rest
    · rw [if_pos hx, if_pos (List.mem_cons_of_mem t hx)]
    rw [if_neg hx, List.filter_append]
    by_cases ht : x = t
    · simp [ht]
    · have hnew : x ∉ t :: rest := fun hm => (List.mem_cons.1 hm).elim ht hx
      rw [if_neg hnew, List.filter_cons_of_pos (by rwa [bne_iff_ne]), List.filter_nil, List.cons_append]

end Text

namespace Intake

open scoped List

variable {fs : List Field} {f g : Field}

/-! ## Fields one by one -/

theorem mergeFields_concat (fs : List Field) (f : Field) :
    mergeFields (fs ++ [f]) = putField f (mergeFields fs) := by
  rw [mergeFields, List.foldl_append]
  rfl

/-- A field that is put among others takes the place of those with its name. -/
theorem mem_putField_iff (h : (fs.map Field.name).Nodup) :
    g ∈ putField f fs ↔ g = f ∨ g ∈ fs ∧ g.name ≠ f.name := by
  induction fs with
  | nil => simp [putField]
  | cons k rest ih =>
    rw [List.map_cons, List.nodup_cons] at h
    rw [putField]
    by_cases hk : k.name = f.name
    · rw [if_pos (beq_iff_eq.2 hk), List.mem_cons, List.mem_cons]
      refine or_congr_right ⟨fun hg => ⟨.inr hg, fun e => ?_⟩, fun hg => ?_⟩
      · exact h.1 (List.mem_map.2 ⟨g, hg, e.trans hk.symm⟩)
      · exact hg.1.resolve_left fun e => hg.2 (e ▸ hk)
    · rw [if_neg fun e => hk (beq_iff_eq.1 e), List.mem_cons, List.mem_cons, ih h.2, or_left_comm]
      refine or_congr_right ⟨?_, ?_⟩
      · rintro (rfl | ⟨hg, hne⟩)
        · exact ⟨.inl rfl, hk⟩
        · exact ⟨.inr hg, hne⟩
      · rintro ⟨rfl | hg, hne⟩
        · exact .inl rfl
        · exact .inr ⟨hg, hne⟩

/-! ## All fields -/

/-- The names of merged fields are those of the mentions, in the order of the first ones. -/
theorem names_mergeFields (fs : List Field) :
    (mergeFields fs).map Field.name = Text.distinct (fs.map Field.name) := by
  induction fs using List.reverseRecOn with
  | nil => rfl
  | append_singleton fs f ih =>
    rw [mergeFields_concat, names_putField, ih, List.map_append, List.map_singleton, Text.distinct_concat]
    simp only [Text.mem_distinct]

/-- A merged field is the last mention of its name. -/
theorem mem_mergeFields_iff :
    g ∈ mergeFields fs ↔ ∃ before after, fs = before ++ g :: after ∧ ∀ k ∈ after, k.name ≠ g.name := by
  induction fs using List.reverseRecOn with
  | nil => simp [mergeFields]
  | append_singleton fs f ih =>
    rw [mergeFields_concat, mem_putField_iff (nodup_mergeFields fs), ih]
    constructor
    · rintro (rfl | ⟨⟨before, after, rfl, hafter⟩, hne⟩)
      · exact ⟨fs, [], rfl, fun k hk => absurd hk List.not_mem_nil⟩
      · refine ⟨before, after ++ [f], by simp, ?_⟩
        rw [List.forall_mem_append, List.forall_mem_singleton]
        exact ⟨hafter, hne.symm⟩
    · rintro ⟨before, after, hfs, hafter⟩
      rcases List.eq_nil_or_concat after with rfl | ⟨others, k, rfl⟩
      · exact .inl (List.append_inj_right' hfs rfl |> List.cons.inj |>.1).symm
      · rw [List.concat_eq_append, ← List.cons_append, ← List.append_assoc] at hfs
        obtain ⟨hfs, hk⟩ := List.append_inj' hfs rfl
        rw [List.concat_eq_append, List.forall_mem_append, List.forall_mem_singleton] at hafter
        rw [← (List.cons.inj hk).1] at hafter
        exact .inr ⟨⟨before, others, hfs, hafter.1⟩, hafter.2.symm⟩

/-! ## Fields of one kind -/

/-- Lists with equal images are equal if elements of both are told apart by their images. -/
theorem eq_of_map_eq {α β : Type} {f : α → β} {as bs : List α} (h : as.map f = bs.map f)
    (hinj : ∀ a ∈ as, ∀ b ∈ bs, f a = f b → a = b) : as = bs := by
  induction as generalizing bs with
  | nil => exact (List.map_eq_nil_iff.1 h.symm).symm
  | cons a rest ih =>
    cases bs with
    | nil => cases h
    | cons b others =>
      rw [List.map_cons, List.map_cons, List.cons.injEq] at h
      rw [hinj a List.mem_cons_self b List.mem_cons_self h.1, ih h.2 fun x hx y hy =>
        hinj x (List.mem_cons_of_mem a hx) y (List.mem_cons_of_mem b hy)]

/-- Some of the elements of a list stand in its order if their images do, which differ. -/
theorem sublist_of_map_sublist {α β : Type} {f : α → β} {as bs : List α} (h : as.map f <+ bs.map f)
    (hn : (bs.map f).Nodup) (hs : as ⊆ bs) : as <+ bs := by
  obtain ⟨cs, hcs, he⟩ := List.sublist_map_iff.1 h
  suffices as = cs from this ▸ hcs
  exact eq_of_map_eq he fun a ha c hc => List.inj_on_of_nodup_map hn (hs ha) (hcs.subset hc)

/-- The mentions of one kind are the merged fields of that kind exactly if none of them is followed by a
mention of its name, and their names come in the order in which they are first mentioned. -/
theorem filter_eq_filter_mergeFields_iff {p : Field → Bool} :
    fs.filter p = (mergeFields fs).filter p
      ↔ fs.Pairwise (fun f g => p f = true → f.name ≠ g.name)
        ∧ (fs.filter p).map Field.name <+ Text.distinct (fs.map Field.name) := by
  have hnodup := nodup_mergeFields fs
  rw [← names_mergeFields]
  constructor
  · intro h
    have hsublist : (fs.filter p).map Field.name <+ (mergeFields fs).map Field.name :=
      h ▸ List.filter_sublist.map Field.name
    refine ⟨List.pairwise_iff_forall_sublist.2 fun {f g} hfg hp hname => ?_, hsublist⟩
    have hf : f ∈ mergeFields fs := by
      have hm : f ∈ fs.filter p := List.mem_filter.2 ⟨hfg.subset List.mem_cons_self, hp⟩
      exact (List.mem_filter.1 (h ▸ hm)).1
    -- `f` is the last mention of its name, so it stands once more in front of that
    obtain ⟨before, after, rfl, hafter⟩ := mem_mergeFields_iff.1 hf
    have hbefore : f ∈ before := by
      obtain ⟨xs, ys, hxy, hxs, hys⟩ := List.sublist_append_iff.1 hfg
      cases xs with
      | nil =>
        rw [List.nil_append] at hxy
        have hg : [g] <+ after := List.cons_sublist_cons.1 (hxy ▸ hys)
        exact absurd hname.symm (hafter g (hg.subset List.mem_cons_self))
      | cons x xs =>
        rw [List.cons_append, List.cons.injEq] at hxy
        exact hxs.subset (hxy.1 ▸ List.mem_cons_self)
    have htwice := hsublist.nodup hnodup
    rw [List.filter_append, List.map_append, List.filter_cons_of_pos hp, List.map_cons] at htwice
    refine (List.nodup_append.1 htwice).2.2 f.name ?_ f.name List.mem_cons_self rfl
    exact List.mem_map_of_mem (List.mem_filter.2 ⟨hbefore, hp⟩)
  · rintro ⟨hlast, hsublist⟩
    have hsubset : fs.filter p ⊆ mergeFields fs := fun f hf => by
      obtain ⟨hf, hp⟩ := List.mem_filter.1 hf
      obtain ⟨before, after, rfl⟩ := List.append_of_mem hf
      have hafter := (List.pairwise_cons.1 (List.pairwise_append.1 hlast).2.1).1
      exact mem_mergeFields_iff.2 ⟨before, after, rfl, fun k hk => (hafter k hk hp).symm⟩
    have hle : fs.filter p <+ (mergeFields fs).filter p := by
      have h := (sublist_of_map_sublist hsublist hnodup hsubset).filter p
      simpa only [List.filter_filter, Bool.and_self] using h
    refine hle.eq_of_length_le (List.Subperm.length_le (List.Nodup.subperm ?_ fun f hf => ?_))
    · exact List.Nodup.filter p (List.Nodup.of_map Field.name hnodup)
    · obtain ⟨hf, hp⟩ := List.mem_filter.1 hf
      exact List.mem_filter.2 ⟨mem_mergeFields hf, hp⟩

end Intake

end Scaffold
