import Mathlib.Data.List.Induction
import Mathlib.Data.List.Nodup
import Scaffold.Value.Basic

/-!
# Keys of mappings

What is found under a textual key after keys were given their values, and what comes of giving distinct keys
their values.

The values that a JSON text stands for without floating-point numbers are data: null, truth values, whole
numbers, texts, lists, and mappings with textual keys.
-/

namespace Scaffold.Value

/-- Only a text is equal to a text. -/
theorem same_text_iff {v : Value} {s : String} : v.same (.text s) = true ↔ v = .text s := by
  cases v <;> simp [same]

theorem text_same_text (k s : String) : (Value.text k).same (.text s) = (k == s) := by
  rw [same]

theorem field?_insert (entries : List (Value × Value)) (k : String) (v : Value) (s : String) :
    field? (insert (.text k) v entries) s = if k = s then some v else field? entries s := by
  unfold field?
  induction entries with
  | nil =>
    rw [insert, lookup, lookup, lookup, text_same_text]
    simp only [beq_iff_eq]
  | cons e rest ih =>
    obtain ⟨key, w⟩ := e
    rw [insert]
    by_cases hk : key.same (.text k) = true
    · rw [if_pos hk, same_text_iff.1 hk, lookup, lookup, text_same_text]
      by_cases hs : k = s
      · rw [if_pos hs, if_pos (beq_iff_eq.2 hs)]
      · rw [if_neg hs, if_neg (fun h => hs (beq_iff_eq.1 h)), if_neg (fun h => hs (beq_iff_eq.1 h))]
    · rw [if_neg hk, lookup, lookup, ih]
      by_cases hs : k = s
      · rw [if_pos hs, if_pos hs, if_neg (hs ▸ hk)]
      · rw [if_neg hs, if_neg hs]

/-- The value under a key, where all values come from their keys. -/
theorem field?_mapping (keys : List String) (f : String → Value) (s : String) :
    field? (mapping (keys.map fun k => (.text k, f k))) s
      = if s ∈ keys then some (f s) else none := by
  -- The entries that are there are generalised: later keys are looked up first.
  have step : ∀ acc : List (Value × Value),
      field? ((keys.map fun k => (Value.text k, f k)).foldl (fun acc e => insert e.1 e.2 acc) acc) s
        = if s ∈ keys then some (f s) else field? acc s := by
    induction keys with
    | nil => exact fun acc => by rw [List.map_nil, List.foldl_nil, if_neg List.not_mem_nil]
    | cons k rest ih =>
      intro acc
      rw [List.map_cons, List.foldl_cons, ih, field?_insert]
      by_cases hs : s ∈ rest
      · rw [if_pos hs, if_pos (List.mem_cons_of_mem k hs)]
      · rw [if_neg hs]
        by_cases hk : k = s
        · rw [if_pos hk, if_pos (hk ▸ List.mem_cons_self), hk]
        · rw [if_neg hk, if_neg]
          intro hm
          rcases List.mem_cons.1 hm with hm | hm
          · exact hk hm.symm
          · exact hs hm
  exact step []

/-! ## Distinct keys -/

/-- A key that is equal to none before it comes last. -/
theorem insert_of_forall_not_same {key : Value} {entries : List (Value × Value)}
    (h : ∀ e ∈ entries, e.1.same key = false) (v : Value) :
    insert key v entries = entries ++ [(key, v)] := by
  induction entries with
  | nil => rfl
  | cons e rest ih =>
    obtain ⟨he, hrest⟩ := List.forall_mem_cons.1 h
    simp [insert, he, ih hrest]

/-- Giving keys that differ their values one after the other gives the entries as they are. -/
theorem mapping_of_pairwise {entries : List (Value × Value)}
    (h : entries.Pairwise fun d e => d.1.same e.1 = false) : mapping entries = entries := by
  induction entries using List.reverseRecOn with
  | nil => rfl
  | append_singleton before e ih =>
    obtain ⟨hbefore, -, hlast⟩ := List.pairwise_append.1 h
    have hstep : mapping (before ++ [e]) = insert e.1 e.2 (mapping before) := List.foldl_append
    rw [hstep, ih hbefore]
    exact insert_of_forall_not_same (fun d hd => hlast d hd e List.mem_cons_self) e.2

/-! ## Values of entries -/

theorem exists_mem_of_lookup {entries : List (Value × Value)} {key v : Value}
    (h : lookup entries key = some v) : ∃ e ∈ entries, e.2 = v := by
  induction entries with
  | nil => cases h
  | cons e rest ih =>
    obtain ⟨k, w⟩ := e
    rw [lookup] at h
    split at h
    next => exact ⟨(k, w), List.mem_cons_self, Option.some.inj h⟩
    next =>
      obtain ⟨e, he, hv⟩ := ih h
      exact ⟨e, List.mem_cons_of_mem _ he, hv⟩

theorem mem_insert {key v : Value} {entries : List (Value × Value)} {e : Value × Value}
    (h : e ∈ insert key v entries) : e.2 = v ∨ e ∈ entries := by
  induction entries with
  | nil =>
    rw [insert, List.mem_singleton] at h
    exact .inl (congrArg Prod.snd h)
  | cons d rest ih =>
    obtain ⟨k, w⟩ := d
    rw [insert] at h
    split at h
    all_goals rcases List.mem_cons.1 h with rfl | h
    · exact .inl rfl
    · exact .inr (List.mem_cons_of_mem _ h)
    · exact .inr List.mem_cons_self
    · exact (ih h).imp_right (List.mem_cons_of_mem _)

/-- A value under a key is one that was given. -/
theorem exists_mem_of_lookup_mapping {entries : List (Value × Value)} {key v : Value}
    (h : lookup (mapping entries) key = some v) : ∃ e ∈ entries, e.2 = v := by
  -- The entries that are there before are generalised.
  have step : ∀ acc : List (Value × Value), ∀ e ∈ entries.foldl (fun acc e => insert e.1 e.2 acc) acc,
      (∃ d ∈ entries, d.2 = e.2) ∨ e ∈ acc := by
    clear h
    induction entries with
    | nil => exact fun acc e he => .inr he
    | cons d rest ih =>
      intro acc e he
      rcases ih _ e he with ⟨d', hd, hv⟩ | hm
      · exact .inl ⟨d', List.mem_cons_of_mem d hd, hv⟩
      · rcases mem_insert hm with hv | hm
        · exact .inl ⟨d, List.mem_cons_self, hv.symm⟩
        · exact .inr hm
  obtain ⟨e, he, rfl⟩ := exists_mem_of_lookup h
  exact (step [] e he).resolve_right List.not_mem_nil

/-! ## Data -/

/-- Null, a truth value, a whole number, a text, or a list or a mapping of such values. The keys of a
mapping are texts that differ. -/
inductive IsData : Value → Prop where
  | null : IsData .null
  | bool (b : Bool) : IsData (.bool b)
  | int (n : Int) : IsData (.int n)
  | text (s : String) : IsData (.text s)
  | list {items : List Value} (h : ∀ v ∈ items, IsData v) : IsData (.list items)
  | record {entries : List (String × Value)} (hkeys : (entries.map Prod.fst).Nodup)
      (h : ∀ e ∈ entries, IsData e.2) : IsData (record entries)

/-! ## Distinct keys -/

/-- Giving distinct keys their values one after the other gives the entries as they are. -/
theorem mapping_record {entries : List (String × Value)} (h : (entries.map Prod.fst).Nodup) :
    mapping (entries.map fun e => (.text e.1, e.2)) = entries.map fun e => (.text e.1, e.2) := by
  refine mapping_of_pairwise (List.pairwise_map.2 ?_)
  refine (List.pairwise_map.1 h).imp fun {d e} hne => ?_
  rw [text_same_text]
  exact beq_eq_false_iff_ne.2 hne

end Scaffold.Value
