import Scaffold.Proofs.Template.Parts

/-!
# Templates with values that are alike

What a text shows of the values that it is made from. A relation of texts that goes along with putting
texts together is carried over from values to texts: if the values of two scopes are alike in the ways
that a template counts on, the two texts of the template are related. Whether a template counts on no
more can be computed.
-/

namespace Scaffold

/-! ## Relations of texts -/

/-- A relation of texts that goes along with putting texts together and with quoting them. Texts that
templates have in common are related to themselves if they are fixed. -/
structure TextRelation where
  /-- The texts are related. -/
  Rel : String → String → Prop
  /-- A text that is related to itself. -/
  isFixed : String → Bool
  fixed : ∀ s, isFixed s = true → Rel s s
  empty : Rel "" ""
  append : ∀ {s t s' t'}, Rel s t → Rel s' t' → Rel (s ++ s') (t ++ t')
  quote : ∀ {s t}, Rel s t → Rel (Script.quote s) (Script.quote t)

/-! ## Values -/

/-- How two values are alike. -/
inductive Likeness where
  /-- They count as true alike. -/
  | truth
  /-- They are printed as related texts and count as true alike. -/
  | shown
  /-- They are related texts; if `tested` is true, both or none of them are empty. -/
  | text (tested : Bool)
  /-- Their literals are related and they count as true alike. -/
  | literal
  /-- They are the same. -/
  | same
  /-- They are lists with items that are alike one by one. -/
  | list (item : Likeness)
  /-- They count as true alike, and these parts are alike. -/
  | record (parts : List (String × Likeness))
  /-- All their elements are alike. -/
  | keyed (item : Likeness)

namespace Likeness

variable (R : TextRelation)

mutual

/-- Two values are alike. -/
def Holds : Likeness → Value → Value → Prop
  | truth, v, w => v.truthy = w.truthy
  | shown, v, w => R.Rel v.display w.display ∧ v.truthy = w.truthy
  | text tested, v, w =>
    ∃ s t, v = .text s ∧ w = .text t ∧ R.Rel s t ∧ (tested = true → s.isEmpty = t.isEmpty)
  | literal, v, w =>
    v.truthy = w.truthy ∧ ∀ s t, Script.literal v = .ok s → Script.literal w = .ok t → R.Rel s t
  | same, v, w => v = w
  | list item, v, w =>
    ∃ xs ys, v = .list xs ∧ w = .list ys ∧ List.Forall₂ (fun x y => item.Holds x y) xs ys
  | record parts, v, w => v.truthy = w.truthy ∧ PartsHold parts v w
  | keyed item, v, w =>
    ∀ i j x y, Expr.lookup? v i = some x → Expr.lookup? w j = some y → item.Holds x y

/-- Two values have parts that are alike, where both have them. -/
def PartsHold : List (String × Likeness) → Value → Value → Prop
  | [], _, _ => True
  | (n, likeness) :: rest, v, w =>
    (∀ x y, Expr.partOf v n = .value x → Expr.partOf w n = .value y → likeness.Holds x y)
      ∧ PartsHold rest v w

end

-- many lemmas below open both: their equations are made here, once
attribute [local simp] Holds PartsHold

/-- Values that are alike in this way count as true alike. -/
def isTested : Likeness → Bool
  | text tested => tested
  | keyed _ => false
  | _ => true

/-- Values that are alike in this way are printed as related texts. -/
def isShown : Likeness → Bool
  | shown => true
  | text _ => true
  | _ => false

variable {R} {v w : Value}

theorem Holds.truthy_eq {l : Likeness} (h : l.Holds R v w) (hl : l.isTested = true) :
    v.truthy = w.truthy := by
  -- values by key cannot be tested; every other likeness says enough about the test
  cases l with
  | truth =>
    rw [Holds] at h
    exact h
  | shown =>
    rw [Holds] at h
    exact h.2
  | text tested =>
    rw [Holds] at h
    obtain ⟨s, t, rfl, rfl, -, ht⟩ := h
    show (!s.isEmpty) = !t.isEmpty
    rw [ht hl]
  | literal =>
    rw [Holds] at h
    exact h.1
  | same =>
    rw [Holds] at h
    rw [h]
  | list item =>
    rw [Holds] at h
    obtain ⟨xs, ys, rfl, rfl, hxs⟩ := h
    cases hxs with
    | nil => rfl
    | cons _ _ => rfl
  | record parts =>
    rw [Holds] at h
    exact h.1
  | keyed item => cases hl

theorem Holds.display {l : Likeness} (h : l.Holds R v w) (hl : l.isShown = true) :
    R.Rel v.display w.display := by
  cases l with
  | shown =>
    rw [Holds] at h
    exact h.1
  | text tested =>
    rw [Holds] at h
    obtain ⟨s, t, rfl, rfl, hr, -⟩ := h
    exact hr
  | _ => cases hl

theorem holds_text {s t : String} (h : R.Rel s t) : (text false).Holds R (.text s) (.text t) := by
  rw [Holds]
  exact ⟨s, t, rfl, rfl, h, fun he => by cases he⟩

theorem holds_tested {s t : String} (h : R.Rel s t) (he : s.isEmpty = t.isEmpty) :
    (text true).Holds R (.text s) (.text t) := by
  rw [Holds]
  exact ⟨s, t, rfl, rfl, h, fun _ => he⟩

theorem PartsHold.of_lookup {parts : List (String × Likeness)} (h : PartsHold R parts v w) {n : String}
    {l : Likeness} (hn : parts.lookup n = some l) {x y : Value} (hx : Expr.partOf v n = .value x)
    (hy : Expr.partOf w n = .value y) : l.Holds R x y := by
  induction parts with
  | nil => cases hn
  | cons part rest ih =>
    obtain ⟨m, k⟩ := part
    rw [PartsHold] at h
    rw [List.lookup_cons] at hn
    cases hm : n == m with
    | true =>
      rw [hm] at hn
      cases hn
      rw [beq_iff_eq] at hm
      subst hm
      exact h.1 x y hx hy
    | false =>
      rw [hm] at hn
      exact ih h.2 hn

/-- Records are alike if both or none of them have parts, and the parts under each name are alike. -/
theorem holds_record {parts : List (String × Likeness)} {ps qs : List (String × Value)}
    (he : ps.isEmpty = qs.isEmpty)
    (h : ∀ p ∈ parts, ∀ x y, ps.lookup p.1 = some x → qs.lookup p.1 = some y → p.2.Holds R x y) :
    (record parts).Holds R (Value.record ps) (Value.record qs) := by
  have lookup_of_part {vs : List (String × Value)} {n : String} {x : Value}
      (hx : Expr.partOf (Value.record vs) n = .value x) : vs.lookup n = some x := by
    have he : (Value.record vs).entries? = some (vs.map fun e => (.text e.1, e.2)) := rfl
    rw [Expr.partOf, he, Option.bind_some, Value.field?_record] at hx
    cases hl : vs.lookup n with
    | none =>
      rw [hl] at hx
      cases hx
    | some v =>
      rw [hl] at hx
      cases hx
      rfl
  rw [Holds]
  constructor
  · show (!(ps.map fun e => (Value.text e.1, e.2)).isEmpty)
      = !(qs.map fun e => (Value.text e.1, e.2)).isEmpty
    rw [List.isEmpty_map, List.isEmpty_map, he]
  · induction parts with
    | nil =>
      rw [PartsHold]
      trivial
    | cons p rest ih =>
      obtain ⟨n, l⟩ := p
      rw [PartsHold]
      exact ⟨fun x y hx hy => h _ List.mem_cons_self x y (lookup_of_part hx) (lookup_of_part hy),
        ih fun q hq => h q (List.mem_cons_of_mem _ hq)⟩

/-- Records with these parts are alike if the parts are. -/
theorem holds_parts {parts : List (String × Likeness)} {ps qs : List (String × Value)}
    (he : ps.isEmpty = qs.isEmpty)
    (h : ∀ p ∈ parts, ∃ x y, ps.lookup p.1 = some x ∧ qs.lookup p.1 = some y ∧ p.2.Holds R x y) :
    (record parts).Holds R (Value.record ps) (Value.record qs) := by
  refine holds_record he fun p hp x y hx hy => ?_
  obtain ⟨x', y', hx', hy', hxy⟩ := h p hp
  rw [hx'] at hx
  rw [hy'] at hy
  cases hx
  cases hy
  exact hxy

/-- Null has no parts. -/
theorem holds_null (parts : List (String × Likeness)) : (record parts).Holds R .null .null := by
  rw [Holds]
  refine ⟨rfl, ?_⟩
  induction parts with
  | nil =>
    rw [PartsHold]
    trivial
  | cons p rest ih =>
    rw [PartsHold]
    exact ⟨fun x y hx => (by cases hx), ih⟩

/-- Lists are alike if their items are. -/
theorem holds_list {α β : Type} {xs : List α} {ys : List β} {f : α → Value} {g : β → Value}
    {l : Likeness} (h : List.Forall₂ (fun x y => l.Holds R (f x) (g y)) xs ys) :
    (list l).Holds R (.list (xs.map f)) (.list (ys.map g)) := by
  rw [Holds]
  refine ⟨_, _, rfl, rfl, ?_⟩
  rw [List.forall₂_map_left_iff, List.forall₂_map_right_iff]
  exact h

end Likeness

/-! ## Expressions -/

/-- How the variables of two scopes are alike. -/
abbrev Likenesses := List (String × Likeness)

/-- The variables of two scopes are alike, where both have them. -/
def Likenesses.Hold (R : TextRelation) (Γ : Likenesses) (scope scope' : Scope) : Prop :=
  ∀ n l, Γ.lookup n = some l → ∀ v w, scope.lookup n = some (.value v) →
    scope'.lookup n = some (.value w) → l.Holds R v w

theorem Likenesses.hold_nil (R : TextRelation) (scope scope' : Scope) :
    Likenesses.Hold R [] scope scope' := by
  intro n l h
  cases h

theorem Likenesses.Hold.cons {R : TextRelation} {Γ : Likenesses} {scope scope' : Scope}
    (h : Γ.Hold R scope scope') {x : String} {k : Likeness} {slot slot' : Slot}
    (hk : ∀ v w, slot = .value v → slot' = .value w → k.Holds R v w) :
    Likenesses.Hold R ((x, k) :: Γ) ((x, slot) :: scope) ((x, slot') :: scope') := by
  intro n l hl v w hv hw
  rw [List.lookup_cons] at hl hv hw
  cases hx : n == x with
  | true =>
    rw [hx] at hl hv hw
    cases hl
    exact hk v w (Option.some.inj hv) (Option.some.inj hw)
  | false =>
    rw [hx] at hl hv hw
    exact h n l hl v w hv hw

/-- Scopes of values that are alike. -/
theorem Likenesses.Hold.value {R : TextRelation} {Γ : Likenesses} {scope scope' : Scope}
    (h : Γ.Hold R scope scope') {x : String} {k : Likeness} {v w : Value} (hk : k.Holds R v w) :
    Likenesses.Hold R ((x, k) :: Γ) ((x, .value v) :: scope) ((x, .value w) :: scope') := by
  refine h.cons fun v' w' hv hw => ?_
  cases hv
  cases hw
  exact hk

namespace Expr

/-- How the values of an expression are alike in scopes whose variables are. -/
def likeness? (R : TextRelation) (Γ : Likenesses) : Expr → Option Likeness
  | name n => Γ.lookup n
  | part e n =>
    match e.likeness? R Γ with
    | some (.record parts) => parts.lookup n
    | _ => none
  | element e index =>
    match e.likeness? R Γ, index.likeness? R Γ with
    | some (.list item), some .same => some item
    | some (.keyed item), some _ => some item
    | _, _ => none
  | text s => if R.isFixed s then some (.text false) else none
  | script e =>
    match e.likeness? R Γ with
    | some (.text _) => some (.text false)
    | some .literal => some (.text false)
    | _ => none
  | commas e =>
    match e.likeness? R Γ with
    | some (.list (.text _)) => if R.isFixed ", " then some (.text false) else none
    | _ => none
  | append first second =>
    match first.likeness? R Γ, second.likeness? R Γ with
    | some (.text _), some (.text _) => some (.text false)
    | _, _ => none
  | either first second =>
    match first.likeness? R Γ, second.likeness? R Γ with
    | some a, some b => if a.isTested && b.isTested then some .truth else none
    | _, _ => none

end Expr

/-! ### Soundness -/

section

variable {R : TextRelation} {Γ : Likenesses} {scope scope' : Scope}

theorem TextRelation.commaList (hf : R.isFixed ", " = true) {ss ts : List String}
    (h : List.Forall₂ R.Rel ss ts) : R.Rel (commaList ss) (commaList ts) := by
  unfold Scaffold.commaList
  induction h with
  | nil => exact R.empty
  | cons h hr ih =>
    cases hr with
    | nil =>
      rw [String.intercalate_singleton, String.intercalate_singleton]
      exact h
    | cons _ _ =>
      rw [String.intercalate_cons_cons, String.intercalate_cons_cons]
      exact R.append (R.append h (R.fixed _ hf)) ih

theorem Likeness.holds_of_index {item : Likeness} {xs ys : List Value}
    (h : List.Forall₂ (fun x y => item.Holds R x y) xs ys) {i a b : Value}
    (ha : Expr.lookup? (.list xs) i = some a) (hb : Expr.lookup? (.list ys) i = some b) :
    item.Holds R a b := by
  have hlength := h.length_eq
  -- Lists have no properties, so that the element is the item at a place.
  have element {zs : List Value} {z : Value} (hz : Expr.lookup? (.list zs) i = some z) :
      (Expr.place? i).bind (Expr.itemAt? zs) = some z := by
    have hnone : (i.text?.bind fun n => (Expr.properties (.list zs)).lookup n) = none := by
      cases i.text? <;> rfl
    unfold Expr.lookup? at hz
    rw [hnone] at hz
    change (((Expr.place? i).bind (Expr.itemAt? zs)).orElse fun _ => none) = some z at hz
    cases he : (Expr.place? i).bind (Expr.itemAt? zs) with
    | none =>
      rw [he] at hz
      cases hz
    | some x =>
      rw [he] at hz
      exact hz
  obtain ⟨k, hk, hx⟩ := Option.bind_eq_some_iff.1 (element ha)
  obtain ⟨k', hk', hy⟩ := Option.bind_eq_some_iff.1 (element hb)
  rw [hk] at hk'
  cases hk'
  have same (n : Nat) (hx : xs[n]? = some a) (hy : ys[n]? = some b) : item.Holds R a b := by
    obtain ⟨hn, rfl⟩ := List.getElem?_eq_some_iff.1 hx
    obtain ⟨hm, rfl⟩ := List.getElem?_eq_some_iff.1 hy
    exact h.get hn hm
  unfold Expr.itemAt? at hx hy
  rw [← hlength] at hy
  split at hx
  next => exact same _ hx (by rw [if_pos ‹_›] at hy; exact hy)
  next hneg =>
    rw [if_neg hneg] at hy
    split at hx
    next hin => exact same _ hx (by rw [if_pos hin] at hy; exact hy)
    next => cases hx

/-- Two scopes agree on a choice between expressions if they agree on the expressions: then both of them take
the first one or neither does. -/
theorem Expr.truthy_eq_of_either {first second : Expr} {v w : Value}
    (hv : (either first second).Gives scope v) (hw : (either first second).Gives scope' w)
    (hf : ∀ a b, first.Gives scope a → first.Gives scope' b → a.truthy = b.truthy)
    (hs : ∀ a b, second.Gives scope a → second.Gives scope' b → a.truthy = b.truthy) :
    v.truthy = w.truthy := by
  obtain ⟨a, ha, hx⟩ := gives_either_iff.1 hv
  obtain ⟨b, hb, hy⟩ := gives_either_iff.1 hw
  have hab := hf a b ha hb
  rcases hx with ⟨hta, rfl⟩ | ⟨hta, hx⟩
  · rcases hy with ⟨-, rfl⟩ | ⟨htb, -⟩
    · exact hab
    · rw [hta, htb] at hab
      cases hab
  · rcases hy with ⟨htb, -⟩ | ⟨-, hy⟩
    · rw [hta, htb] at hab
      cases hab
    · exact hs v w hx hy

/-- The values that an expression has in two scopes are alike if the variables are. -/
theorem Expr.holds_of_likeness? {e : Expr} {l : Likeness} (h : e.likeness? R Γ = some l)
    (hs : Γ.Hold R scope scope') {v w : Value} (hv : e.Gives scope v) (hw : e.Gives scope' w) :
    l.Holds R v w := by
  induction e generalizing l v w with
  | name n => exact hs n l h v w (gives_name_iff.1 hv) (gives_name_iff.1 hw)
  | part e n ih =>
    obtain ⟨a, ha, hx⟩ := gives_part_iff.1 hv
    obtain ⟨b, hb, hy⟩ := gives_part_iff.1 hw
    rw [likeness?] at h
    split at h
    next parts he =>
      have hr := ih he ha hb
      rw [Likeness.Holds] at hr
      exact hr.2.of_lookup h hx hy
    next => cases h
  | element e index ihe ihi =>
    obtain ⟨a, i, ha, hi, hx⟩ := gives_element_iff.1 hv
    obtain ⟨b, j, hb, hj, hy⟩ := gives_element_iff.1 hw
    rw [likeness?] at h
    split at h
    next item he hp =>
      cases h
      have hl := ihe he ha hb
      have hij := ihi hp hi hj
      rw [Likeness.Holds] at hl
      rw [Likeness.Holds] at hij
      obtain ⟨xs, ys, rfl, rfl, hxs⟩ := hl
      subst hij
      exact Likeness.holds_of_index hxs hx hy
    next item k he hp =>
      cases h
      have hl := ihe he ha hb
      rw [Likeness.Holds] at hl
      exact hl i j v w hx hy
    next => cases h
  | text s =>
    cases hv
    cases hw
    rw [likeness?] at h
    split at h
    next hf =>
      cases h
      exact Likeness.holds_text (R.fixed s hf)
    next => cases h
  | script e ih =>
    obtain ⟨a, s, ha, hs', rfl⟩ := gives_script_iff.1 hv
    obtain ⟨b, t, hb, ht, rfl⟩ := gives_script_iff.1 hw
    rw [likeness?] at h
    split at h
    next he =>
      cases h
      have hl := ih he ha hb
      rw [Likeness.Holds] at hl
      obtain ⟨s', t', rfl, rfl, hr, -⟩ := hl
      cases hs'
      cases ht
      exact Likeness.holds_text (R.quote hr)
    next he =>
      cases h
      have hl := ih he ha hb
      rw [Likeness.Holds] at hl
      exact Likeness.holds_text (hl.2 s t hs' ht)
    next => cases h
  | commas e ih =>
    obtain ⟨a, xs, ha, hx, rfl⟩ := gives_commas_iff.1 hv
    obtain ⟨b, ys, hb, hy, rfl⟩ := gives_commas_iff.1 hw
    rw [likeness?] at h
    split at h
    next tested he =>
      split at h
      next hf =>
        cases h
        have hl := ih he ha hb
        rw [Likeness.Holds] at hl
        obtain ⟨xs', ys', rfl, rfl, hxs⟩ := hl
        cases hx
        cases hy
        refine Likeness.holds_text (R.commaList hf ?_)
        rw [List.forall₂_map_left_iff, List.forall₂_map_right_iff]
        exact hxs.imp fun x y hxy => hxy.display rfl
      next => cases h
    next => cases h
  | append first second ihf ihs =>
    obtain ⟨a, b, ha, hb, rfl⟩ := gives_append_iff.1 hv
    obtain ⟨a', b', ha', hb', rfl⟩ := gives_append_iff.1 hw
    rw [likeness?] at h
    split at h
    next hf hg =>
      cases h
      exact Likeness.holds_text
        (R.append ((ihf hf ha ha').display rfl) ((ihs hg hb hb').display rfl))
    next => cases h
  | either first second ihf ihs =>
    rw [likeness?] at h
    split at h
    next j k hf hg =>
      split at h
      next ht =>
        cases h
        rw [Bool.and_eq_true] at ht
        rw [Likeness.Holds]
        exact truthy_eq_of_either hv hw (fun a b ha hb => (ihf hf ha hb).truthy_eq ht.1)
          fun a b ha hb => (ihs hg ha hb).truthy_eq ht.2
      next => cases h
    next => cases h

end

/-! ## Templates -/

namespace Template

/-- How the arguments of a part are alike. -/
def argumentLikenesses (R : TextRelation) (Γ : Likenesses) : List (String × Expr) → Option Likenesses
  | [] => some []
  | (n, e) :: rest =>
    match e.likeness? R Γ, argumentLikenesses R Γ rest with
    | some l, some others => some ((n, l) :: others)
    | _, _ => none

/-- How the places of items are alike: they are the same. -/
def placeLikeness : Likeness := .record [("index0", .same)]

/-- A template counts on no more of its variables than how they are alike. -/
def respects (R : TextRelation) (Γ : Likenesses) : Template → Bool
  | nothing => true
  | text s => R.isFixed s
  | hole e =>
    match e.likeness? R Γ with
    | some l => l.isShown
    | none => false
  | both first second => first.respects R Γ && second.respects R Γ
  | choose test yes no =>
    match test.likeness? R Γ with
    | some l => l.isTested && (yes.respects R Γ && no.respects R Γ)
    | none => false
  | each item source body =>
    match source.likeness? R Γ with
    | some (.list l) => body.respects R ((item, l) :: ("loop", placeLikeness) :: Γ)
    | _ => false
  | bind n value body =>
    match value.likeness? R Γ with
    | some l => body.respects R ((n, l) :: Γ)
    | none => false
  | within arguments body =>
    match argumentLikenesses R Γ arguments with
    | some Δ => body.respects R Δ
    | none => false

variable {R : TextRelation} {Γ : Likenesses} {scope scope' : Scope}

theorem hold_argumentScope {arguments : List (String × Expr)} {Δ : Likenesses}
    (h : argumentLikenesses R Γ arguments = some Δ) (hs : Γ.Hold R scope scope')
    {inner inner' : Scope} (hi : argumentScope scope arguments = .ok inner)
    (hi' : argumentScope scope' arguments = .ok inner') : Δ.Hold R inner inner' := by
  induction arguments generalizing Δ inner inner' with
  | nil =>
    cases h
    exact Likenesses.hold_nil R inner inner'
  | cons a rest ih =>
    obtain ⟨n, e⟩ := a
    rw [argumentLikenesses] at h
    rw [argumentScope] at hi hi'
    split at h
    next l others he ho =>
      cases h
      split at hi
      next slot more hx hm =>
        cases hi
        split at hi'
        next slot' more' hx' hm' =>
          cases hi'
          refine (ih ho hm hm').cons fun v w hv hw => ?_
          subst hv hw
          exact Expr.holds_of_likeness? he hs hx hx'
        all_goals cases hi'
      all_goals cases hi
    next => cases h

theorem hold_itemScope (hs : Γ.Hold R scope scope') {item : String} {l : Likeness} {x y : Value}
    (hxy : l.Holds R x y) (i : Nat) :
    Likenesses.Hold R ((item, l) :: ("loop", placeLikeness) :: Γ) (itemScope scope item i x)
      (itemScope scope' item i y) := by
  refine Likenesses.Hold.value (Likenesses.Hold.value hs ?_) hxy
  have hsame (v w : Value) (hv : Expr.partOf (Value.record [("index0", .int i)]) "index0" = .value v)
      (hw : Expr.partOf (Value.record [("index0", .int i)]) "index0" = .value w) :
      Likeness.same.Holds R v w := by
    rw [hv] at hw
    cases hw
    rw [Likeness.Holds]
  rw [placeLikeness, Likeness.Holds, Likeness.PartsHold, Likeness.PartsHold]
  exact ⟨rfl, hsame, trivial⟩

theorem renderEach_related {render render' : Nat → Value → Except RenderFault String} {l : Likeness}
    (h : ∀ i x y s t, l.Holds R x y → render i x = .ok s → render' i y = .ok t → R.Rel s t)
    {xs ys : List Value} (hxs : List.Forall₂ (fun x y => l.Holds R x y) xs ys) {i : Nat}
    {s t : String} (hs : renderEach render i xs = .ok s) (ht : renderEach render' i ys = .ok t) :
    R.Rel s t := by
  induction hxs generalizing i s t with
  | nil =>
    cases hs
    cases ht
    exact R.empty
  | cons hxy _ ih =>
    rw [renderEach, appendText_eq_ok_iff] at hs ht
    obtain ⟨s₁, s₂, h₁, h₂, rfl⟩ := hs
    obtain ⟨t₁, t₂, h₁', h₂', rfl⟩ := ht
    exact R.append (h i _ _ _ _ hxy h₁ h₁') (ih h₂ h₂')

/-! ### What a template that has a text is made of -/

section

variable {e : Expr} {s : String}

theorem render_hole_eq_ok_iff : (hole e).render scope = .ok s ↔ ∃ v, e.Gives scope v ∧ v.display = s := by
  rw [render]
  simp only [← Expr.require_eq_ok_iff]
  cases e.require scope <;> simp [Except.map]

theorem render_choose_eq_ok_iff {yes no : Template} : (choose e yes no).render scope = .ok s
    ↔ ∃ v, e.Gives scope v ∧ (if v.truthy then yes else no).render scope = .ok s := by
  rw [render]
  simp only [← Expr.require_eq_ok_iff, apply_ite (render · scope)]
  cases e.require scope <;> simp

theorem render_each_eq_ok_iff {item : String} {body : Template} : (each item e body).render scope = .ok s
    ↔ ∃ v items, e.Gives scope v ∧ Expr.elements v = .ok items
      ∧ renderEach (fun i v => body.render (itemScope scope item i v)) 0 items = .ok s := by
  rw [render]
  simp only [← Expr.require_eq_ok_iff]
  cases e.require scope with
  | error fault => simp
  | ok v => cases h : Expr.elements v <;> simp [h]

theorem render_bind_eq_ok_iff {n : String} {body : Template} : (bind n e body).render scope = .ok s
    ↔ ∃ slot, e.eval scope = .ok slot ∧ body.render ((n, slot) :: scope) = .ok s := by
  rw [render]
  cases e.eval scope <;> simp

theorem render_within_eq_ok_iff {arguments : List (String × Expr)} {body : Template} :
    (within arguments body).render scope = .ok s
      ↔ ∃ inner, argumentScope scope arguments = .ok inner ∧ body.render inner = .ok s := by
  rw [render]
  cases argumentScope scope arguments <;> simp

end

/-- The texts that a template has in two scopes are related if their variables are alike in the ways
that the template counts on. -/
theorem render_related {t : Template} (h : t.respects R Γ = true) (hs : Γ.Hold R scope scope')
    {x y : String} (hx : t.render scope = .ok x) (hy : t.render scope' = .ok y) : R.Rel x y := by
  induction t generalizing Γ scope scope' x y with
  | nothing =>
    cases hx
    cases hy
    exact R.empty
  | text s =>
    cases hx
    cases hy
    exact R.fixed s h
  | hole e =>
    obtain ⟨v, hv, rfl⟩ := render_hole_eq_ok_iff.1 hx
    obtain ⟨w, hw, rfl⟩ := render_hole_eq_ok_iff.1 hy
    rw [respects] at h
    split at h
    next l hl => exact (Expr.holds_of_likeness? hl hs hv hw).display h
    next => cases h
  | both first second ihf ihs =>
    rw [respects, Bool.and_eq_true] at h
    rw [render, appendText_eq_ok_iff] at hx hy
    obtain ⟨x₁, x₂, h₁, h₂, rfl⟩ := hx
    obtain ⟨y₁, y₂, h₁', h₂', rfl⟩ := hy
    exact R.append (ihf h.1 hs h₁ h₁') (ihs h.2 hs h₂ h₂')
  | choose test yes no ihy ihn =>
    obtain ⟨v, hv, hx⟩ := render_choose_eq_ok_iff.1 hx
    obtain ⟨w, hw, hy⟩ := render_choose_eq_ok_iff.1 hy
    rw [respects] at h
    split at h
    next l hl =>
      rw [Bool.and_eq_true, Bool.and_eq_true] at h
      obtain ⟨ht, hyes, hno⟩ := h
      -- the tests come out the same, so that the texts are those of one and the same part
      have htruth := (Expr.holds_of_likeness? hl hs hv hw).truthy_eq ht
      rw [← htruth] at hy
      split at hx
      next hp =>
        rw [if_pos hp] at hy
        exact ihy hyes hs hx hy
      next hp =>
        rw [if_neg hp] at hy
        exact ihn hno hs hx hy
    next => cases h
  | each item source body ih =>
    obtain ⟨v, xs, hv, hxs, hx⟩ := render_each_eq_ok_iff.1 hx
    obtain ⟨w, ys, hw, hys, hy⟩ := render_each_eq_ok_iff.1 hy
    rw [respects] at h
    split at h
    next l hl =>
      have hlist := Expr.holds_of_likeness? hl hs hv hw
      rw [Likeness.Holds] at hlist
      obtain ⟨_, _, rfl, rfl, hitems⟩ := hlist
      cases hxs
      cases hys
      refine renderEach_related (fun i a b s t hab hs' ht' => ?_) hitems hx hy
      exact ih h (hold_itemScope hs hab i) hs' ht'
    next => cases h
  | bind n value body ih =>
    obtain ⟨slot, hv, hx⟩ := render_bind_eq_ok_iff.1 hx
    obtain ⟨slot', hw, hy⟩ := render_bind_eq_ok_iff.1 hy
    rw [respects] at h
    split at h
    next l hl =>
      refine ih h (hs.cons fun v w hsv hsw => ?_) hx hy
      subst hsv hsw
      exact Expr.holds_of_likeness? hl hs hv hw
    next => cases h
  | within arguments body ih =>
    obtain ⟨inner, hi, hx⟩ := render_within_eq_ok_iff.1 hx
    obtain ⟨inner', hi', hy⟩ := render_within_eq_ok_iff.1 hy
    rw [respects] at h
    split at h
    next Δ hΔ => exact ih h (hold_argumentScope hΔ hs hi hi') hx hy
    next => cases h

end Template

end Scaffold
