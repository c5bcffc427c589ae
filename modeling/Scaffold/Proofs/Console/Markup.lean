import Scaffold.Console.Markup

/-!
# Markup with few tags

Characters that do not belong to a tag are passed over one by one, and a tag is taken at once. So text
without an opening bracket is shown, and so is text between two tags that belong together.
-/

namespace Scaffold.Console

variable {cs rest plain : List Char} {c : Char} {fuel position : Nat}

/-! ## Pieces -/

/-- Only an opening bracket begins a tag. -/
theorem bracketed?_of_head (h : cs.head? ≠ some '[') : bracketed? cs = none := by
  unfold bracketed?
  split
  next => exact absurd rfl h
  next => rfl

theorem piecesFrom_of_bracketed?_eq_none
    (h : bracketed? ((c :: rest).drop ((c :: rest).takeWhile (· == '\\')).length) = none) :
    piecesFrom (fuel + 1) position plain (c :: rest) = piecesFrom fuel (position + 1) (c :: plain) rest := by
  rw [piecesFrom]
  dsimp only
  rw [h]

/-- Text without opening brackets is one piece. -/
theorem piecesFrom_of_no_bracket (h : '[' ∉ cs) (hf : cs.length < fuel) :
    piecesFrom fuel position plain cs = flush (cs.reverse ++ plain) := by
  induction cs generalizing fuel position plain with
  | nil =>
    obtain ⟨n, rfl⟩ := Nat.exists_eq_add_of_lt hf
    rfl
  | cons c rest ih =>
    obtain ⟨n, rfl⟩ := Nat.exists_eq_add_of_lt hf
    rw [piecesFrom_of_bracketed?_eq_none]
    · rw [ih (fun hm => h (List.mem_cons_of_mem c hm)) (by rw [List.length_cons]; omega),
        List.reverse_cons, List.append_assoc]
      rfl
    · refine bracketed?_of_head fun hh => h ?_
      exact List.mem_of_mem_drop (List.mem_of_mem_head? hh)

/-- Characters that are neither brackets nor backslashes become text. -/
theorem piecesFrom_append (h : ∀ c ∈ cs, (c != '[' && c != '\\') = true) :
    piecesFrom (fuel + cs.length) position plain (cs ++ rest)
      = piecesFrom fuel (position + cs.length) (cs.reverse ++ plain) rest := by
  induction cs generalizing position plain with
  | nil => rfl
  | cons c cs ih =>
    have hc := h c List.mem_cons_self
    rw [Bool.and_eq_true, bne_iff_ne, bne_iff_ne] at hc
    rw [List.length_cons, ← Nat.add_assoc, List.cons_append, piecesFrom_of_bracketed?_eq_none,
      ih fun d hd => h d (List.mem_cons_of_mem c hd), List.reverse_cons, List.append_assoc,
      List.singleton_append, Nat.add_assoc, Nat.add_comm 1]
    · rw [List.takeWhile_cons_of_neg (by simpa using hc.2)]
      exact bracketed?_of_head fun hh => hc.1 (Option.some.inj hh)

/-- A tag is taken at once. -/
theorem piecesFrom_tag {inside : List Char} (hc : startsTag c = true)
    (hi : ∀ d ∈ c :: inside, (d != '[' && d != ']') = true) :
    piecesFrom (fuel + 1) position plain ('[' :: c :: inside ++ ']' :: rest)
      = flush plain ++ .tag position (tagOf (c :: inside))
        :: piecesFrom fuel (position + (c :: inside).length + 2) [] rest := by
  have hw : (c :: inside ++ ']' :: rest).takeWhile (fun c => c != '[' && c != ']') = c :: inside := by
    rw [List.takeWhile_append_of_pos hi, List.takeWhile_cons_of_neg (by decide), List.append_nil]
  have hb : bracketed? ('[' :: (c :: inside ++ ']' :: rest)) = some (c :: inside, rest) := by
    simp only [bracketed?, hw, List.drop_left, hc, if_true]
  have hslash : ('[' :: (c :: inside ++ ']' :: rest)).takeWhile (· == '\\') = [] :=
    List.takeWhile_cons_of_neg (by decide)
  show piecesFrom (fuel + 1) position plain ('[' :: (c :: inside ++ ']' :: rest)) = _
  rw [piecesFrom, hslash, List.length_nil, List.drop_zero, hb]
  simp

/-! ## Shown text -/

/-- Pieces are shown after the given open tags. -/
def Shows (opened : List Tag) (ps : List Piece) : Prop := ∃ shown, shownFrom opened ps = .ok shown

theorem shows_nil (opened : List Tag) : Shows opened [] := ⟨[], rfl⟩

/-- Text is shown whatever tags are open. -/
theorem Shows.text {opened : List Tag} {ps : List Piece} (h : Shows opened ps) (cs : List Char) :
    Shows opened (.text cs :: ps) := by
  obtain ⟨shown, h⟩ := h
  unfold Shows
  rw [shownFrom, h]
  exact ⟨_, rfl⟩

theorem Shows.flush {opened : List Tag} {ps : List Piece} (h : Shows opened ps) (plain : List Char) :
    Shows opened (flush plain ++ ps) := by
  unfold Console.flush
  split
  · exact h
  · exact h.text _

theorem Shows.tag {opened next : List Tag} {ps : List Piece} {t : Tag} (h : Shows next ps)
    (ht : openAfter opened position t = .ok next) : Shows opened (.tag position t :: ps) := by
  unfold Shows
  rw [shownFrom, ht]
  exact h

/-- What stands between brackets without an equals sign is the name of a tag. -/
theorem tagOf_of_no_sign {inside : List Char} (h : ∀ d ∈ inside, (d != '=') = true) :
    tagOf inside = ⟨inside, none⟩ := by
  have hd : (inside ++ []).dropWhile (· != '=') = [] := List.dropWhile_append_of_pos h
  rw [List.append_nil] at hd
  rw [tagOf, hd]

theorem openAfter_of_opening (t : Tag) (h : t.name.head? ≠ some '/') (opened : List Tag) :
    openAfter opened position t
      = .ok ({ t with name := (Style.normal (String.ofList t.name)).toList } :: opened) := by
  unfold openAfter
  split
  next name hn =>
    rw [hn] at h
    exact absurd rfl h
  next => rfl

/-- Only the tags of actions have parameters that have to be right. -/
theorem checkClosed_of_no_parameters (name : List Char) : checkClosed ⟨name, none⟩ = .ok () := by
  unfold checkClosed
  split
  next h => cases h
  next => rfl

/-- A tag is closed by its own name, whatever style it asks for. -/
theorem openAfter_of_closing {name : List Char} (hne : name ≠ [])
    (ht : Text.trim (String.ofList name) = String.ofList name) :
    openAfter [⟨(Style.normal (String.ofList name)).toList, none⟩] position ⟨'/' :: name, none⟩
      = .ok [] := by
  have he : (String.ofList name).isEmpty = false := by
    rw [← Bool.not_eq_true, String.isEmpty_iff, ← String.toList_eq_nil_iff, String.toList_ofList]
    exact hne
  simp [openAfter, ht, he, close?, checkClosed_of_no_parameters, Except.map]

/-- Markup is shown that consists of a text between two tags that belong together and of text without
opening brackets. -/
theorem exists_shownText_of_styled {inside word : List Char} (hc : startsTag c = true) (hslash : c ≠ '/')
    (hi : (c :: inside).all (fun d => d != '[' && d != ']') = true)
    (hs : (c :: inside).all (· != '=') = true)
    (ht : Text.trim (String.ofList (c :: inside)) = String.ofList (c :: inside))
    (hw : word.all (fun d => d != '[' && d != '\\') = true) (hr : '[' ∉ rest) :
    ∃ shown, shownText (String.ofList
      ('[' :: c :: inside ++ ']' :: (word ++ ('[' :: '/' :: c :: inside ++ ']' :: rest)))) = .ok shown := by
  rw [List.all_eq_true] at hi hs hw
  have hi' : ∀ d ∈ '/' :: c :: inside, (d != '[' && d != ']') = true :=
    List.forall_mem_cons.2 ⟨rfl, hi⟩
  have hs' : ∀ d ∈ '/' :: c :: inside, (d != '=') = true := List.forall_mem_cons.2 ⟨rfl, hs⟩
  -- the fuel is enough for both tags, the word and the rest
  obtain ⟨fuel, hf, hl⟩ : ∃ fuel, rest.length < fuel
      ∧ ('[' :: c :: inside ++ ']' :: (word ++ ('[' :: '/' :: c :: inside ++ ']' :: rest))).length + 1
        = fuel + 1 + word.length + 1 :=
    ⟨rest.length + 2 * inside.length + 6, by omega, by simp; omega⟩
  rw [shownText, String.toList_ofList, pieces, hl, piecesFrom_tag hc hi, piecesFrom_append hw,
    piecesFrom_tag rfl hi', piecesFrom_of_no_bracket hr hf, tagOf_of_no_sign hs, tagOf_of_no_sign hs',
    List.append_nil, List.append_nil, show flush [] = [] from rfl, List.nil_append]
  have hopen : openAfter [] 0 ⟨c :: inside, none⟩
      = .ok [⟨(Style.normal (String.ofList (c :: inside))).toList, none⟩] :=
    openAfter_of_opening ⟨c :: inside, none⟩ (fun h => hslash (Option.some.inj h)) []
  have hclosed : Shows [] (flush rest.reverse) := by
    have h := (shows_nil []).flush rest.reverse
    rwa [List.append_nil] at h
  obtain ⟨shown, hshown⟩ := Shows.tag
    ((hclosed.tag (openAfter_of_closing (List.cons_ne_nil c inside) ht)).flush word.reverse) hopen
  exact ⟨String.ofList shown, by rw [hshown]; rfl⟩

end Scaffold.Console
