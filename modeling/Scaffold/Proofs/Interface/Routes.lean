import Scaffold.Proofs.Interface.Fields
import Scaffold.Proofs.Script.Line
import Scaffold.Routing.Stage

/-!
# Routes in the router

The text of a route, line by line, and the view that it asks for while the router runs.
-/

namespace Scaffold

open Script (callsFrom joinLines)

/-! ## Quoted texts -/

namespace Script

/-- A character that stands for itself in the source of a view. -/
def isSourceChar (c : Char) : Bool := Text.isWordAscii c || c == '/' || c == '.' || c == '@'

theorem ne_of_isSourceChar {c d : Char} (h : isSourceChar c = true) (hd : isSourceChar d = false) :
    c ≠ d := by
  rintro rfl
  rw [h] at hd
  cases hd

theorem escapeChar_of_isSourceChar {c : Char} (h : isSourceChar c = true) : escapeChar c = [c] := by
  have hne : ∀ d, isSourceChar d = false → (c == d) = false :=
    fun d hd => beq_eq_false_iff_ne.2 (ne_of_isSourceChar h hd)
  have hcode : ¬ c.toNat < 32 := by
    unfold isSourceChar at h
    simp only [Bool.or_eq_true, beq_iff_eq] at h
    rcases h with ((h | rfl) | rfl) | rfl
    · rw [Text.isWordAscii_iff] at h
      omega
    all_goals decide
  unfold escapeChar Json.escapeChar
  rw [hne '"' rfl, hne '\'' rfl, hne '\\' rfl, hne '\n' rfl, hne '\r' rfl, hne '\t' rfl,
    hne '\x0c' rfl, hne '\x08' rfl, if_neg hcode]
  rfl

theorem toList_quote_of_isSourceChar {s : String} (h : ∀ c ∈ s.toList, isSourceChar c = true) :
    (quote s).toList = '\'' :: (s.toList ++ ['\'']) := by
  have hs : ∀ cs : List Char, (∀ c ∈ cs, isSourceChar c = true) → cs.flatMap escapeChar = cs := by
    intro cs hcs
    induction cs with
    | nil => rfl
    | cons c cs ih =>
      rw [List.flatMap_cons, escapeChar_of_isSourceChar (hcs c List.mem_cons_self),
        ih fun d hd => hcs d (List.mem_cons_of_mem c hd)]
      rfl
  rw [toList_quote, hs _ h]

end Script

/-! ## The lines of a route -/

namespace Route

/-- A route whose remarks are flags, and whose texts call for no import but that of its view. -/
structure IsPlain (r : Route) : Prop where
  path : '(' ∉ r.path.toList ∨ r.path = RouteTable.catchAllPath
  name : ∀ n, r.name = some n → '(' ∉ n.toList
  view : ∀ v, r.view = some v → v.toList ≠ [] ∧ ∀ c ∈ v.toList, Script.isSourceChar c = true
  redirect : ∀ p, r.redirect = some p → '(' ∉ p.toList
  remarks : ∀ e ∈ r.remarks, Name.IsWord e.1.toList ∧ e.2 = .bool true

/-- The space in front of the parts of a route. -/
def partMargin : String := defaultIndent ++ defaultIndent

/-- The line for flags, if there are any. -/
def flagLine (names : List String) : List String :=
  if names.isEmpty then []
  else [partMargin ++ "meta: \x7b " ++ commaList (names.map fun n => n ++ ": " ++ "true") ++ " \x7d,"]

/-- The lines of a route whose remarks are flags. -/
def lines (r : Route) : List String :=
  [defaultIndent ++ "\x7b", partMargin ++ "path: " ++ Script.quote r.path ++ ","]
    ++ partLine partMargin "name: " r.name ","
    ++ partLine partMargin "component: () => import(" r.view "),"
    ++ partLine partMargin "redirect: " r.redirect ","
    ++ (if r.passesParts then [partMargin ++ "props: true,"] else [])
    ++ flagLine (r.remarks.map Prod.fst)
    ++ [defaultIndent ++ "\x7d,"]

theorem remarkEntries_eq {remarks : List (String × Value)} (h : ∀ e ∈ remarks, e.2 = .bool true) :
    remarkEntries remarks = .ok ((remarks.map Prod.fst).map fun n => n ++ ": " ++ "true") := by
  induction remarks with
  | nil => rfl
  | cons e rest ih =>
    obtain ⟨n, v⟩ := e
    have hv : v = .bool true := h _ List.mem_cons_self
    have hl : Script.literal (.bool true) = .ok "true" := by
      show Json.write .line (.bool true) = _
      rw [Json.write]
      rfl
    rw [remarkEntries, hv, hl]
    dsimp only
    rw [ih fun e he => h e (List.mem_cons_of_mem _ he)]
    rfl

theorem render_eq {r : Route} (h : r.IsPlain) :
    r.render defaultIndent = .ok ("\n".intercalate r.lines) := by
  have hr : remarkLine partMargin r.remarks = .ok (flagLine (r.remarks.map Prod.fst)) := by
    unfold remarkLine flagLine
    rw [List.isEmpty_map, remarkEntries_eq fun e he => (h.remarks e he).2]
    split <;> rfl
  unfold render
  dsimp only
  show (remarkLine partMargin r.remarks).map _ = _
  rw [hr]
  rfl

/-! ### Layout -/

theorem isIndented_of_prefix {before t : String} {cs : List Char} (hb : before.toList = ' ' :: cs)
    (hcs : '\n' ∉ cs) (ht : Inline t) : IsIndented (before ++ t) := by
  refine ⟨cs ++ t.toList, ?_, ?_⟩
  · rw [String.toList_append, hb, List.cons_append]
  · rw [List.mem_append, not_or]
    exact ⟨hcs, ht⟩

theorem toList_partMargin : partMargin.toList = [' ', ' ', ' ', ' '] := by
  rw [partMargin, String.toList_append, defaultIndent, String.toList_ofList]
  rfl

theorem isIndented_partMargin {t : String} (h : Inline t) : IsIndented (partMargin ++ t) :=
  isIndented_of_prefix toList_partMargin (by decide) h

theorem isIndented_defaultIndent {t : String} (h : Inline t) : IsIndented (defaultIndent ++ t) :=
  isIndented_of_prefix String.toList_ofList (by decide) h

theorem isIndented_partLine {before after : String} (hb : Inline before) (ha : Inline after)
    (part : Option String) : ∀ l ∈ partLine partMargin before part after, IsIndented l := by
  unfold partLine
  split
  next s =>
    split
    · exact fun l hl => absurd hl List.not_mem_nil
    · refine List.forall_mem_cons.2 ⟨?_, fun l hl => absurd hl List.not_mem_nil⟩
      rw [String.append_assoc, String.append_assoc]
      exact isIndented_partMargin (inline_append hb (inline_append (Script.inline_quote s) ha))
  next => exact fun l hl => absurd hl List.not_mem_nil

theorem isIndented_flagLine {names : List String} (h : ∀ n ∈ names, Inline n) :
    ∀ l ∈ flagLine names, IsIndented l := by
  unfold flagLine
  split
  · exact fun l hl => absurd hl List.not_mem_nil
  · refine List.forall_mem_cons.2 ⟨?_, fun l hl => absurd hl List.not_mem_nil⟩
    rw [String.append_assoc, String.append_assoc]
    refine isIndented_partMargin (inline_append (inline_ofList rfl) (inline_append
      (inline_commaList fun s hs => ?_) (inline_ofList rfl)))
    obtain ⟨n, hn, rfl⟩ := List.mem_map.1 hs
    exact inline_append (inline_append (h n hn) (inline_ofList rfl)) (inline_ofList rfl)

theorem IsPlain.isIndented_lines {r : Route} (h : r.IsPlain) : ∀ l ∈ r.lines, IsIndented l := by
  have hprops : ∀ l ∈ (if r.passesParts then [partMargin ++ "props: true,"] else []),
      IsIndented l := by
    split
    · exact List.forall_mem_cons.2 ⟨isIndented_partMargin (inline_ofList rfl),
        fun l hl => absurd hl List.not_mem_nil⟩
    · exact fun l hl => absurd hl List.not_mem_nil
  have hpath : IsIndented (partMargin ++ "path: " ++ Script.quote r.path ++ ",") := by
    rw [String.append_assoc, String.append_assoc]
    exact isIndented_partMargin (inline_append (inline_ofList rfl)
      (inline_append (Script.inline_quote _) (inline_ofList rfl)))
  have hflags : ∀ n ∈ r.remarks.map Prod.fst, Inline n := by
    intro n hn
    obtain ⟨e, he, rfl⟩ := List.mem_map.1 hn
    exact inline_of_isWord (h.remarks e he).1
  unfold lines
  simp only [List.forall_mem_append, List.forall_mem_cons]
  exact ⟨⟨⟨⟨⟨⟨⟨isIndented_defaultIndent (inline_ofList rfl), hpath,
    fun l hl => absurd hl List.not_mem_nil⟩, isIndented_partLine (inline_ofList rfl) (inline_ofList rfl) _⟩,
    isIndented_partLine (inline_ofList rfl) (inline_ofList rfl) _⟩,
    isIndented_partLine (inline_ofList rfl) (inline_ofList rfl) _⟩, hprops⟩,
    isIndented_flagLine hflags⟩, isIndented_defaultIndent (inline_ofList rfl),
    fun l hl => absurd hl List.not_mem_nil⟩

/-- A plain route is a block of lines with space in front. -/
theorem IsPlain.fits_block {r : Route} (h : r.IsPlain) :
    Shape.block.Fits (.text ("\n".intercalate r.lines)) :=
  Shape.fits_block (fun hn => by unfold lines at hn; cases hn) h.isIndented_lines

end Route

/-! ## The view that a route asks for -/

namespace Script

/-- Whole lines ask for what each of them asks for. -/
theorem callsFrom_joinLines (css : List (List Char)) :
    callsFrom (joinLines css) = css.flatMap fun cs => callsFrom (cs ++ ['\n']) := by
  induction css with
  | nil => rfl
  | cons cs rest ih =>
    show callsFrom ((cs ++ ['\n']) ++ joinLines rest) = _
    have hl : (cs ++ ['\n']).getLast? = some '\n' := List.getLast?_concat
    rw [callsFrom_append (.inr hl), ih, List.flatMap_cons]

/-- Nothing is asked for where no word begins as the word for imports does. -/
theorem callsFrom_append_of_not_mem {cs : List Char} (h : 'i' ∉ cs) (rest : List Char) :
    callsFrom (cs ++ rest) = callsFrom rest := by
  induction cs with
  | nil => rfl
  | cons c cs ih =>
    rw [List.mem_cons, not_or] at h
    have ha : after? callWord (c :: (cs ++ rest)) = none :=
      after?_of_head?_ne rfl fun e => h.1 (Option.some.inj e).symm
    rw [List.cons_append, callsFrom, callAt, ha, ih h.2]
    rfl

/-- A call for a source without quotes and brackets. -/
theorem callsFrom_call {source : List Char} (h : ∀ c ∈ source, isSourceChar c = true) :
    callsFrom (callWord ++ '\'' :: (source ++ ['\'', ')', ',', '\n'])) = [String.ofList source] := by
  have hne : ∀ d, isSourceChar d = false → d ∉ source :=
    fun d hd hm => ne_of_isSourceChar (h d hm) hd rfl
  have hall : ∀ c ∈ source, (c != '\'' && c != '\n') = true := by
    intro c hc
    rw [Bool.and_eq_true, bne_iff_ne, bne_iff_ne]
    exact ⟨ne_of_isSourceChar (h c hc) rfl, ne_of_isSourceChar (h c hc) rfl⟩
  have hsource : (source ++ ['\'', ')', ',', '\n']).takeWhile (fun c => c != '\'' && c != '\n')
      = source := by
    rw [List.takeWhile_append_of_pos hall]
    exact List.append_nil source
  have hat : callAt (callWord ++ '\'' :: (source ++ ['\'', ')', ',', '\n']))
      = some (String.ofList source) := by
    show some (String.ofList ((source ++ ['\'', ')', ',', '\n']).takeWhile
      fun c => c != '\'' && c != '\n')) = _
    rw [hsource]
  have hrest : callsFrom ("mport(".toList ++ ('\'' ::
      (source ++ ['\'', ')', ',', '\n']))) = [] := by
    rw [callsFrom_append_of_not_mem (by decide)]
    apply callsFrom_of_not_mem
    simp only [List.mem_cons, List.mem_append, List.not_mem_nil, or_false, not_or]
    exact ⟨by decide, hne _ rfl, by decide, by decide, by decide, by decide⟩
  show (callAt (callWord ++ '\'' :: (source ++ ['\'', ')', ',', '\n']))).toList
    ++ callsFrom ("mport(".toList ++ ('\'' :: (source ++ ['\'', ')', ',', '\n']))) = _
  rw [hat, hrest]
  rfl

end Script

namespace Route

/-- What lines ask for. -/
def linesCalls (ls : List String) : List String := ls.flatMap fun l => callsFrom (l.toList ++ ['\n'])

theorem linesCalls_append (ls ms : List String) :
    linesCalls (ls ++ ms) = linesCalls ls ++ linesCalls ms :=
  List.flatMap_append

theorem linesCalls_of_not_mem {ls : List String} (h : ∀ l ∈ ls, '(' ∉ l.toList) :
    linesCalls ls = [] := by
  refine List.flatMap_eq_nil_iff.2 fun l hl => Script.callsFrom_of_not_mem ?_
  rw [List.mem_append, not_or]
  exact ⟨h l hl, by decide⟩

theorem bracket_not_mem_append {s t : String} (hs : '(' ∉ s.toList) (ht : '(' ∉ t.toList) :
    '(' ∉ (s ++ t).toList := by
  rw [String.toList_append, List.mem_append, not_or]
  exact ⟨hs, ht⟩

theorem linesCalls_partLine {before after : String} {part : Option String}
    (hb : '(' ∉ before.toList) (hp : ∀ s, part = some s → '(' ∉ s.toList)
    (ha : '(' ∉ after.toList) : linesCalls (partLine partMargin before part after) = [] := by
  have hm : '(' ∉ partMargin.toList := by decide
  apply linesCalls_of_not_mem
  cases part with
  | none => exact fun l hl => absurd hl List.not_mem_nil
  | some s =>
    unfold partLine
    dsimp only
    split
    · exact fun l hl => absurd hl List.not_mem_nil
    · intro l hl
      rw [List.mem_singleton.1 hl]
      exact bracket_not_mem_append (bracket_not_mem_append (bracket_not_mem_append hm hb)
        (Script.not_mem_quote (by decide) (by decide) (hp s rfl))) ha

/-- The line for a view asks for the view. -/
theorem linesCalls_view {r : Route} (h : r.IsPlain) :
    linesCalls (partLine partMargin "component: () => import(" r.view "),") = r.view.toList := by
  cases hv : r.view with
  | none => rfl
  | some v =>
    obtain ⟨hne, hs⟩ := h.view v hv
    have he : v.isEmpty = false := by
      rw [← Bool.not_eq_true, String.isEmpty_iff, ← String.toList_eq_nil_iff]
      exact hne
    have hopen : partMargin.toList ++ "component: () => import(".toList
        = "    component: () => ".toList ++ Script.callWord := by decide
    have hclose : "),".toList ++ ['\n'] = [')', ',', '\n'] := by decide
    have hl : (partMargin ++ "component: () => import(" ++ Script.quote v ++ "),").toList ++ ['\n']
        = "    component: () => ".toList ++ (Script.callWord ++ '\'' :: (v.toList ++ ['\'', ')', ',', '\n'])) := by
      rw [String.toList_append, String.toList_append, String.toList_append, hopen,
        Script.toList_quote_of_isSourceChar hs]
      simp only [List.append_assoc, hclose, List.cons_append, List.nil_append]
    unfold partLine
    dsimp only
    rw [he, if_neg Bool.false_ne_true, linesCalls, List.flatMap_singleton, hl,
      Script.callsFrom_append_of_not_mem (by decide), Script.callsFrom_call hs, String.ofList_toList]
    rfl

theorem linesCalls_path {r : Route} (h : r.IsPlain) :
    linesCalls [defaultIndent ++ "\x7b", partMargin ++ "path: " ++ Script.quote r.path ++ ","] = [] := by
  rcases h.path with hp | hp
  · apply linesCalls_of_not_mem
    refine List.forall_mem_cons.2 ⟨by decide, List.forall_mem_singleton.2 ?_⟩
    exact bracket_not_mem_append (bracket_not_mem_append (by decide)
      (Script.not_mem_quote (by decide) (by decide) hp)) (by decide)
  · rw [hp]
    decide

theorem linesCalls_flagLine {names : List String} (h : ∀ n ∈ names, '(' ∉ n.toList) :
    linesCalls (flagLine names) = [] := by
  apply linesCalls_of_not_mem
  unfold flagLine
  split
  · exact fun l hl => absurd hl List.not_mem_nil
  · refine List.forall_mem_singleton.2 (bracket_not_mem_append (bracket_not_mem_append (by decide) ?_)
      (by decide))
    rw [Text.toList_commaList]
    refine Text.not_mem_intercalate (by decide) fun cs hcs => ?_
    obtain ⟨s, hs, rfl⟩ := List.mem_map.1 hcs
    obtain ⟨n, hn, rfl⟩ := List.mem_map.1 hs
    exact bracket_not_mem_append (bracket_not_mem_append (h n hn) (by decide)) (by decide)

/-- A route asks for its view and for nothing else. -/
theorem linesCalls_lines {r : Route} (h : r.IsPlain) : linesCalls r.lines = r.view.toList := by
  have hprops : linesCalls (if r.passesParts then [partMargin ++ "props: true,"] else []) = [] := by
    split
    · decide
    · rfl
  have hflags : ∀ n ∈ r.remarks.map Prod.fst, '(' ∉ n.toList := by
    intro n hn
    obtain ⟨e, he, rfl⟩ := List.mem_map.1 hn
    exact (h.remarks e he).1.not_mem (by decide)
  have hclose : linesCalls [defaultIndent ++ "\x7d,"] = [] := by decide
  rw [lines, linesCalls_append, linesCalls_append, linesCalls_append, linesCalls_append,
    linesCalls_append, linesCalls_append, linesCalls_path h,
    linesCalls_partLine (by decide) h.name (by decide), linesCalls_view h,
    linesCalls_partLine (by decide) h.redirect (by decide), hprops, linesCalls_flagLine hflags, hclose,
    List.append_nil, List.append_nil, List.append_nil, List.append_nil]
  rfl

end Route

end Scaffold
