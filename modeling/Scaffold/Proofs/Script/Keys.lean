import Scaffold.Proofs.Script.Token

/-!
# Keys of objects

The keys of the object that a function returns, and those of the object that the exported store of a
module is made of. The latter may take over the keys of what functions of the same module return.
-/

namespace Scaffold.Script

/-! ## Reading -/

namespace Token

/-- A bracket that opens. -/
def opens : Token → Bool
  | mark c => c == '(' || c == '[' || c == '\x7b'
  | _ => false

/-- A bracket that closes. -/
def closes : Token → Bool
  | mark c => c == ')' || c == ']' || c == '\x7d'
  | _ => false

/-- The number of open brackets after a token. -/
def level (t : Token) (d : Nat) : Nat := if t.opens then d + 1 else if t.closes then d - 1 else d

end Token

/-- An entry of an object: a key, or all keys of what a function returns. -/
inductive Entry where
  | key (name : List Char)
  | spread (function : List Char)
  deriving DecidableEq, Repr

/-- An entry by its tokens: a key alone, a key with a value, a key with a function that may wait, or what
a function returns. -/
def entryAt? : List Token → Option Entry
  | [.word k] => some (.key k)
  | .word k :: .mark c :: _ => if c = ':' ∨ c = '(' then some (.key k) else none
  | .word a :: .word k :: .mark c :: _ => if a = asyncWord ∧ c = '(' then some (.key k) else none
  | .mark a :: .mark b :: .mark c :: .word f :: .mark d :: _ =>
    if a = '.' ∧ b = '.' ∧ c = '.' ∧ d = '(' then some (.spread f) else none
  | _ => none

/-- The entry that tokens are, if there are any. -/
def entryOf? : List Token → Option (List Entry)
  | [] => some []
  | t :: rest => (entryAt? (t :: rest)).map fun e => [e]

/-- The entries up to the bracket that closes an object. The tokens `now` of the present entry have been
read, and `d` of its brackets are open. -/
def entriesFrom? (now : List Token) (d : Nat) : List Token → Option (List Entry)
  | [] => none
  | t :: rest =>
    if d = 0 ∧ t.closes = true then entryOf? now
    else if d = 0 ∧ t = .mark ',' then
      match entryOf? now, entriesFrom? [] 0 rest with
      | some first, some others => some (first ++ others)
      | _, _ => none
    else entriesFrom? (now ++ [t]) (t.level d) rest

/-- The entries of the object that tokens begin with, if they begin with one. -/
def object? : List Token → Option (Option (List Entry))
  | [] => none
  | t :: rest => if t = .mark '\x7b' then (entriesFrom? [] 0 rest).map some else some none

/-- The object that a function returns at last. The tokens are those of its body, with the bracket that
closes it, and `found` is what it returned before. -/
def returned? (found : Option (List Entry)) (d : Nat) : List Token → Option (Option (List Entry))
  | [] => none
  | t :: rest =>
    if d = 0 ∧ t.closes = true then some found
    else if d = 0 ∧ t = .word returnWord then
      match object? rest with
      | some found => returned? found 0 rest
      | none => none
    else returned? found (t.level d) rest

/-- What follows the first brace in `k` open brackets. -/
def bodyAt? (k d : Nat) : List Token → Option (List Token)
  | [] => none
  | t :: rest => if d = k ∧ t = .mark '\x7b' then some rest else bodyAt? k (t.level d) rest

/-- The keys among entries, which have to be all of them. -/
def keys? : List Entry → Option (List (List Char))
  | [] => some []
  | .key k :: rest => (keys? rest).map (k :: ·)
  | .spread _ :: _ => none

/-- A function by its name, with the keys of the object that it returns. -/
abbrev Returning := List Char × Option (List (List Char))

/-- The function that tokens begin with. -/
def functionAt? : List Token → Option Returning
  | .word n :: rest =>
    ((bodyAt? 0 0 rest).bind (returned? none 0)).map fun found => (n, found.bind keys?)
  | _ => none

/-- The functions of a module. -/
def functions (d : Nat) : List Token → List Returning
  | [] => []
  | t :: rest =>
    (if d = 0 ∧ t = .word functionWord then (functionAt? rest).toList else [])
      ++ functions (t.level d) rest

/-- What follows the first word for exports. -/
def exported? (d : Nat) : List Token → Option (List Token)
  | [] => none
  | t :: rest => if d = 0 ∧ t = .word exportWord then some rest else exported? (t.level d) rest

/-- The entries of the store that a module exports: of the object that is returned by the function which
the store is made with. -/
def storeEntries? (ts : List Token) : Option (List Entry) :=
  (((exported? 0 ts).bind (bodyAt? 1 0)).bind (returned? none 0)).join

/-- Entries with the keys of functions in the places of what they return. -/
def expand? (fs : List Returning) : List Entry → Option (List (List Char))
  | [] => some []
  | .key k :: rest => (expand? fs rest).map (k :: ·)
  | .spread f :: rest =>
    match fs.lookup f, expand? fs rest with
    | some (some keys), some others => some (keys ++ others)
    | _, _ => none

/-- The keys of the store that a module exports, in their order. -/
def storeKeys? (content : String) : Option (List String) :=
  ((storeEntries? (tokens content)).bind (expand? (functions 0 (tokens content)))).map
    fun keys => keys.map String.ofList

/-! ## Parts that end in themselves -/

variable {ts : List Token}

theorem entriesFrom?_append {now : List Token} {d : Nat} {es : List Entry}
    (h : entriesFrom? now d ts = some es) (more : List Token) :
    entriesFrom? now d (ts ++ more) = some es := by
  induction ts generalizing now d es with
  | nil => cases h
  | cons t rest ih =>
    rw [entriesFrom?] at h
    rw [List.cons_append, entriesFrom?]
    split at h
    next hc => rw [if_pos hc, h]
    next hc =>
      rw [if_neg hc]
      split at h
      next hm =>
        rw [if_pos hm]
        split at h
        next first others hf ho =>
          rw [hf, ih ho]
          exact h
        next => cases h
      next hm =>
        rw [if_neg hm]
        exact ih h

theorem object?_append {found : Option (List Entry)} (h : object? ts = some found)
    (more : List Token) : object? (ts ++ more) = some found := by
  cases ts with
  | nil => cases h
  | cons t rest =>
    rw [object?] at h
    rw [List.cons_append, object?]
    split at h
    next ho =>
      obtain ⟨es, he, hf⟩ := Option.map_eq_some_iff.1 h
      rw [if_pos ho, entriesFrom?_append he more, ← hf]
      rfl
    next ho => rw [if_neg ho, h]

theorem returned?_append {found : Option (List Entry)} {d : Nat} {last : Option (List Entry)}
    (h : returned? found d ts = some last) (more : List Token) :
    returned? found d (ts ++ more) = some last := by
  induction ts generalizing found d with
  | nil => cases h
  | cons t rest ih =>
    rw [returned?] at h
    rw [List.cons_append, returned?]
    split at h
    next hc => rw [if_pos hc, h]
    next hc =>
      rw [if_neg hc]
      split at h
      next hr =>
        rw [if_pos hr]
        split at h
        next next ho =>
          rw [object?_append ho more]
          exact ih h
        next => cases h
      next hr =>
        rw [if_neg hr]
        exact ih h

theorem bodyAt?_append {k d : Nat} {body : List Token} (h : bodyAt? k d ts = some body)
    (more : List Token) : bodyAt? k d (ts ++ more) = some (body ++ more) := by
  induction ts generalizing d with
  | nil => cases h
  | cons t rest ih =>
    rw [bodyAt?] at h
    rw [List.cons_append, bodyAt?]
    split at h
    next hb =>
      cases h
      rw [if_pos hb]
    next hb =>
      rw [if_neg hb]
      exact ih h

theorem functionAt?_append {f : Returning} (h : functionAt? ts = some f) (more : List Token) :
    functionAt? (ts ++ more) = some f := by
  unfold functionAt? at h
  split at h
  next n rest =>
    obtain ⟨found, hf, rfl⟩ := Option.map_eq_some_iff.1 h
    obtain ⟨body, hb, hr⟩ := Option.bind_eq_some_iff.1 hf
    rw [List.cons_append, functionAt?, bodyAt?_append hb, Option.bind_some, returned?_append hr]
    rfl
  next => cases h

theorem exported?_append {d : Nat} {rest : List Token} (h : exported? d ts = some rest)
    (more : List Token) : exported? d (ts ++ more) = some (rest ++ more) := by
  induction ts generalizing d with
  | nil => cases h
  | cons t tail ih =>
    rw [exported?] at h
    rw [List.cons_append, exported?]
    split at h
    next he =>
      cases h
      rw [if_pos he]
    next he =>
      rw [if_neg he]
      exact ih h

/-! ## Parts of a module -/

/-- The functions of a part of a module, with the number of brackets that are open after it. All of them
have to end in the part. -/
def scan (d : Nat) : List Token → Option (List Returning × Nat)
  | [] => some ([], d)
  | t :: rest =>
    if d = 0 ∧ t = .word functionWord then
      match functionAt? rest, scan (t.level d) rest with
      | some f, some (fs, e) => some (f :: fs, e)
      | _, _ => none
    else scan (t.level d) rest

theorem functions_append {d e : Nat} {fs : List Returning} (h : scan d ts = some (fs, e))
    (more : List Token) : functions d (ts ++ more) = fs ++ functions e more := by
  induction ts generalizing d fs with
  | nil =>
    cases h
    rfl
  | cons t rest ih =>
    rw [scan] at h
    rw [List.cons_append, functions]
    split at h
    next hw =>
      rw [if_pos hw]
      split at h
      next f gs e' hf hs =>
        cases h
        rw [functionAt?_append hf more, ih hs]
        rfl
      next => cases h
    next hw =>
      rw [if_neg hw, ih h]
      rfl

/-- A part without exports passes on to what follows it. -/
theorem exported?_append_of_none {d e : Nat} {fs : List Returning} (h : scan d ts = some (fs, e))
    (hn : exported? d ts = none) (more : List Token) :
    exported? d (ts ++ more) = exported? e more := by
  induction ts generalizing d fs with
  | nil =>
    cases h
    rfl
  | cons t rest ih =>
    rw [exported?] at hn
    rw [List.cons_append, exported?]
    split at hn
    next => cases hn
    next he =>
      rw [if_neg he]
      rw [scan] at h
      split at h
      · split at h
        next f gs e' hf hs =>
          cases h
          exact ih hs hn
        next => cases h
      · exact ih h hn

/-- A part outside of all brackets adds these functions to a module and exports nothing. -/
structure Offers (ts : List Token) (fs : List Returning) : Prop where
  functions_eq : ∀ more, functions 0 (ts ++ more) = fs ++ functions 0 more
  exported?_eq : ∀ more, exported? 0 (ts ++ more) = exported? 0 more

theorem offers_nil : Offers [] [] := ⟨fun _ => rfl, fun _ => rfl⟩

theorem Offers.append {us : List Token} {fs gs : List Returning} (h : Offers ts fs)
    (h' : Offers us gs) : Offers (ts ++ us) (fs ++ gs) where
  functions_eq more := by
    rw [List.append_assoc, h.functions_eq, h'.functions_eq, List.append_assoc]
  exported?_eq more := by rw [List.append_assoc, h.exported?_eq, h'.exported?_eq]

theorem offers_flatMap {α : Type} {items : List α} {tokens : α → List Token} {fs : α → List Returning}
    (h : ∀ x ∈ items, Offers (tokens x) (fs x)) : Offers (items.flatMap tokens) (items.flatMap fs) := by
  induction items with
  | nil => exact offers_nil
  | cons x rest ih =>
    rw [List.flatMap_cons, List.flatMap_cons]
    exact (h x List.mem_cons_self).append (ih fun y hy => h y (List.mem_cons_of_mem x hy))

theorem offers_of_scan {fs : List Returning} (h : scan 0 ts = some (fs, 0))
    (hn : exported? 0 ts = none) : Offers ts fs :=
  ⟨functions_append h, exported?_append_of_none h hn⟩

/-! ## Parts of an object -/

/-- The entries of a part of an object, with the tokens of the entry that it ends in and the number of
brackets that are open there. The object may not end in the part. -/
def entriesOf? (now : List Token) (d : Nat) : List Token → Option (List Entry × List Token × Nat)
  | [] => some ([], now, d)
  | t :: rest =>
    if d = 0 ∧ t.closes = true then none
    else if d = 0 ∧ t = .mark ',' then
      match entryOf? now, entriesOf? [] 0 rest with
      | some first, some (others, later) => some (first ++ others, later)
      | _, _ => none
    else entriesOf? (now ++ [t]) (t.level d) rest

variable {now later : List Token} {d e : Nat} {es : List Entry}

theorem entriesFrom?_append_of_entriesOf? (h : entriesOf? now d ts = some (es, later, e))
    (more : List Token) :
    entriesFrom? now d (ts ++ more) = (entriesFrom? later e more).map fun others => es ++ others := by
  -- the reading stops nowhere inside of the first tokens, so what follows is read from where they end
  induction ts generalizing now d es with
  | nil =>
    cases h
    exact Option.map_id'.symm
  | cons t rest ih =>
    rw [entriesOf?] at h
    rw [List.cons_append, entriesFrom?]
    split at h
    next => cases h
    next hc =>
      rw [if_neg hc]
      split at h
      next hm =>
        rw [if_pos hm]
        split at h
        next first others later' hf ho =>
          cases h
          rw [hf, ih ho]
          cases entriesFrom? later e more with
          | none => rfl
          | some rest =>
            dsimp only [Option.map_some]
            rw [List.append_assoc]
        next => cases h
      next hm =>
        rw [if_neg hm]
        exact ih h

/-- Inside of an object only the number of open brackets matters. -/
theorem level_of_entriesOf? {β : Type} (read : Nat → List Token → β)
    (hr : ∀ d t rest, (d = 0 → False) → read d (t :: rest) = read (t.level d) rest)
    (h : entriesOf? now d ts = some (es, later, e)) (k : Nat) (more : List Token) :
    read (d + k + 1) (ts ++ more) = read (e + k + 1) more := by
  have hlevel (t : Token) (d : Nat) (hc : ¬ (d = 0 ∧ t.closes = true)) :
      t.level (d + k + 1) = t.level d + k + 1 := by
    unfold Token.level
    split
    · omega
    split
    next hclose =>
      have : d ≠ 0 := fun h0 => hc ⟨h0, hclose⟩
      omega
    next => rfl
  -- the depth goes up and down along the tokens, but never below that of the object itself
  induction ts generalizing now d es with
  | nil =>
    cases h
    rfl
  | cons t rest ih =>
    rw [entriesOf?] at h
    rw [List.cons_append, hr _ _ _ (by omega)]
    split at h
    next => cases h
    next hc =>
      rw [hlevel t d hc]
      split at h
      next hm =>
        obtain ⟨rfl, rfl⟩ := hm
        split at h
        next first others later' hf ho =>
          cases h
          exact ih ho
        next => cases h
      next hm => exact ih h

/-- A part of the object that the store is made of, with the entries that it adds. -/
structure Lists (ts : List Token) (es : List Entry) : Prop where
  entriesFrom?_eq : ∀ more,
    entriesFrom? [] 0 (ts ++ more) = (entriesFrom? [] 0 more).map fun others => es ++ others
  returned?_eq : ∀ found more, returned? found 1 (ts ++ more) = returned? found 1 more
  functions_eq : ∀ more, functions 3 (ts ++ more) = functions 3 more

theorem lists_nil : Lists [] [] := ⟨fun _ => Option.map_id'.symm, fun _ _ => rfl, fun _ => rfl⟩

theorem Lists.append {us : List Token} {es es' : List Entry} (h : Lists ts es) (h' : Lists us es') :
    Lists (ts ++ us) (es ++ es') where
  entriesFrom?_eq more := by
    rw [List.append_assoc, h.entriesFrom?_eq, h'.entriesFrom?_eq, Option.map_map]
    congr 1
    funext others
    exact (List.append_assoc _ _ _).symm
  returned?_eq found more := by rw [List.append_assoc, h.returned?_eq, h'.returned?_eq]
  functions_eq more := by rw [List.append_assoc, h.functions_eq, h'.functions_eq]

theorem lists_flatMap {α : Type} {items : List α} {tokens : α → List Token} {es : α → List Entry}
    (h : ∀ x ∈ items, Lists (tokens x) (es x)) : Lists (items.flatMap tokens) (items.flatMap es) := by
  induction items with
  | nil => exact lists_nil
  | cons x rest ih =>
    rw [List.flatMap_cons, List.flatMap_cons]
    exact (h x List.mem_cons_self).append (ih fun y hy => h y (List.mem_cons_of_mem x hy))

theorem returned?_of_ne_zero (found : Option (List Entry)) {d : Nat} (hd : d = 0 → False)
    (t : Token) (rest : List Token) :
    returned? found d (t :: rest) = returned? found (t.level d) rest := by
  rw [returned?, if_neg fun h => hd h.1, if_neg fun h => hd h.1]

theorem functions_of_ne_zero {d : Nat} (hd : d = 0 → False) (t : Token) (rest : List Token) :
    functions d (t :: rest) = functions (t.level d) rest := by
  rw [functions, if_neg fun h => hd h.1]
  rfl

theorem lists_of_entriesOf? (h : entriesOf? [] 0 ts = some (es, [], 0)) : Lists ts es where
  entriesFrom?_eq := entriesFrom?_append_of_entriesOf? h
  returned?_eq found more :=
    level_of_entriesOf? (returned? found) (fun _ t rest hd => returned?_of_ne_zero found hd t rest)
      h 0 more
  functions_eq more :=
    level_of_entriesOf? functions (fun _ t rest hd => functions_of_ne_zero hd t rest) h 2 more

/-! ## The object of the store -/

/-- The entries so far of the object that tokens begin with, if they end inside of the object and between
its entries. -/
def objectOpened? : List Token → Option (List Entry)
  | [] => none
  | t :: rest =>
    if t = .mark '\x7b' then
      match entriesOf? [] 0 rest with
      | some (es, [], 0) => some es
      | _ => none
    else none

/-- The entries so far of the object that a body returns, if its tokens end inside of the object and
between its entries. -/
def opened? (d : Nat) : List Token → Option (List Entry)
  | [] => none
  | t :: rest =>
    if d = 0 ∧ t.closes = true then none
    else if d = 0 ∧ t = .word returnWord then objectOpened? rest
    else opened? (t.level d) rest

theorem objectOpened?_eq_some (h : objectOpened? ts = some es) :
    ∃ rest, ts = .mark '\x7b' :: rest ∧ entriesOf? [] 0 rest = some (es, [], 0) := by
  unfold objectOpened? at h
  split at h
  next => cases h
  next t rest =>
    split at h
    next ht =>
      split at h
      next es' he =>
        cases h
        exact ⟨rest, by rw [ht], he⟩
      next => cases h
    next => cases h

/-- The object goes on in what follows, and so does the body after it. -/
theorem returned?_append_of_opened? (h : opened? d ts = some es) {more : List Token}
    {others : List Entry} (ho : entriesFrom? [] 0 more = some others) (found : Option (List Entry)) :
    returned? found d (ts ++ more) = returned? (some (es ++ others)) 1 more := by
  induction ts generalizing d with
  | nil => cases h
  | cons t rest ih =>
    rw [opened?] at h
    rw [List.cons_append, returned?]
    split at h
    next => cases h
    next hc =>
      rw [if_neg hc]
      split at h
      next hr =>
        obtain ⟨inside, rfl, he⟩ := objectOpened?_eq_some h
        have hobject : object? (.mark '\x7b' :: inside ++ more) = some (some (es ++ others)) := by
          rw [List.cons_append, object?, if_pos rfl, entriesFrom?_append_of_entriesOf? he, ho]
          rfl
        rw [if_pos hr, hobject]
        exact (lists_of_entriesOf? he).returned?_eq _ more
      next hr =>
        rw [if_neg hr]
        exact ih h

/-- The entries so far of the store, if a part of a module ends inside of the object that the store is
made of. -/
def storeOpened? (ts : List Token) : Option (List Entry) :=
  ((exported? 0 ts).bind (bodyAt? 1 0)).bind (opened? 0)

/-- A part of a module that begins the object that the store is made of, with its first entries. -/
structure Opens (ts : List Token) (es : List Entry) : Prop where
  storeOpened?_eq : storeOpened? ts = some es
  functions_eq : ∀ more, functions 0 (ts ++ more) = functions 3 more

/-- What ends the object, the function that returns it, and the call that the store is made with. -/
def storeEnd : List Token := [.mark '\x7d', .mark ';', .mark '\x7d', .mark ')', .mark ';']

theorem storeEntries?_eq {before first rest : List Token} {fs : List Returning}
    {es others : List Entry} (hb : Offers before fs) (hf : Opens first es) (hr : Lists rest others) :
    storeEntries? (before ++ (first ++ (rest ++ storeEnd))) = some (es ++ others) := by
  obtain ⟨body, hbody, ho⟩ := Option.bind_eq_some_iff.1 hf.storeOpened?_eq
  obtain ⟨tail, he, hb'⟩ := Option.bind_eq_some_iff.1 hbody
  have hlist : entriesFrom? [] 0 (rest ++ storeEnd) = some others := by
    rw [hr.entriesFrom?_eq]
    exact congrArg some (List.append_nil others)
  rw [storeEntries?, hb.exported?_eq, exported?_append he, Option.bind_some, bodyAt?_append hb',
    Option.bind_some, returned?_append_of_opened? ho hlist, hr.returned?_eq]
  rfl

theorem functions_eq {before first rest : List Token} {fs : List Returning} {es others : List Entry}
    (hb : Offers before fs) (hf : Opens first es) (hr : Lists rest others) :
    functions 0 (before ++ (first ++ (rest ++ storeEnd))) = fs := by
  rw [hb.functions_eq, hf.functions_eq, hr.functions_eq]
  exact List.append_nil fs

/-! ## Keys of entries -/

variable {fs : List Returning}

theorem expand?_append {as bs : List Entry} {ks ls : List (List Char)}
    (ha : expand? fs as = some ks) (hb : expand? fs bs = some ls) :
    expand? fs (as ++ bs) = some (ks ++ ls) := by
  induction as generalizing ks with
  | nil =>
    cases ha
    exact hb
  | cons entry rest ih =>
    cases entry with
    | key k =>
      obtain ⟨others, ho, rfl⟩ := Option.map_eq_some_iff.1 ha
      rw [List.cons_append, expand?, ih ho]
      rfl
    | spread f =>
      rw [expand?] at ha
      split at ha
      next keys others hk ho =>
        cases ha
        rw [List.cons_append, expand?, hk, ih ho]
        dsimp only
        rw [List.append_assoc]
      next => cases ha

theorem expand?_keys (ks : List (List Char)) : expand? fs (ks.map Entry.key) = some ks := by
  induction ks with
  | nil => rfl
  | cons k rest ih =>
    rw [List.map_cons, expand?, ih]
    rfl

/-- What a function returns is put in its place. -/
theorem expand?_spread {f : List Char} {keys : List (List Char)}
    (h : fs.lookup f = some (some keys)) : expand? fs [.spread f] = some keys := by
  rw [expand?, h]
  dsimp only [expand?]
  rw [List.append_nil]

theorem expand?_flatMap {α : Type} {items : List α} {entries : α → List Entry}
    {keys : α → List (List Char)} (h : ∀ x ∈ items, expand? fs (entries x) = some (keys x)) :
    expand? fs (items.flatMap entries) = some (items.flatMap keys) := by
  induction items with
  | nil => rfl
  | cons x rest ih =>
    rw [List.flatMap_cons, List.flatMap_cons]
    exact expand?_append (h x List.mem_cons_self) (ih fun y hy => h y (List.mem_cons_of_mem x hy))

end Scaffold.Script
