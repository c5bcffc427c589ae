import Scaffold.Proofs.Assembly.Interface
import Scaffold.Proofs.Routing.Distinct
import Scaffold.Proofs.Script.Push
import Scaffold.Proofs.Template.Parts

/-!
# Routes behind guards

The guards send on to routes that whoever is sent there may enter: nobody is sent to a place that is not
there, and nobody is sent back and forth. Routes are remarked for a guard only if the guard is there.

Where a guard sends those who may not enter is read from its text: every line that returns a text in quotes,
or a place with a path in quotes, counts, with the condition of the block that the line above opens.
-/

namespace Scaffold.Script

/-! ## Places that a guard sends on to -/

/-- The words that return something. -/
def returnWords : List Char := "return ".toList

/-- The words that return a place with a path. -/
def placeWords : List Char := returnWords ++ "\x7b path: ".toList

/-- A path that a guard sends on to, with the condition of the block around it. -/
structure Redirect where
  guard : Option String
  target : String
  deriving DecidableEq, Repr

/-- The path in quotes that a line returns. -/
def target? (line : List Char) : Option String :=
  let words := line.dropWhile (· == ' ')
  ((after? placeWords words).or (after? returnWords words)).bind fun rest =>
    (unquote rest).map Prod.fst

/-- The redirects of lines, the first of which stands in a block with this condition. -/
def redirectsFrom (guard : Option String) : List (List Char) → List Redirect
  | [] => []
  | line :: rest => ((target? line).map (⟨guard, ·⟩)).toList ++ redirectsFrom (condition? line) rest

/-- The redirects of a module, in the order of the text. -/
def redirects (content : String) : List Redirect :=
  redirectsFrom none (Text.partsBetween '\n' content.toList)

/-- A line is read from its words on. -/
theorem target?_replicate (n : Nat) (more : List Char) :
    target? (List.replicate n ' ' ++ (returnWords ++ more))
      = ((after? placeWords (returnWords ++ more)).or (some more)).bind fun rest =>
        (unquote rest).map Prod.fst := by
  have hword : (returnWords ++ more).dropWhile (· == ' ') = returnWords ++ more := by
    have hfirst : returnWords = 'r' :: "eturn ".toList := by decide
    rw [hfirst, List.cons_append, List.dropWhile_cons_of_neg (by decide)]
  have hblanks : (List.replicate n ' ' ++ (returnWords ++ more)).dropWhile (· == ' ')
      = returnWords ++ more := by
    rw [List.dropWhile_append_of_pos, hword]
    intro c hc
    rw [List.eq_of_mem_replicate hc]
    rfl
  rw [target?, hblanks, after?_word_append]

/-- A line that returns a place sends on to its path, whatever the path holds. -/
theorem target?_place (n : Nat) (s : String) (rest : List Char) :
    target? (List.replicate n ' ' ++ (placeWords ++ ((quote s).toList ++ rest))) = some s := by
  have hplace := after?_word_append placeWords ((quote s).toList ++ rest)
  rw [placeWords, List.append_assoc] at hplace ⊢
  rw [target?_replicate, placeWords, hplace, Option.some_or, Option.bind_some, unquote_quote]
  rfl

/-- A line that returns a text in quotes sends on to the text. -/
theorem target?_text (n : Nat) (s : String) (rest : List Char) :
    target? (List.replicate n ' ' ++ (returnWords ++ ((quote s).toList ++ rest))) = some s := by
  have hquote : (quote s).toList ++ rest = '\'' :: (s.toList.flatMap escapeChar ++ ['\''] ++ rest) := by
    unfold quote
    rw [String.toList_append, String.toList_append, String.toList_ofList, String.toList_ofList]
    rfl
  have hplace : after? placeWords (returnWords ++ ((quote s).toList ++ rest)) = none := by
    rw [placeWords, after?_append_append, hquote]
    exact after?_of_head?_ne (w := '\x7b') (by decide) (fun e => absurd (Option.some.inj e) (by decide))
  rw [target?_replicate, hplace, Option.none_or, Option.bind_some, unquote_quote]
  rfl

/-- The redirects of a text in whole lines are those of its lines. -/
theorem redirects_of_joinLines {s : String} {css : List (List Char)} (hs : s.toList = joinLines css)
    (hn : ∀ cs ∈ css, '\n' ∉ cs) : redirects s = redirectsFrom none (css ++ [[]]) := by
  rw [redirects, hs, partsBetween_joinLines hn]

end Scaffold.Script

namespace Scaffold

open Template
open Script (Redirect)

/-! ## The guards -/

namespace Template

/-- The redirects of a file from a template are those of the lines of the template. -/
theorem HasLines.redirects_eq {path : String} {t : Template} {values : List (String × Value)}
    {css : List (List Char)} {rs : List Redirect} (h : HasLines (Scope.ofValues values) t css)
    (hr : Script.redirectsFrom none (css ++ [[]]) = rs) :
    ∃ f, Artifact.ofTemplate path t values = .ok f ∧ f.path = path
      ∧ Script.redirects f.content = rs := by
  obtain ⟨s, hs, hl, hn⟩ := h
  refine ⟨⟨path, s⟩, ?_, rfl, ?_⟩
  · rw [Artifact.ofTemplate, hs]
    rfl
  · rw [Script.redirects_of_joinLines hl hn, hr]

end Template

namespace Routing

/-- Where the guard for users sends on to: visitors to the place for signing in, and users who come
there to the start. -/
def authRedirects (login : String) : List Redirect := [
  ⟨some "to.matched.some((record) => record.meta.requiresAuth) && !store.isAuthenticated", login⟩,
  ⟨some "to.matched.some((record) => record.meta.guestOnly) && store.isAuthenticated",
    RouteTable.startPath⟩]

/-- Where the guard for roles sends on to: users without a role to the place for them. -/
def roleRedirects (denied : String) : List Redirect := [
  ⟨some "to.matched.some((record) => record.meta.requiresAdmin) && !store.hasRole('admin')", denied⟩,
  ⟨some ("Array.isArray(required) && required.length > 0 && "
    ++ "!required.some((role) => store.hasRole(role))"), denied⟩]

/-- The values that a guard is made from: the names of the store, and a path. -/
def guardScope (o : Options) (key path : String) : Scope :=
  Scope.ofValues [("store", (StoreNames.ofOptions o).toValue), (key, .text path)]

variable {t : RouteTable} (o : Options) (key path : String)

/-- The import of the store, by how the line begins. -/
theorem hasLines_import :
    ∃ cs, HasLines (guardScope o key path) (row [text "import \x7b ", value ["store", "hook"],
      text " \x7d from '", value ["store", "import_path"], text "';"]) ['i' :: 'm' :: cs] := by
  have hh : (Expr.path ["store", "hook"]).Gives (guardScope o key path)
      (.text (StoreNames.ofOptions o).hook) := Expr.Gives.of_record (e := .name "store") rfl rfl
  have hp : (Expr.path ["store", "import_path"]).Gives (guardScope o key path)
      (.text (StoreNames.ofOptions o).importPath) := Expr.Gives.of_record (e := .name "store") rfl rfl
  have hhook := StoreNames.inline_hook o
  have himport : Inline (StoreNames.ofOptions o).importPath :=
    inline_append (inline_ofList rfl) (StoreNames.inline_storeName o)
  unfold Inline at hhook himport
  refine ⟨_, Row.hasLines (.text (.hole hh (.text (.hole hp (.text .nil))))) ?_⟩
  simp [hhook, himport]

/-- The line that asks for the store, by how it begins. -/
theorem hasLines_store :
    ∃ cs, HasLines (guardScope o key path)
      (row [text "  const store = ", value ["store", "hook"], text "();"]) [' ' :: ' ' :: 'c' :: cs] := by
  have hh : (Expr.path ["store", "hook"]).Gives (guardScope o key path)
      (.text (StoreNames.ofOptions o).hook) := Expr.Gives.of_record (e := .name "store") rfl rfl
  have hhook := StoreNames.inline_hook o
  unfold Inline at hhook
  refine ⟨_, Row.hasLines (.text (.hole hh (.text .nil))) ?_⟩
  simp [hhook]

variable {path}

/-- The guard for users sends visitors to the place for signing in, if there is one. -/
theorem redirects_authGuardFile (h : t.login? = some path) (hne : path ≠ "") :
    ∃ f, authGuardFile t o = .ok f ∧ f.path = Layout.guardsRoot ++ "/authGuard.js"
      ∧ Script.redirects f.content = authRedirects path := by
  have hl : (Expr.path ["login_path"]).Gives (guardScope o "login_path" path) (.text path) := rfl
  have htruthy : (Value.text path).truthy = true := by simp [Value.truthy, hne]
  have hquote := Script.inline_quote path
  have htarget (rest : List Char) := Script.target?_place 4 path rest
  obtain ⟨cs, himport⟩ := hasLines_import o "login_path" path
  obtain ⟨ds, hstore⟩ := hasLines_store o "login_path" path
  unfold authGuardFile
  rw [h, Option.map_some, Option.getD_some]
  -- row by row: what is not fixed are the names of the store and the place in quotes
  refine HasLines.redirects_eq (himport.cons
    ((hasLines_lines (by repeat constructor) (by decide)).cons
    (hstore.cons
    ((hasLines_lines (by repeat constructor) (by decide)).cons
    ((HasLines.when ((hasLines_lines (by repeat constructor) (by decide)).cons
      ((Row.hasLines (.text (.hole hl.quoted (.text .nil))) ?inline).cons
      ((hasLines_lines (by repeat constructor) (by decide)).cons (hasLines_nil _)))) hl htruthy).cons
    ((hasLines_lines (by repeat constructor) (by decide)).cons (hasLines_nil _))))))) ?redirects
  case inline =>
    unfold Inline at hquote
    simp [hquote]
  case redirects =>
    -- the line above a return opens its block, so the condition is known where the place is read
    unfold Script.placeWords Script.returnWords at htarget
    rw [String.toList_ofList, String.toList_ofList] at htarget
    simp only [List.replicate, List.cons_append, List.nil_append] at htarget
    simp only [List.cons_append, List.nil_append, Script.redirectsFrom, htarget]
    rfl

/-- The guard for roles sends users without a role to the place for them. -/
theorem redirects_roleGuardFile :
    ∃ f, roleGuardFile t o = .ok f ∧ f.path = Layout.guardsRoot ++ "/roleGuard.js"
      ∧ Script.redirects f.content = roleRedirects t.deniedPath := by
  have hd : (Expr.path ["denied_path"]).Gives (guardScope o "denied_path" t.deniedPath)
      (.text t.deniedPath) := rfl
  have hquote := Script.inline_quote t.deniedPath
  have htarget (rest : List Char) := Script.target?_text 4 t.deniedPath rest
  obtain ⟨cs, himport⟩ := hasLines_import o "denied_path" t.deniedPath
  obtain ⟨ds, hstore⟩ := hasLines_store o "denied_path" t.deniedPath
  refine HasLines.redirects_eq (himport.cons
    ((hasLines_lines (by repeat constructor) (by decide)).cons
    (hstore.cons
    ((hasLines_lines (by repeat constructor) (by decide)).cons
    ((Row.hasLines (.text (.hole hd.quoted (.text .nil))) ?inline).cons
    ((hasLines_lines (by repeat constructor) (by decide)).cons
    ((Row.hasLines (.text (.hole hd.quoted (.text .nil))) ?inline').cons
    ((hasLines_lines (by repeat constructor) (by decide)).cons (hasLines_nil _))))))))) ?redirects
  case inline | inline' =>
    unfold Inline at hquote
    simp [hquote]
  case redirects =>
    unfold Script.returnWords at htarget
    rw [String.toList_ofList] at htarget
    simp only [List.replicate, List.cons_append, List.nil_append] at htarget
    simp only [List.cons_append, List.nil_append, Script.redirectsFrom, htarget]
    rfl

/-- The stage of routing makes what its table asks for. -/
theorem exists_generate_eq {all : List Collection} (hall : Collection.AreNormal all) :
    ∃ files, stage.generate all o = .ok files
      ∧ tableFiles (RouteTable.assemble all o) o = files.map Except.ok := by
  obtain ⟨made, hc⟩ := Assembly.exists_catalogue_eq hall.each o
  obtain ⟨_, files, -, -, hr⟩ := List.map_eq_append_iff.1 hc.symm
  refine ⟨files, ?_, hr.symm⟩
  -- the stage makes all of its files at once, and none for a single collection
  have hmakes := Routing.makes (RouteTable.ofCollections_eq_ok hall o)
  have hshared : stage.shared all o = .ok files :=
    hmakes.shared_eq.trans (Stage.files_eq_ok_iff.2 hr.symm)
  have hown (some : List Collection) : stage.forEach all o some = .ok [] := by
    induction some with
    | nil => rfl
    | cons c rest ih =>
      rw [Stage.forEach, hmakes.forCollection_eq, ih]
      rfl
  rw [Stage.generate, hshared, hown]
  exact congrArg Except.ok (List.append_nil files)

end Routing

/-! ## Remarked routes -/

/-- A route has a remark for the guards. -/
def Route.isMarked (r : Route) (key : String) : Bool := (r.remarks.lookup key).isSome

namespace RouteTable

variable {all : List Collection} {o : Options}

theorem lookup_userRemarks (o : Options) :
    ((userRemarks o).lookup "requiresAuth").isSome = o.authRoutes
      ∧ (userRemarks o).lookup "requiresAdmin" = none ∧ (userRemarks o).lookup "guestOnly" = none := by
  unfold userRemarks
  cases o.authRoutes <;> exact ⟨rfl, rfl, rfl⟩

theorem lookup_adminRemarks (o : Options) :
    ((adminRemarks o).lookup "requiresAuth").isSome = o.authRoutes
      ∧ ((adminRemarks o).lookup "requiresAdmin").isSome = o.hasRoles := by
  unfold adminRemarks userRemarks
  cases o.authRoutes <;> cases o.hasRoles <;> exact ⟨rfl, rfl⟩

/-- Users are asked for only where they can sign in. -/
theorem authRoutes_of_isMarked :
    ∀ r ∈ (assemble all o).routes, r.isMarked "requiresAuth" = true → o.authRoutes = true := by
  refine forall_mem_assemble (P := fun r => r.isMarked "requiresAuth" = true → o.authRoutes = true)
    (forall_mem_viewRoutes (P := fun e => e.1.isMarked "requiresAuth" = true → o.authRoutes = true)
      ?start (fun h _ _ _ => h) fun v _ h => ?administration) (fun c _ => ?collection) nofun
  case start =>
    unfold startRoute
    split
    · exact nofun
    · exact fun h => (lookup_userRemarks o).1.symm.trans h
  case administration => exact (lookup_adminRemarks o).1.symm.trans h
  case collection =>
    have huser (h : ((userRemarks o).lookup "requiresAuth").isSome = true) : o.authRoutes = true :=
      (lookup_userRemarks o).1.symm.trans h
    exact List.forall_mem_cons.2 ⟨huser, List.forall_mem_cons.2 ⟨huser, nofun⟩⟩

/-- Administrators are asked for only where there are roles. -/
theorem hasRoles_of_isMarked :
    ∀ r ∈ (assemble all o).routes, r.isMarked "requiresAdmin" = true → o.hasRoles = true := by
  have huser (h : ((userRemarks o).lookup "requiresAdmin").isSome = true) : o.hasRoles = true := by
    rw [(lookup_userRemarks o).2.1] at h
    cases h
  refine forall_mem_assemble (P := fun r => r.isMarked "requiresAdmin" = true → o.hasRoles = true)
    (forall_mem_viewRoutes (P := fun e => e.1.isMarked "requiresAdmin" = true → o.hasRoles = true)
      ?start (fun _ v _ h => ?signingIn) fun v _ h => ?administration) (fun c _ => ?collection) nofun
  case start =>
    unfold startRoute
    split
    · exact nofun
    · exact huser
  case signingIn =>
    -- views for signing in never ask for administrators, whoever they are for
    change ((audienceRemarks o v.audience).lookup "requiresAdmin").isSome = true at h
    cases hv : v.audience with
    | everyone =>
      rw [hv] at h
      cases h
    | visitors =>
      rw [hv] at h
      cases h
    | users =>
      rw [hv] at h
      exact huser h
  case administration => exact (lookup_adminRemarks o).2.symm.trans h
  case collection => exact List.forall_mem_cons.2 ⟨huser, List.forall_mem_cons.2 ⟨huser, nofun⟩⟩

/-! ### Routes of a table -/

theorem mem_routes_of_mem_viewRoutes {e : Route × PlaceholderView} (h : e ∈ viewRoutes o) :
    e.1 ∈ (assemble all o).routes :=
  List.mem_append_left _ (List.mem_append_left _ (List.mem_map_of_mem h))

theorem startRoute_mem : (startRoute o).1 ∈ (assemble all o).routes :=
  mem_routes_of_mem_viewRoutes
    (List.mem_append_left _ (List.mem_append_left _ (List.mem_singleton_self _)))

/-- With views for signing in, the table has a route for each of them. -/
theorem authView_mem (h : o.authRoutes = true) {v : RoutedView} (hv : v ∈ authViews) :
    (viewRoute v.path v.name ⟨v.file, v.title, ""⟩ (audienceRemarks o v.audience)).1
      ∈ (assemble all o).routes := by
  refine mem_routes_of_mem_viewRoutes (List.mem_append_left _ (List.mem_append_right _ ?_))
  rw [if_pos h]
  exact List.mem_map_of_mem hv

/-- The view for signing in is for visitors, and the one for users without a role is for everyone. -/
theorem exists_authViews :
    (∃ v ∈ authViews, v.path = loginPath ∧ v.audience = .visitors)
      ∧ ∃ v ∈ authViews, v.path = unauthorizedPath ∧ v.audience = .everyone := by decide

theorem collectionRoute_mem {c : Collection} (hc : c ∈ all) {r : Route}
    (hr : r ∈ collectionRoutes o c) : r ∈ (assemble all o).routes :=
  List.mem_append_left _ (List.mem_append_right _ (List.mem_flatMap.2 ⟨c, hc, hr⟩))

/-- The start is for everyone without views for signing in; users are never turned away from it. -/
theorem startRoute_eq (o : Options) :
    (startRoute o).1.path = startPath ∧ (startRoute o).1.isMarked "guestOnly" = false
      ∧ (startRoute o).1.isMarked "requiresAdmin" = false
      ∧ (o.authRoutes = false → (startRoute o).1.isMarked "requiresAuth" = false) := by
  obtain ⟨ha, hr, hg⟩ := lookup_userRemarks o
  unfold startRoute
  split
  · exact ⟨rfl, rfl, rfl, fun _ => rfl⟩
  · exact ⟨rfl, congrArg Option.isSome hg, congrArg Option.isSome hr, fun h => ha.trans h⟩

/-- There is a place for signing in exactly with views for it. -/
theorem login?_eq_some_iff {path : String} :
    (assemble all o).login? = some path ↔ o.authRoutes = true ∧ loginPath = path := by
  show (if o.authRoutes = true then some loginPath else none) = some path ↔ _
  split
  next h => simp [h]
  next h => simp [h]

/-- Everyone may come to the place for signing in. -/
theorem exists_loginRoute (h : o.authRoutes = true) :
    ∃ r ∈ (assemble all o).routes, r.path = loginPath ∧ r.isMarked "requiresAuth" = false := by
  obtain ⟨v, hv, hpath, haudience⟩ := exists_authViews.1
  refine ⟨_, authView_mem h hv, hpath, ?_⟩
  rw [haudience]
  rfl

/-- Everyone may come to the place for users without a role. With views for signing in it is one of them,
else it is the start. -/
theorem exists_deniedRoute (all : List Collection) (o : Options) :
    ∃ r ∈ (assemble all o).routes, r.path = (assemble all o).deniedPath
      ∧ r.isMarked "requiresAuth" = false ∧ r.isMarked "requiresAdmin" = false := by
  cases h : o.authRoutes with
  | true =>
    obtain ⟨v, hv, hpath, haudience⟩ := exists_authViews.2
    refine ⟨_, authView_mem h hv, hpath.trans (if_pos h).symm, ?_⟩
    rw [haudience]
    exact ⟨rfl, rfl⟩
  | false =>
    obtain ⟨hpath, -, hadmin, hauth⟩ := startRoute_eq o
    refine ⟨_, startRoute_mem, hpath.trans ?_, hauth h, hadmin⟩
    exact (if_neg (ne_true_of_eq_false h)).symm

/-- The routes of a collection ask for users exactly with views for signing in. -/
theorem isMarked_collectionRoutes {c : Collection} {r : Route} (hr : r ∈ collectionRoutes o c) :
    r.isMarked "requiresAuth" = true ↔ o.authRoutes = true := by
  have hremarks : r.remarks = userRemarks o := by
    rcases List.mem_cons.1 hr with rfl | hr
    · rfl
    · rw [List.mem_singleton.1 hr]
  rw [Route.isMarked, hremarks, (lookup_userRemarks o).1]

end RouteTable

/-! ## The guarded table -/

/-- Where the guards of a table send on to, they lead somewhere and come to an end. -/
structure RouteTable.IsGuarded (t : RouteTable) (all : List Collection) (o : Options)
    (files : List Artifact) : Prop where
  /-- No two routes have one path. -/
  paths_nodup : t.paths.Nodup
  /-- A remark that a route has counts as true for the guards. -/
  remarks : ∀ r ∈ t.routes, ∀ e ∈ r.remarks, e.2 = .bool true
  /-- Users are asked for only if there is a place for signing in. -/
  login : ∀ r ∈ t.routes, r.isMarked "requiresAuth" = true → ∃ path, t.login? = some path
  /-- Everyone may come to the place for signing in. -/
  loginRoute : ∀ path, t.login? = some path →
    ∃ r ∈ t.routes, r.path = path ∧ r.isMarked "requiresAuth" = false
  /-- The guard for users sends visitors there. -/
  authGuard : ∀ path, t.login? = some path →
    ∃ f ∈ files, f.path = Layout.guardsRoot ++ "/authGuard.js"
      ∧ Script.redirects f.content = Routing.authRedirects path
  /-- Administrators are asked for only if there is the guard for roles. -/
  roleGuard : ∀ r ∈ t.routes, r.isMarked "requiresAdmin" = true →
    ∃ f ∈ files, f.path = Layout.guardsRoot ++ "/roleGuard.js"
      ∧ Script.redirects f.content = Routing.roleRedirects t.deniedPath
  /-- Everyone may come to the place for users without a role. -/
  denied : ∃ r ∈ t.routes, r.path = t.deniedPath ∧ r.isMarked "requiresAuth" = false
    ∧ r.isMarked "requiresAdmin" = false
  /-- Users are not turned away from the start. -/
  start : ∃ r ∈ t.routes, r.path = startPath ∧ r.isMarked "guestOnly" = false
  /-- Both routes of a collection ask for users if and only if there are views for signing in. -/
  collection : ∀ c ∈ all, ∀ path ∈ [(CollectionNames.ofCollection c o).createRoutePath,
      (CollectionNames.ofCollection c o).editRoutePath],
    ∃ r ∈ t.routes, r.path = path ∧ (r.isMarked "requiresAuth" = true ↔ o.authRoutes = true)
  /-- The last route leads from everywhere else to the start. -/
  last : ∃ r, t.routes.getLast? = some r ∧ r.path = catchAllPath ∧ r.redirect = some startPath

/-- The guards of a table neither send to a place that is not there nor back and forth. -/
theorem Routing.isGuarded_of_read {identity : List String} {raw : Value} {notes : List Note}
    {all : List Collection} (h : Intake.read identity raw = (notes, .ok all)) (o : Options) :
    ∃ t files, RouteTable.ofCollections all o = .ok t ∧ stage.generate all o = .ok files
      ∧ t.IsGuarded all o files := by
  have hall := Intake.areNormal_of_read h
  obtain ⟨files, hfiles, htable⟩ := exists_generate_eq o hall
  refine ⟨RouteTable.assemble all o, files, RouteTable.ofCollections_eq_ok hall o, hfiles, ?_⟩
  -- a file of the table that is made is one of the files of the stage
  have hmade {f : Artifact} (hf : Except.ok f ∈ tableFiles (RouteTable.assemble all o) o) :
      f ∈ files := by
    rw [htable] at hf
    obtain ⟨g, hg, he⟩ := List.mem_map.1 hf
    cases he
    exact hg
  exact {
    paths_nodup := RouteTable.nodup_paths hall o
    remarks := fun r hr e he =>
      ((RouteTable.isPlain_assemble hall.each o r hr).remarks e he).2
    login := fun r hr hm =>
      ⟨_, RouteTable.login?_eq_some_iff.2 ⟨RouteTable.authRoutes_of_isMarked r hr hm, rfl⟩⟩
    loginRoute := fun path hp => by
      obtain ⟨ho, rfl⟩ := RouteTable.login?_eq_some_iff.1 hp
      exact RouteTable.exists_loginRoute ho
    authGuard := fun path hp => by
      obtain ⟨ho, rfl⟩ := RouteTable.login?_eq_some_iff.1 hp
      obtain ⟨f, hf, hfp, hfr⟩ := redirects_authGuardFile o hp (by decide)
      have hauth : o.auth = true := (Bool.and_eq_true_iff.1 ho).1
      refine ⟨f, hmade ?_, hfp, hfr⟩
      rw [tableFiles, if_pos hauth, hf]
      simp
    roleGuard := fun r hr hm => by
      have ho := RouteTable.hasRoles_of_isMarked r hr hm
      obtain ⟨f, hf, hfp, hfr⟩ := redirects_roleGuardFile (t := RouteTable.assemble all o) o
      refine ⟨f, hmade ?_, hfp, hfr⟩
      rw [tableFiles, if_pos ho, hf]
      simp
    denied := RouteTable.exists_deniedRoute all o
    start := by
      obtain ⟨hp, hg, -⟩ := RouteTable.startRoute_eq o
      exact ⟨_, RouteTable.startRoute_mem, hp, hg⟩
    collection := fun c hc => by
      have hroute {r : Route} (hr : r ∈ RouteTable.collectionRoutes o c) :
          ∃ r' ∈ (RouteTable.assemble all o).routes, r'.path = r.path
            ∧ (r'.isMarked "requiresAuth" = true ↔ o.authRoutes = true) :=
        ⟨r, RouteTable.collectionRoute_mem hc hr, rfl, RouteTable.isMarked_collectionRoutes hr⟩
      exact List.forall_mem_cons.2 ⟨hroute List.mem_cons_self,
        List.forall_mem_singleton.2 (hroute (List.mem_cons_of_mem _ List.mem_cons_self))⟩
    last := ⟨RouteTable.catchAllRoute, List.getLast?_concat, rfl, rfl⟩ }

/-- Books, with views for signing in and for administration, and with a role. -/
theorem Routing.isGuarded_of_books :
    let o : Options := { auth := true, authViews := true, admin := true, roles := ["admin"] }
    ∃ notes all t files,
      Intake.read o.identityNames (.list [Intake.declaration "Books" []]) = (notes, .ok all)
        ∧ RouteTable.ofCollections all o = .ok t ∧ stage.generate all o = .ok files
        ∧ t.IsGuarded all o files ∧ all.map Collection.camelName = ["books"]
        ∧ t.login? = some "/login" ∧ t.deniedPath = "/unauthorized" := by
  intro o
  let books : Collection := ⟨"Books", "books", "Books", [], "object"⟩
  have hread : Intake.read o.identityNames (.list [Intake.declaration "Books" []]) = (_, .ok [books]) :=
    Intake.read_eq_of_toOption (by decide +kernel)
  obtain ⟨t, files, ht, hfiles, hguarded⟩ := isGuarded_of_read hread o
  refine ⟨_, _, t, files, hread, ht, hfiles, hguarded, rfl, ?_⟩
  rw [RouteTable.eq_of_ofCollections ht]
  exact ⟨rfl, rfl⟩

end Scaffold
