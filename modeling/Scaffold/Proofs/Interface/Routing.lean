import Scaffold.Proofs.Interface.Routes

/-!
# Modules of routing

What the router, its guards and the views besides those of collections declare.
-/

namespace Scaffold

open Template
open Script (Declaration IsName)

/-! ## Plain routes -/

namespace RouteTable

variable {all : List Collection} {o : Options}

theorem userRemarks_flags (o : Options) :
    ∀ e ∈ userRemarks o, Name.IsWord e.1.toList ∧ e.2 = .bool true := by
  unfold userRemarks
  split
  · exact List.forall_mem_cons.2 ⟨⟨isWord_ofList rfl, rfl⟩, fun e he => absurd he List.not_mem_nil⟩
  · exact fun e he => absurd he List.not_mem_nil

theorem audienceRemarks_flags (o : Options) (a : Audience) :
    ∀ e ∈ audienceRemarks o a, Name.IsWord e.1.toList ∧ e.2 = .bool true := by
  cases a with
  | everyone => exact fun e he => absurd he List.not_mem_nil
  | visitors =>
    exact List.forall_mem_cons.2 ⟨⟨isWord_ofList rfl, rfl⟩, fun e he => absurd he List.not_mem_nil⟩
  | users => exact userRemarks_flags o

theorem adminRemarks_flags (o : Options) :
    ∀ e ∈ adminRemarks o, Name.IsWord e.1.toList ∧ e.2 = .bool true := by
  intro e he
  rcases List.mem_append.1 he with he | he
  · exact userRemarks_flags o e he
  · split at he
    · rw [List.mem_singleton.1 he]
      exact ⟨isWord_ofList rfl, rfl⟩
    · exact absurd he List.not_mem_nil

/-- The texts of a route to a view, none of which needs an escape or calls for another import. -/
structure IsPlainView (path name : String) (v : PlaceholderView) : Prop where
  path : '(' ∉ path.toList
  name : '(' ∉ name.toList
  file : ∀ c ∈ v.file.toList, Script.isSourceChar c = true
  title : Inline v.title
  description : Inline v.description

theorem isPlain_viewRoute {path name : String} {v : PlaceholderView} {remarks : List (String × Value)}
    (hv : IsPlainView path name v)
    (hr : ∀ e ∈ remarks, Name.IsWord e.1.toList ∧ e.2 = .bool true) :
    (viewRoute path name v remarks).1.IsPlain where
  path := .inl hv.path
  name := fun n hn => by
    cases hn
    exact hv.name
  view := fun w hw => by
    cases hw
    unfold PlaceholderView.importPath
    rw [String.toList_append, String.toList_ofList]
    have hfixed : ∀ c ∈ "@/views/".toList,
        Script.isSourceChar c = true := Text.forall_mem_of_all (by decide)
    refine ⟨List.cons_ne_nil _ _, fun c hc => ?_⟩
    rcases List.mem_append.1 hc with hc | hc
    · exact hfixed c hc
    · exact hv.file c hc
  redirect := fun p hp => by cases hp
  remarks := hr

theorem isPlainView_ofList {path name file title description : List Char}
    (hp : path.contains '(' = false) (hn : name.contains '(' = false)
    (hf : file.all Script.isSourceChar = true) (ht : title.contains '\n' = false)
    (hd : description.contains '\n' = false) :
    IsPlainView (String.ofList path) (String.ofList name)
      ⟨String.ofList file, String.ofList title, String.ofList description⟩ where
  path := by
    rw [String.toList_ofList, ← List.contains_iff_mem, hp]
    exact Bool.false_ne_true
  name := by
    rw [String.toList_ofList, ← List.contains_iff_mem, hn]
    exact Bool.false_ne_true
  file := by
    rw [String.toList_ofList]
    exact List.all_eq_true.1 hf
  title := inline_ofList ht
  description := inline_ofList hd

theorem isPlainView_authViews : ∀ v ∈ authViews, IsPlainView v.path v.name ⟨v.file, v.title, ""⟩ := by
  unfold authViews
  repeat' first
    | exact fun v hv => absurd hv List.not_mem_nil
    | refine List.forall_mem_cons.2 ⟨isPlainView_ofList rfl rfl rfl rfl rfl, ?_⟩

theorem isPlainView_adminViews :
    ∀ v ∈ adminViews, IsPlainView v.path v.name ⟨v.file, v.title, ""⟩ := by
  unfold adminViews
  repeat' first
    | exact fun v hv => absurd hv List.not_mem_nil
    | refine List.forall_mem_cons.2 ⟨isPlainView_ofList rfl rfl rfl rfl rfl, ?_⟩

/-- What holds of the start, of the views for signing in and of the views for administration holds of
all routes to views and of the views that they lead to. -/
theorem forall_mem_viewRoutes {P : Route × PlaceholderView → Prop} (hs : P (startRoute o))
    (hv : o.authRoutes = true → ∀ v ∈ authViews,
      P (viewRoute v.path v.name ⟨v.file, v.title, ""⟩ (audienceRemarks o v.audience)))
    (ha : ∀ v ∈ adminViews, P (viewRoute v.path v.name ⟨v.file, v.title, ""⟩ (adminRemarks o))) :
    ∀ e ∈ viewRoutes o, P e := by
  intro e he
  unfold viewRoutes at he
  dsimp only at he
  rcases List.mem_append.1 he with he | he
  · rcases List.mem_append.1 he with he | he
    · rw [List.mem_singleton.1 he]
      exact hs
    · split at he
      next h =>
        obtain ⟨v, hm, rfl⟩ := List.mem_map.1 he
        exact hv h v hm
      next => exact absurd he List.not_mem_nil
  · split at he
    · obtain ⟨v, hm, rfl⟩ := List.mem_map.1 he
      exact ha v hm
    · exact absurd he List.not_mem_nil

/-- What holds of the routes to views, of the routes of each collection and of the route for everything
else holds of all routes of a table. -/
theorem forall_mem_assemble {P : Route → Prop} (hv : ∀ e ∈ viewRoutes o, P e.1)
    (hc : ∀ c ∈ all, ∀ r ∈ collectionRoutes o c, P r) (hl : P catchAllRoute) :
    ∀ r ∈ (assemble all o).routes, P r := by
  intro r hr
  unfold assemble at hr
  dsimp only at hr
  rcases List.mem_append.1 hr with hr | hr
  · rcases List.mem_append.1 hr with hr | hr
    · obtain ⟨e, he, rfl⟩ := List.mem_map.1 hr
      exact hv e he
    · obtain ⟨c, hm, hr⟩ := List.mem_flatMap.1 hr
      exact hc c hm r hr
  · rw [List.mem_singleton.1 hr]
    exact hl

/-- The routes to views are plain, and so are the texts of the views. -/
theorem isPlain_viewRoutes (o : Options) :
    ∀ e ∈ viewRoutes o, e.1.IsPlain ∧ Inline e.2.title ∧ Inline e.2.description := by
  have hroute {path name : String} {v : PlaceholderView} {remarks : List (String × Value)}
      (hv : IsPlainView path name v)
      (hr : ∀ e ∈ remarks, Name.IsWord e.1.toList ∧ e.2 = .bool true) :
      (viewRoute path name v remarks).1.IsPlain ∧ Inline (viewRoute path name v remarks).2.title
        ∧ Inline (viewRoute path name v remarks).2.description :=
    ⟨isPlain_viewRoute hv hr, hv.title, hv.description⟩
  refine forall_mem_viewRoutes ?start (fun _ v hv => ?signingIn) fun v hv => ?administration
  case start =>
    unfold startRoute
    split
    · exact hroute (isPlainView_ofList rfl rfl rfl rfl rfl) fun e he => absurd he List.not_mem_nil
    · exact hroute (isPlainView_ofList rfl rfl rfl rfl rfl) (userRemarks_flags o)
  case signingIn => exact hroute (isPlainView_authViews v hv) (audienceRemarks_flags o v.audience)
  case administration => exact hroute (isPlainView_adminViews v hv) (adminRemarks_flags o)

/-- A word between fixed texts, none of which has a bracket. -/
theorem bracket_not_mem {before after : List Char} {s : String} (hb : '(' ∉ before)
    (hs : Name.IsWord s.toList) (ha : '(' ∉ after) :
    '(' ∉ (String.ofList before ++ s ++ String.ofList after).toList := by
  rw [String.toList_append, String.toList_append, String.toList_ofList, String.toList_ofList,
    List.mem_append, List.mem_append, not_or, not_or]
  exact ⟨⟨hb, hs.not_mem (by decide)⟩, ha⟩

/-- A word between fixed texts is the source of a view if they can be parts of one. -/
theorem isSource_of_word {before after : List Char} {s : String}
    (hb : before.all Script.isSourceChar = true) (hs : Name.IsWord s.toList)
    (ha : after.all Script.isSourceChar = true) :
    ∀ c ∈ (String.ofList before ++ s ++ String.ofList after).toList,
      Script.isSourceChar c = true := by
  intro c hc
  rw [String.toList_append, String.toList_append, String.toList_ofList, String.toList_ofList] at hc
  rcases List.mem_append.1 hc with hc | hc
  · rcases List.mem_append.1 hc with hc | hc
    · exact List.all_eq_true.1 hb c hc
    · rw [Script.isSourceChar, hs c hc]
      rfl
  · exact List.all_eq_true.1 ha c hc

theorem bracket_not_mem_name {s : String} {after : List Char} (hs : Name.IsWord s.toList)
    (ha : '(' ∉ after) : '(' ∉ (s ++ String.ofList after).toList := by
  rw [String.toList_append, String.toList_ofList, List.mem_append, not_or]
  exact ⟨hs.not_mem (by decide), ha⟩

/-- The source of a view of a collection. -/
theorem isSource_view {before after : List Char} {s : String}
    (hb : before.all Script.isSourceChar = true) (hne : before ≠ []) (hs : Name.IsWord s.toList)
    (ha : after.all Script.isSourceChar = true) :
    (String.ofList before ++ s ++ String.ofList after).toList ≠ []
      ∧ ∀ c ∈ (String.ofList before ++ s ++ String.ofList after).toList,
        Script.isSourceChar c = true := by
  refine ⟨?_, isSource_of_word hb hs ha⟩
  rw [String.toList_append, String.toList_append, String.toList_ofList]
  exact fun e => hne (List.append_eq_nil_iff.1 (List.append_eq_nil_iff.1 e).1).1

/-- The routes to the views of a normal collection are plain. -/
theorem isPlain_collectionRoutes {c : Collection} (h : c.IsNormal) (o : Options) :
    ∀ r ∈ collectionRoutes o c, r.IsPlain := by
  have hw := h.isWord_camelName
  unfold collectionRoutes
  refine List.forall_mem_cons.2 ⟨?_, List.forall_mem_cons.2 ⟨?_, fun r hr => absurd hr List.not_mem_nil⟩⟩
  · refine ⟨.inl (bracket_not_mem (by decide) hw (by decide)), fun n hn => ?_, fun v hv => ?_,
      fun p hp => (by cases hp), userRemarks_flags o⟩
    · cases hn
      exact bracket_not_mem_name h.isWord_pascalName (by decide)
    · cases hv
      exact isSource_view (by decide) (List.cons_ne_nil _ _) hw (by decide)
  · refine ⟨.inl (bracket_not_mem (by decide) hw (by decide)), fun n hn => ?_, fun v hv => ?_,
      fun p hp => (by cases hp), userRemarks_flags o⟩
    · cases hn
      exact bracket_not_mem_name h.isWord_pascalName (by decide)
    · cases hv
      exact isSource_view (by decide) (List.cons_ne_nil _ _) hw (by decide)

theorem isPlain_catchAllRoute : catchAllRoute.IsPlain where
  path := .inr rfl
  name := fun n hn => by cases hn
  view := fun v hv => by cases hv
  redirect := fun p hp => by
    cases hp
    rw [startPath, String.toList_ofList]
    decide
  remarks := fun e he => absurd he List.not_mem_nil

theorem isPlain_assemble (hall : ∀ c ∈ all, c.IsNormal) (o : Options) :
    ∀ r ∈ (assemble all o).routes, r.IsPlain :=
  forall_mem_assemble (fun e he => (isPlain_viewRoutes o e he).1)
    (fun c hc => isPlain_collectionRoutes (hall c hc) o) isPlain_catchAllRoute

end RouteTable

namespace Routing

/-! ## The router -/

theorem routeTexts_eq {routes : List Route} (h : ∀ r ∈ routes, r.IsPlain) :
    routeTexts routes = .ok (routes.map fun r => .text ("\n".intercalate r.lines)) := by
  induction routes with
  | nil => rfl
  | cons r rest ih =>
    rw [routeTexts, Route.render_eq (h r List.mem_cons_self)]
    dsimp only
    rw [ih fun s hs => h s (List.mem_cons_of_mem r hs)]
    rfl

/-- The values that the router depends on. -/
def routerValues (routes : List Route) (o : Options) : List (String × Value) := [
  ("routes", .list (routes.map fun r => .text ("\n".intercalate r.lines))),
  ("auth_guard", .bool o.auth),
  ("role_guard", .bool o.hasRoles)]

theorem routerFile_eq {t : RouteTable} (h : ∀ r ∈ t.routes, r.IsPlain) (o : Options) :
    routerFile t o
      = Artifact.ofTemplate Layout.routerModule RouterModule.template (routerValues t.routes o) := by
  unfold routerFile
  rw [routeTexts_eq h]
  rfl

/-- The shapes that the router counts on. -/
def routerContext (routes : List Route) (o : Options) : Context := [
  ("routes", .list routes.length .block),
  ("auth_guard", .flag o.auth),
  ("role_guard", .flag o.hasRoles)]

theorem fits_routerContext {routes : List Route} (h : ∀ r ∈ routes, r.IsPlain) (o : Options) :
    (routerContext routes o).Fits (Scope.ofValues (routerValues routes o)) := by
  refine Context.fits_cons (Shape.fits_list fun r hr => (h r hr).fits_block) ?_
    (Context.fits_cons rfl ?_ (Context.fits_cons rfl ?_ Context.fits_nil))
  all_goals
    repeat' constructor

/-- The declarations of the router. -/
def routerDeclarations (o : Options) : List Declaration :=
  [Declaration.imports ["createRouter", "createWebHistory"] "vue-router"]
    ++ ((if o.auth then [Declaration.imports ["default"] "./guards/authGuard.js"] else [])
    ++ ((if o.hasRoles then [Declaration.imports ["default"] "./guards/roleGuard.js"] else [])
    ++ [Declaration.exports "default"]))

theorem isMade_routerFile {t : RouteTable} (h : ∀ r ∈ t.routes, r.IsPlain) (o : Options) :
    Artifact.IsMade (routerFile t o) Layout.routerModule (routerDeclarations o) := by
  have hs := fits_routerContext h o
  have ha : Expr.Has (routerContext t.routes o) (.path ["auth_guard"]) (.flag o.auth) := by
    repeat' constructor
  have hr : Expr.Has (routerContext t.routes o) (.path ["role_guard"]) (.flag o.hasRoles) := by
    repeat' constructor
  rw [routerFile_eq h]
  apply Artifact.isMade_ofTemplate (b := true)
  unfold routerDeclarations
  -- the imports come first, with a condition on two of them, and then there is no declaration any more
  refine .cons (b := true) ?_ (.cons (b := true) (.when hs ha .flag ?_)
    (.cons (b := true) (.when hs hr .flag ?_) ?_))
  case refine_4 =>
    refine Quiet.before (b := true) ?_ hs (Quiet.before (b := true) ?_ hs
      (Quiet.before (b := true) ?_ hs (Quiet.before (b := true) ?_ hs
      (Quiet.before (b := true) ?_ hs (Quiet.before (b := true) ?_ hs ?_)))))
    case refine_7 =>
      apply declares_lines
      · repeat constructor
      · repeat first
          | exact .nil
          | refine .quiet (by decide) ?_
          | refine .declared rfl (by repeat constructor) (by decide) ?_
    all_goals
      repeat' constructor
  all_goals
    apply declares_lines
    · repeat constructor
    · repeat first
        | exact .nil
        | refine .quiet (by decide) ?_
        | refine .declared rfl (by repeat constructor) (by decide) ?_

/-! ### The views that the router asks for -/

/-- A text of whole lines that asks for these modules. -/
def LinesAsk (s : String) (sources : List String) : Prop :=
  (s.toList = [] ∨ s.toList.getLast? = some '\n') ∧ Script.callsFrom s.toList = sources

theorem LinesAsk.append {x y : String} {as bs : List String} (hx : LinesAsk x as)
    (hy : LinesAsk y bs) : LinesAsk (x ++ y) (as ++ bs) := by
  constructor
  · rw [String.toList_append]
    rcases hy.1 with hm | hm
    · rw [hm, List.append_nil]
      exact hx.1
    · rw [List.getLast?_append, hm]
      exact .inr rfl
  · rw [String.toList_append, Script.callsFrom_append hx.1, hx.2, hy.2]

theorem linesAsk_joinLines {s : String} {css : List (List Char)}
    (h : s.toList = Script.joinLines css) :
    LinesAsk s (css.flatMap fun cs => Script.callsFrom (cs ++ ['\n'])) := by
  unfold LinesAsk
  rw [h, Script.callsFrom_joinLines]
  refine ⟨?_, rfl⟩
  cases css with
  | nil => exact .inl rfl
  | cons cs rest => exact .inr (Script.getLast?_joinLines cs rest)

/-- A template has a text in a scope, and its lines ask for these modules. -/
def Asks (scope : Scope) (t : Template) (sources : List String) : Prop :=
  ∃ s, t.render scope = .ok s ∧ LinesAsk s sources

theorem Asks.cons {scope : Scope} {t : Template} {ts : List Template} {l m : List String}
    (h : Asks scope t l) (hr : Asks scope (sequence ts) m) :
    Asks scope (sequence (t :: ts)) (l ++ m) := by
  obtain ⟨x, hx, ha⟩ := h
  obtain ⟨y, hy, hb⟩ := hr
  exact ⟨x ++ y, by rw [render_sequence_cons, hx, hy, appendText_ok], ha.append hb⟩

theorem asks_nil (scope : Scope) : Asks scope (sequence []) [] :=
  ⟨"", rfl, .inl rfl, rfl⟩

theorem asks_lines {scope : Scope} {ls : List String} {css : List (List Char)}
    (h : Text.Spells ls css) (hc : ∀ cs ∈ css, Script.callsFrom (cs ++ ['\n']) = []) :
    Asks scope (lines ls) [] := by
  obtain ⟨s, hr, hl⟩ := render_lines scope ls
  refine ⟨s, hr, ?_⟩
  rw [← List.flatMap_eq_nil_iff.2 hc]
  exact linesAsk_joinLines (hl.trans h.flatMap_eq)

/-- Parts that ask for nothing, whether they are there or not. -/
theorem asks_when {scope : Scope} {Γ : Context} {test : Expr} {shape : Shape} {parts : List Template}
    (hs : Γ.Fits scope) (ht : Expr.Has Γ test shape) (h : Asks scope (sequence parts) []) :
    Asks scope (when test parts) [] := by
  obtain ⟨v, hg, -⟩ := ht.sound hs
  exact exists_render_when hg (fun _ => h) fun _ => asks_nil scope

/-- The text of a route is its lines, the last of which the row of the router ends. -/
theorem toList_intercalate_lines {ls : List String} (hne : ls ≠ []) :
    ("\n".intercalate ls ++ "\n").toList = Script.joinLines (ls.map String.toList) := by
  rw [String.toList_append, String.toList_ofList]
  induction ls with
  | nil => exact absurd rfl hne
  | cons l rest ih =>
    cases rest with
    | nil =>
      rw [String.intercalate_singleton]
      exact (List.append_nil _).symm
    | cons m rest =>
      rw [String.intercalate_cons_cons, String.toList_append, String.toList_append,
        String.toList_ofList, List.append_assoc, ih (List.cons_ne_nil m rest)]
      rfl

theorem asks_route {scope : Scope} {r : Route} (h : r.IsPlain) (i : Nat) :
    Asks (itemScope scope "route" i (.text ("\n".intercalate r.lines)))
      (sequence [row [value ["route"]]]) r.view.toList := by
  have hne : r.lines ≠ [] := fun hn => by
    unfold Route.lines at hn
    cases hn
  generalize hs : itemScope scope "route" i (.text ("\n".intercalate r.lines)) = inner
  have hg : (Expr.path ["route"]).Gives inner (.text ("\n".intercalate r.lines)) := by
    subst hs
    rfl
  have hv : (sequence [value ["route"]]).render inner = .ok ("\n".intercalate r.lines) := hg.render_hole
  refine ⟨"\n".intercalate r.lines ++ "\n", ?_, ?_⟩
  · show (sequence ([value ["route"]] ++ [text "\n"])).render inner = _
    rw [render_sequence_append, hv]
    rfl
  · have hl := linesAsk_joinLines (toList_intercalate_lines hne)
    rw [List.flatMap_map] at hl
    rw [← Route.linesCalls_lines h]
    exact hl

/-- The router asks for the views of its routes, in their order. -/
theorem calls_routerFile {t : RouteTable} (h : ∀ r ∈ t.routes, r.IsPlain) {o : Options}
    {f : Artifact} (hf : routerFile t o = .ok f) :
    Script.calls f.content = t.routes.flatMap fun r => r.view.toList := by
  have hs := fits_routerContext h o
  have ha : Expr.Has (routerContext t.routes o) (.path ["auth_guard"]) (.flag o.auth) := by
    repeat' constructor
  have hr : Expr.Has (routerContext t.routes o) (.path ["role_guard"]) (.flag o.hasRoles) := by
    repeat' constructor
  have he : Expr.Has (routerContext t.routes o) (.either (.path ["auth_guard"]) (.path ["role_guard"]))
      .any := by
    repeat' constructor
  have hg : (Expr.path ["routes"]).Gives (Scope.ofValues (routerValues t.routes o))
      (.list (t.routes.map fun r => .text ("\n".intercalate r.lines))) := rfl
  have routes : Asks _ (forEach "route" (.path ["routes"]) [row [value ["route"]]])
      (t.routes.flatMap fun r => r.view.toList) :=
    render_forEach (P := LinesAsk) ⟨.inl rfl, rfl⟩ LinesAsk.append hg
      fun r hm i => asks_route (h r hm) i
  have hask : Asks (Scope.ofValues (routerValues t.routes o)) RouterModule.template
      (t.routes.flatMap fun r => r.view.toList) := by
    rw [← List.append_nil (t.routes.flatMap _)]
    -- only the routes ask for views; every other part is fixed lines, some of them with a condition
    refine .cons (l := []) ?_ (.cons (l := []) (asks_when hs ha ?_) (.cons (l := [])
      (asks_when hs hr ?_) (.cons (l := []) ?_ (routes.cons (.cons (l := []) ?_
        (.cons (l := []) (asks_when hs he ?_) (.cons (l := []) (asks_when hs ha ?_)
          (.cons (l := []) (asks_when hs hr ?_) ?_))))))))
    all_goals
      apply asks_lines
      · repeat constructor
      · decide
  obtain ⟨s, hr, -, hc⟩ := hask
  rw [routerFile_eq h, Artifact.ofTemplate, hr] at hf
  cases hf
  exact hc

/-! ## The guards -/

/-- The declarations of a guard. -/
def guardDeclarations (o : Options) : List Declaration :=
  [Declaration.imports [(StoreNames.ofOptions o).hook] (StoreNames.ofOptions o).importPath]
    ++ ([Declaration.exports "default"] ++ [])

/-- The shapes that the guard for users counts on. -/
def authContext (o : Options) : Context := [
  ("store", .record (Shape.exactParts (StoreNames.ofOptions o).entries)), ("login_path", .literal)]

theorem fits_authContext (t : RouteTable) (o : Options) :
    (authContext o).Fits (Scope.ofValues [
      ("store", (StoreNames.ofOptions o).toValue),
      ("login_path", (t.login?.map Value.text).getD .null)]) := by
  have hlogin : Shape.literal.Fits ((t.login?.map Value.text).getD .null) := by
    rw [Shape.Fits]
    cases t.login? with
    | none => exact ⟨_, rfl, inline_ofList rfl⟩
    | some path => exact ⟨_, rfl, Script.inline_quote path⟩
  refine Context.fits_cons (StoreNames.fits_toValue o) ?_ (Context.fits_cons hlogin ?_ Context.fits_nil)
  all_goals
    repeat' constructor

theorem isMade_authGuardFile (t : RouteTable) (o : Options) :
    Artifact.IsMade (authGuardFile t o) (Layout.guardsRoot ++ "/authGuard.js")
      (guardDeclarations o) := by
  have hs := fits_authContext t o
  have himport := StoreNames.declares_import o hs (by repeat' constructor) (by repeat' constructor)
  apply Artifact.isMade_ofTemplate (b := true)
  refine himport.cons (.cons (b := true) ?_ (Quiet.declares ?_ hs))
  · apply declares_lines
    · repeat constructor
    · repeat first
        | exact .nil
        | refine .quiet (by decide) ?_
        | refine .declared rfl (by repeat constructor) (by decide) ?_
  · repeat' constructor

/-- The shapes that the guard for roles counts on. -/
def roleContext (o : Options) : Context := [
  ("store", .record (Shape.exactParts (StoreNames.ofOptions o).entries)), ("denied_path", .literal)]

theorem fits_roleContext (t : RouteTable) (o : Options) :
    (roleContext o).Fits (Scope.ofValues [
      ("store", (StoreNames.ofOptions o).toValue),
      ("denied_path", .text t.deniedPath)]) := by
  have hdenied : Shape.literal.Fits (.text t.deniedPath) := by
    rw [Shape.Fits]
    exact ⟨_, rfl, Script.inline_quote t.deniedPath⟩
  refine Context.fits_cons (StoreNames.fits_toValue o) ?_ (Context.fits_cons hdenied ?_ Context.fits_nil)
  all_goals
    repeat' constructor

theorem isMade_roleGuardFile (t : RouteTable) (o : Options) :
    Artifact.IsMade (roleGuardFile t o) (Layout.guardsRoot ++ "/roleGuard.js")
      (guardDeclarations o) := by
  have hs := fits_roleContext t o
  have himport := StoreNames.declares_import o hs (by repeat' constructor) (by repeat' constructor)
  apply Artifact.isMade_ofTemplate (b := true)
  refine himport.cons (.cons (b := true) ?_ (Quiet.declares ?_ hs))
  · apply declares_lines
    · repeat constructor
    · repeat first
        | exact .nil
        | refine .quiet (by decide) ?_
        | refine .declared rfl (by repeat constructor) (by decide) ?_
  · repeat' constructor

/-! ## Placeholder views -/

theorem makesComponent_placeholder : PlaceholderModule.template.MakesComponent := by
  refine .sequence (makesComponent_lines (by repeat constructor) ?_) _
  decide

theorem isMade_placeholderFile {v : PlaceholderView} (ht : Inline v.title)
    (hd : Inline v.description) : Artifact.IsMade (placeholderFile v) v.path [] := by
  have hs : Context.Fits [("title", .line), ("description", .line)]
      (Scope.ofValues [("title", .text v.title), ("description", .text v.description)]) :=
    Context.fits_cons (Shape.fits_line ht) (.cons (by decide) .nil)
      (Context.fits_cons (Shape.fits_line hd) .nil Context.fits_nil)
  have hq : Quiet [("title", .line), ("description", .line)] PlaceholderModule.template true true := by
    repeat' constructor
  exact Artifact.isMade_ofTemplate (hq.declares hs)

end Routing

end Scaffold
