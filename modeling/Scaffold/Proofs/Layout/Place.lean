import Scaffold.Assembly
import Scaffold.Proofs.Collection.Normal
import Scaffold.Proofs.Layout.Folded

/-!
# Places of generated files

Every generated file has one of a few kinds of places. Places that differ have components that differ,
and the components of each one lead through folders to a file.
-/

namespace Scaffold

open Layout Text

/-! ## Kinds of places -/

/-- The kind of a place, with the key of the collection it belongs to if there is one. The views that
no collection brings are told by the components of their files. -/
inductive Place where
  | database
  | support
  | activityLog
  | actions (key : String)
  | store
  | validator (key : String)
  | codecs
  | createView (key : String)
  | editView (key : String)
  | router
  | authGuard
  | roleGuard
  | view (parts : List String)
  deriving DecidableEq

namespace Place

/-- The components of the views that no collection brings, in small letters. -/
def viewParts : List (List String) := [
  ["landingpage.vue"], ["homeview.vue"], ["auth", "loginview.vue"], ["auth", "registerview.vue"],
  ["auth", "forgotpasswordview.vue"], ["auth", "resetpasswordview.vue"],
  ["auth", "verifyemailview.vue"], ["auth", "unauthorizedview.vue"], ["auth", "accountview.vue"],
  ["auth", "settingsview.vue"], ["admin", "dashboardview.vue"], ["admin", "usersview.vue"]]

/-- The components of a place in small letters, beside the folder of the store. -/
def parts (store : String) : Place → List String
  | database => ["src", "firebase.js"]
  | support => ["src", "stores", store, "collectionsupport.js"]
  | activityLog => ["src", "stores", store, "activitylogger.js"]
  | actions key => ["src", "stores", store, "actions", key ++ ".js"]
  | .store => ["src", "stores", store, "index.js"]
  | validator key => ["src", "validators", "validate" ++ key ++ ".js"]
  | codecs => ["src", "utils", "formcodecs.js"]
  | createView key => ["src", "views", key, "create.vue"]
  | editView key => ["src", "views", key, "edit.vue"]
  | router => ["src", "router", "index.js"]
  | authGuard => ["src", "router", "guards", "authguard.js"]
  | roleGuard => ["src", "router", "guards", "roleguard.js"]
  | view file => "src" :: "views" :: file

/-- A place that comes up: its key is a word that is not empty, and its view is one of the known
ones. -/
def IsKnown : Place → Prop
  | actions key | validator key | createView key | editView key =>
    Name.IsWord key.toList ∧ key.toList ≠ []
  | view file => file ∈ viewParts
  | _ => True

/-- No view of a collection is one of the other views. -/
theorem ne_of_mem_viewParts {file : List String} (h : file ∈ viewParts) (key : String) :
    file ≠ [key, "create.vue"] ∧ file ≠ [key, "edit.vue"] := by
  simp only [viewParts, List.mem_cons, List.not_mem_nil, or_false] at h
  rcases h with rfl | rfl | rfl | rfl | rfl | rfl | rfl | rfl | rfl | rfl | rfl | rfl <;>
    simp

/-- Known places with the same components are the same. -/
theorem eq_of_parts_eq {store : String} {p q : Place} (hp : p.IsKnown) (hq : q.IsKnown)
    (h : p.parts store = q.parts store) : p = q := by
  cases p <;> cases q <;> simp_all [parts]
  case createView.view key file => exact (ne_of_mem_viewParts hq key).1 h.symm
  case editView.view key file => exact (ne_of_mem_viewParts hq key).2 h.symm
  case view.createView file key => exact (ne_of_mem_viewParts hp key).1 rfl
  case view.editView file key => exact (ne_of_mem_viewParts hp key).2 rfl

/-! ## Components -/

/-- The files of the views that no collection brings. -/
theorem leadsToFile_of_mem_viewParts {file : List String} (h : file ∈ viewParts) :
    LeadsToFile file := by
  simp only [viewParts, List.mem_cons, List.not_mem_nil, or_false] at h
  rcases h with rfl | rfl | rfl | rfl | rfl | rfl | rfl | rfl | rfl | rfl | rfl | rfl
  iterate 2 exact .file (isFile_ofList (by decide))
  iterate 10 exact .folder (isFolder_ofList (by decide)) (.file (isFile_ofList (by decide)))

/-- The components of a known place lead to a file. -/
theorem leadsToFile_parts {store : String} (hs : IsFolder store) {p : Place} (hp : p.IsKnown) :
    LeadsToFile (p.parts store) := by
  have src : IsFolder "src" := isFolder_ofList (by decide)
  have stores : IsFolder "stores" := isFolder_ofList (by decide)
  have router : IsFolder "router" := isFolder_ofList (by decide)
  have views : IsFolder "views" := isFolder_ofList (by decide)
  have guards : IsFolder "guards" := isFolder_ofList (by decide)
  have js : IsFile ".js" := isFile_ofList (by decide)
  -- every place is a file below folders; only keys of collections and the name of the store are not fixed
  cases p with
  | database => exact .folder src (.file (isFile_ofList (by decide)))
  | support =>
    exact .folder src (.folder stores (.folder hs (.file (isFile_ofList (by decide)))))
  | activityLog =>
    exact .folder src (.folder stores (.folder hs (.file (isFile_ofList (by decide)))))
  | actions key =>
    have actions : IsFolder "actions" := isFolder_ofList (by decide)
    have file : IsFile (key ++ ".js") :=
      isFile_append (fun c hc => isPlain_of_isWordAscii (hp.1 c hc)) js
    exact .folder src (.folder stores (.folder hs (.folder actions (.file file))))
  | store =>
    exact .folder src (.folder stores (.folder hs (.file (isFile_ofList (by decide)))))
  | validator key =>
    have validators : IsFolder "validators" := isFolder_ofList (by decide)
    have name : ∀ c ∈ ("validate" ++ key).toList, isPlain c = true := by
      rw [String.toList_append, String.toList_ofList]
      intro c hc
      rcases List.mem_append.1 hc with hc | hc
      · exact List.all_eq_true.1 (by decide) c hc
      · exact isPlain_of_isWordAscii (hp.1 c hc)
    exact .folder src (.folder validators (.file (isFile_append name js)))
  | codecs =>
    have utils : IsFolder "utils" := isFolder_ofList (by decide)
    exact .folder src (.folder utils (.file (isFile_ofList (by decide))))
  | createView key =>
    have own : IsFolder key := isFolder_of_isWord hp.1 hp.2
    exact .folder src (.folder views (.folder own (.file (isFile_ofList (by decide)))))
  | editView key =>
    have own : IsFolder key := isFolder_of_isWord hp.1 hp.2
    exact .folder src (.folder views (.folder own (.file (isFile_ofList (by decide)))))
  | router => exact .folder src (.folder router (.file (isFile_ofList (by decide))))
  | authGuard =>
    exact .folder src (.folder router (.folder guards (.file (isFile_ofList (by decide)))))
  | roleGuard =>
    exact .folder src (.folder router (.folder guards (.file (isFile_ofList (by decide)))))
  | view file => exact .folder src (.folder views (leadsToFile_of_mem_viewParts hp))

end Place

end Scaffold
