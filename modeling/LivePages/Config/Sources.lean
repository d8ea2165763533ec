import LivePages.FileTree.Path

/-!
Which templates there are and where their texts stand: below one root, in a folder each for the
layout, the pages and the components.
-/

namespace LivePages.Config

/-- A component is compiled on its own, together with the components it requires. -/
structure Component where
  name : String
  requires : List String
  deriving DecidableEq, Repr

structure Sources where
  root : String
  layout : String
  pages : List String
  components : List Component
  deriving DecidableEq, Repr

def layoutFolder : String := "layout"

def pagesFolder : String := "pages"

def componentsFolder : String := "components"

/-- The ending of a template's file. -/
def ending : String := "html"

/-- The name under which the layout is published. -/
def baseName : String := "base"

/-- A template's name inside its engine is its path below the root. -/
def engineName (folder name : String) : String :=
  folder ++ "/" ++ name ++ "." ++ ending

namespace Sources

def default : Sources where
  root := "templates"
  layout := "base"
  pages :=
    ["clusterpackages", "packages", "package", "discussion", "support", "bootstrap", "kubeconfig",
      "settings", "repository"]
  components :=
    [⟨"pkg-detail-header", ["pkg-detail-btns"]⟩,
     ⟨"pkg-config-input", ["datalist"]⟩,
     ⟨"pkg-uninstall-modal", []⟩,
     ⟨"toast", []⟩,
     ⟨"datalist", []⟩,
     ⟨"discussion-badge", []⟩,
     ⟨"yaml-modal", []⟩]

def folder (s : Sources) (name : String) : String :=
  Path.join s.root name

/-- The path of a template's text. -/
def path (s : Sources) (engineName : String) : String :=
  Path.join s.root engineName

def layoutName (s : Sources) : String :=
  engineName layoutFolder s.layout

/-- The folders whose changes matter. -/
def watched (s : Sources) : List String :=
  [s.folder componentsFolder, s.folder layoutFolder, s.folder pagesFolder]

/-- The names of pages and components, in order. -/
def names (s : Sources) : List String :=
  s.pages ++ s.components.map (·.name)

end Sources

end LivePages.Config
