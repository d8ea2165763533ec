import LivePages.Edition.Fault
import LivePages.Template.Render

/-!
Editions: complete sets of compiled pages. An edition is numbered by the compile that made it, and
the empty one, before any compile, has number 0.
-/

namespace LivePages

/-- A page with the engine that renders it and the name of its template in that engine. -/
structure Page where
  name : String
  entry : String
  engine : Template.Engine

namespace Page

/-- The names of the templates in the page's engine, in order. -/
def templates (p : Page) : List String :=
  p.engine.names

def render (p : Page) (data : Json) : Except PageFault String :=
  match data with
  | .obj _ => (p.engine.render p.entry data).mapError (.failed p.name)
  | _ => .error (.badData .dataNotObject)

end Page

/-- The pages are in the order of their names, each name once. -/
structure Edition where
  number : Nat
  pages : List Page

namespace Edition

def empty : Edition := ⟨0, []⟩

/-- Adds or replaces the page of its name. -/
def putPage (p : Page) : List Page → List Page
  | [] => [p]
  | q :: r =>
    if p.name = q.name then p :: r
    else if p.name < q.name then p :: q :: r
    else q :: putPage p r

def put (e : Edition) (p : Page) : Edition :=
  ⟨e.number, putPage p e.pages⟩

def get? (e : Edition) (name : String) : Option Page :=
  e.pages.find? (·.name = name)

def names (e : Edition) : List String :=
  e.pages.map (·.name)

def size (e : Edition) : Nat :=
  e.pages.length

end Edition

end LivePages
