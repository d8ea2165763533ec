/-!
Where packages are published: one default address and mirrors by the name of their repository.
-/

namespace LivePages.Config

structure Mirrors where
  url : String
  mirrors : List (String × String)
  deriving DecidableEq, Repr

def Mirrors.default : Mirrors :=
  ⟨"https://packages.dl.glasskube.dev/packages", []⟩

/-- The address for a repository; the default one without a name or for an unknown name. -/
def Mirrors.urlFor (m : Mirrors) (repository : Option String) : String :=
  match repository.bind fun name => m.mirrors.find? (·.1 = name) with
  | some (_, url) => url
  | none => m.url

end LivePages.Config
