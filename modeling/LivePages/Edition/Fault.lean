import LivePages.FileTree.Ask
import LivePages.Template.Fault

/-!
What can go wrong when an edition is compiled and when one of its pages is rendered.
-/

namespace LivePages

inductive PageFault
  | unreadable (path : String) (cause : DiskFault)
  | noComponent (path : String)
  | unparsable (name : String) (cause : Template.Fault)
  | failed (name : String) (cause : Template.Fault)
  | badData (cause : Template.Fault)
  | unknown (name : String)
  deriving Repr

namespace PageFault

def unreadableText (path : String) : String :=
  "failed to read template source `" ++ path ++ "`"

def message : PageFault → String
  | unreadable path _ => unreadableText path
  | noComponent path => unreadableText path
  | unparsable name _ => "failed to parse template `" ++ name ++ "`"
  | failed name _ => "failed to render template `" ++ name ++ "`"
  | badData _ => "render data must serialize to an object"
  | unknown name => "unknown template `" ++ name ++ "`"

/-- The messages of the causes, outermost first. -/
def chain : PageFault → List String
  | unreadable _ cause => [cause.message]
  | noComponent _ => ["component not found"]
  | unparsable _ cause => cause.message :: cause.chain
  | failed _ cause => cause.message :: cause.chain
  | badData cause => cause.message :: cause.chain
  | unknown _ => []

end PageFault

end LivePages
