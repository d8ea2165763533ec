import LivePages.Command.Plan
import LivePages.FileTree.World

/-!
What a command leaves behind: its exit code, what it printed, and the files. Only a rendering with
an output file changes files, and only that one.
-/

namespace LivePages.Command

/-- Lines of a cause; the lines after the first stand below it. -/
def causeLines (first after text : String) : List String :=
  match Text.splitOn '\n' text.toList with
  | [] => [first]
  | l :: r => (first ++ String.ofList l) :: r.map fun l => after ++ String.ofList l

/-- A number right-aligned, as a cause's mark. -/
def causeMark (i : Nat) : String :=
  let n := toString i
  String.ofList (List.replicate (5 - n.length) ' ') ++ n ++ ": "

def numberedCauses (causes : List String) : List String :=
  (causes.zipIdx.map fun (c, i) => causeLines (causeMark i) "       " c).flatten

/-- The lines of a report: the fault, then its causes, which are numbered if there are several. -/
def Report.lines (r : Report) : List String :=
  causeLines "Error: " "" r.message ++
    match r.causes with
    | [] => []
    | [c] => ["", "Caused by:"] ++ causeLines "    " "    " c
    | cs => ["", "Caused by:"] ++ numberedCauses cs

/-- A line on standard error. -/
inductive Line
  | notice (n : Notice)
  | text (s : String)
  deriving DecidableEq, Repr

structure Outcome where
  code : Nat
  output : String
  lines : List Line
  world : World

def failing (w : World) (notices : List Notice) (r : Report) : Outcome :=
  ⟨1, "", notices.map Line.notice ++ r.lines.map Line.text, w⟩

/-- What a command that ends at once leaves behind; watching goes on and has left nothing yet. -/
def perform (w : World) (notices : List Notice) : Ending → Outcome
  | .fails r => failing w notices r
  | .checked => ⟨0, "", notices.map .notice, w⟩
  | .prints html => ⟨0, html, notices.map .notice, w⟩
  | .watches _ _ _ => ⟨0, "", notices.map .notice, w⟩
  | .writes name path html =>
    match w.write path (Text.Utf8.encode html.toList) with
    | .error f => failing w notices ⟨"failed to write " ++ path, [f.message]⟩
    | .ok w' =>
      ⟨0, "", (notices ++ [Notice.said "render" (name ++ " -> " ++ path)]).map .notice, w'⟩

def versionText : String := "hotpage 0.3.2\n"

def helpText : String :=
  String.intercalate "\n"
    ["Hot-reloading page template registry", "",
     "Usage: hotpage [OPTIONS] <COMMAND>", "",
     "Commands:",
     "  check   Compile every template and report the result",
     "  render  Render one template with a JSON context",
     "  watch   Compile, then recompile on every template change until Ctrl-C",
     "  help    Print this message or the help of the given subcommand(s)", "",
     "Options:",
     "  -r, --root <ROOT>            Project root directory",
     "  -C, --config <CONFIG>        Config file name (default: hotpage.toml) [default: hotpage.toml]",
     "  -t, --templates <TEMPLATES>  Templates directory path (relative to project root)",
     "  -h, --help                   Print help",
     "  -V, --version                Print version", ""]

def halted (w : World) : Halt → Outcome
  | .help => ⟨0, helpText, [], w⟩
  | .version => ⟨0, versionText, [], w⟩
  | .misuse => ⟨2, "", [.text "error: the command line was not understood; try --help"], w⟩

/-- A whole run over a tree of files. -/
def run (w : World) (words : List String) : Outcome :=
  match parse words with
  | .error h => halted w h
  | .ok i =>
    let (notices, ending) := (plan i).run w.disk
    perform w notices ending

end LivePages.Command
