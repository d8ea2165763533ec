import LivePages.Markdown.Block
import LivePages.Markdown.Html
import LivePages.Markdown.Inline
import LivePages.Markdown.Walk
import LivePages.Text.Utf8

/-!
Markdown as page markup. A text that makes no document is shown as it stands, in one paragraph.
-/

namespace LivePages.Markdown

/-- Info string and literal text of a fenced block, whose first line holds the info string. -/
def fencedText (content : List Char) : String × String :=
  let info := content.takeWhile fun c => !isLineEnd c
  let literal := (lineEnd? (content.drop info.length)).getD []
  (String.ofList (unescape (trim (CharacterReference.decode info))), String.ofList literal)

/-- Indented code without the blank lines at its end. -/
def indentedText (content : List Char) : String :=
  let blankEnd := fun c => isBlankOrTab c || isLineEnd c
  let kept := (content.reverse.dropWhile blankEnd).reverse
  let tail := (content.drop kept.length).takeWhile fun c => !isLineEnd c
  String.ofList (kept ++ (if kept.isEmpty then [] else tail) ++ ['\n'])

mutual

/-- The tree of a block, and the room that its references leave. -/
def Block.toTree (x : Extensions) (refs : References) (room : Nat) : Block → Tree × Nat
  | .mk kind content _ cs =>
    let (below, roomBelow) := blocksToTrees x refs room cs
    let inline := fun (c : Construct) =>
      let (parts, room) := readInlines x refs room content
      (Tree.mk c parts, room)
    match kind with
    | .document => (.mk .document below, roomBelow)
    | .blockQuote => (.mk .blockQuote below, roomBelow)
    | .list m tight? =>
      (.mk (.list m.ordered m.start (tight?.getD (Block.isTight cs))) below, roomBelow)
    | .item _ => (.mk .item below, roomBelow)
    | .paragraph => inline .paragraph
    | .heading level _ => inline (.heading level)
    | .fenced _ _ _ =>
      let (info, literal) := fencedText content
      (Tree.leaf (.codeBlock info literal), room)
    | .indented => (Tree.leaf (.codeBlock "" (indentedText content)), room)
    | .markup _ => (Tree.leaf (.htmlBlock (String.ofList content)), room)
    | .thematicBreak => (Tree.leaf .thematicBreak, room)
    | .table => (Tree.leaf (.extension "table"), room)

def blocksToTrees (x : Extensions) (refs : References) (room : Nat) :
    List Block → List Tree × Nat
  | [] => ([], room)
  | b :: r =>
    let (t, room) := b.toTree x refs room
    let (ts, room) := blocksToTrees x refs room r
    (t :: ts, room)

end

/-- The tree of a text. Its references may add as many octets as it has itself. -/
def readTree (x : Extensions) (source : String) : Tree :=
  let (refs, document) := readBlocks x.table source.toList
  settle false (document.toTree x refs source.utf8ByteSize).1

/-- The document of a text, without page attributes. -/
def read (source : String) : Except Refusal Node :=
  Node.ofTree? (readTree .none source)

def tryRender (source : String) : Except Refusal String :=
  match read source with
  | .error e => .error e
  | .ok document => document.decorate.toHtml?

/-- The text as it stands, in a paragraph. -/
def fallback (source : String) : String :=
  "<p>" ++ source ++ "</p>"

def render (source : String) : String :=
  match tryRender source with
  | .ok html => html
  | .error _ => fallback source

def tryRenderOctets (source : List UInt8) : Except Refusal String :=
  match Text.Utf8.decode? source with
  | some s => tryRender (String.ofList s)
  | none => .error .notText

/-- Octets that are not rendered are shown as they stand, with U+FFFD for each ill-formed part. -/
def renderOctets (source : List UInt8) : String :=
  match tryRenderOctets source with
  | .ok html => html
  | .error _ => fallback (String.ofList (Text.Utf8.decodeLossy source))

end LivePages.Markdown
