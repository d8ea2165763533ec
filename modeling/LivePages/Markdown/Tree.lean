import LivePages.Markdown.Node
import LivePages.Markup.Sink

/-!
The tree that reading a markdown text gives, and the document tree made of it. Constructs of
extensions that pages do not support, and trees nested too deep, are refused; the first such node
in document order decides.
-/

namespace LivePages.Markdown

/-- What a node of the tree is. A character that a backslash protects is kept apart from the text
around it, so that no mail address runs through it. -/
inductive Construct
  | document
  | paragraph
  | heading (level : Nat)
  | blockQuote
  | list (ordered : Bool) (start : Nat) (tight : Bool)
  | item
  | codeBlock (info literal : String)
  | thematicBreak
  | htmlBlock (literal : String)
  | htmlInline (literal : String)
  | text (s : String)
  | escaped (s : String)
  | code (s : String)
  | softBreak
  | lineBreak
  | emph
  | strong
  | link (url title : String)
  | image (url title : String)
  | extension (name : String)
  deriving DecidableEq, Repr

inductive Tree
  | mk (construct : Construct) (children : List Tree)

namespace Tree

def construct : Tree → Construct
  | .mk c _ => c

def children : Tree → List Tree
  | .mk _ cs => cs

def leaf (c : Construct) : Tree :=
  .mk c []

def text (s : List Char) : Tree :=
  leaf (.text (String.ofList s))

end Tree

/-- Why a text is not rendered: its octets are no text, its tree makes no document, or the document
cannot be written or what was written is no text. -/
inductive Refusal
  | notText
  | tooDeep (limit : Nat)
  | unsupported (name : String)
  | unwritten (cause : Markup.SinkFault)
  | garbled
  deriving DecidableEq, Repr

def Refusal.message : Refusal → String
  | .notText => "input is not valid UTF-8"
  | .tooDeep limit => "document nested deeper than " ++ toString limit ++ " levels"
  | .unsupported name => "unsupported markdown node `" ++ name ++ "`"
  | .unwritten _ => "failed to write html"
  | .garbled => "serialized html is not valid UTF-8"

/-- How many levels below the document a node may lie. -/
def maxDepth : Nat := 64

def Construct.kind? : Construct → Except Refusal Kind
  | .document => .ok .document
  | .paragraph => .ok .paragraph
  | .heading level => .ok (.heading level)
  | .blockQuote => .ok .blockQuote
  | .list ordered start tight => .ok (.list ordered start tight)
  | .item => .ok .item
  | .codeBlock info literal => .ok (.codeBlock info literal)
  | .thematicBreak => .ok .thematicBreak
  | .htmlBlock _ => .ok .rawHtml
  | .htmlInline _ => .ok .rawHtml
  | .text s => .ok (.text s)
  | .escaped s => .ok (.text s)
  | .code s => .ok (.code s)
  | .softBreak => .ok .softBreak
  | .lineBreak => .ok .lineBreak
  | .emph => .ok .emph
  | .strong => .ok .strong
  | .link url title => .ok (.link url title)
  | .image url title => .ok (.image url title)
  | .extension name => .error (.unsupported name)

mutual

def convertAt (depth : Nat) : Tree → Except Refusal Node
  | .mk c cs =>
    if maxDepth < depth then .error (.tooDeep maxDepth)
    else
      match c.kind? with
      | .error e => .error e
      | .ok kind =>
        match convertAll (depth + 1) cs with
        | .error e => .error e
        | .ok ns => .ok (.mk kind [] ns)

def convertAll (depth : Nat) : List Tree → Except Refusal (List Node)
  | [] => .ok []
  | t :: r =>
    match convertAt depth t with
    | .error e => .error e
    | .ok n =>
      match convertAll depth r with
      | .error e => .error e
      | .ok ns => .ok (n :: ns)

end

def Node.ofTree? (t : Tree) : Except Refusal Node :=
  convertAt 0 t

end LivePages.Markdown
