import LivePages.Markup.Attributes

/-!
The document tree that pages are written from: a kind with its payload, extra attributes and
children. Any node may have any children.
-/

namespace LivePages.Markdown

inductive Kind
  | document
  | paragraph
  | heading (level : Nat)
  | blockQuote
  | list (ordered : Bool) (start : Nat) (tight : Bool)
  | item
  | codeBlock (info literal : String)
  | thematicBreak
  | rawHtml
  | text (s : String)
  | code (s : String)
  | softBreak
  | lineBreak
  | emph
  | strong
  | link (url title : String)
  | image (url title : String)
  deriving DecidableEq, Repr, Inhabited

/-- A kind's name, without its payload. -/
def Kind.name : Kind → String
  | .document => "Document"
  | .paragraph => "Paragraph"
  | .heading _ => "Heading"
  | .blockQuote => "BlockQuote"
  | .list _ _ _ => "List"
  | .item => "Item"
  | .codeBlock _ _ => "CodeBlock"
  | .thematicBreak => "ThematicBreak"
  | .rawHtml => "RawHtml"
  | .text _ => "Text"
  | .code _ => "Code"
  | .softBreak => "SoftBreak"
  | .lineBreak => "LineBreak"
  | .emph => "Emph"
  | .strong => "Strong"
  | .link _ _ => "Link"
  | .image _ _ => "Image"

inductive Node
  | mk (kind : Kind) (attrs : Markup.Attributes) (children : List Node)
  deriving Inhabited

namespace Node

def kind : Node → Kind
  | .mk k _ _ => k

def attrs : Node → Markup.Attributes
  | .mk _ a _ => a

def children : Node → List Node
  | .mk _ _ cs => cs

def setAttr (k v : String) : Node → Node
  | .mk kind a cs => .mk kind (a.set k v) cs

def attr? (k : String) (n : Node) : Option String :=
  n.attrs.get? k

mutual

/-- The text of all descendants; a break counts as a space. -/
def textContent : Node → String
  | .mk kind _ cs =>
    match kind with
    | .text s => s
    | .code s => s
    | .softBreak => " "
    | .lineBreak => " "
    | _ => textContents cs

def textContents : List Node → String
  | [] => ""
  | n :: r => textContent n ++ textContents r

end

/-- The node that a path of child positions leads to. -/
def at? : Node → List Nat → Option Node
  | n, [] => some n
  | .mk _ _ cs, i :: is =>
    match cs[i]? with
    | some c => c.at? is
    | none => none

/-- Replaces the node that a path leads to. -/
def modifyAt (f : Node → Node) : List Nat → Node → Node
  | [], n => f n
  | i :: is, .mk k a cs => .mk k a (cs.modify i (modifyAt f is))

end LivePages.Markdown.Node
