import LivePages.Markup.Token
import LivePages.Text.Utf8

/-!
Where markup is written to, octet by octet. A sink may refuse to take more, and then nothing further
is written; memory takes all.
-/

namespace LivePages.Markup

/-- What a sink says when it takes no more. -/
structure SinkFault where
  message : String
  deriving DecidableEq, Repr

/-- A sink goes on from what it holds with some octets. -/
abbrev Sink (σ : Type) := σ → List UInt8 → Except SinkFault σ

/-- Holds the octets written so far, the last one first. -/
def memory : Sink (List UInt8) := fun held octets => .ok (octets.reverseAux held)

def Token.octets (t : Token) : List UInt8 :=
  Text.Utf8.encode t.write.toList

/-- Writes tokens in order, up to the first that the sink refuses. -/
def writeTo {σ : Type} (sink : Sink σ) (held : σ) : List Token → Except SinkFault σ
  | [] => .ok held
  | t :: r =>
    match sink held t.octets with
    | .error f => .error f
    | .ok held => writeTo sink held r

end LivePages.Markup
