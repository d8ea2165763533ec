/-!
Cutting a text to a number of octets without cutting a character: from the limit the cut goes back,
octet by octet, to a boundary between characters.
-/

namespace LivePages.Text

/-- An offset in octets that stands between two characters of a text, or at one of its ends. -/
def IsBoundary (s : String) (i : Nat) : Prop :=
  (String.Pos.Raw.mk i).IsValid s

instance (s : String) (i : Nat) : Decidable (IsBoundary s i) :=
  inferInstanceAs (Decidable ((String.Pos.Raw.mk i).IsValid s))

/-- The offset where the way back from an offset first meets a boundary. -/
def boundaryBefore (s : String) : Nat → Nat
  | 0 => 0
  | i + 1 => if IsBoundary s (i + 1) then i + 1 else boundaryBefore s i

/-- What stands before an offset. An offset inside a character, or past the end, is refused. -/
def before? (s : String) (i : Nat) : Option String :=
  if h : IsBoundary s i then some (s.sliceTo ⟨⟨i⟩, h⟩).copy else none

def truncate? (limit : Nat) (s : String) : Option String :=
  if s.utf8ByteSize ≤ limit then some s else before? s (boundaryBefore s limit)

theorem isBoundary_zero (s : String) : IsBoundary s 0 :=
  String.Pos.Raw.isValid_zero

theorem isBoundary_boundaryBefore (s : String) (i : Nat) : IsBoundary s (boundaryBefore s i) := by
  induction i with
  | zero => exact isBoundary_zero s
  | succ i ih =>
    rw [boundaryBefore]
    split
    · assumption
    · exact ih

theorem isSome_truncate? (limit : Nat) (s : String) : (truncate? limit s).isSome := by
  rw [truncate?]
  split
  · rfl
  · rw [before?, dif_pos (isBoundary_boundaryBefore s limit)]
    rfl

/-- A text cut to a number of octets. The cut is never refused. -/
def truncate (limit : Nat) (s : String) : String :=
  (truncate? limit s).get (isSome_truncate? limit s)

theorem truncate?_eq_some (limit : Nat) (s : String) :
    truncate? limit s = some (truncate limit s) :=
  (Option.some_get _).symm

end LivePages.Text
