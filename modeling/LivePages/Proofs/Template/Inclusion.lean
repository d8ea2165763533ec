import Mathlib.Data.List.TakeWhile
import LivePages.Template.Source

/-! Reading the text that includes one template and nothing else. -/

namespace LivePages.Template

/-- A text that includes the template of a name. -/
def inclusionText (entry : String) : String :=
  "\x7b% include \"" ++ entry ++ "\" %\x7d"

def inclusionNode (entry : String) : Node :=
  .embed ⟨false, false⟩ [entry] false

/-- A template that is nothing but another one. -/
def Source.embedding (name entry : String) : Source :=
  .ofNodes name [inclusionNode entry]

theorem quoted?_of_not_mem {q : Char} (hq : isQuoteMark q = true) {s : List Char} (hs : q ∉ s)
    (rest : List Char) : quoted? (q :: (s ++ q :: rest)) = some (String.ofList s, rest) := by
  have hall : ∀ c ∈ s, (c != q) = true := by
    intro c hc
    rw [bne_iff_ne]
    rintro rfl
    exact hs hc
  rw [quoted?, if_pos hq, List.dropWhile_append_of_pos hall, List.takeWhile_append_of_pos hall,
    List.dropWhile_cons_of_neg (by simp), List.takeWhile_cons_of_neg (by simp), List.append_nil]

theorem embed?_inclusion {entry : List Char} (h : '"' ∉ entry) :
    embed? ("\x7b% include \"".toList ++ (entry ++ "\" %\x7d".toList)) =
      some (inclusionNode (String.ofList entry), []) := by
  have hopen : tagOpening? "include" ("\x7b% include \"".toList ++ (entry ++ "\" %\x7d".toList)) =
    some (false, ' ' :: '"' :: (entry ++ "\" %\x7d".toList)) := rfl
  have hspace : space? (' ' :: '"' :: (entry ++ "\" %\x7d".toList)) =
    some ('"' :: (entry ++ '"' :: " %\x7d".toList)) := rfl
  have hname : embedding? ('"' :: (entry ++ '"' :: " %\x7d".toList)) =
      some (([String.ofList entry], false), " %\x7d".toList) := by
    unfold embedding?
    rw [quoted?_of_not_mem rfl h]
    rfl
  have hclose : tagClosing? " %\x7d".toList = some (false, []) := rfl
  simp only [embed?, tagOf?, hopen, hspace, hname, hclose, Option.bind_eq_bind, Option.bind_some]
  rfl

theorem toList_inclusionText (entry : String) : (inclusionText entry).toList =
    "\x7b% include \"".toList ++ (entry.toList ++ "\" %\x7d".toList) := by
  rw [inclusionText, String.toList_append, String.toList_append, List.append_assoc]

/-- Neither comments nor a head, and then the one tag. -/
theorem readNodes?_inclusionText {entry : String} (h : '"' ∉ entry.toList) :
    readNodes? (inclusionText entry).toList = some [inclusionNode entry] := by
  have hembed := embed?_inclusion h
  rw [String.ofList_toList] at hembed
  rw [toList_inclusionText]
  generalize entry.toList ++ "\" %\x7d".toList = rest at hembed ⊢
  have hcomments (n : Nat) : dropComments n ("\x7b% include \"".toList ++ rest) =
      "\x7b% include \"".toList ++ rest := by
    cases n <;> rfl
  have himports (n : Nat) : importsFrom n ("\x7b% include \"".toList ++ rest) =
      ([], "\x7b% include \"".toList ++ rest) := by
    cases n <;> rfl
  have hparent : parent? ("\x7b% include \"".toList ++ rest) = none := rfl
  have hdefine (n : Nat) : define? n ("\x7b% include \"".toList ++ rest) = none := rfl
  have hnode (n : Nat) : node? (n + 1) .plain ("\x7b% include \"".toList ++ rest) =
      some (inclusionNode entry, []) := by
    unfold node? leaf?
    rw [hembed]
    rfl
  have htop (n m : Nat) : topNodes? (n + 1) (m + 1) ("\x7b% include \"".toList ++ rest) =
      some [inclusionNode entry] := by
    generalize hs : "\x7b% include \"".toList ++ rest = s at hdefine hnode ⊢
    cases s with
    | nil => cases hs
    | cons c s =>
      unfold topNodes?
      rw [hdefine, hnode]
      cases m <;> rfl
  have hlength : ("\x7b% include \"".toList ++ rest).length = rest.length + 11 + 1 := by
    rw [List.length_append]
    exact Nat.add_comm 12 rest.length
  have hdepth (n : Nat) : 4 * (n + 1) = 4 * n + 3 + 1 := rfl
  unfold readNodes?
  simp only [hcomments, hparent, himports, hlength, hdepth, htop]
  rfl

/-- The text says what it looks like, if the name does not close its quotes. -/
theorem read_inclusionText (name : String) {entry : String} (h : '"' ∉ entry.toList) :
    Source.read name (inclusionText entry) = .ok (.embedding name entry) := by
  unfold Source.read
  rw [readNodes?_inclusionText h]
  rfl

end LivePages.Template
