import Mathlib.Tactic.SplitIfs
import LivePages.Proofs.Text.Split
import LivePages.Proofs.Text.Trim

/-! Paths of addresses as clients resolve them. What is requested is the path without its dot segments:
`.` stands for nothing, and `..` takes back the segment before it. The removal reads the path from the
left and writes what is left of it to an output; segment by segment, it keeps a stack. -/

namespace LivePages.Text.Address

/-- A whole segment that names nothing. -/
def IsDots (s : List Char) : Prop :=
  s = ['.'] ∨ s = ['.', '.']

instance (s : List Char) : Decidable (IsDots s) :=
  inferInstanceAs (Decidable (_ ∨ _))

/-- Without the last segment and the slash in front of it, if there is one. -/
def withoutLast (output : List Char) : List Char :=
  (output.rdropWhile (· != '/')).dropLast

/-- A dot segment at the end leaves its slash. -/
def orSlash : List Char → List Char
  | [] => ['/']
  | rest => rest

theorem length_rest_lt (c : Char) (r : List Char) :
    (r.dropWhile (· != '/')).length < (c :: r).length :=
  Nat.lt_succ_of_le (List.dropWhile_suffix _).length_le

theorem length_orSlash_lt {c d : Char} {r t : List Char} (h : r.takeWhile (· != '/') = d :: t) :
    (orSlash (r.dropWhile (· != '/'))).length < (c :: r).length := by
  have hr : r ≠ [] := fun hr => by simp [hr] at h
  cases hrest : r.dropWhile (· != '/') with
  | nil => exact Nat.succ_lt_succ (List.length_pos_of_ne_nil hr)
  | cons e u => exact lt_of_eq_of_lt (by rw [hrest]; rfl) (length_rest_lt c r)

/-- Reads segments with their slashes: a dot segment goes, the second kind with the last segment of
the output, others are written to the output. -/
def removeDotsFrom (output : List Char) : List Char → List Char
  | [] => output
  | c :: r =>
    if c = '/' then
      if r.takeWhile (· != '/') = ['.'] then
        removeDotsFrom output (orSlash (r.dropWhile (· != '/')))
      else if r.takeWhile (· != '/') = ['.', '.'] then
        removeDotsFrom (withoutLast output) (orSlash (r.dropWhile (· != '/')))
      else removeDotsFrom (output ++ '/' :: r.takeWhile (· != '/')) (r.dropWhile (· != '/'))
    -- without a slash, at the very front, dot segments go with the slash behind them
    else if IsDots (c :: r.takeWhile (· != '/')) then
      removeDotsFrom output ((r.dropWhile (· != '/')).drop 1)
    else removeDotsFrom (output ++ c :: r.takeWhile (· != '/')) (r.dropWhile (· != '/'))
termination_by input => input.length
decreasing_by
  · exact length_orSlash_lt (by assumption)
  · exact length_orSlash_lt (by assumption)
  · exact length_rest_lt c r
  · exact Nat.lt_of_le_of_lt (List.drop_suffix 1 _).length_le (length_rest_lt c r)
  · exact length_rest_lt c r

def removeDots (path : List Char) : List Char :=
  removeDotsFrom [] path

/-! ### Paths of whole segments -/

/-- Segments, each with a slash in front of it. -/
def absolute (segments : List (List Char)) : List Char :=
  segments.flatMap ('/' :: ·)

/-- A segment read with a stack of those before it. -/
def climb (stack : List (List Char)) (s : List Char) : List (List Char) :=
  if s = ['.'] then stack else if s = ['.', '.'] then stack.dropLast else stack ++ [s]

/-- Names, that is, no slash in any of them. -/
def AreSegments (segments : List (List Char)) : Prop :=
  ∀ s ∈ segments, '/' ∉ s

variable {s : List Char} {segments stack : List (List Char)}

theorem absolute_cons (s : List Char) (segments : List (List Char)) :
    absolute (s :: segments) = '/' :: (s ++ absolute segments) :=
  List.flatMap_cons

theorem absolute_append (a b : List (List Char)) : absolute (a ++ b) = absolute a ++ absolute b :=
  List.flatMap_append

theorem absolute_singleton (s : List Char) : absolute [s] = '/' :: s :=
  List.flatMap_singleton _ s

theorem head_absolute (segments : List (List Char)) :
    ∀ c ∈ (absolute segments).head?, (c != '/') = false := by
  cases segments with
  | nil => exact fun c hc => nomatch hc
  | cons t r => simp [absolute_cons]

theorem takeWhile_segment (hs : '/' ∉ s) (segments : List (List Char)) :
    (s ++ absolute segments).takeWhile (· != '/') = s :=
  takeWhile_append_rest (bne_of_not_mem hs) (head_absolute segments)

theorem dropWhile_segment (hs : '/' ∉ s) (segments : List (List Char)) :
    (s ++ absolute segments).dropWhile (· != '/') = absolute segments :=
  dropWhile_append_rest (bne_of_not_mem hs) (head_absolute segments)

theorem withoutLast_absolute (h : AreSegments stack) :
    withoutLast (absolute stack) = absolute stack.dropLast := by
  rcases List.eq_nil_or_concat stack with rfl | ⟨init, s, rfl⟩
  · rfl
  have hs : ∀ c ∈ s, (c != '/') = true := bne_of_not_mem (h s (by simp))
  have hslash : (absolute init ++ ['/']).rdropWhile (· != '/') = absolute init ++ ['/'] :=
    List.rdropWhile_concat_neg _ _ _ (by decide)
  rw [List.concat_eq_append, List.dropLast_concat, absolute_append, absolute_singleton, withoutLast,
    List.append_cons, rdropWhile_append_of_pos hs, hslash, List.dropLast_concat]

theorem orSlash_absolute {segments : List (List Char)} (h : segments ≠ []) :
    orSlash (absolute segments) = absolute segments := by
  cases segments with
  | nil => exact absurd rfl h
  | cons s r => rfl

/-- The first segment of a path is read, and the stack is what is left of the segments so far. -/
theorem removeDotsFrom_segment (hs : '/' ∉ s) (hstack : AreSegments stack) (h : segments ≠ []) :
    removeDotsFrom (absolute stack) (absolute (s :: segments)) =
      removeDotsFrom (absolute (climb stack s)) (absolute segments) := by
  rw [absolute_cons, removeDotsFrom, if_pos rfl, takeWhile_segment hs, dropWhile_segment hs,
    orSlash_absolute h, climb]
  split_ifs with hone htwo
  · rfl
  · rw [withoutLast_absolute hstack]
  · rw [absolute_append, absolute_singleton]

theorem AreSegments.climb (h : AreSegments stack) (hs : '/' ∉ s) : AreSegments (climb stack s) := by
  rw [Address.climb]
  split_ifs with hone htwo
  · exact h
  · exact fun t ht => h t ((List.dropLast_prefix stack).subset ht)
  · exact List.forall_mem_append.2 ⟨h, List.forall_mem_singleton.2 hs⟩

/-- What is left of a path that ends in a name. -/
theorem removeDotsFrom_absolute {last : List Char} (hsegments : AreSegments segments)
    (hstack : AreSegments stack) (hlast : '/' ∉ last) (hname : ¬ IsDots last) :
    removeDotsFrom (absolute stack) (absolute (segments ++ [last])) =
      absolute (segments.foldl Address.climb stack ++ [last]) := by
  induction segments generalizing stack with
  | nil =>
    obtain ⟨hone, htwo⟩ := not_or.1 hname
    have hread := takeWhile_segment hlast []
    have hrest := dropWhile_segment hlast []
    rw [List.nil_append, absolute_cons, removeDotsFrom, if_pos rfl, hread, hrest, if_neg hone,
      if_neg htwo, removeDotsFrom.eq_def, List.foldl_nil, absolute_append, absolute_singleton]
    rfl
  | cons s r ih =>
    obtain ⟨hs, hr⟩ := List.forall_mem_cons.1 hsegments
    rw [List.cons_append, removeDotsFrom_segment hs hstack (by simp), ih hr (hstack.climb hs),
      List.foldl_cons]

theorem removeDots_absolute {last : List Char} (hsegments : AreSegments segments) (hlast : '/' ∉ last)
    (hname : ¬ IsDots last) :
    removeDots (absolute (segments ++ [last])) = absolute (segments.foldl climb [] ++ [last]) :=
  removeDotsFrom_absolute hsegments (List.forall_mem_nil _) hlast hname

example : removeDots "/a/b/c/./../../g".toList = "/a/g".toList := by decide +kernel

/-! ### Segments that stay -/

theorem climb_of_not_isDots (h : ¬ IsDots s) (stack : List (List Char)) :
    climb stack s = stack ++ [s] := by
  obtain ⟨hone, htwo⟩ := not_or.1 h
  rw [climb, if_neg hone, if_neg htwo]

theorem length_climb_le_of_isDots (h : IsDots s) (stack : List (List Char)) :
    (climb stack s).length ≤ stack.length := by
  rcases h with rfl | rfl
  · exact Nat.le_refl _
  · exact (List.dropLast_prefix stack).length_le

theorem foldl_climb_of_not_isDots (h : ∀ s ∈ segments, ¬ IsDots s) (stack : List (List Char)) :
    segments.foldl climb stack = stack ++ segments := by
  induction segments generalizing stack with
  | nil => exact (List.append_nil _).symm
  | cons s r ih =>
    obtain ⟨hs, hr⟩ := List.forall_mem_cons.1 h
    rw [List.foldl_cons, climb_of_not_isDots hs, ih hr, List.append_assoc, List.singleton_append]

theorem length_foldl_climb_le (segments stack : List (List Char)) :
    (segments.foldl climb stack).length ≤ stack.length + segments.length := by
  induction segments generalizing stack with
  | nil => exact Nat.le_refl _
  | cons s r ih =>
    refine (ih (climb stack s)).trans ?_
    rw [List.length_cons]
    by_cases hs : IsDots s
    · have := length_climb_le_of_isDots hs stack
      omega
    · rw [climb_of_not_isDots hs, List.length_append, List.length_singleton]
      omega

/-- A dot segment makes the stack shorter than it would be. -/
theorem not_isDots_of_length (h : (segments.foldl climb stack).length = stack.length + segments.length) :
    ∀ s ∈ segments, ¬ IsDots s := by
  induction segments generalizing stack with
  | nil => exact List.forall_mem_nil _
  | cons s r ih =>
    rw [List.foldl_cons, List.length_cons] at h
    have hs : ¬ IsDots s := by
      intro hs
      have hshort := length_climb_le_of_isDots hs stack
      have hrest := length_foldl_climb_le r (climb stack s)
      omega
    refine List.forall_mem_cons.2 ⟨hs, @ih (climb stack s) ?_⟩
    rw [h, climb_of_not_isDots hs, List.length_append, List.length_singleton]
    omega

theorem AreSegments.foldl_climb (hsegments : AreSegments segments) (hstack : AreSegments stack) :
    AreSegments (segments.foldl Address.climb stack) := by
  induction segments generalizing stack with
  | nil => exact hstack
  | cons s r ih =>
    obtain ⟨hs, hr⟩ := List.forall_mem_cons.1 hsegments
    exact ih hr (hstack.climb hs)

theorem count_absolute (h : AreSegments segments) : (absolute segments).count '/' = segments.length := by
  induction segments with
  | nil => rfl
  | cons s r ih =>
    obtain ⟨hs, hr⟩ := List.forall_mem_cons.1 h
    rw [absolute_cons, List.count_cons_self, List.count_append, List.count_eq_zero.2 hs, ih hr,
      Nat.zero_add, List.length_cons]

/-- A path that ends in a name is requested as it is just when it has no dot segments. -/
theorem removeDots_eq_self_iff {last : List Char} (hsegments : AreSegments segments)
    (hlast : '/' ∉ last) (hname : ¬ IsDots last) :
    removeDots (absolute (segments ++ [last])) = absolute (segments ++ [last]) ↔
      ∀ s ∈ segments, ¬ IsDots s := by
  rw [removeDots_absolute hsegments hlast hname, absolute_append, absolute_append,
    List.append_left_inj]
  constructor
  · intro h
    have hcount := congrArg (List.count '/') h
    rw [count_absolute hsegments,
      count_absolute (hsegments.foldl_climb (List.forall_mem_nil _))] at hcount
    exact not_isDots_of_length (by rw [hcount, List.length_nil, Nat.zero_add])
  · intro h
    rw [foldl_climb_of_not_isDots h, List.nil_append]

/-! ### Addresses with a path -/

/-- An address with a scheme, a host and a path of these segments, and neither a query nor a fragment. -/
structure IsLocated (url scheme host : List Char) (segments : List (List Char)) : Prop where
  url_eq : url = scheme ++ "://".toList ++ host ++ absolute segments
  scheme : scheme ≠ [] ∧ ∀ c ∈ scheme, c ∉ ":/?#".toList
  host : host ≠ [] ∧ ∀ c ∈ host, c ∉ "/?#".toList
  segments : ∀ s ∈ segments, ∀ c ∈ s, c ∉ "/?#".toList

theorem slash_not_mem (h : ∀ c ∈ s, c ∉ "/?#".toList) : '/' ∉ s :=
  fun hslash => h _ hslash (by decide)

/-- Slashes at the end of an address are empty segments. -/
theorem rdropWhile_append_absolute {a : List Char} (ha : a.getLast? ≠ some '/')
    (hsegments : AreSegments segments) :
    (a ++ absolute segments).rdropWhile (· == '/') =
      a ++ absolute (segments.rdropWhile List.isEmpty) := by
  induction segments using List.reverseRecOn with
  | nil =>
    rw [List.rdropWhile_nil, absolute, List.flatMap_nil, List.append_nil, List.rdropWhile_eq_self_iff]
    intro hne hlast
    exact ha (by rw [List.getLast?_eq_getLast_of_ne_nil hne, eq_of_beq hlast])
  | append_singleton r s ih =>
    obtain ⟨hr, hs⟩ := List.forall_mem_append.1 hsegments
    rw [absolute_append, absolute_singleton]
    rcases List.eq_nil_or_concat s with rfl | ⟨t, c, rfl⟩
    · rw [← List.append_assoc, List.rdropWhile_concat_pos _ _ _ (by decide), ih hr,
        List.rdropWhile_concat_pos _ _ _ rfl]
    · have hc : ¬ (c == '/') = true := fun hslash =>
        hs _ (List.mem_singleton_self _) (by simp [eq_of_beq hslash])
      rw [List.rdropWhile_concat_neg _ _ _ (by simp), List.concat_eq_append, ← List.cons_append,
        ← List.append_assoc, ← List.append_assoc, List.rdropWhile_concat_neg (· == '/') _ c hc,
        absolute_append, absolute_singleton]
      simp only [List.append_assoc, List.cons_append]

end LivePages.Text.Address
