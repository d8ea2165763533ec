import LivePages.Proofs.Text.Percent
import LivePages.Proofs.Text.Split

/-! Queries of addresses: fields between `&`, each a name and a value around its first `=`, up to a
fragment. Percent-encoded text holds none of these signs, so where it stands in for a value the fields
are as they were, and the value says the text. -/

namespace LivePages.Text.Query

def field (part : List Char) : List Char × List Char :=
  (part.takeWhile (· != '='), (part.dropWhile (· != '=')).drop 1)

/-- The names and values of a query, as they are written. -/
def fields (query : List Char) : List (List Char × List Char) :=
  (splitOn '&' (query.takeWhile (· != '#'))).map field

/-- What a name or a value says: `+` is a blank, and octets are decoded. -/
def meaning? (s : List Char) : Option (List Char) :=
  (Percent.decode? (s.map fun c => if c = '+' then ' ' else c)).bind Utf8.decode?

/-- A query with a gap in a value, between what is written to the left and to the right of it. -/
structure Gap where
  before : List (List Char)
  name : List Char
  left : List Char
  right : List Char
  after : List (List Char)
  fragment : List Char
  plain : ∀ p ∈ name :: left :: right :: (before ++ after), '&' ∉ p ∧ '#' ∉ p
  one_name : '=' ∉ name
  fragment_begins : ∀ c ∈ fragment.head?, c = '#'

namespace Gap

def value (g : Gap) (s : List Char) : List Char :=
  g.left ++ s ++ g.right

/-- The parts of the query with a text in the gap. -/
def parts (g : Gap) (s : List Char) : List (List Char) :=
  g.before ++ (g.name ++ '=' :: g.value s) :: g.after

def fill (g : Gap) (s : List Char) : List Char :=
  ['&'].intercalate (g.parts s) ++ g.fragment

variable {s : List Char}

theorem parts_plain (g : Gap) (hs : '&' ∉ s ∧ '#' ∉ s) :
    ∀ p ∈ g.parts s, '&' ∉ p ∧ '#' ∉ p := by
  obtain ⟨hname, hleft, hright, hother⟩ : _ ∧ _ ∧ _ ∧ _ := by
    simpa only [List.forall_mem_cons] using g.plain
  obtain ⟨hbefore, hafter⟩ := List.forall_mem_append.1 hother
  refine List.forall_mem_append.2 ⟨hbefore, List.forall_mem_cons.2 ⟨?_, hafter⟩⟩
  simp [value, hname, hleft, hright, hs]

theorem takeWhile_fill (g : Gap) (hs : '&' ∉ s ∧ '#' ∉ s) :
    (g.fill s).takeWhile (· != '#') = ['&'].intercalate (g.parts s) := by
  have hhash : '#' ∉ ['&'].intercalate (g.parts s) :=
    not_mem_intercalate (by decide) fun p hp => (g.parts_plain hs p hp).2
  exact takeWhile_append_rest (bne_of_not_mem hhash) fun c hc => by simp [g.fragment_begins c hc]

theorem field_part (g : Gap) (s : List Char) :
    field (g.name ++ '=' :: g.value s) = (g.name, g.value s) := by
  rw [field, takeWhile_append_rest (bne_of_not_mem g.one_name) (by simp),
    dropWhile_append_rest (bne_of_not_mem g.one_name) (by simp)]
  simp

/-- Text without the signs of a query changes no field but its own. -/
theorem fields_fill (g : Gap) (hs : '&' ∉ s ∧ '#' ∉ s) :
    fields (g.fill s) =
      g.before.map field ++ (g.name, g.value s) :: g.after.map field := by
  rw [fields, takeWhile_fill g hs,
    splitOn_intercalate (fun p hp => (g.parts_plain hs p hp).1) (by simp [parts]), parts,
    List.map_append, List.map_cons, field_part]

end Gap

/-! ### Values -/

theorem meaning?_append {s t a b : List Char} (hs : meaning? s = some a) (ht : meaning? t = some b) :
    meaning? (s ++ t) = some (a ++ b) := by
  obtain ⟨x, hx, ha⟩ := Option.bind_eq_some_iff.1 hs
  obtain ⟨y, hy, hb⟩ := Option.bind_eq_some_iff.1 ht
  rw [Utf8.decode?_eq_some_iff] at ha hb
  rw [meaning?, List.map_append, Percent.decode?_append hx, hy, Option.map_some, Option.bind_some,
    Utf8.decode?_eq_some_iff, ← ha, ← hb]
  exact List.flatMap_append

theorem meaning?_encode (s : List Char) : meaning? (Percent.encode s) = some s := by
  have hplus : (Percent.encode s).map (fun c => if c = '+' then ' ' else c) = Percent.encode s := by
    refine (List.map_congr_left fun c hc => if_neg ?_).trans (List.map_id _)
    rintro rfl
    exact Percent.not_mem_encode (by decide) s hc
  rw [meaning?, hplus, Percent.decode?_encode, Option.bind_some, Utf8.decode?_encode]

theorem Gap.meaning?_value (g : Gap) {s a b : List Char} (hleft : meaning? g.left = some a)
    (hright : meaning? g.right = some b) :
    meaning? (g.value (Percent.encode s)) = some (a ++ s ++ b) :=
  meaning?_append (meaning?_append hleft (meaning?_encode s)) hright

end LivePages.Text.Query
