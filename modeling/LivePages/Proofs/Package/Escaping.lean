import LivePages.Package.Helpers
import LivePages.Proofs.Text.Query

/-! Values escaped for a query. Any value has a text, and what the filter writes stands for that text
alone: it is decoded to it, two texts are never written alike, and a text is written character by
character. In a query it is one value, whatever stands around it. -/

namespace LivePages.Helpers

open Text (Query.Gap)
open Text.Percent (IsEscaped decode? encode escape)
open Text.Query (field fields meaning?)

/-- The text of a value: a text itself, nothing for null, and compact notation for all else. -/
inductive IsPlainText : Json → String → Prop
  | text (s : String) : IsPlainText (.str s) s
  | null : IsPlainText .null ""
  | other {v : Json} (htext : ∀ s, v ≠ .str s) (hnull : v ≠ .null) : IsPlainText v v.compact

variable {v w : Json} {s t : String}

theorem isPlainText_plainText (v : Json) : IsPlainText v v.plainText := by
  cases v with
  | null => exact .null
  | str s => exact .text s
  | bool b => exact .other nofun nofun
  | int i => exact .other nofun nofun
  | float x => exact .other nofun nofun
  | arr items => exact .other nofun nofun
  | obj fields => exact .other nofun nofun

theorem IsPlainText.eq (h : IsPlainText v s) : v.plainText = s := by
  cases h with
  | text => rfl
  | null => rfl
  | other htext hnull =>
    cases v with
    | null => exact absurd rfl hnull
    | str s => exact absurd rfl (htext s)
    | bool b => rfl
    | int i => rfl
    | float x => rfl
    | arr items => rfl
    | obj fields => rfl

theorem urlEscape_of_isPlainText (h : IsPlainText v s) : urlEscape v = .str (escape s) := by
  rw [urlEscape, h.eq]

theorem urlEscape_inj (hv : IsPlainText v s) (hw : IsPlainText w t) :
    urlEscape v = urlEscape w ↔ s = t := by
  rw [urlEscape_of_isPlainText hv, urlEscape_of_isPlainText hw, Json.str.injEq, ← String.toList_inj,
    Text.Percent.toList_escape, Text.Percent.toList_escape,
    Text.Percent.encode_injective.eq_iff, String.toList_inj]

theorem escape_append (s t : String) : escape (s ++ t) = escape s ++ escape t := by
  rw [← String.toList_inj, String.toList_append, Text.Percent.toList_escape,
    Text.Percent.toList_escape, Text.Percent.toList_escape, String.toList_append,
    Text.Percent.encode_append]

/-- An escape is plain text that decodes to the value's text and divides no address: in a query it
changes no other field. -/
theorem escape_is_read_back :
    (∀ v, ∃ s, IsPlainText v s ∧ ∃ t, urlEscape v = .str t ∧ IsEscaped t.toList ∧
      (decode? t.toList).map List.toByteArray = some s.toUTF8) ∧
    (∀ v w s t, IsPlainText v s → IsPlainText w t → (urlEscape v = urlEscape w ↔ s = t)) ∧
    (∀ a b, ∃ s t, urlEscape (.str a) = .str s ∧ urlEscape (.str b) = .str t ∧
      urlEscape (.str (a ++ b)) = .str (s ++ t)) ∧
    ∀ v s t, IsPlainText v s → urlEscape v = .str t →
      (∀ c ∈ "&=+#/".toList, c ∉ t.toList) ∧
      ∀ g : Query.Gap,
        fields (g.fill t.toList) =
          g.before.map field ++ (g.name, g.value t.toList) :: g.after.map field ∧
        ∀ a b, meaning? g.left = some a → meaning? g.right = some b →
          meaning? (g.value t.toList) = some (a ++ s.toList ++ b) := by
  refine ⟨fun v => ?_, fun _ _ _ _ => urlEscape_inj, fun a b => ?_, fun v s t hv ht => ?_⟩
  · refine ⟨v.plainText, isPlainText_plainText v, escape v.plainText, rfl, ?_,
      Text.Percent.decode?_escape _⟩
    exact Text.Percent.toList_escape _ ▸ Text.Percent.isEscaped_encode _
  · exact ⟨escape a, escape b, rfl, rfl, congrArg Json.str (escape_append a b)⟩
  · rw [urlEscape_of_isPlainText hv, Json.str.injEq] at ht
    have hchars : t.toList = encode s.toList := ht ▸ Text.Percent.toList_escape s
    have hsigns : ∀ c ∈ "&=+#/".toList, c ∉ t.toList := by
      have hreserved : ∀ c ∈ "&=+#/".toList, ¬ (Text.Percent.unreserved c = true ∨ c = '%') := by
        simp [Text.Percent.unreserved]
      exact fun c hc => hchars ▸ Text.Percent.not_mem_encode (hreserved c hc) s.toList
    refine ⟨hsigns, fun g => ⟨?_, fun a b ha hb => ?_⟩⟩
    · exact g.fields_fill ⟨hsigns '&' (by decide), hsigns '#' (by decide)⟩
    · rw [hchars]
      exact g.meaning?_value ha hb

/-- A field of a search, between another one and a fragment. -/
def searchGap : Query.Gap where
  before := ["page=2".toList]
  name := "q".toList
  left := "c%2B".toList
  right := []
  after := []
  fragment := "#top".toList
  plain := by decide
  one_name := by decide
  fragment_begins := by simp

/-- The list is no text itself, and its own holds signs that divide a query. -/
theorem escape_is_read_back_list :
    urlEscape (.arr [.str "a&b", .null]) = .str "%5B%22a%26b%22%2Cnull%5D" ∧
      fields (searchGap.fill "%5B%22a%26b%22%2Cnull%5D".toList) =
        [("page".toList, "2".toList), ("q".toList, "c%2B%5B%22a%26b%22%2Cnull%5D".toList)] ∧
      meaning? "c%2B%5B%22a%26b%22%2Cnull%5D".toList = some "c+[\"a&b\",null]".toList := by
  have htext : escape (Json.plainText (.arr [.str "a&b", .null])) = "%5B%22a%26b%22%2Cnull%5D" := by
    decide +kernel
  have hescape : urlEscape (.arr [.str "a&b", .null]) = .str "%5B%22a%26b%22%2Cnull%5D" :=
    congrArg Json.str htext
  obtain ⟨-, -, -, hquery⟩ := escape_is_read_back
  obtain ⟨-, hgap⟩ := hquery _ _ _ (isPlainText_plainText _) hescape
  obtain ⟨hfields, hmeaning⟩ := hgap searchGap
  exact ⟨hescape, hfields.trans (by decide), hmeaning "c+".toList [] (by decide) (by decide)⟩

end LivePages.Helpers
