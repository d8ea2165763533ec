import Mathlib.Data.List.DropRight
import LivePages.Proofs.Package.Manifest
import LivePages.Proofs.Text.Split
import LivePages.Proofs.Text.Trim

/-! Taking the address of a manifest apart. What stands between its last slashes are the package's name
and version in percent-encoding, so no two packages share an address, and in front of them stands the
address that is selected for the package's repository, without the slashes at its end. -/

namespace LivePages

open Config (Mirrors)
open Text.Percent (IsEscaped decode? encode)

/-- What is selected for a repository: the first mirror of its name, and the default address when there
is none or no name is given. -/
inductive Config.Mirrors.Selects (m : Mirrors) : Option String → String → Prop
  | mirror {name url : String} {before after : List (String × String)}
      (hm : m.mirrors = before ++ (name, url) :: after) (hbefore : ∀ x ∈ before, x.1 ≠ name) :
      m.Selects (some name) url
  | unknown {name : String} (h : ∀ x ∈ m.mirrors, x.1 ≠ name) : m.Selects (some name) m.url
  | unnamed : m.Selects none m.url

theorem selects_urlFor (m : Mirrors) (repository : Option String) :
    m.Selects repository (m.urlFor repository) := by
  cases repository with
  | none => exact .unnamed
  | some name =>
    rw [Mirrors.urlFor, Option.bind_some]
    cases h : m.mirrors.find? (·.1 = name) with
    | none => exact .unknown fun x hx => by simpa using List.find?_eq_none.1 h x hx
    | some found =>
      obtain ⟨hname, before, after, hm, hbefore⟩ := List.find?_eq_some_iff_append.1 h
      obtain ⟨n, url⟩ := found
      obtain rfl : n = name := by simpa using hname
      exact .mirror hm fun x hx => by simpa using hbefore x hx

/-! ### Slashes at the end -/

def slashes (k : Nat) : String :=
  String.ofList (List.replicate k '/')

theorem exists_slashes (url : String) :
    ∃ k, url = withoutEndSlashes url ++ slashes k := by
  refine ⟨(url.toList.rtakeWhile (· == '/')).length, ?_⟩
  have hslashes : url.toList.rtakeWhile (· == '/') =
      List.replicate (url.toList.rtakeWhile (· == '/')).length '/' :=
    List.eq_replicate_of_mem fun c hc => by simpa using List.mem_rtakeWhile_imp hc
  rw [← String.toList_inj, String.toList_append, slashes, String.toList_ofList, ← hslashes,
    toList_withoutEndSlashes, List.rdropWhile_append_rtakeWhile]

theorem withoutEndSlashes_append_slashes (url : String) (k : Nat) :
    withoutEndSlashes (url ++ slashes k) = withoutEndSlashes url := by
  have hall : ∀ c ∈ List.replicate k '/', (c == '/') = true :=
    fun c hc => by simp [List.eq_of_mem_replicate hc]
  rw [← String.toList_inj, toList_withoutEndSlashes, toList_withoutEndSlashes, String.toList_append,
    slashes, String.toList_ofList, Text.rdropWhile_append_of_pos hall]

/-- The same addresses with more slashes at the end, `k` of them at the default one and at each mirror
as many as `l` says for it. -/
def Config.Mirrors.withSlashes (m : Mirrors) (k : Nat) (l : String → Nat) : Mirrors :=
  ⟨m.url ++ slashes k, m.mirrors.map fun x => (x.1, x.2 ++ slashes (l x.1))⟩

theorem urlFor_withSlashes (m : Mirrors) (k : Nat) (l : String → Nat)
    (repository : Option String) :
    ∃ j, (m.withSlashes k l).urlFor repository = m.urlFor repository ++ slashes j := by
  cases repository with
  | none => exact ⟨k, rfl⟩
  | some name =>
    simp only [Mirrors.urlFor, Option.bind_some, Mirrors.withSlashes, List.find?_map,
      Function.comp_def]
    cases m.mirrors.find? (·.1 = name) with
    | none => exact ⟨k, rfl⟩
    | some found => exact ⟨l found.1, rfl⟩

/-! ### Parts -/

/-- The last three of the parts between slashes. -/
def lastParts (url : String) : List (List Char) :=
  (Text.splitOn '/' url.toList).rtake 3

theorem lastParts_manifestUrl {m : Mirrors} {p : PackageInfo} {url : String}
    (h : manifestUrl m p = .ok url) :
    lastParts url = [encode p.name.toList, encode p.version.toList, "package.yaml".toList] := by
  have hfile : '/' ∉ "package.yaml".toList := by decide
  have hurl : url.toList = (m.urlFor p.repository).toList.rdropWhile (· == '/') ++ '/' ::
      (encode p.name.toList ++ '/' :: (encode p.version.toList ++ '/' :: "package.yaml".toList)) :=
    toList_manifestUrl h
  rw [lastParts, hurl, Text.splitOn_append_cons, Text.splitOn_append_cons, Text.splitOn_append_cons,
    Text.splitOn_of_not_mem (slash_not_mem_encode _), Text.splitOn_of_not_mem (slash_not_mem_encode _),
    Text.splitOn_of_not_mem hfile, List.rtake]
  simp

theorem name_and_version_of_lastParts {m m' : Mirrors} {p p' : PackageInfo} {url url' : String}
    (h : manifestUrl m p = .ok url) (h' : manifestUrl m' p' = .ok url')
    (hparts : lastParts url = lastParts url') : p.name = p'.name ∧ p.version = p'.version := by
  rw [lastParts_manifestUrl h, lastParts_manifestUrl h'] at hparts
  simp only [List.cons.injEq, and_true] at hparts
  exact ⟨String.toList_inj.1 (Text.Percent.encode_injective hparts.1),
    String.toList_inj.1 (Text.Percent.encode_injective hparts.2)⟩

theorem manifestUrl_eq_error_iff {m : Mirrors} {p : PackageInfo} {f : LookupFault} :
    manifestUrl m p = .error f ↔ p.version = "" ∧ f = .missingVersion p.name := by
  unfold manifestUrl
  by_cases hversion : p.version = ""
  · rw [if_pos (by simpa using hversion), Except.error.injEq, eq_comm]
    exact (and_iff_right hversion).symm
  · rw [if_neg (by simpa using hversion)]
    exact iff_of_false nofun fun h => hversion h.1

theorem manifestUrl_congr {m m' : Mirrors} {p : PackageInfo}
    (h : withoutEndSlashes (m.urlFor p.repository) = withoutEndSlashes (m'.urlFor p.repository)) :
    manifestUrl m p = manifestUrl m' p := by
  rw [manifestUrl, manifestUrl, h]

/-- The address of a manifest is the selected one without slashes at its end, then escaped name,
escaped version and file, and decodes to both. -/
theorem manifestUrl_is_read_back :
    (∀ m p f, manifestUrl m p = .error f ↔ p.version = "" ∧ f = .missingVersion p.name) ∧
    (∀ m p url, manifestUrl m p = .ok url → ∃ base k name version,
      m.Selects p.repository (base ++ slashes k) ∧ base.toList.getLast? ≠ some '/' ∧
        url = base ++ "/" ++ name ++ "/" ++ version ++ "/package.yaml" ∧
        lastParts url = [name.toList, version.toList, "package.yaml".toList] ∧
        IsEscaped name.toList ∧ IsEscaped version.toList ∧
        (decode? name.toList).map List.toByteArray = some p.name.toUTF8 ∧
        (decode? version.toList).map List.toByteArray = some p.version.toUTF8) ∧
    (∀ m m' p p' url url', manifestUrl m p = .ok url → manifestUrl m' p' = .ok url' →
      lastParts url = lastParts url' → p.name = p'.name ∧ p.version = p'.version) ∧
    (∀ m p p' url, manifestUrl m p = .ok url → manifestUrl m p' = .ok url →
      p.name = p'.name ∧ p.version = p'.version) ∧
    ∀ m p k l, manifestUrl (m.withSlashes k l) p = manifestUrl m p := by
  refine ⟨fun _ _ _ => manifestUrl_eq_error_iff, fun m p url h => ?_,
    fun _ _ _ _ _ _ => name_and_version_of_lastParts,
    fun _ _ _ _ h h' => name_and_version_of_lastParts h h' rfl, fun m p k l => ?_⟩
  · obtain ⟨k, hk⟩ := exists_slashes (m.urlFor p.repository)
    refine ⟨withoutEndSlashes (m.urlFor p.repository), k, Text.Percent.escape p.name,
      Text.Percent.escape p.version, hk ▸ selects_urlFor m p.repository, ?_, ?_, ?_, ?_, ?_, ?_, ?_⟩
    · rw [toList_withoutEndSlashes]
      exact getLast?_rdropWhile _
    · unfold manifestUrl at h
      split_ifs at h
      exact (Except.ok.inj h).symm
    · rw [lastParts_manifestUrl h, Text.Percent.toList_escape, Text.Percent.toList_escape]
    · exact Text.Percent.toList_escape p.name ▸ Text.Percent.isEscaped_encode _
    · exact Text.Percent.toList_escape p.version ▸ Text.Percent.isEscaped_encode _
    · exact Text.Percent.decode?_escape p.name
    · exact Text.Percent.decode?_escape p.version
  · obtain ⟨j, hj⟩ := urlFor_withSlashes m k l p.repository
    exact manifestUrl_congr (by rw [hj, withoutEndSlashes_append_slashes])

/-- The mirror has slashes at its end, and name and version hold what has a meaning in addresses. -/
theorem manifestUrl_is_read_back_mirror :
    manifestUrl ⟨"https://a", [("b", "https://b//")]⟩ ⟨"x/é", "1%2F?", some "b"⟩ =
        .ok "https://b/x%2F%C3%A9/1%252F%3F/package.yaml" ∧
      (∃ base k, (Mirrors.mk "https://a" [("b", "https://b//")]).Selects (some "b")
        (base ++ slashes k) ∧ base.toList.getLast? ≠ some '/') ∧
      ∀ p, manifestUrl ⟨"https://a", [("b", "https://b//")]⟩ p =
          .ok "https://b/x%2F%C3%A9/1%252F%3F/package.yaml" → p.name = "x/é" ∧ p.version = "1%2F?" := by
  have hurl : manifestUrl ⟨"https://a", [("b", "https://b//")]⟩ ⟨"x/é", "1%2F?", some "b"⟩ =
      .ok "https://b/x%2F%C3%A9/1%252F%3F/package.yaml" := by decide +kernel
  obtain ⟨-, hparts, -, hsame, -⟩ := manifestUrl_is_read_back
  obtain ⟨base, k, -, -, hbase, hlast, -⟩ := hparts _ _ _ hurl
  exact ⟨hurl, ⟨base, k, hbase, hlast⟩, fun p hp => hsame _ p _ _ hp hurl⟩

end LivePages
