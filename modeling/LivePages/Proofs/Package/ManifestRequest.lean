import LivePages.Proofs.Package.Manifest
import LivePages.Proofs.Text.DotSegments

/-! What a client requests for a manifest. The address names a package and a version below a repository,
and dot segments are taken out of its path before it is requested. Percent-encoding keeps dots, so a
package or a version that is no more than `.` or `..` is such a segment. -/

namespace LivePages

open Config (Mirrors)
open Text.Percent (encode)
open Text.Address (AreSegments IsDots IsLocated absolute climb removeDots)

/-- Escaping neither makes a dot segment nor takes one away. -/
theorem isDots_encode_iff {s : String} : IsDots (encode s.toList) ↔ s ∈ [".", ".."] := by
  have hone : encode ['.'] = ['.'] := rfl
  have htwo : encode ['.', '.'] = ['.', '.'] := rfl
  rw [IsDots, Text.Percent.encode_injective.eq_iff' hone, Text.Percent.encode_injective.eq_iff' htwo,
    List.mem_pair, ← String.toList_inj, ← String.toList_inj]
  rfl

/-- Nothing that ends a segment or a path is left unescaped. -/
theorem encode_stays (s : List Char) : ∀ c ∈ encode s, c ∉ "/?#".toList := by
  have hreserved : ∀ c ∈ "/?#".toList, ¬ (Text.Percent.unreserved c = true ∨ c = '%') := by
    simp [Text.Percent.unreserved]
  exact fun c hc hend => Text.Percent.not_mem_encode (hreserved c hend) s hc

/-- The segments of a manifest's path, `base` being those of its repository. -/
def manifestSegments (base : List (List Char)) (p : PackageInfo) : List (List Char) :=
  base ++ [encode p.name.toList, encode p.version.toList, "package.yaml".toList]

section Repository

variable {m : Mirrors} {p : PackageInfo} {url : String} {scheme host : List Char}
  {base segments : List (List Char)}

theorem isLocated_manifestUrl (h : manifestUrl m p = .ok url)
    (hrepository : IsLocated (m.urlFor p.repository).toList scheme host segments) :
    IsLocated url.toList scheme host (manifestSegments (segments.rdropWhile List.isEmpty) p) := by
  obtain ⟨heq, hscheme, hhost, hsegments⟩ := hrepository
  have hlast : (scheme ++ "://".toList ++ host).getLast? ≠ some '/' := by
    rw [List.getLast?_append_of_ne_nil _ hhost.1]
    exact fun hslash => hhost.2 _ (List.mem_of_getLast? hslash) (by decide)
  refine ⟨?_, hscheme, hhost, List.forall_mem_append.2 ⟨?_, ?_⟩⟩
  · rw [toList_manifestUrl h, heq, Text.Address.rdropWhile_append_absolute hlast
      fun s hs => Text.Address.slash_not_mem (hsegments s hs), manifestSegments,
      Text.Address.absolute_append]
    simp [absolute]
  · exact fun s hs => hsegments s ((List.rdropWhile_prefix _ _).subset hs)
  · simp only [List.forall_mem_cons]
    exact ⟨encode_stays _, encode_stays _, by simp, List.forall_mem_nil _⟩

theorem manifestSegments_eq (base : List (List Char)) (p : PackageInfo) :
    manifestSegments base p =
      base ++ [encode p.name.toList, encode p.version.toList] ++ ["package.yaml".toList] := by
  rw [manifestSegments, List.append_assoc]
  rfl

theorem areSegments_manifest (hbase : AreSegments base) (p : PackageInfo) :
    AreSegments (base ++ [encode p.name.toList, encode p.version.toList]) := by
  refine List.forall_mem_append.2 ⟨hbase, ?_⟩
  simp only [List.forall_mem_cons]
  exact ⟨slash_not_mem_encode _, slash_not_mem_encode _, List.forall_mem_nil _⟩

/-- What is requested for a manifest below a repository without dot segments. -/
theorem removeDots_manifestSegments (hbase : AreSegments base) (hdots : ∀ s ∈ base, ¬ IsDots s)
    (p : PackageInfo) :
    removeDots (absolute (manifestSegments base p)) =
      absolute (climb (climb base (encode p.name.toList)) (encode p.version.toList) ++
        ["package.yaml".toList]) := by
  rw [manifestSegments_eq,
    Text.Address.removeDots_absolute (areSegments_manifest hbase p) (by decide) (by decide),
    List.foldl_append, Text.Address.foldl_climb_of_not_isDots hdots, List.nil_append]
  rfl

theorem removeDots_manifestSegments_eq_self_iff (hbase : AreSegments base)
    (hdots : ∀ s ∈ base, ¬ IsDots s) (p : PackageInfo) :
    removeDots (absolute (manifestSegments base p)) = absolute (manifestSegments base p) ↔
      p.name ∉ [".", ".."] ∧ p.version ∉ [".", ".."] := by
  rw [manifestSegments_eq,
    Text.Address.removeDots_eq_self_iff (areSegments_manifest hbase p) (by decide) (by decide),
    List.forall_mem_append, and_iff_right hdots, List.forall_mem_cons, List.forall_mem_singleton,
    isDots_encode_iff, isDots_encode_iff]

/-- A client requests the path of a manifest as it stands just when neither name nor version is `.`
or `..`. -/
theorem manifest_is_requested_iff (hrepository : IsLocated (m.urlFor p.repository).toList scheme host
    segments) (hdots : ∀ s ∈ segments, ¬ IsDots s) (hversion : p.version ≠ "") :
    ∃ url base, manifestUrl m p = .ok url ∧ base = segments.rdropWhile List.isEmpty ∧
      IsLocated url.toList scheme host (manifestSegments base p) ∧
      removeDots (absolute (manifestSegments base p)) =
        absolute (climb (climb base (encode p.name.toList)) (encode p.version.toList) ++
          ["package.yaml".toList]) ∧
      (removeDots (absolute (manifestSegments base p)) = absolute (manifestSegments base p) ↔
        p.name ∉ [".", ".."] ∧ p.version ∉ [".", ".."]) := by
  have hurl : ∃ url, manifestUrl m p = .ok url := by
    rw [manifestUrl, if_neg (by simpa using hversion)]
    exact ⟨_, rfl⟩
  obtain ⟨url, hurl⟩ := hurl
  have hsub : segments.rdropWhile List.isEmpty ⊆ segments := (List.rdropWhile_prefix _ _).subset
  have hbase : AreSegments (segments.rdropWhile List.isEmpty) :=
    fun s hs => Text.Address.slash_not_mem (hrepository.segments s (hsub hs))
  have hkept : ∀ s ∈ segments.rdropWhile List.isEmpty, ¬ IsDots s := fun s hs => hdots s (hsub hs)
  exact ⟨url, _, hurl, rfl, isLocated_manifestUrl hurl hrepository,
    removeDots_manifestSegments hbase hkept p, removeDots_manifestSegments_eq_self_iff hbase hkept p⟩

end Repository

/-- The mirror has slashes at its end; more dots than two and dots beside an escaped slash name
something. -/
theorem manifest_is_requested_iff_mirror :
    ∃ url base, manifestUrl ⟨"https://a", [("b", "https://b/x//")]⟩ ⟨"...", "../1", some "b"⟩ = .ok url ∧
      base = ["x".toList] ∧
      IsLocated url.toList "https".toList "b".toList (manifestSegments base ⟨"...", "../1", some "b"⟩) ∧
      removeDots (absolute (manifestSegments base ⟨"...", "../1", some "b"⟩)) =
        absolute (manifestSegments base ⟨"...", "../1", some "b"⟩) := by
  have hrepository : IsLocated (Mirrors.urlFor ⟨"https://a", [("b", "https://b/x//")]⟩ (some "b")).toList
      "https".toList "b".toList ["x".toList, [], []] := ⟨by decide, by simp, by simp, by simp⟩
  obtain ⟨url, base, hurl, hbase, hplace, -, hiff⟩ := manifest_is_requested_iff
    (p := ⟨"...", "../1", some "b"⟩) hrepository (by decide) (by decide)
  exact ⟨url, base, hurl, hbase.trans (by decide), hplace, hiff.2 (by decide)⟩

/-- A package named by two dots takes the repository's last segment back. -/
theorem manifest_leaves_repository :
    IsLocated "https://host/packages".toList "https".toList "host".toList ["packages".toList] ∧
      ¬ IsDots "packages".toList ∧
      manifestUrl ⟨"https://host/packages", []⟩ ⟨"..", "1", none⟩ =
        .ok "https://host/packages/../1/package.yaml" ∧
      IsLocated "https://host/packages/../1/package.yaml".toList "https".toList "host".toList
        ["packages".toList, "..".toList, "1".toList, "package.yaml".toList] ∧
      absolute ["packages".toList, "..".toList, "1".toList, "package.yaml".toList] =
        "/packages/../1/package.yaml".toList ∧
      removeDots "/packages/../1/package.yaml".toList = "/1/package.yaml".toList ∧
      removeDots "/packages/../1/package.yaml".toList ≠ "/packages/../1/package.yaml".toList := by
  have hrequested : removeDots "/packages/../1/package.yaml".toList = "/1/package.yaml".toList := by
    decide +kernel
  exact ⟨⟨by decide, by simp, by simp, by simp⟩, by decide, by decide,
    ⟨by decide, by simp, by simp, by simp⟩, by decide, hrequested, by rw [hrequested]; decide⟩

end LivePages
