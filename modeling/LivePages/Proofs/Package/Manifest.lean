import LivePages.Package.Lookup
import LivePages.Proofs.Config.Checks
import LivePages.Proofs.Text.Percent
import LivePages.Proofs.Text.Trim

/-! The address of a package's manifest: the repository's without the slashes at its end, and below
it the package's name and version. Checked addresses only begin with `http`, so the manifest's does
as well; when it begins with `http://` or `https://` depends on more. -/

namespace LivePages

open Config (Mirrors Settings)

/-- The address begins with one of the two schemes of the web, its slashes included. -/
def HasScheme (url : String) : Prop :=
  "http://".toList <+: url.toList ∨ "https://".toList <+: url.toList

instance (url : String) : Decidable (HasScheme url) :=
  inferInstanceAs (Decidable (_ ∨ _))

/-- Something other than slashes follows such a scheme. -/
def NamesHost (url : String) : Prop :=
  ∃ rest : List Char,
    (url.toList = "http://".toList ++ rest ∨ url.toList = "https://".toList ++ rest) ∧
      ∃ c ∈ rest, c ≠ '/'

/-! ### Slashes at the end -/

theorem toList_withoutEndSlashes (url : String) :
    (withoutEndSlashes url).toList = url.toList.rdropWhile (· == '/') :=
  String.toList_ofList

theorem getLast?_rdropWhile (l : List Char) :
    (l.rdropWhile (· == '/')).getLast? ≠ some '/' :=
  fun h => by simpa using Text.last_rdropWhile (Option.mem_def.2 h)

/-- What does not end in a slash stays in front when the slashes at the end go. -/
theorem prefix_rdropWhile {x l : List Char} (hx : x.getLast? ≠ some '/') (h : x <+: l) :
    x <+: l.rdropWhile (· == '/') := by
  rcases List.prefix_or_prefix_of_prefix h (List.rdropWhile_prefix (· == '/') l) with hin | ⟨u, rfl⟩
  · exact hin
  rcases List.eq_nil_or_concat u with rfl | ⟨v, c, rfl⟩
  · exact ⟨[], by rw [List.append_nil, List.append_nil]⟩
  -- The rest of `x` would be made of slashes that have gone.
  have hrest : v.concat c <+: l.rtakeWhile (· == '/') := by
    rw [← List.prefix_append_right_inj (l.rdropWhile (· == '/')), List.rdropWhile_append_rtakeWhile]
    exact h
  rw [List.concat_eq_append] at hrest hx
  have hc : c = '/' := by
    simpa using List.mem_rtakeWhile_imp (hrest.subset (List.mem_append_right _ (List.mem_singleton_self c)))
  simp [hc] at hx

/-! ### Schemes -/

/-- A scheme and its slashes begin an address below another if they begin that one, or it is the
bare scheme and nothing precedes the next slash. -/
theorem scheme_prefix_iff {scheme base name rest : List Char} (hscheme : '/' ∉ scheme)
    (hbase : base.getLast? ≠ some '/') (hname : '/' ∉ name) :
    scheme ++ ['/', '/'] <+: base ++ '/' :: (name ++ '/' :: rest) ↔
      scheme ++ ['/', '/'] <+: base ∨ base = scheme ∧ name = [] := by
  constructor
  · intro h
    have hbare : base = scheme → name = [] := by
      rintro rfl
      rw [List.prefix_append_right_inj, List.cons_prefix_cons] at h
      cases name with
      | nil => rfl
      | cons c r =>
        rw [List.cons_append, List.cons_prefix_cons] at h
        exact absurd (h.2.1 ▸ List.mem_cons_self) hname
    rcases List.prefix_or_prefix_of_prefix h (List.prefix_append _ _) with hin | ⟨u, hu⟩
    · exact .inl hin
    rcases List.append_eq_append_iff.1 hu with ⟨v, rfl, -⟩ | ⟨v, rfl, hv⟩
    · cases v with
      | nil => exact .inr ⟨(List.append_nil _).symm, hbare (List.append_nil _).symm⟩
      | cons c r =>
        rw [List.append_assoc, List.prefix_append_right_inj, List.cons_append,
          List.cons_prefix_cons] at h
        exact absurd (h.1 ▸ List.mem_append_right _ List.mem_cons_self) hscheme
    · rcases List.eq_nil_or_concat v with rfl | ⟨w, c, rfl⟩
      · exact .inr ⟨List.append_nil _, hbare (List.append_nil _)⟩
      · have hc : c ∈ ['/', '/'] := by simp [hv]
        obtain rfl : c = '/' := by simpa using hc
        simp at hbase
  · rintro (h | ⟨rfl, rfl⟩)
    · exact h.trans (List.prefix_append _ _)
    · exact ⟨rest, by simp⟩

theorem scheme_prefix_rdropWhile_iff {scheme l : List Char} :
    scheme ++ ['/', '/'] <+: l.rdropWhile (· == '/') ↔
      ∃ rest, l = scheme ++ ['/', '/'] ++ rest ∧ ∃ c ∈ rest, c ≠ '/' := by
  constructor
  · rintro ⟨u, hu⟩
    have hl : l = scheme ++ ['/', '/'] ++ (u ++ l.rtakeWhile (· == '/')) := by
      rw [← List.append_assoc, hu, List.rdropWhile_append_rtakeWhile]
    refine ⟨_, hl, ?_⟩
    rcases List.eq_nil_or_concat u with rfl | ⟨v, c, rfl⟩
    · exact absurd (by rw [← hu]; simp) (getLast?_rdropWhile l)
    · refine ⟨c, by simp, fun hc => getLast?_rdropWhile l ?_⟩
      rw [← hu, hc]
      simp [← List.append_assoc]
  · rintro ⟨rest, rfl, c, hc, hslash⟩
    obtain ⟨before, after, rfl⟩ := List.append_of_mem hc
    have hin : scheme ++ ['/', '/'] ++ (before ++ [c]) <+:
        scheme ++ ['/', '/'] ++ (before ++ c :: after) := by
      rw [List.prefix_append_right_inj, List.prefix_append_right_inj]
      exact ⟨after, rfl⟩
    refine (List.prefix_append _ _).trans (prefix_rdropWhile ?_ hin)
    simpa [← List.append_assoc] using hslash

/-! ### Manifests -/

theorem urlFor_mem (m : Mirrors) (repository : Option String) :
    m.urlFor repository ∈ m.url :: m.mirrors.map (·.2) := by
  rw [Mirrors.urlFor]
  split
  · rename_i name url h
    obtain ⟨n, -, hn⟩ := Option.bind_eq_some_iff.1 h
    exact List.mem_cons_of_mem _ (List.mem_map_of_mem (List.mem_of_find?_eq_some hn))
  · exact List.mem_cons_self

theorem slash_not_mem_encode (s : List Char) : '/' ∉ Text.Percent.encode s :=
  Text.Percent.not_mem_encode (by decide) s

theorem toList_manifestUrl {m : Mirrors} {p : PackageInfo} {url : String}
    (h : manifestUrl m p = .ok url) :
    url.toList = (m.urlFor p.repository).toList.rdropWhile (· == '/') ++
      '/' :: (Text.Percent.encode p.name.toList ++
        '/' :: (Text.Percent.encode p.version.toList ++ "/package.yaml".toList)) := by
  unfold manifestUrl at h
  split_ifs at h
  rw [← Except.ok.inj h]
  simp [Text.Percent.escape, toList_withoutEndSlashes]

theorem scheme_prefix_manifestUrl_iff {m : Mirrors} {p : PackageInfo} {url : String}
    (h : manifestUrl m p = .ok url) (scheme : List Char) (hscheme : '/' ∉ scheme) :
    scheme ++ ['/', '/'] <+: url.toList ↔
      (∃ rest, (m.urlFor p.repository).toList = scheme ++ ['/', '/'] ++ rest ∧ ∃ c ∈ rest, c ≠ '/') ∨
        p.name = "" ∧ (withoutEndSlashes (m.urlFor p.repository)).toList = scheme := by
  rw [toList_manifestUrl h, scheme_prefix_iff hscheme (getLast?_rdropWhile _) (slash_not_mem_encode _),
    scheme_prefix_rdropWhile_iff, toList_withoutEndSlashes, Text.Percent.encode_eq_nil_iff,
    String.toList_eq_nil_iff, and_comm (b := p.name = "")]

/-- Under checked settings a manifest's address begins with `http`, and with `http://` or `https://`
only if its repository's goes on after these or the package is nameless. -/
theorem manifestUrl_hasScheme_iff (settings : Settings) (d : Disk) (p : PackageInfo)
    (hcheck : settings.check.run d = .ok ()) (hversion : p.version ≠ "") :
    ∃ url, manifestUrl settings.mirrors p = .ok url ∧ "http".toList <+: url.toList ∧
      (HasScheme url ↔ NamesHost (settings.mirrors.urlFor p.repository) ∨
        p.name = "" ∧
          withoutEndSlashes (settings.mirrors.urlFor p.repository) ∈ ["http:", "https:"]) := by
  have hgiven : ∃ url, manifestUrl settings.mirrors p = .ok url := by
    rw [manifestUrl, if_neg (by simpa using hversion)]
    exact ⟨_, rfl⟩
  obtain ⟨url, hurl⟩ := hgiven
  have haddress : Config.isAddress (settings.mirrors.urlFor p.repository) = true :=
    Config.Mirrors.isAddress_of_check (Config.Settings.run_check_eq_ok_iff.1 hcheck).2.2 _
      (urlFor_mem _ _)
  refine ⟨url, hurl, ?_, ?_⟩
  · rw [Config.isAddress, List.isPrefixOf_iff_prefix] at haddress
    rw [toList_manifestUrl hurl]
    exact (prefix_rdropWhile (by decide) haddress).trans (List.prefix_append _ _)
  · have hplain := scheme_prefix_manifestUrl_iff hurl "http:".toList (by decide)
    have hsecure := scheme_prefix_manifestUrl_iff hurl "https:".toList (by decide)
    rw [HasScheme, NamesHost, show "http://".toList = "http:".toList ++ ['/', '/'] from rfl,
      show "https://".toList = "https:".toList ++ ['/', '/'] from rfl, hplain, hsecure]
    simp only [List.mem_cons, List.not_mem_nil, or_false, String.toList_inj, or_and_right, exists_or,
      and_or_left]
    exact or_or_or_comm

/-- Settings whose default address has no scheme of the web, and a mirror with slashes only behind
one. -/
def bareSettings : Settings :=
  { Settings.default with mirrors := ⟨"http:packages", [("bare", "https://")]⟩ }

/-- A disk on which everything is a folder. -/
def foldersOnly : Disk
  | .text _ => .error .aFolder
  | .entries _ => .ok []
  | .isFolder _ => true
  | .exists _ => true
  | .canonical path => .ok path
  | .here => "/"

/-- The mirror gives a package without a name an address. -/
theorem manifestUrl_hasScheme_nameless :
    bareSettings.check.run foldersOnly = .ok () ∧
      ∃ url, manifestUrl bareSettings.mirrors ⟨"", "1", some "bare"⟩ = .ok url ∧ HasScheme url := by
  obtain ⟨url, hurl, -, hscheme⟩ :=
    manifestUrl_hasScheme_iff bareSettings foldersOnly ⟨"", "1", some "bare"⟩ rfl (by decide)
  exact ⟨rfl, url, hurl, hscheme.2 (.inr ⟨rfl, by decide⟩)⟩

/-- An address that passes the check for `http` alone is taken over into that of a manifest. -/
theorem manifestUrl_without_scheme :
    bareSettings.check.run foldersOnly = .ok () ∧
      manifestUrl bareSettings.mirrors ⟨"argo-cd", "1", none⟩ =
        .ok "http:packages/argo-cd/1/package.yaml" ∧
      ¬ HasScheme "http:packages/argo-cd/1/package.yaml" :=
  ⟨rfl, by decide, by decide⟩

end LivePages
