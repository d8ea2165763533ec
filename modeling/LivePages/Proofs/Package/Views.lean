import LivePages.Package.Helpers
import LivePages.Proofs.Json.Record

/-! What templates see of packages and repositories. A view is read from a value and can be written
as one again; the helpers answer alike for the value and for what was written. -/

namespace LivePages

open Json

/-! ### Reading back what was written -/

theorem PackageInfo.read?_toJson (i : PackageInfo) : PackageInfo.read? i.toJson = some i := by
  obtain ⟨name, version, repository⟩ := i
  cases repository with
  | none => simp [read?, toJson, record?_ofFields, required, orDefault, str?]
  | some r => simp [read?, toJson, record?_ofFields, required, orDefault, orNull, str?]

theorem Package.readSpec?_ofFields (i : PackageInfo) (suspended : Bool) :
    readSpec? (ofFields [("packageInfo", i.toJson), ("suspend", .bool suspended)]) =
      some (i, suspended) := by
  simp [readSpec?, record?_ofFields, required, orDefault, bool?, PackageInfo.read?_toJson]

theorem Package.read?_toJson (p : Package) : Package.read? p.toJson = some p := by
  simp [read?, toJson, record?_ofFields, required, orDefault, bool?, readSpec?_ofFields]

theorem Condition.read?_toJson (c : Condition) : Condition.read? c.toJson = some c := by
  obtain ⟨type, status, reason, message⟩ := c
  cases reason <;> cases message <;>
    simp [read?, toJson, optionalText, record?_ofFields, required, orDefault, orNull, str?]

theorem Repository.readName?_ofFields (name : String) :
    readName? (ofFields [("name", .str name)]) = some name := by
  simp [readName?, record?_ofFields, orDefault, str?]

theorem Repository.readConditions?_ofFields (l : List Condition) :
    readConditions? (ofFields [("conditions", .arr (l.map Condition.toJson))]) = some l := by
  simp [readConditions?, record?_ofFields, orDefault, list?_map Condition.read?_toJson]

theorem Repository.read?_toJson (r : Repository) : Repository.read? r.toJson = some r := by
  simp [read?, toJson, record?_ofFields, orDefault, readName?_ofFields, readConditions?_ofFields]

/-! ### Views of a value -/

theorem Package.name_of_ofValue? {v : Option Json} {p : Package} (h : ofValue? v = some p) :
    p.info.name.isEmpty = false := by
  rw [ofValue?] at h
  cases hread : v.bind read? with
  | none => rw [hread] at h; cases h
  | some q =>
    rw [hread] at h
    cases hname : q.info.name.isEmpty with
    | false => simp_all
    | true => simp [hname] at h

/-- A package that has a name is seen in what it is written as. -/
theorem Package.ofValue?_toJson {p : Package} (h : p.info.name.isEmpty = false) :
    ofValue? (some p.toJson) = some p := by
  simp [ofValue?, read?_toJson, h]

/-- The view of a value is the view of what it is written as. A package without a name would not be,
but no view has one. -/
theorem Package.ofValue?_handleJson (v : Option Json) :
    ofValue? (some (handleJson (ofValue? v))) = ofValue? v := by
  cases h : ofValue? v with
  | none => rfl
  | some p => exact ofValue?_toJson (name_of_ofValue? h)

theorem Repository.ofValue?_toJson (r : Repository) : ofValue? (some r.toJson) = some r :=
  read?_toJson r

/-! ### Helpers -/

namespace Helpers

open Template (Arguments)

theorem get?_cons_self (name : String) (v : Json) (args : Arguments) :
    Arguments.get? ((name, v) :: args) name = some v := by
  simp [Arguments.get?]

theorem package?_handleJson (v : Json) (args : Arguments) :
    package? (("pkg", Package.handleJson (Package.ofValue? (some v))) :: args) =
      package? (("pkg", v) :: args) := by
  rw [package?, package?, get?_cons_self, get?_cons_self, Package.ofValue?_handleJson]

/-- The package or repository seen in any value is seen again in what it is written as, and every
helper gives the same for both. -/
theorem views_are_kept (v : Json) (l : Lookups) (args : Arguments) :
    (let seen := Package.ofValue? (some v)
     let written := Package.handleJson seen
     Package.ofValue? (some written) = seen ∧
       Package.handleJson (Package.ofValue? (some written)) = written ∧
       isSuspended (("pkg", v) :: args) = isSuspended (("pkg", written) :: args) ∧
       autoUpdateEnabled (("pkg", v) :: args) = autoUpdateEnabled (("pkg", written) :: args) ∧
       packageManifestUrl l (("pkg", v) :: args) = packageManifestUrl l (("pkg", written) :: args)) ∧
      ∀ r, Repository.ofValue? (some v) = some r →
        Repository.ofValue? (some r.toJson) = some r ∧
          isRepositoryReady (("repo", v) :: args) = isRepositoryReady (("repo", r.toJson) :: args) := by
  refine ⟨⟨?_, ?_, ?_, ?_, ?_⟩, fun r hr => ⟨Repository.ofValue?_toJson r, ?_⟩⟩
  · exact Package.ofValue?_handleJson _
  · rw [Package.ofValue?_handleJson]
  · rw [isSuspended, isSuspended, package?_handleJson]
  · rw [autoUpdateEnabled, autoUpdateEnabled, package?_handleJson]
  · rw [packageManifestUrl, packageManifestUrl, package?_handleJson]
  · rw [isRepositoryReady, isRepositoryReady, get?_cons_self, get?_cons_self, hr,
      Repository.ofValue?_toJson]

/-- A suspended package as a list of its fields. -/
def suspendedList : Json :=
  .arr [.arr [.arr [.str "argo-cd", .str "v1"], .bool true]]

/-- Lists of fields are written as objects, with the fields that were left out. -/
theorem views_are_kept_lists :
    Package.ofValue? (some suspendedList) = some ⟨⟨"argo-cd", "v1", none⟩, true, false⟩ ∧
      Package.ofValue? (some (Package.toJson ⟨⟨"argo-cd", "v1", none⟩, true, false⟩)) =
        some ⟨⟨"argo-cd", "v1", none⟩, true, false⟩ ∧
      isSuspended [("pkg", Package.toJson ⟨⟨"argo-cd", "v1", none⟩, true, false⟩)] = .bool true ∧
      Repository.ofValue? (some (.arr [.obj [], .arr [.arr [.arr [.str "Ready", .str "True"]]]])) =
        some ⟨"", [⟨"Ready", "True", none, none⟩]⟩ ∧
      Repository.ofValue? (some (Repository.toJson ⟨"", [⟨"Ready", "True", none, none⟩]⟩)) =
        some ⟨"", [⟨"Ready", "True", none, none⟩]⟩ ∧
      isRepositoryReady [("repo", .arr [.obj [], .arr [.arr [.arr [.str "Ready", .str "True"]]]])] =
        isRepositoryReady [("repo", Repository.toJson ⟨"", [⟨"Ready", "True", none, none⟩]⟩)] := by
  have hpackage : Package.ofValue? (some suspendedList) =
      some ⟨⟨"argo-cd", "v1", none⟩, true, false⟩ := rfl
  have hread : Repository.ofValue?
      (some (.arr [.obj [], .arr [.arr [.arr [.str "Ready", .str "True"]]]])) =
        some ⟨"", [⟨"Ready", "True", none, none⟩]⟩ := rfl
  obtain ⟨hkept, -, hsuspended, -, -⟩ := (views_are_kept suspendedList (.failing "down") []).1
  rw [hpackage] at hkept hsuspended
  exact ⟨hpackage, hkept, hsuspended.symm.trans rfl,
    hread, (views_are_kept _ (.failing "down") []).2 _ hread⟩

end Helpers

end LivePages
