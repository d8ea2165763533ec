import LivePages.Proofs.Package.Views

/-! When a repository is ready. What a value says of a repository is stated beside the reader, shape by
shape. Of the conditions in it only the first of type `Ready` counts, so their order matters just when
some of that type say that the repository is ready and others that it is not. -/

namespace LivePages

open Json (InRecord IsRecord)

/-! ### What a value says -/

/-- A text that may be missing or null. -/
inductive IsNote : Option Json → Option String → Prop
  | missing : IsNote none none
  | null : IsNote (some .null) none
  | text (s : String) : IsNote (some (.str s)) (some s)

/-- The value is a record with the condition's fields, of which type and status have to be there. -/
inductive Condition.IsRead : Json → Condition → Prop
  | mk {v : Json} {field : String → Option Json} {c : Condition}
      (hv : IsRecord ["type", "status", "reason", "message"] v field)
      (htype : field "type" = some (.str c.type)) (hstatus : field "status" = some (.str c.status))
      (hreason : IsNote (field "reason") c.reason) (hmessage : IsNote (field "message") c.message) :
      IsRead v c

/-- The name in a repository's metadata, empty when it is missing. -/
def Repository.IsName : Option Json → String → Prop :=
  InRecord "name" (fun w s => w = .str s) ""

/-- The conditions in a repository's status, none when they are missing. -/
def Repository.AreConditions : Option Json → List Condition → Prop :=
  InRecord "conditions" (fun w l => ∃ items, w = .arr items ∧ List.Forall₂ Condition.IsRead items l) []

/-- The value is a record with metadata and a status, both of which may be missing. -/
inductive Repository.IsRead : Json → Repository → Prop
  | mk {v : Json} {field : String → Option Json} {r : Repository}
      (hv : IsRecord ["metadata", "status"] v field) (hname : IsName (field "metadata") r.name)
      (hconditions : AreConditions (field "status") r.conditions) : IsRead v r

theorem str?_eq_some_iff {v : Json} {s : String} : v.str? = some s ↔ v = .str s := by
  cases v <;> simp [Json.str?]

theorem required_str?_eq_some_iff {x : Option Json} {s : String} :
    Json.required Json.str? x = some s ↔ x = some (.str s) := by
  cases x with
  | none => simp [Json.required]
  | some v => simp [Json.required, str?_eq_some_iff]

theorem orDefault_orNull_eq_some_iff {x : Option Json} {s : Option String} :
    Json.orDefault (Json.orNull Json.str?) none x = some s ↔ IsNote x s := by
  constructor
  · intro h
    cases x with
    | none => cases h; exact .missing
    | some v => cases v <;> cases h <;> constructor
  · rintro (_ | _ | _) <;> rfl

theorem Condition.read?_eq_some_iff {v : Json} {c : Condition} : read? v = some c ↔ IsRead v c := by
  constructor
  · intro h
    rw [read?] at h
    cases hrecord : v.record? ["type", "status", "reason", "message"] with
    | none => rw [hrecord] at h; cases h
    | some values =>
      obtain ⟨field, hv⟩ := Json.exists_isRecord hrecord
      rw [hv.record? (by decide)] at h
      simp only [List.map_cons, List.map_nil, Option.bind_eq_bind, Option.bind_eq_some_iff,
        Option.pure_def, Option.some.injEq, required_str?_eq_some_iff,
        orDefault_orNull_eq_some_iff] at h
      obtain ⟨type, htype, status, hstatus, reason, hreason, message, hmessage, rfl⟩ := h
      exact .mk hv htype hstatus hreason hmessage
  · rintro ⟨hv, htype, hstatus, hreason, hmessage⟩
    rw [read?, hv.record? (by decide)]
    simp only [List.map_cons, List.map_nil, required_str?_eq_some_iff.2 htype,
      required_str?_eq_some_iff.2 hstatus, orDefault_orNull_eq_some_iff.2 hreason,
      orDefault_orNull_eq_some_iff.2 hmessage]
    rfl

namespace Repository

theorem orDefault_readName?_eq_some_iff {x : Option Json} {s : String} :
    Json.orDefault readName? "" x = some s ↔ IsName x s :=
  Json.orDefault_inRecord_iff fun _ _ => str?_eq_some_iff

theorem orDefault_readConditions?_eq_some_iff {x : Option Json} {l : List Condition} :
    Json.orDefault readConditions? [] x = some l ↔ AreConditions x l :=
  Json.orDefault_inRecord_iff fun _ _ => by
    simp only [Json.list?_eq_some_iff, Condition.read?_eq_some_iff]

/-- The reader reads just what the value says. -/
theorem read?_eq_some_iff {v : Json} {r : Repository} : read? v = some r ↔ IsRead v r := by
  constructor
  · intro h
    rw [read?] at h
    cases hrecord : v.record? ["metadata", "status"] with
    | none => rw [hrecord] at h; cases h
    | some values =>
      obtain ⟨field, hv⟩ := Json.exists_isRecord hrecord
      rw [hv.record? (by decide)] at h
      simp only [List.map_cons, List.map_nil, Option.bind_eq_bind, Option.bind_eq_some_iff,
        Option.pure_def, Option.some.injEq, orDefault_readName?_eq_some_iff,
        orDefault_readConditions?_eq_some_iff] at h
      obtain ⟨name, hname, conditions, hconditions, rfl⟩ := h
      exact .mk hv hname hconditions
  · rintro ⟨hv, hname, hconditions⟩
    rw [read?, hv.record? (by decide)]
    simp only [List.map_cons, List.map_nil, orDefault_readName?_eq_some_iff.2 hname,
      orDefault_readConditions?_eq_some_iff.2 hconditions]
    rfl

/-! ### The condition that counts -/

/-- The first condition of type `Ready` has this status. -/
def Tells (r : Repository) (status : String) : Prop :=
  ∃ before c after, r.conditions = before ++ c :: after ∧ c.type = "Ready" ∧ c.status = status ∧
    ∀ b ∈ before, b.type ≠ "Ready"

/-- Some condition of type `Ready` has a status of this kind. -/
def Says (r : Repository) (kind : String → Prop) : Prop :=
  ∃ c ∈ r.conditions, c.type = "Ready" ∧ kind c.status

theorem tells_iff {r : Repository} {status : String} :
    r.Tells status ↔ ∃ c, r.find? "Ready" = some c ∧ c.status = status := by
  simp only [Tells, find?, List.find?_eq_some_iff_append]
  constructor
  · rintro ⟨before, c, after, hr, hc, hstatus, hbefore⟩
    exact ⟨c, ⟨by simpa using hc, before, after, hr, fun b hb => by simpa using hbefore b hb⟩, hstatus⟩
  · rintro ⟨c, ⟨hc, before, after, hr, hbefore⟩, hstatus⟩
    exact ⟨before, c, after, hr, by simpa using hc, hstatus, fun b hb => by simpa using hbefore b hb⟩

theorem isReady_iff {r : Repository} : r.isReady = true ↔ r.Tells "True" := by
  rw [tells_iff, isReady]
  cases r.find? "Ready" with
  | none => simp
  | some c => simp

theorem Tells.isSaid {r : Repository} {status : String} {kind : String → Prop} (h : r.Tells status)
    (hkind : kind status) : r.Says kind := by
  obtain ⟨before, c, after, hr, hc, rfl, -⟩ := h
  exact ⟨c, by simp [hr], hc, hkind⟩

theorem Says.tells_or {r : Repository} {kind : String → Prop} (h : r.Says kind) :
    r.Tells "True" ∨ ∃ status, status ≠ "True" ∧ r.Tells status := by
  obtain ⟨c, hc, htype, -⟩ := h
  obtain ⟨d, hd⟩ := Option.isSome_iff_exists.1
    (List.find?_isSome.2 ⟨c, hc, decide_eq_true htype⟩ : (r.find? "Ready").isSome)
  have htells : r.Tells d.status := tells_iff.2 ⟨d, hd, rfl⟩
  by_cases hstatus : d.status = "True"
  · exact .inl (hstatus ▸ htells)
  · exact .inr ⟨d.status, hstatus, htells⟩

theorem Tells.unique {r : Repository} {status status' : String} (h : r.Tells status)
    (h' : r.Tells status') : status = status' := by
  obtain ⟨c, hc, rfl⟩ := tells_iff.1 h
  obtain ⟨d, hd, rfl⟩ := tells_iff.1 h'
  rw [Option.some.inj (hc.symm.trans hd)]

/-- A condition is overlooked just when another of its type comes first and says otherwise. -/
theorem tells_iff_says_iff {r : Repository} :
    (r.Tells "True" ↔ r.Says (· = "True")) ↔
      ¬ (r.Says (· = "True") ∧ ∃ status, status ≠ "True" ∧ r.Tells status) := by
  constructor
  · rintro hiff ⟨hsaid, status, hstatus, htells⟩
    exact hstatus (htells.unique (hiff.2 hsaid))
  · intro h
    exact ⟨fun htells => htells.isSaid rfl,
      fun hsaid => hsaid.tells_or.resolve_right fun hother => h ⟨hsaid, hother⟩⟩

/-- Where no two conditions contradict each other, any of them will do. -/
theorem isReady_iff_said {r : Repository}
    (h : ¬ (r.Says (· = "True") ∧ r.Says (· ≠ "True"))) : r.isReady = true ↔ r.Says (· = "True") := by
  rw [isReady_iff, tells_iff_says_iff]
  rintro ⟨hsaid, status, hstatus, htells⟩
  exact h ⟨hsaid, htells.isSaid hstatus⟩

theorem says_congr {r s : Repository} (h : s.conditions.Perm r.conditions) (kind : String → Prop) :
    s.Says kind ↔ r.Says kind := by
  simp only [Says, h.mem_iff]

/-- A condition of type `Ready` decides when it is put first. -/
theorem Says.exists_perm {r : Repository} {kind : String → Prop} (h : r.Says kind) :
    ∃ s : Repository, s.conditions.Perm r.conditions ∧ ∃ status, kind status ∧ s.Tells status := by
  obtain ⟨c, hc, htype, hkind⟩ := h
  exact ⟨⟨r.name, c :: r.conditions.erase c⟩, (List.perm_cons_erase hc).symm, c.status, hkind,
    [], c, _, rfl, htype, rfl, List.forall_mem_nil _⟩

end Repository

namespace Helpers

open Template (Arguments)

variable {v : Json} {args : Arguments}

theorem isRepositoryReady_of_isRead {r : Repository} (h : Repository.IsRead v r) :
    isRepositoryReady (("repo", v) :: args) = .bool r.isReady := by
  rw [isRepositoryReady, get?_cons_self, Repository.ofValue?, Option.bind_some,
    Repository.read?_eq_some_iff.2 h]

theorem isRepositoryReady_of_not_isRead (h : ∀ r, ¬ Repository.IsRead v r) :
    isRepositoryReady (("repo", v) :: args) = .bool false := by
  have hnone : Repository.read? v = none :=
    Option.eq_none_iff_forall_ne_some.2 fun r hr => h r (Repository.read?_eq_some_iff.1 hr)
  rw [isRepositoryReady, get?_cons_self, Repository.ofValue?, Option.bind_some, hnone]

theorem isRepositoryReady_eq_true_iff :
    isRepositoryReady (("repo", v) :: args) = .bool true ↔
      ∃ r, Repository.IsRead v r ∧ r.Tells "True" := by
  by_cases h : ∃ r, Repository.IsRead v r
  · obtain ⟨r, hr⟩ := h
    rw [isRepositoryReady_of_isRead hr, Json.bool.injEq, Repository.isReady_iff]
    constructor
    · exact fun htells => ⟨r, hr, htells⟩
    · rintro ⟨s, hs, htells⟩
      rw [← Repository.read?_eq_some_iff] at hr hs
      exact Option.some.inj (hs.symm.trans hr) ▸ htells
  · rw [isRepositoryReady_of_not_isRead (not_exists.1 h), Json.bool.injEq]
    exact iff_of_false Bool.false_ne_true fun ⟨r, hr, _⟩ => h ⟨r, hr⟩

theorem order_is_irrelevant_iff {r : Repository} (h : Repository.IsRead v r) :
    (∀ w s, Repository.IsRead w s → s.conditions.Perm r.conditions →
        isRepositoryReady (("repo", w) :: args) = isRepositoryReady (("repo", v) :: args)) ↔
      ¬ (r.Says (· = "True") ∧ r.Says (· ≠ "True")) := by
  have hwritten (s : Repository) : Repository.IsRead s.toJson s :=
    Repository.read?_eq_some_iff.1 (Repository.read?_toJson s)
  constructor
  · rintro hsame ⟨hsaid, hdenies⟩
    obtain ⟨s, hs, _, rfl, hready⟩ := hsaid.exists_perm
    obtain ⟨t, ht, status, hstatus, hnot⟩ := hdenies.exists_perm
    have heq := (hsame _ s (hwritten s) hs).trans (hsame _ t (hwritten t) ht).symm
    rw [isRepositoryReady_of_isRead (hwritten s), isRepositoryReady_of_isRead (hwritten t),
      Json.bool.injEq, Repository.isReady_iff.2 hready] at heq
    exact hstatus (hnot.unique (Repository.isReady_iff.1 heq.symm))
  · intro hone w s hw hs
    have hone' : ¬ (s.Says (· = "True") ∧ s.Says (· ≠ "True")) := by
      rwa [Repository.says_congr hs, Repository.says_congr hs]
    rw [isRepositoryReady_of_isRead hw, isRepositoryReady_of_isRead h, Json.bool.injEq,
      Bool.eq_iff_iff, Repository.isReady_iff_said hone, Repository.isReady_iff_said hone',
      Repository.says_congr hs]

/-- A repository is ready just when the first of its conditions of type `Ready` has the status
`True`, whatever later ones say. -/
theorem first_condition_decides (v : Json) (args : Arguments) :
    (∃ b, isRepositoryReady (("repo", v) :: args) = .bool b) ∧
    (isRepositoryReady (("repo", v) :: args) = .bool true ↔
      ∃ r, Repository.IsRead v r ∧ r.Tells "True") ∧
    ∀ r, Repository.IsRead v r →
      ((isRepositoryReady (("repo", v) :: args) = .bool true ↔ r.Says (· = "True")) ↔
        ¬ (r.Says (· = "True") ∧ ∃ status, status ≠ "True" ∧ r.Tells status)) ∧
      ((∀ w s, Repository.IsRead w s → s.conditions.Perm r.conditions →
          isRepositoryReady (("repo", w) :: args) = isRepositoryReady (("repo", v) :: args)) ↔
        ¬ (r.Says (· = "True") ∧ r.Says (· ≠ "True"))) := by
  refine ⟨?_, isRepositoryReady_eq_true_iff, fun r hr => ⟨?_, order_is_irrelevant_iff hr⟩⟩
  · by_cases h : ∃ r, Repository.IsRead v r
    · obtain ⟨r, hr⟩ := h
      exact ⟨_, isRepositoryReady_of_isRead hr⟩
    · exact ⟨_, isRepositoryReady_of_not_isRead (not_exists.1 h)⟩
  · rw [isRepositoryReady_of_isRead hr, Json.bool.injEq, Repository.isReady_iff,
      Repository.tells_iff_says_iff]

/-- Two conditions of type `Ready` that agree, behind one of another type. -/
def agreeing : Repository :=
  ⟨"", [⟨"Synced", "False", none, none⟩, ⟨"Ready", "True", none, none⟩,
    ⟨"Ready", "True", some "Ok", none⟩]⟩

/-- The same in a value that lists the fields of its records. -/
def agreeingLists : Json :=
  .arr [.obj [], .arr [.arr [.arr [.str "Synced", .str "False"], .arr [.str "Ready", .str "True"],
    .arr [.str "Ready", .str "True", .str "Ok"]]]]

theorem first_condition_decides_agreeing :
    Repository.IsRead agreeingLists agreeing ∧
      ∀ w s, Repository.IsRead w s → s.conditions.Perm agreeing.conditions →
        isRepositoryReady [("repo", w)] = .bool true := by
  have hread : Repository.IsRead agreeingLists agreeing := Repository.read?_eq_some_iff.1 rfl
  have hagree : ¬ agreeing.Says (· ≠ "True") := by
    rintro ⟨c, hc, htype, hstatus⟩
    have hall : ∀ c ∈ agreeing.conditions, c.type = "Ready" → c.status = "True" := by decide
    exact hstatus (hall c hc htype)
  obtain ⟨-, hiff, hrest⟩ := first_condition_decides agreeingLists []
  refine ⟨hread, fun w s hw hs => ?_⟩
  rw [(hrest agreeing hread).2.2 (fun h => hagree h.2) w s hw hs]
  exact hiff.2 ⟨agreeing, hread, [⟨"Synced", "False", none, none⟩], _, _, rfl, rfl, rfl, by decide⟩

/-- Conditions of type `Ready` with these statuses, as a value. -/
def readyConditions (statuses : List String) : Json :=
  .obj [("status", .obj [("conditions",
    .arr (statuses.map fun s => .obj [("status", .str s), ("type", .str "Ready")]))])]

/-- The second condition says that the repository is ready, but the first one decides. -/
theorem ready_condition_is_overlooked :
    Repository.IsRead (readyConditions ["False", "True"])
        ⟨"", [⟨"Ready", "False", none, none⟩, ⟨"Ready", "True", none, none⟩]⟩ ∧
      Repository.Says ⟨"", [⟨"Ready", "False", none, none⟩, ⟨"Ready", "True", none, none⟩]⟩
        (· = "True") ∧
      isRepositoryReady [("repo", readyConditions ["False", "True"])] = .bool false ∧
      isRepositoryReady [("repo", readyConditions ["True", "False"])] = .bool true :=
  ⟨Repository.read?_eq_some_iff.1 rfl, ⟨_, .tail _ (.head _), rfl, rfl⟩, rfl, rfl⟩

end Helpers

end LivePages
