import Mathlib.Data.List.Nodup
import LivePages.Proofs.Config.Checks

/-! Which violation the check of the sources tells. The check passes just when all names are proper, no
two templates share one and no component requires itself. Otherwise the first violation is told, in
the order in which layout, names and requirements are configured. -/

namespace LivePages.Config

/-- More than blanks, and nothing that leads out of a folder. -/
structure IsProper (name : String) : Prop where
  not_blank : Text.trim name ≠ ""
  no_slash : '/' ∉ name.toList
  no_backslash : '\\' ∉ name.toList
  ne_above : name ≠ ".."

/-- A component requires proper names, and not itself. -/
def Component.RequiresOthers (c : Component) : Prop :=
  ∀ r ∈ c.requires, IsProper r ∧ r ≠ c.name

structure Sources.IsSound (s : Sources) : Prop where
  layout : IsProper s.layout
  names : ∀ n ∈ s.pages ++ s.components.map (·.name), IsProper n
  distinct : ("base" :: s.pages ++ s.components.map (·.name)).Nodup
  requires : ∀ c ∈ s.components, c.RequiresOthers

/-- Names come after the layout and requirements after the names, in the order of the configuration;
an improper name is told as such even when it stands twice. -/
inductive FirstViolation (s : Sources) : Fault → Prop
  | layout (h : ¬ IsProper s.layout) : FirstViolation s (.invalidLayout s.layout)
  | name {before n after} (hlayout : IsProper s.layout)
      (hnames : s.pages ++ s.components.map (·.name) = before ++ n :: after)
      (hbefore : ∀ m ∈ before, IsProper m) (hdistinct : ("base" :: before).Nodup)
      (h : ¬ IsProper n) : FirstViolation s (.invalidName n)
  | repeated {before n after} (hlayout : IsProper s.layout)
      (hnames : s.pages ++ s.components.map (·.name) = before ++ n :: after)
      (hbefore : ∀ m ∈ before, IsProper m) (hdistinct : ("base" :: before).Nodup)
      (hproper : IsProper n) (h : n ∈ "base" :: before) : FirstViolation s (.repeatedName n)
  | requirement {before c after found r rest} (hlayout : IsProper s.layout)
      (hnames : ∀ n ∈ s.pages ++ s.components.map (·.name), IsProper n)
      (hdistinct : ("base" :: s.pages ++ s.components.map (·.name)).Nodup)
      (hcomponents : s.components = before ++ c :: after)
      (hbefore : ∀ other ∈ before, other.RequiresOthers) (hrequires : c.requires = found ++ r :: rest)
      (hfound : ∀ other ∈ found, IsProper other ∧ other ≠ c.name) (h : ¬ IsProper r) :
      FirstViolation s (.invalidRequirement c.name r)
  | itself {before c after found rest} (hlayout : IsProper s.layout)
      (hnames : ∀ n ∈ s.pages ++ s.components.map (·.name), IsProper n)
      (hdistinct : ("base" :: s.pages ++ s.components.map (·.name)).Nodup)
      (hcomponents : s.components = before ++ c :: after)
      (hbefore : ∀ other ∈ before, other.RequiresOthers)
      (hrequires : c.requires = found ++ c.name :: rest)
      (hfound : ∀ other ∈ found, IsProper other ∧ other ≠ c.name) (hproper : IsProper c.name) :
      FirstViolation s (.requiresItself c.name)

/-- A name of the sources: the layout's, a page's, a component's, or one that a component
requires. -/
def Sources.Uses (s : Sources) (name : String) : Prop :=
  name = s.layout ∨ name ∈ s.pages ∨ ∃ c ∈ s.components, name = c.name ∨ name ∈ c.requires

theorem isName_iff {n : String} : isName n = true ↔ IsProper n := by
  simp only [isName, Bool.and_eq_true, Bool.not_eq_true', decide_eq_true_eq, List.contains_eq_mem,
    decide_eq_false_iff_not, String.isEmpty_eq_false_iff]
  exact ⟨fun h => ⟨h.1.1.1, h.1.1.2, h.1.2, h.2⟩,
    fun h => ⟨⟨⟨h.not_blank, h.no_slash⟩, h.no_backslash⟩, h.ne_above⟩⟩

theorem no_slash_of_isName {n : String} (h : isName n = true) : '/' ∉ n.toList :=
  (isName_iff.1 h).no_slash

/-! ### Names -/

variable {seen l : List String}

theorem checkNames_of_not_isProper {n : String} (h : ¬ IsProper n) :
    checkNames seen (n :: l) = .error (.invalidName n) := by
  rw [checkNames, if_pos (by simpa [← isName_iff] using h)]

theorem checkNames_of_mem {n : String} (h : IsProper n) (hmem : n ∈ seen) :
    checkNames seen (n :: l) = .error (.repeatedName n) := by
  rw [checkNames, if_neg (by simp [isName_iff.2 h]), if_pos (by simpa using hmem)]

theorem checkNames_of_not_mem {n : String} (h : IsProper n) (hmem : n ∉ seen) :
    checkNames seen (n :: l) = checkNames (n :: seen) l := by
  rw [checkNames, if_neg (by simp [isName_iff.2 h]), if_neg (by simpa using hmem)]

theorem nodup_middle {n : String} : (seen ++ n :: l).Nodup ↔ (n :: seen ++ l).Nodup :=
  List.perm_middle.nodup_iff

theorem checkNames_eq_ok_iff (hseen : seen.Nodup) :
    checkNames seen l = .ok () ↔ (∀ n ∈ l, IsProper n) ∧ (seen ++ l).Nodup := by
  induction l generalizing seen with
  | nil => simpa [checkNames] using hseen
  | cons n l ih =>
    rw [List.forall_mem_cons, nodup_middle]
    by_cases hproper : IsProper n
    · by_cases hmem : n ∈ seen
      · rw [checkNames_of_mem hproper hmem]
        exact iff_of_false (by simp) fun h =>
          (List.nodup_cons.1 h.2).1 (List.mem_append_left _ hmem)
      · rw [checkNames_of_not_mem hproper hmem, ih (List.nodup_cons.2 ⟨hmem, hseen⟩),
          and_iff_right hproper]
    · rw [checkNames_of_not_isProper hproper]
      exact iff_of_false (by simp) fun h => hproper h.1.1

/-- The names before the one that is told are proper and all different. -/
theorem checkNames_eq_error_iff {f : Fault} (hseen : seen.Nodup) :
    checkNames seen l = .error f ↔ ∃ before n after, l = before ++ n :: after ∧
      (∀ m ∈ before, IsProper m) ∧ (seen ++ before).Nodup ∧
        ((¬ IsProper n ∧ f = .invalidName n) ∨
          IsProper n ∧ n ∈ seen ++ before ∧ f = .repeatedName n) := by
  induction l generalizing seen with
  | nil => exact iff_of_false nofun (by simp)
  | cons n l ih =>
    rw [exists_split_cons]
    by_cases hproper : IsProper n
    · by_cases hmem : n ∈ seen
      · have hnever : ∀ before, ¬ (seen ++ n :: before).Nodup := fun before h =>
          (List.nodup_cons.1 (nodup_middle.1 h)).1 (List.mem_append_left _ hmem)
        rw [checkNames_of_mem hproper hmem]
        simp [hproper, hmem, hseen, hnever, eq_comm]
      · rw [checkNames_of_not_mem hproper hmem, ih (List.nodup_cons.2 ⟨hmem, hseen⟩)]
        simp [hproper, hmem, nodup_middle, or_left_comm]
    · have hnever : ∀ before, ¬ ∀ m ∈ n :: before, IsProper m := fun _ h =>
        hproper (h n List.mem_cons_self)
      rw [checkNames_of_not_isProper hproper]
      simp only [hnever, false_and, and_false, exists_false, or_false]
      simp [hproper, hseen, eq_comm]

/-! ### Requirements -/

variable {s : Sources} {c : Component} {f : Fault} {r : String}

/-- The check of one requirement. -/
def Component.checkOne (c : Component) (r : String) : Except Fault Unit :=
  if !isName r then .error (.invalidRequirement c.name r)
  else if r = c.name then .error (.requiresItself c.name)
  else .ok ()

theorem Component.check_eq (c : Component) : c.check = c.requires.forM c.checkOne :=
  rfl

theorem Component.checkOne_eq_ok_iff : c.checkOne r = .ok () ↔ IsProper r ∧ r ≠ c.name := by
  rw [checkOne, ← isName_iff]
  split_ifs with hname hself
  · exact iff_of_false nofun fun h => by simp [h.1] at hname
  · exact iff_of_false nofun fun h => h.2 hself
  · exact iff_of_true rfl ⟨by simpa using hname, hself⟩

/-- Of two faults of one requirement the form of its name is told. -/
theorem Component.checkOne_eq_error_iff : c.checkOne r = .error f ↔
    (¬ IsProper r ∧ f = .invalidRequirement c.name r) ∨
      IsProper r ∧ r = c.name ∧ f = .requiresItself c.name := by
  rw [checkOne, ← isName_iff]
  split_ifs with hname hself
  · simp [show isName r = false by simpa using hname, eq_comm]
  · subst hself
    simp [show isName c.name = true by simpa using hname, eq_comm]
  · simp [show isName r = true by simpa using hname, hself]

theorem Component.check_eq_ok_iff : c.check = .ok () ↔ c.RequiresOthers := by
  rw [check_eq, forM_eq_ok_iff]
  exact forall₂_congr fun r _ => checkOne_eq_ok_iff

theorem Component.check_eq_error_iff : c.check = .error f ↔
    ∃ found r rest, c.requires = found ++ r :: rest ∧
      (∀ other ∈ found, IsProper other ∧ other ≠ c.name) ∧
        ((¬ IsProper r ∧ f = .invalidRequirement c.name r) ∨
          IsProper r ∧ r = c.name ∧ f = .requiresItself c.name) := by
  rw [check_eq, forM_eq_error_iff]
  simp only [checkOne_eq_ok_iff, checkOne_eq_error_iff]

/-! ### Sources -/

/-- The layout is looked at first, then the names, then the components. -/
theorem Sources.check_eq (s : Sources) : s.check =
    if isName s.layout then
      checkNames [baseName] s.names >>= fun _ => s.components.forM Component.check
    else .error (.invalidLayout s.layout) := by
  rw [Sources.check]
  cases isName s.layout <;> rfl

theorem Sources.checkNames_eq_ok_iff : checkNames [baseName] s.names = .ok () ↔
    (∀ n ∈ s.pages ++ s.components.map (·.name), IsProper n) ∧
      ("base" :: s.pages ++ s.components.map (·.name)).Nodup :=
  Config.checkNames_eq_ok_iff (List.nodup_singleton _)

theorem Sources.check_eq_ok_iff : s.check = .ok () ↔ s.IsSound := by
  rw [check_eq]
  split_ifs with hlayout
  · cases hnames : checkNames [baseName] s.names with
    | error f =>
      refine iff_of_false nofun fun h => ?_
      rw [Sources.checkNames_eq_ok_iff.2 ⟨h.names, h.distinct⟩] at hnames
      cases hnames
    | ok u =>
      obtain ⟨hproper, hdistinct⟩ := Sources.checkNames_eq_ok_iff.1 hnames
      refine forM_eq_ok_iff.trans ⟨fun h => ?_, fun h c hc => ?_⟩
      · exact ⟨isName_iff.1 hlayout, hproper, hdistinct,
          fun c hc => Component.check_eq_ok_iff.1 (h c hc)⟩
      · exact Component.check_eq_ok_iff.2 (h.requires c hc)
  · exact iff_of_false nofun fun h => hlayout (isName_iff.2 h.layout)

/-- All names of sources that pass the check are names. -/
theorem Sources.isName_of_check (h : s.check = .ok ()) {n : String} (hn : s.Uses n) :
    isName n = true := by
  have hs := check_eq_ok_iff.1 h
  rcases hn with rfl | hpage | ⟨c, hc, rfl | hrequired⟩
  · exact isName_iff.2 hs.layout
  · exact isName_iff.2 (hs.names n (List.mem_append_left _ hpage))
  · exact isName_iff.2 (hs.names c.name (List.mem_append_right _ (List.mem_map_of_mem hc)))
  · exact isName_iff.2 (hs.requires c hc n hrequired).1

/-- The stage that tells the violation, after the stages before it have passed. -/
theorem Sources.check_eq_error_cases : s.check = .error f ↔
    (¬ IsProper s.layout ∧ f = .invalidLayout s.layout) ∨
      IsProper s.layout ∧ (checkNames [baseName] s.names = .error f ∨
        checkNames [baseName] s.names = .ok () ∧ s.components.forM Component.check = .error f) := by
  rw [check_eq, ← isName_iff]
  split_ifs with hlayout
  · cases checkNames [baseName] s.names with
    | error f' => simp [hlayout, Bind.bind, Except.bind]
    | ok u => simp [hlayout, Bind.bind, Except.bind]
  · simp [hlayout, eq_comm]

theorem Sources.check_eq_error_iff : s.check = .error f ↔ FirstViolation s f := by
  rw [check_eq_error_cases, Config.checkNames_eq_error_iff (List.nodup_singleton _),
    Sources.checkNames_eq_ok_iff, forM_eq_error_iff]
  simp only [Component.check_eq_ok_iff, Component.check_eq_error_iff]
  constructor
  · rintro (⟨hlayout, rfl⟩ | ⟨hlayout, ⟨before, n, after, hnames, hbefore, hdistinct, hn⟩ |
      ⟨⟨hnames, hdistinct⟩, before, c, after, hcomponents, hbefore, found, r, rest, hrequires,
        hfound, hr⟩⟩)
    · exact .layout hlayout
    · rcases hn with ⟨hn, rfl⟩ | ⟨hn, hmem, rfl⟩
      · exact .name hlayout hnames hbefore hdistinct hn
      · exact .repeated hlayout hnames hbefore hdistinct hn hmem
    · rcases hr with ⟨hr, rfl⟩ | ⟨hr, rfl, rfl⟩
      · exact .requirement hlayout hnames hdistinct hcomponents hbefore hrequires hfound hr
      · exact .itself hlayout hnames hdistinct hcomponents hbefore hrequires hfound hr
  · intro h
    cases h with
    | layout hlayout => exact .inl ⟨hlayout, rfl⟩
    | name hlayout hnames hbefore hdistinct hn =>
      exact .inr ⟨hlayout, .inl ⟨_, _, _, hnames, hbefore, hdistinct, .inl ⟨hn, rfl⟩⟩⟩
    | repeated hlayout hnames hbefore hdistinct hn hmem =>
      exact .inr ⟨hlayout, .inl ⟨_, _, _, hnames, hbefore, hdistinct, .inr ⟨hn, hmem, rfl⟩⟩⟩
    | requirement hlayout hnames hdistinct hcomponents hbefore hrequires hfound hr =>
      exact .inr ⟨hlayout, .inr ⟨⟨hnames, hdistinct⟩, _, _, _, hcomponents, hbefore, _, _, _,
        hrequires, hfound, .inl ⟨hr, rfl⟩⟩⟩
    | itself hlayout hnames hdistinct hcomponents hbefore hrequires hfound hc =>
      exact .inr ⟨hlayout, .inr ⟨⟨hnames, hdistinct⟩, _, _, _, hcomponents, hbefore, _, _, _,
        hrequires, hfound, .inr ⟨hc, rfl, rfl⟩⟩⟩

-- a component takes the name of a page and requires what is no name
example : Sources.check ⟨"t", "frame", ["home"], [⟨"home", ["/"]⟩]⟩ =
    .error (.repeatedName "home") := rfl

end LivePages.Config
