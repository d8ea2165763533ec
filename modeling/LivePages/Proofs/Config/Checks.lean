import Mathlib.Tactic.SplitIfs
import LivePages.Config.Settings

/-! Checks over a list, which pass when every element does and fail of the first that does not, and what
is known of settings that have been checked. -/

namespace LivePages.Config

theorem forM_eq_ok_iff {α ε : Type} {f : α → Except ε Unit} {l : List α} :
    l.forM f = .ok () ↔ ∀ a ∈ l, f a = .ok () := by
  rw [List.forM_eq_forM]
  induction l with
  | nil => exact iff_of_true rfl (List.forall_mem_nil _)
  | cons a r ih =>
    rw [List.forM_cons, List.forall_mem_cons, ← ih]
    cases f a with
    | error e => exact iff_of_false nofun (fun h => nomatch h.1)
    | ok u => exact ⟨fun h => ⟨rfl, h⟩, fun h => h.2⟩

/-- The element that is told is the first one, or it comes later. -/
theorem exists_split_cons {α : Type} {P : List α → α → Prop} {a : α} {l : List α} :
    (∃ before x after, a :: l = before ++ x :: after ∧ P before x) ↔
      P [] a ∨ ∃ before x after, l = before ++ x :: after ∧ P (a :: before) x := by
  constructor
  · rintro ⟨before, x, after, hl, hx⟩
    cases before with
    | nil =>
      obtain ⟨rfl, rfl⟩ := List.cons.inj hl
      exact .inl hx
    | cons b before =>
      obtain ⟨rfl, rfl⟩ := List.cons.inj hl
      exact .inr ⟨before, x, after, rfl, hx⟩
  · rintro (ha | ⟨before, x, after, rfl, hx⟩)
    · exact ⟨[], a, l, rfl, ha⟩
    · exact ⟨a :: before, x, after, rfl, hx⟩

/-- A check of all elements fails at the first that fails. -/
theorem forM_eq_error_iff {α ε : Type} {f : α → Except ε Unit} {l : List α} {e : ε} :
    l.forM f = .error e ↔ ∃ before a after, l = before ++ a :: after ∧
      (∀ x ∈ before, f x = .ok ()) ∧ f a = .error e := by
  induction l with
  | nil => exact iff_of_false nofun (by simp)
  | cons a l ih =>
    have hstep : (a :: l).forM f = (f a >>= fun _ => l.forM f) := rfl
    rw [hstep, exists_split_cons]
    cases ha : f a with
    | error e' => simp [ha, Bind.bind, Except.bind]
    | ok u => simpa [ha, Bind.bind, Except.bind] using ih

/-- Every address that passes the check begins as one. -/
theorem Mirrors.isAddress_of_check {m : Mirrors} (h : m.check = .ok ()) :
    ∀ url ∈ m.url :: m.mirrors.map (·.2), isAddress url = true := by
  intro url hurl
  have hone := forM_eq_ok_iff.1 h url hurl
  split_ifs at hone with haddress
  exact haddress

/-- Settings pass when their sources do, the root is a folder, and their addresses do. -/
theorem Settings.run_check_eq_ok_iff {s : Settings} {d : Disk} :
    s.check.run d = .ok () ↔
      s.sources.check = .ok () ∧ d (.isFolder s.sources.root) = true ∧ s.mirrors.check = .ok () := by
  rw [Settings.check, Ask.run_bind, Ask.run_pure, Ask.isFolder, Ask.run, Ask.run]
  cases s.sources.check with
  | error f => exact iff_of_false nofun (fun h => nomatch h.1)
  | ok u =>
    cases d (.isFolder s.sources.root) with
    | false => exact iff_of_false nofun (fun h => nomatch h.2.1)
    | true => exact ⟨fun h => ⟨rfl, rfl, h⟩, fun h => h.2.2⟩

end LivePages.Config
