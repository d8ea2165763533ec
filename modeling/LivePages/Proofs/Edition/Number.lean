import LivePages.Edition.Build
import LivePages.Proofs.FileTree.Course

/-! The number of an edition: the build puts the one it is given on what it finds, and nothing else of
the edition depends on it. -/

namespace LivePages.Edition

open Config (Sources)
open Template (Library)

theorem foldl_put (pages : List Page) (e : Edition) :
    pages.foldl put e = ⟨e.number, pages.foldl (fun ps p => putPage p ps) e.pages⟩ := by
  induction pages generalizing e with
  | nil => rfl
  | cons p pages ih => exact ih (e.put p)

@[simp] theorem number_ofPages (number : Nat) (pages : List Page) :
    (ofPages number pages).number = number := by
  rw [ofPages, foldl_put]

theorem renumber_ofPages (m n : Nat) (pages : List Page) :
    ofPages n pages = { ofPages m pages with number := n } := by
  rw [ofPages, ofPages, foldl_put, foldl_put]

/-- The pages that a build finds, before they become an edition. -/
def found (s : Sources) (library : Library) : Building (List Page) := do
  let components ← componentTexts s
  let base ← base s library components
  let pages ← s.pages.mapM (page s base)
  let alone ← s.components.mapM (component s library components)
  pure (⟨Config.baseName, s.layoutName, base⟩ :: pages ++ alone)

theorem build_eq (s : Sources) (library : Library) (number : Nat) :
    build s library number = ofPages number <$> found s library := by
  unfold build found
  simp only [map_eq_pure_bind, bind_assoc, pure_bind]

theorem run_build (s : Sources) (library : Library) (number : Nat) (d : Disk) :
    (build s library number).run.run d = ((found s library).run.run d).map (ofPages number) := by
  rw [build_eq, ExceptT.run_map, Ask.run_map]

/-- Builds of one disk under two numbers differ in the number alone. -/
theorem build_renumber {s : Sources} {library : Library} {m n : Nat} {d : Disk} {e : Edition}
    (h : (build s library m).run.run d = .ok e) :
    (build s library n).run.run d = .ok { e with number := n } := by
  rw [run_build] at h ⊢
  cases hp : (found s library).run.run d with
  | error f =>
    rw [hp] at h
    cases h
  | ok pages =>
    rw [hp] at h
    cases h
    exact congrArg Except.ok (renumber_ofPages m n pages)

/-! ### Whatever the disk answers -/

section Gives

variable {α β γ : Type} {P : α → Prop} {Q : β → Prop}

/-- What a build gives, if it does, satisfies `P` whatever the answers are. -/
def Gives (b : Building α) (P : α → Prop) : Prop :=
  b.run.Every fun r => ∀ a, r = .ok a → P a

theorem gives_pure {a : α} (h : P a) : Gives (pure a) P := fun _ ha =>
  Except.ok.inj ha ▸ h

theorem gives_true (b : Building α) : Gives b fun _ => True :=
  (Ask.every_true b.run).mono fun _ _ _ _ => trivial

theorem Gives.bind {b : Building α} {f : α → Building β} (hb : Gives b P)
    (hf : ∀ a, P a → Gives (f a) Q) : Gives (b >>= f) Q := by
  refine Ask.Every.bind hb fun r hr => ?_
  cases r with
  | ok a => exact hf a (hr a rfl)
  | error f => exact fun _ h => nomatch h

theorem gives_mapM {f : α → Building β} {l : List α} {g : β → γ} {k : α → γ}
    (h : ∀ a, Gives (f a) fun b => g b = k a) :
    Gives (l.mapM f) fun bs => bs.map g = l.map k := by
  induction l with
  | nil => exact gives_pure rfl
  | cons a l ih =>
    rw [List.mapM_cons]
    refine (h a).bind fun b hb => ih.bind fun bs hbs => gives_pure ?_
    rw [List.map_cons, List.map_cons, hb, hbs]

end Gives

/-- Whatever the disk answers, an edition that is built has the number that was given. -/
theorem every_number (s : Sources) (library : Library) (number : Nat) :
    (build s library number).run.Every fun r => ∀ e, r = .ok e → e.number = number := by
  rw [build_eq, map_eq_pure_bind]
  exact (gives_true (found s library)).bind fun pages _ => gives_pure (number_ofPages number pages)

end LivePages.Edition
