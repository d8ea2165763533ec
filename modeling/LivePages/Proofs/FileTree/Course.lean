import LivePages.FileTree.Ask

/-! The course of a program over a disk that may change between two questions: how far it comes when
each question is answered by one of some disks, and what holds of its result whatever the answers
are. -/

namespace LivePages.Ask

variable {α β : Type}

/-- `p` comes as far as `q` when disks of `D` answer its questions. -/
inductive Reaches (D : Disk → Prop) (p : Ask α) : Ask α → Prop
  | refl : Reaches D p p
  | step {q : Question} {next : q.Answer → Ask α} {d : Disk} (h : Reaches D p (.ask q next))
      (hd : D d) : Reaches D p (next (d q))

theorem Reaches.mono {D E : Disk → Prop} {p r : Ask α} (hDE : ∀ d, D d → E d)
    (h : Reaches D p r) : Reaches E p r := by
  induction h with
  | refl => exact .refl
  | step _ hd ih => exact ih.step (hDE _ hd)

/-- With one disk alone, what is still to be done gives the result of the whole. -/
theorem Reaches.run_eq {D : Disk → Prop} {d : Disk} {p r : Ask α} (hD : ∀ d', D d' → d' = d)
    (h : Reaches D p r) : r.run d = p.run d := by
  induction h with
  | refl => rfl
  | step _ hd ih =>
    obtain rfl := hD _ hd
    exact ih

/-- The result satisfies `Q` whatever the answers are. -/
def Every (Q : α → Prop) : Ask α → Prop
  | .done a => Q a
  | .ask _ next => ∀ a, (next a).Every Q

theorem Every.bind {Q : β → Prop} {R : α → Prop} {p : Ask α} {f : α → Ask β} (h : p.Every R)
    (hf : ∀ a, R a → (f a).Every Q) : (p >>= f).Every Q := by
  induction p with
  | done a => exact hf a h
  | ask q next ih => exact fun a => ih a (h a)

theorem Every.mono {Q R : α → Prop} {p : Ask α} (h : p.Every Q) (hQR : ∀ a, Q a → R a) :
    p.Every R := by
  induction p with
  | done a => exact hQR a h
  | ask q next ih => exact fun a => ih a (h a)

theorem every_true (p : Ask α) : p.Every fun _ => True := by
  induction p with
  | done a => trivial
  | ask q next ih => exact ih

theorem Every.reaches {Q : α → Prop} {D : Disk → Prop} {p r : Ask α} (hp : p.Every Q)
    (h : Reaches D p r) : r.Every Q := by
  induction h with
  | refl => exact hp
  | step _ _ ih => exact ih _

/-- All questions that come up satisfy `P` as long as every answer satisfies `A`. -/
def Asks (A : (q : Question) → q.Answer → Prop) (P : Question → Prop) : Ask α → Prop
  | .done _ => True
  | .ask q next => P q ∧ ∀ a, A q a → (next a).Asks A P

section Asks

variable {A : (q : Question) → q.Answer → Prop} {P : Question → Prop}

theorem Asks.bind {p : Ask α} {f : α → Ask β} (h : p.Asks A P) (hf : ∀ a, (f a).Asks A P) :
    (p >>= f).Asks A P := by
  induction p with
  | done a => exact hf a
  | ask q next ih => exact ⟨h.1, fun a ha => ih a (h.2 a ha)⟩

theorem Asks.reaches {D : Disk → Prop} {p r : Ask α} (hp : p.Asks A P)
    (hD : ∀ d, D d → ∀ q, A q (d q)) (h : Reaches D p r) : r.Asks A P := by
  induction h with
  | refl => exact hp
  | step _ hd ih => exact ih.2 _ (hD _ hd _)

end Asks

/-- The questions of a run over one disk, in order. -/
def questions (d : Disk) : Ask α → List Question
  | .done _ => []
  | .ask q next => q :: (next (d q)).questions d

theorem Reaches.trans {D : Disk → Prop} {p r t : Ask α} (h : Reaches D p r) (h' : Reaches D r t) :
    Reaches D p t := by
  induction h' with
  | refl => exact h
  | step _ hd ih => exact ih.step hd

theorem exists_reaches_of_mem_questions {d : Disk} {p : Ask α} {q : Question}
    (h : q ∈ p.questions d) : ∃ next, Reaches (· = d) p (.ask q next) := by
  induction p with
  | done a => cases h
  | ask q' next ih =>
    rcases List.mem_cons.1 h with rfl | h
    · exact ⟨next, .refl⟩
    · obtain ⟨next', hreach⟩ := ih (d q') h
      exact ⟨next', Reaches.trans (.step .refl rfl) hreach⟩

/-- The result when one disk after the other answers, each of them one question. -/
def runThrough (ds : Nat → Disk) : Ask α → α
  | .done a => a
  | .ask q next => (next (ds 0 q)).runThrough fun i => ds (i + 1)

theorem Every.runThrough {Q : α → Prop} {p : Ask α} (h : p.Every Q) (ds : Nat → Disk) :
    Q (p.runThrough ds) := by
  induction p generalizing ds with
  | done a => exact h
  | ask q next ih => exact ih (ds 0 q) (h _) _

/-- Nothing more is asked after `p`. -/
theorem runThrough_bind_pure {p : Ask α} {f : α → Ask β} {g : α → β} (hf : ∀ a, f a = pure (g a))
    (ds : Nat → Disk) : (p >>= f).runThrough ds = g (p.runThrough ds) := by
  induction p generalizing ds with
  | done a =>
    change (f a).runThrough ds = g a
    rw [hf]
    rfl
  | ask q next ih => exact ih (ds 0 q) fun i => ds (i + 1)

instance : LawfulMonad Ask :=
  LawfulMonad.mk' Ask
    (by
      intro α p
      induction p with
      | done a => rfl
      | ask q next ih => exact congrArg (Ask.ask q) (funext ih))
    (fun _ _ => rfl)
    (by
      intro α β γ p f g
      induction p with
      | done a => rfl
      | ask q next ih => exact congrArg (Ask.ask q) (funext ih))

@[simp] theorem run_map (d : Disk) (f : α → β) (p : Ask α) : (f <$> p).run d = f (p.run d) := by
  rw [map_eq_pure_bind, run_bind, run_pure]

theorem run_mapM (f : α → Ask β) (d : Disk) (l : List α) :
    (l.mapM f).run d = l.map fun a => (f a).run d := by
  induction l with
  | nil => rfl
  | cons a l ih => simp only [List.mapM_cons, run_bind, run_pure, ih, List.map_cons]

end LivePages.Ask
