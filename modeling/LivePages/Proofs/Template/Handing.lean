import LivePages.Proofs.Template.Following
import LivePages.Proofs.Template.Reading
import LivePages.Proofs.Template.Single

/-! Templates that hand variables of the data to a filter or a function: their texts, what is read from
them, and what rendering them comes to. -/

namespace LivePages.Template

/-! ### Handing variables over -/

/-- How a template hands variables to a filter or a function. -/
inductive Handing
  | filter (handed helper : String)
  | call (helper : String) (args : List (String × String))

namespace Handing

def text : Handing → String
  | .filter x f => "\x7b\x7b " ++ x ++ " | " ++ f ++ " \x7d\x7d"
  | .call f args => "\x7b\x7b " ++ f ++ "(" ++ argsText args ++ ") \x7d\x7d"

/-- What the text says. -/
def expr : Handing → Expr
  | .filter x f => .mk (.path x) false [.mk f []]
  | .call f args => .plain (.call (.mk f (lastOfEach (argsExprs args))))

/-- The variables that are handed over: of arguments with one name the last counts. -/
def handed : Handing → List String
  | .filter x _ => [x]
  | .call _ args => (lastOfEach args).map (·.2)

/-- The names in the text are read as such: in front of a bar, `not` would be a negation. -/
def IsReadable : Handing → Prop
  | .filter x f => IsVariable x.toList ∧ x ≠ "not" ∧ isNamed f.toList = true
  | .call f args => IsVariable f.toList ∧ AreArguments args

end Handing

/-- The text is read as what it looks like. -/
theorem Handing.read_text {h : Handing} (hh : h.IsReadable) (name : String) :
    Source.read name h.text = .ok (.outputting name h.expr) := by
  cases h with
  | filter x f =>
    obtain ⟨hx, hnot, hf⟩ := hh
    have htext : (Handing.filter x f).text = String.ofList ("\x7b\x7b ".toList ++
        (x.toList ++ ' ' :: '|' :: ' ' :: (f.toList ++ " \x7d\x7d".toList))) := by
      rw [← String.toList_inj]
      simp [Handing.text]
    have hvalue := value?_filter hx (fun h => hnot (String.toList_inj.1 h)) hf
      (endsTerm_output ['\x7d']) (endsValue_output ['\x7d'])
    rw [String.ofList_toList, String.ofList_toList] at hvalue
    rw [htext]
    refine read_output name (skipSpace_of_isNamed hx.named _) ?_ rfl
    exact expression?_of_value? (k := 0) (Nat.zero_le _) fun n => hvalue (n + 10)
  | call f args =>
    obtain ⟨hf, hargs⟩ := hh
    have htext : (Handing.call f args).text = String.ofList ("\x7b\x7b ".toList ++
        (f.toList ++ '(' :: ((argsText args).toList ++ ')' :: " \x7d\x7d".toList))) := by
      rw [← String.toList_inj]
      simp [Handing.text]
    have hvalue := value?_call hf hargs (endsTerm_output ['\x7d']) (endsValue_output ['\x7d'])
    have hlength := length_argsText args
    rw [String.ofList_toList] at hvalue
    rw [htext]
    refine read_output name (skipSpace_of_isNamed hf.named _) ?_ ?_
    · refine expression?_of_value? (k := args.length) ?_ hvalue
      simp only [List.length_append, List.length_cons]
      omega
    · change argsWholes (lastOfEach (argsExprs args)) ++ [] = []
      rw [lastOfEach_argsExprs, argsWholes_argsExprs]
      rfl

/-! ### Values of variables -/

theorem cutAt_of_not_mem {sep : Char} {a : List Char} (h : sep ∉ a) : Text.cutAt sep a = (a, none) := by
  induction a with
  | nil => rfl
  | cons c r ih =>
    rw [List.mem_cons, not_or] at h
    rw [Text.cutAt, if_neg (Ne.symm h.1), ih h.2]

theorem not_mem_of_isNamed {x : List Char} (hx : isNamed x = true) {c : Char}
    (hc : isNameChar c = false) : c ∉ x := by
  intro hmem
  rw [isNameChar_of_isNamed hx c hmem] at hc
  cases hc

theorem firstStep_of_isNamed {x : String} (hx : isNamed x.toList = true) :
    firstStep x = (x, none) := by
  rw [firstStep, cutAt_of_not_mem (not_mem_of_isNamed hx (c := '.') rfl)]
  simp

/-- At the start of a rendering a name means the field of the data, if there is one. -/
theorem value_start (j : Job) {x : String} (hx : isNamed x.toList = true) (hdump : x ≠ dumpPath) :
    j.value j.start x =
      (j.data.get? x).elim (.error (.unknownPath x j.template.name)) .ok := by
  have hbracket : hasBracket x = false := by
    have hmem := not_mem_of_isNamed hx (c := '[') rfl
    simpa [hasBracket] using hmem
  have hfind : Scope.find? ⟨j.data, j.start.frames⟩ x = j.data.get? x := by
    have hframes : findInFrames x j.start.frames = none := by
      simp [Job.start, findInFrames, Frame.find?, Frame.local?, FrameKind.isFloor]
    have hdata : inData? j.data x = j.data.get? x := by
      rw [inData?, firstStep_of_isNamed hx]
      cases h : j.data.get? x <;> simp [h, insideOpt?]
    rw [Scope.find?, hframes, hdata]
    rfl
  rw [Job.value, Scope.value, if_neg hdump, Scope.lookup, hbracket]
  rw [Bool.not_false, if_pos rfl, hfind]
  cases j.data.get? x with
  | none => rfl
  | some v => rfl

/-! ### Evaluation -/

theorem escapeIf_false (v : Json) : escapeIf false v = v := by
  cases v <;> rfl

variable {j : Job} {s : State}

/-- A variable evaluates to what it means. -/
theorem eval_variable (j : Job) (s : State) (x : String) (n : Nat) :
    eval j (n + 2) false (.plain (.path x)) s = some (j.value s x, s) := by
  rw [eval]
  refine (Run.bind_ok (a := j.value s x) rfl).trans ?_
  cases j.value s x with
  | error f => rfl
  | ok v =>
    have hdefault : (Expr.plain (.path x)).startsWithDefault = false := rfl
    simp only [hdefault, Bool.and_false, Bool.false_eq_true, if_false, finish]
    change some (Except.ok (escapeIf false v), s) = _
    rw [escapeIf_false]

/-- Arguments evaluate to the values of their variables, or fail at the first that has none. -/
theorem evalArgs_argsExprs (j : Job) (s : State) (args : List (String × String)) (n : Nat) :
    evalArgs j (n + 3) (argsExprs args) s =
      some (args.mapM fun a => (j.value s a.2).map fun v => (a.1, v), s) := by
  rw [evalArgs]
  induction args with
  | nil => rfl
  | cons a r ih =>
    have hvalue := eval_variable j s a.2 n
    have hcons : argsExprs (a :: r) = (a.1, .plain (.path a.2)) :: argsExprs r := rfl
    rw [hcons, List.mapM_cons, List.mapM_cons]
    cases hv : j.value s a.2 with
    | error f =>
      rw [hv] at hvalue
      exact Run.bind_error (Run.bind_error hvalue)
    | ok v =>
      rw [hv] at hvalue
      refine (Run.bind_ok (a := (a.1, v)) (Run.bind_ok hvalue)).trans ?_
      cases hr : r.mapM fun a => (j.value s a.2).map fun v => (a.1, v) with
      | error f =>
        rw [hr] at ih
        exact Run.bind_error ih
      | ok vs =>
        rw [hr] at ih
        exact Run.bind_ok ih

theorem mapM_ok_or_error {α β ε : Type} (g : α → Except ε β) (l : List α) :
    (∃ bs, l.mapM g = .ok bs) ∧ (∀ a ∈ l, ∃ b, g a = .ok b) ∨
      ∃ a ∈ l, ∃ e, g a = .error e ∧ l.mapM g = .error e := by
  induction l with
  | nil => exact .inl ⟨⟨[], rfl⟩, List.forall_mem_nil _⟩
  | cons a r ih =>
    rw [List.mapM_cons]
    cases ha : g a with
    | error e => exact .inr ⟨a, List.mem_cons_self, e, ha, rfl⟩
    | ok b =>
      rcases ih with ⟨⟨bs, hbs⟩, hall⟩ | ⟨a', ha', e, he, herror⟩
      · rw [hbs]
        exact .inl ⟨⟨b :: bs, rfl⟩, List.forall_mem_cons.2 ⟨⟨b, ha⟩, hall⟩⟩
      · rw [herror]
        exact .inr ⟨a', List.mem_cons_of_mem _ ha', e, he, rfl⟩

/-- The library has the filter or function, and that gives a value whatever it is handed. The marks for
safe texts and default values are no filters. -/
def Handing.IsTotal (library : Library) : Handing → Prop
  | .filter _ f => isMark (.mk f []) = false ∧
      ∃ g, library.filter? f = some g ∧ ∀ v args, ∃ w, g.apply v args = .ok w
  | .call f _ => ∃ g, library.function? f = some g ∧ ∀ args, ∃ w, g.call args = .ok w

/-- The fault that a fault of a variable becomes. -/
def Handing.wrap : Handing → Fault → Fault
  | .filter _ _ => id
  | .call f _ => .inFunction f

theorem Run.within_eq {α : Type} {x : Run α} {r : Except Fault α} {t : State} (wrap : Fault → Fault)
    (h : x s = some (r, t)) : Run.within wrap x s = some (r.mapError wrap, t) := by
  rw [Run.within, h]
  rfl

theorem applyFilter_total {f : String} {g : Filter} (hg : j.engine.library.filter? f = some g)
    (htotal : ∀ v args, ∃ w, g.apply v args = .ok w) (v : Json) (n : Nat) :
    ∃ w, applyFilter j (n + 2) (.mk f []) v s = some (.ok (w, !g.safe), s) := by
  obtain ⟨w, hw⟩ := htotal v []
  have hargs : evalArgs j (n + 1) [] s = some (.ok [], s) := rfl
  refine ⟨w, ?_⟩
  simp only [applyFilter, Call.name, hg]
  refine Run.within_eq (r := .ok (w, !g.safe)) _ ((Run.bind_ok hargs).trans ?_)
  rw [hw]
  rfl

/-- Whatever the variable means, the filter gives a value for it. -/
theorem eval_filter {x f : String} (h : (Handing.filter x f).IsTotal j.engine.library)
    (escape : Bool) (n : Nat) :
    (∃ v w, j.value s x = .ok v ∧
        eval j (n + 6) escape (Handing.filter x f).expr s = some (.ok w, s)) ∨
      ∃ e, j.value s x = .error e ∧
        eval j (n + 6) escape (Handing.filter x f).expr s = some (.error e, s) := by
  obtain ⟨hmark, g, hg, htotal⟩ := h
  have hdefault : (Handing.filter x f).expr.startsWithDefault = false :=
    (Bool.or_eq_false_iff.1 hmark).2
  have hfilters : ((Handing.filter x f).expr.filters.filter fun f => !isMark f) = [.mk f []] := by
    change [Call.mk f []].filter _ = _
    rw [List.filter_cons_of_pos (by rw [hmark]; rfl), List.filter_nil]
  rw [eval]
  cases hv : j.value s x with
  | error e =>
    refine .inr ⟨e, rfl, ?_⟩
    refine (Run.bind_ok (a := j.value s x) rfl).trans ?_
    rw [hv, hdefault]
    rfl
  | ok v =>
    obtain ⟨w, hw⟩ := applyFilter_total (s := s) hg htotal v (n + 2)
    refine .inl ⟨v, escapeIf (escape && !g.safe && !(Handing.filter x f).expr.endsWithSafe) w, rfl, ?_⟩
    refine (Run.bind_ok (a := j.value s x) rfl).trans ?_
    rw [hv]
    simp only [hdefault, Bool.and_false, Bool.false_eq_true, if_false, finish, hfilters,
      List.foldlM_cons, List.foldlM_nil, bind_pure]
    exact (Run.bind_ok hw).trans rfl

theorem callFunction_total {f : String} {g : Function} (hg : j.engine.library.function? f = some g)
    (htotal : ∀ args, ∃ w, g.call args = .ok w) (args : List (String × String)) (n : Nat) :
    (∃ w, callFunction j (n + 4) (.mk f (argsExprs args)) s = some (.ok (w, !g.safe), s)) ∧
        (∀ a ∈ args, ∃ v, j.value s a.2 = .ok v) ∨
      ∃ a ∈ args, ∃ e, j.value s a.2 = .error e ∧
        callFunction j (n + 4) (.mk f (argsExprs args)) s = some (.error (.inFunction f e), s) := by
  have hargs := evalArgs_argsExprs j s args n
  rcases mapM_ok_or_error (fun a => (j.value s a.2).map fun v => (a.1, v)) args with
    ⟨⟨vs, hvs⟩, hall⟩ | ⟨a, ha, e, he, herror⟩
  · obtain ⟨w, hw⟩ := htotal vs
    rw [hvs] at hargs
    refine .inl ⟨⟨w, ?_⟩, fun a ha => ?_⟩
    · simp only [callFunction, Call.name, hg]
      refine Run.within_eq (r := .ok (w, !g.safe)) _ ((Run.bind_ok hargs).trans ?_)
      rw [hw]
      rfl
    · obtain ⟨b, hb⟩ := hall a ha
      cases hv : j.value s a.2 with
      | error e =>
        rw [hv] at hb
        cases hb
      | ok v => exact ⟨v, rfl⟩
  · rw [herror] at hargs
    refine .inr ⟨a, ha, e, ?_, ?_⟩
    · cases hv : j.value s a.2 with
      | error e' =>
        rw [hv] at he
        cases he
        rfl
      | ok v =>
        rw [hv] at he
        cases he
    · simp only [callFunction, Call.name, hg]
      exact Run.within_eq (r := .error e) _ (Run.bind_error hargs)

/-- Where all variables mean something the value is there, and otherwise the fault of one that means
nothing is the fault of the whole. -/
theorem eval_handing {h : Handing} (hh : h.IsTotal j.engine.library) (escape : Bool) (n : Nat) :
    (∃ w, eval j (n + 6) escape h.expr s = some (.ok w, s)) ∧
        (∀ x ∈ h.handed, ∃ v, j.value s x = .ok v) ∨
      ∃ x ∈ h.handed, ∃ e, j.value s x = .error e ∧
        eval j (n + 6) escape h.expr s = some (.error (h.wrap e), s) := by
  cases h with
  | filter x f =>
    rcases eval_filter hh escape n with ⟨v, w, hv, hw⟩ | ⟨e, he, herror⟩
    · exact .inl ⟨⟨w, hw⟩, List.forall_mem_singleton.2 ⟨v, hv⟩⟩
    · exact .inr ⟨x, List.mem_singleton_self x, e, he, herror⟩
  | call f args =>
    obtain ⟨g, hg, htotal⟩ := hh
    rw [Handing.expr, lastOfEach_argsExprs, eval]
    rcases callFunction_total (s := s) hg htotal (lastOfEach args) n with
      ⟨⟨w, hw⟩, hall⟩ | ⟨a, ha, e, he, herror⟩
    · refine .inl ⟨⟨escapeIf (escape && !g.safe && !false) w, ?_⟩, ?_⟩
      · refine (Run.bind_ok (a := (w, !g.safe)) hw).trans ?_
        change finish j (n + 5) escape _ w (!g.safe) s = _
        rw [finish]
        rfl
      · intro x hx
        obtain ⟨a, ha, rfl⟩ := List.mem_map.1 hx
        exact hall a ha
    · refine .inr ⟨a.2, List.mem_map_of_mem ha, e, he, ?_⟩
      exact Run.bind_error herror

/-! ### Renderings -/

/-- An engine with nothing but a template that outputs a value. -/
def Engine.outputting (library : Library) (name : String) (e : Expr) : Engine :=
  ⟨library, [.outputting name e]⟩

/-- The rendering of that template with some data. -/
def Job.outputting (library : Library) (name : String) (e : Expr) (data : Json.Fields) : Job :=
  ⟨.outputting library name e, data, .outputting name e, []⟩

section Outputting

variable {library : Library} {name : String} {e : Expr} {data : Json.Fields} {n : Nat}
  {r : Except Fault Json}

/-- Its node puts out the value as it is shown, or fails with the fault that there is. -/
theorem renderEach_outputting
    (h : eval (.outputting library name e data) n (escapes name) e
      (Job.outputting library name e data).start =
        some (r, (Job.outputting library name e data).start)) :
    renderEach (render (.outputting library name e data) (n + 1) (escapes name))
        [.output ⟨false, false⟩ e] (Job.outputting library name e data).start =
      some (r.map shown, (Job.outputting library name e data).start) := by
  have hnode : render (.outputting library name e data) (n + 1) (escapes name)
      (.output ⟨false, false⟩ e) (Job.outputting library name e data).start =
        some (r.map shown, (Job.outputting library name e data).start) := by
    rw [render]
    cases r with
    | error f => exact Run.bind_error h
    | ok w => exact Run.bind_ok h
  cases r with
  | error f => exact Run.bind_error hnode
  | ok w =>
    refine (Run.bind_ok hnode).trans ?_
    change some (Except.ok (shown w ++ ""), _) = _
    rw [String.append_empty]
    rfl

theorem jobRender_outputting
    (h : eval (.outputting library name e data) n (escapes name) e
      (Job.outputting library name e data).start =
        some (r, (Job.outputting library name e data).start)) :
    Job.render (.outputting library name e data) (n + 1) (Job.outputting library name e data).start =
      some ((r.map shown).mapError
        (.failed ((Job.outputting library name e data).start.scene (.outputting library name e data))),
        (Job.outputting library name e data).start) := by
  change Run.placed _ (renderEach (render (.outputting library name e data) (n + 1) (escapes name))
    [.output ⟨false, false⟩ e]) _ = _
  rw [Run.placed, renderEach_outputting h]
  rfl

/-- The page is the value as it is shown, or nothing when there is none. -/
theorem renderWithin_outputting
    (h : eval (.outputting library name e data) n (escapes name) e
      (Job.outputting library name e data).start =
        some (r, (Job.outputting library name e data).start)) :
    (Engine.outputting library name e).renderWithin (n + 1) name (.obj data) =
      some ((r.map shown).mapError
        (.failed ((Job.outputting library name e data).start.scene (.outputting library name e data)))) := by
  have hfind : (Engine.outputting library name e).find? name = some (.outputting name e) := by
    rw [Engine.outputting, find?_single]
    exact if_pos rfl
  have habove : (Engine.outputting library name e).ancestors (.outputting name e) = .ok [] :=
    ancestors_single
  have hshelves : (Engine.outputting library name e).shelves (n + 1) (.outputting name e) = some [] := by
    rw [Engine.shelves, habove]
    rfl
  unfold Engine.renderWithin
  dsimp only
  rw [hfind]
  dsimp only
  rw [habove]
  exact Option.bind_eq_some_iff.2
    ⟨[], hshelves, Option.bind_eq_some_iff.2 ⟨_, jobRender_outputting h, rfl⟩⟩

end Outputting

theorem add_handing {h : Handing} (hh : h.IsReadable) (library : Library) (name : String) :
    (Engine.empty library).add [(name, h.text)] = .ok (.outputting library name h.expr) := by
  rw [add_single (h.read_text hh name)]
  rfl

theorem mem_of_mem_lastOfEach {α : Type} {l : List (String × α)} {a : String × α}
    (h : a ∈ lastOfEach l) : a ∈ l := by
  induction l with
  | nil => cases h
  | cons b r ih =>
    rw [lastOfEach] at h
    split_ifs at h
    · exact List.mem_cons_of_mem _ (ih h)
    · rcases List.mem_cons.1 h with rfl | h
      · exact List.mem_cons_self
      · exact List.mem_cons_of_mem _ (ih h)

theorem Handing.isNamed_handed {h : Handing} (hh : h.IsReadable) :
    ∀ x ∈ h.handed, isNamed x.toList = true := by
  cases h with
  | filter x f => exact List.forall_mem_singleton.2 hh.1.named
  | call f args =>
    intro x hx
    obtain ⟨a, ha, rfl⟩ := List.mem_map.1 hx
    exact (hh.2 a (mem_of_mem_lastOfEach ha)).2.named

/-- The name means something: a field of the data, or all of it. -/
def IsGiven (data : Json.Fields) (x : String) : Prop :=
  x = dumpPath ∨ (data.get? x).isSome

theorem value_of_isGiven {x : String} (hx : isNamed x.toList = true) :
    IsGiven j.data x ∧ (∃ v, j.value j.start x = .ok v) ∨
      ¬ IsGiven j.data x ∧ j.value j.start x = .error (.unknownPath x j.template.name) := by
  by_cases hdump : x = dumpPath
  · refine .inl ⟨.inl hdump, .str (Scope.dump ⟨j.data, j.start.frames⟩), ?_⟩
    rw [Job.value, Scope.value, if_pos hdump]
  · rw [value_start j hx hdump]
    cases hget : j.data.get? x with
    | none =>
      refine .inr ⟨?_, rfl⟩
      rintro (h | h)
      · exact hdump h
      · rw [hget] at h
        cases h
    | some v => exact .inl ⟨.inr (by rw [hget]; rfl), v, rfl⟩

/-- The page is there when all variables that are handed over are given, and otherwise it fails at one
that is not. -/
theorem render_handing {h : Handing} (hh : h.IsReadable) {library : Library}
    (htotal : h.IsTotal library) (name : String) (data : Json.Fields) :
    (∃ html, (Engine.outputting library name h.expr).render name (.obj data) = .ok html) ∧
        (∀ x ∈ h.handed, IsGiven data x) ∨
      ∃ x ∈ h.handed, ¬ IsGiven data x ∧ ∃ scene,
        (Engine.outputting library name h.expr).render name (.obj data) =
          .error (.failed scene (h.wrap (.unknownPath x name))) := by
  have hdepth : depthLimit = 9993 + 6 + 1 := rfl
  have hrender {r : Except Fault Json} (hr : eval (.outputting library name h.expr data) (9993 + 6)
      (escapes name) h.expr (Job.outputting library name h.expr data).start = some (r, _)) :=
    renderWithin_outputting hr
  have hvalue {x : String} (hx : x ∈ h.handed) :=
    value_of_isGiven (j := .outputting library name h.expr data) (h.isNamed_handed hh x hx)
  rw [Engine.render, hdepth]
  rcases eval_handing (j := .outputting library name h.expr data)
    (s := (Job.outputting library name h.expr data).start) htotal (escapes name) 9993 with
    ⟨⟨w, hw⟩, hall⟩ | ⟨x, hx, e, he, herror⟩
  · rw [hrender hw]
    refine .inl ⟨⟨shown w, rfl⟩, fun x hx => ?_⟩
    rcases hvalue hx with ⟨hgiven, -⟩ | ⟨-, hmissing⟩
    · exact hgiven
    · obtain ⟨v, hv⟩ := hall x hx
      rw [hmissing] at hv
      cases hv
  · rw [hrender herror]
    rcases hvalue hx with ⟨-, v, hv⟩ | ⟨hmissing, hfault⟩
    · rw [hv] at he
      cases he
    · rw [hfault] at he
      cases he
      exact .inr ⟨x, hx, hmissing, _, rfl⟩

end LivePages.Template
