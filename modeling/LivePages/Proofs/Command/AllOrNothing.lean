import LivePages.Command.Outcome
import LivePages.Proofs.Command.Settling
import LivePages.Proofs.Edition.Building
import LivePages.Proofs.FileTree.Writing

/-! What a command leaves behind. A rendering that fails at any step prints nothing and leaves every
file as it was; one that succeeds prints the page, or writes it to its file and changes nothing else. -/

namespace LivePages.Command

open Config (Settings)
open Steps

variable {w : World} {words : List String} {i : Invocation}

/-- The run failed: nothing was printed, and all files are as they were. -/
def Outcome.Fails (o : Outcome) (w : World) : Prop :=
  o.code ≠ 0 ∧ o.output = "" ∧ o.world = w

/-- The run gave the page: on standard output, with all files as they were, or in the output file
alone. -/
def Outcome.Gives (o : Outcome) (w : World) (html : String) : Option String → Prop
  | none => o.code = 0 ∧ o.output = html ∧ o.world = w
  | some path =>
    o.code = 0 ∧ o.output = "" ∧ w.Wrote o.world path (Text.Utf8.encode html.toList)

/-- How a rendering that has come to `html` ends. -/
def pageEnding (name html : String) : Option String → Ending
  | none => .prints html
  | some path => .writes name path html

theorem settles_steps_render {d : Disk} {name : String} {data output : Option String}
    (h : i.action = .render name data output) : Settles d (steps i) fun e =>
      ∃ html, Renders d i name data html ∧ e = pageEnding name html output := by
  simp only [steps, h, renderPage]
  refine ((settles_configure d i).bind fun s _ => (settles_publish d s).bind fun p _ =>
    (settles_renderData d data).bind fun v _ => (settles_get _ _).bind fun html _ =>
      settles_pure (pageEnding name html output)).congr fun e => ?_
  constructor
  · rintro ⟨s, hs, p, hp, v, hv, html, hhtml, rfl⟩
    exact ⟨html, ⟨s, p, v, hs, hp, hv, hhtml⟩, rfl⟩
  · rintro ⟨html, ⟨s, p, v, hs, hp, hv, hhtml⟩, rfl⟩
    exact ⟨s, hs, p, hp, v, hv, html, hhtml, rfl⟩

theorem settles_steps_check {d : Disk} (h : i.action = .check) : Settles d (steps i) fun e =>
    (∃ s p, Configures d i s ∧ Compiles d s p) ∧ e = .checked := by
  simp only [steps, h]
  refine ((settles_configure d i).bind fun s _ => (settles_publish d s).bind
    (Q := fun _ e => e = Ending.checked) fun p _ => ?_).congr fun e => ?_
  · exact settles_say_bind (settles_pure _)
  · constructor
    · rintro ⟨s, hs, p, hp, rfl⟩
      exact ⟨⟨s, p, hs, hp⟩, rfl⟩
    · rintro ⟨⟨s, p, hs, hp⟩, rfl⟩
      exact ⟨s, hs, p, hp, rfl⟩

/-! ### Runs -/

theorem fails_failing (w : World) (l : List Notice) (r : Report) : (failing w l r).Fails w :=
  ⟨Nat.one_ne_zero, rfl, rfl⟩

theorem run_plan (d : Disk) (i : Invocation) :
    (plan i).run d =
      match (steps i).on d [] with
      | (.ok e, l) => (l, e)
      | (.error r, l) => (l, .fails r) := by
  rw [plan, Ask.run_bind, ← on]
  rcases (steps i).on d [] with ⟨_ | e, l⟩ <;> rfl

/-- A run performs what its steps come to, and fails if they come to nothing. -/
theorem run_of_settles {P : Ending → Prop} (hi : parse words = .ok i)
    (h : Settles w.disk (steps i) P) :
    (∀ e, P e → ∃ l, run w words = perform w l e) ∧ ((∀ e, ¬ P e) → (run w words).Fails w) := by
  obtain ⟨r, hr, hP⟩ := h
  have hresult := hr []
  rw [run, hi]
  dsimp only
  rw [run_plan]
  generalize (steps i).on w.disk [] = result at hresult ⊢
  obtain ⟨r' | e', l⟩ := result
  · subst hresult
    refine ⟨fun e he => ?_, fun _ => fails_failing w l r'⟩
    cases (hP e).2 he
  · subst hresult
    refine ⟨fun e he => ?_, fun hno => absurd ((hP e').1 rfl) (hno e')⟩
    cases (hP e).2 he
    exact ⟨l, rfl⟩

theorem gives_perform {name html : String} {l : List Notice} {output : Option String}
    (h : ∀ path, output = some path → w.CanWrite path) :
    (perform w l (pageEnding name html output)).Gives w html output := by
  cases output with
  | none => exact ⟨rfl, rfl, rfl⟩
  | some path =>
    obtain ⟨w', hwrite⟩ := World.exists_write_iff.2 (h path rfl)
    rw [pageEnding, perform, hwrite]
    exact ⟨rfl, rfl, World.wrote_of_write hwrite⟩

theorem fails_perform {name html path : String} {l : List Notice} (h : ¬ w.CanWrite path) :
    (perform w l (pageEnding name html (some path))).Fails w := by
  rw [pageEnding, perform]
  cases hwrite : w.write path (Text.Utf8.encode html.toList) with
  | error f => exact fails_failing w l _
  | ok w' => exact absurd (World.exists_write_iff.1 ⟨w', hwrite⟩) h

/-- A rendering that fails touches nothing; one that succeeds prints the page, or writes it to its
file and changes nothing else. A check touches nothing. -/
theorem run_is_all_or_nothing (w : World) (words : List String) :
    (∀ h, parse words = .error h →
        (run w words).world = w ∧ (h = .misuse → (run w words).Fails w)) ∧
      ∀ i, parse words = .ok i →
        (∀ name data output, i.action = .render name data output →
          (∀ html, Renders w.disk i name data html →
            (∀ path, output = some path → w.CanWrite path) → (run w words).Gives w html output) ∧
          ((∀ html, Renders w.disk i name data html → ∃ path, output = some path ∧ ¬ w.CanWrite path) →
            (run w words).Fails w)) ∧
        (i.action = .check →
          (run w words).output = "" ∧ (run w words).world = w ∧
            ((run w words).code = 0 ↔ ∃ s p, Configures w.disk i s ∧ Compiles w.disk s p)) := by
  refine ⟨fun h hh => ?_, fun i hi => ⟨fun name data output haction => ?_, fun haction => ?_⟩⟩
  · rw [run, hh]
    cases h with
    | misuse => exact ⟨rfl, fun _ => ⟨Nat.succ_ne_zero 1, rfl, rfl⟩⟩
    | help | version => exact ⟨rfl, nofun⟩
  · obtain ⟨hgives, hfails⟩ := run_of_settles hi (settles_steps_render haction)
    refine ⟨fun html hhtml hwrite => ?_, fun hnone => ?_⟩
    · obtain ⟨l, hrun⟩ := hgives _ ⟨html, hhtml, rfl⟩
      rw [hrun]
      exact gives_perform hwrite
    · by_cases hpage : ∃ html, Renders w.disk i name data html
      · obtain ⟨html, hhtml⟩ := hpage
        obtain ⟨path, rfl, hwrite⟩ := hnone html hhtml
        obtain ⟨l, hrun⟩ := hgives _ ⟨html, hhtml, rfl⟩
        rw [hrun]
        exact fails_perform hwrite
      · exact hfails fun e he => hpage (he.imp fun html h => h.1)
  · obtain ⟨hgives, hfails⟩ := run_of_settles hi (settles_steps_check haction)
    by_cases hcompiles : ∃ s p, Configures w.disk i s ∧ Compiles w.disk s p
    · obtain ⟨l, hrun⟩ := hgives _ ⟨hcompiles, rfl⟩
      rw [hrun]
      exact ⟨rfl, rfl, iff_of_true rfl hcompiles⟩
    · obtain ⟨hcode, houtput, hworld⟩ := hfails fun e he => hcompiles he.1
      exact ⟨houtput, hworld, iff_of_false hcode hcompiles⟩

/-- A page with a greeting. -/
def greetingTree : FileTree :=
  .folder
    [("hotpage.toml",
        .file (Text.Utf8.encode "templates.pages=[\"home\"]\ntemplates.components=[]\n".toList)),
      ("templates", .folder
        [("components", .folder []),
          ("layout", .folder [("base.html", .file [])]),
          ("pages", .folder [("home.html", .file (Text.Utf8.encode "Good day".toList))])])]

def greeting : World := ⟨greetingTree, []⟩

def greetingCall (output : String) : Invocation :=
  ⟨none, "hotpage.toml", none, .render "home" none (some output)⟩

theorem renders_greeting (output : String) :
    Renders greeting.disk (greetingCall output) "home" none "Good day" := by
  have hall : (((Settings.load (Path.join "./" "hotpage.toml")).run
        greeting.disk).toOption.bind fun found =>
      let s := (found.resolve "./").run greeting.disk
      (s.check.run greeting.disk).toOption.bind fun _ =>
        ((Publisher.load s.sources (Helpers.library (Lookups.ofMirrors s.mirrors))).run
          greeting.disk).toOption.bind fun p => (p.render "home" (.obj [])).toOption) =
      some "Good day" := by decide +kernel
  obtain ⟨found, hfound, hall⟩ := Option.bind_eq_some_iff.1 hall
  obtain ⟨_, hcheck, hall⟩ := Option.bind_eq_some_iff.1 hall
  obtain ⟨p, hp, hhtml⟩ := Option.bind_eq_some_iff.1 hall
  have hthere : greeting.disk (.exists (Path.join "./" "hotpage.toml")) = true := by decide +kernel
  have hfinds : Finds greeting.disk (Path.join "./" "hotpage.toml") found := by
    rw [Finds, if_pos hthere]
    exact eq_ok_of_toOption hfound
  exact ⟨_, p, .obj [], ⟨found, hfinds, rfl, eq_ok_of_toOption hcheck⟩, eq_ok_of_toOption hp, rfl,
    eq_ok_of_toOption hhtml⟩

/-- The greeting is written to a file, and cannot be written to a folder. -/
theorem run_is_all_or_nothing_greeting :
    parse ["render", "home", "--output", "out.html"] = .ok (greetingCall "out.html") ∧
      Renders greeting.disk (greetingCall "out.html") "home" none "Good day" ∧
      greeting.CanWrite "out.html" ∧
      (run greeting ["render", "home", "--output", "out.html"]).Gives greeting "Good day"
        (some "out.html") ∧
      parse ["render", "home", "--output", "templates"] = .ok (greetingCall "templates") ∧
      ¬ greeting.CanWrite "templates" ∧
      (run greeting ["render", "home", "--output", "templates"]).Fails greeting := by
  have hfile : parse ["render", "home", "--output", "out.html"] =
      .ok (greetingCall "out.html") := by decide +kernel
  have hfolder : parse ["render", "home", "--output", "templates"] =
      .ok (greetingCall "templates") := by decide +kernel
  have hcan : greeting.CanWrite "out.html" := ⟨[], "out.html", rfl, rfl, nofun⟩
  have hcannot : ¬ greeting.CanWrite "templates" := by
    rintro ⟨folder, name, hslot, -, hnone⟩
    cases (rfl : greeting.slot "templates" = .ok ([], "templates")).symm.trans hslot
    exact hnone _ rfl
  refine ⟨hfile, renders_greeting _, hcan, ?_, hfolder, hcannot, ?_⟩
  · refine (((run_is_all_or_nothing greeting _).2 _ hfile).1 _ _ _ rfl).1 _ (renders_greeting _) ?_
    rintro path hpath
    cases hpath
    exact hcan
  · exact (((run_is_all_or_nothing greeting _).2 _ hfolder).1 _ _ _ rfl).2
      fun _ _ => ⟨_, rfl, hcannot⟩

end LivePages.Command
