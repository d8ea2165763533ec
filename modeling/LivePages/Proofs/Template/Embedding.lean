import LivePages.Proofs.Template.Depth
import LivePages.Proofs.Template.Inclusion
import LivePages.Proofs.Template.Reach
import LivePages.Proofs.Template.Standing

/-! A template comes to the same text in every engine that knows the same about the templates it
reaches, whether it is rendered for itself or embedded in a page. -/

namespace LivePages.Template

/-- Neither has been found, or both are the same of some templates. -/
def FoundIn (Known : Source → Prop) (a a' : Option Source) : Prop :=
  a' = a ∧ ∀ t, a = some t → Known t

theorem FoundIn.none {Known : Source → Prop} : FoundIn Known none none :=
  ⟨rfl, nofun⟩

theorem FoundIn.some {Known : Source → Prop} {t : Source} (h : Known t) :
    FoundIn Known (some t) (some t) := by
  refine ⟨rfl, ?_⟩
  rintro _ ⟨⟩
  exact h

theorem FoundIn.symm {Known : Source → Prop} {a a' : Option Source} (h : FoundIn Known a a') :
    FoundIn Known a' a :=
  ⟨h.1.symm, fun t ht => h.2 t (h.1 ▸ ht)⟩

/-- Two engines find the same wherever plain templates lead. -/
structure Shared (Known : Source → Prop) (e e' : Engine) : Prop where
  library : e'.library = e.library
  plain : ∀ t, Known t → t.IsPlain
  placed : ∀ t, Known t → t.IsPlaced
  read : ∀ t, Known t → t = .ofNodes t.name t.nodes
  own : ∀ t, Known t → FoundIn Known (e.find? t.name) (e'.find? t.name)
  imports : ∀ t, Known t → ∀ i ∈ t.imports, FoundIn Known (e.find? i.1) (e'.find? i.1)
  embeds : ∀ t, Known t → ∀ m names optional, .embed m names optional ∈ nodesInside t.nodes →
    FoundIn Known (names.findSome? e.find?) (names.findSome? e'.find?)

variable {Known : Source → Prop} {e e' : Engine}

theorem Shared.symm (h : Shared Known e e') : Shared Known e' e where
  library := h.library.symm
  plain := h.plain
  placed := h.placed
  read := h.read
  own t ht := (h.own t ht).symm
  imports t ht i hi := (h.imports t ht i hi).symm
  embeds t ht m names optional hx := (h.embeds t ht m names optional hx).symm

/-- One engine has what is reached in the other one, and nothing that the other one has not. -/
theorem shared_of_reaches {name : String} (hlibrary : e'.library = e.library)
    (hplain : ∀ t, e'.Reaches name t → t.IsPlain) (hplaced : ∀ t, e'.Reaches name t → t.IsPlaced)
    (hread : ∀ t, e'.Reaches name t → t = .ofNodes t.name t.nodes)
    (hnames : ∀ m, e'.find? m = none → e.find? m = none)
    (hfound : ∀ m t, e'.Reaches name t → e'.find? m = some t → e.find? m = some t) :
    Shared (e'.Reaches name) e e' where
  library := hlibrary
  plain := hplain
  placed := hplaced
  read := hread
  own t ht := by
    rw [hfound _ t ht ht.find?, ht.find?]
    exact .some ht
  imports t ht i hi := by
    cases hu : e'.find? i.1 with
    | none =>
      rw [hnames _ hu]
      exact .none
    | some u =>
      have hreach := ht.imports hi hu
      rw [hfound _ u hreach hu]
      exact .some hreach
  embeds t ht m names optional hx := by
    cases hu : names.findSome? e'.find? with
    | none =>
      have hnone : names.findSome? e.find? = none := by
        rw [List.findSome?_eq_none_iff] at hu ⊢
        exact fun name hname => hnames name (hu name hname)
      rw [hnone]
      exact .none
    | some u =>
      have hreach := ht.embed hx hu
      have hsome : names.findSome? e.find? = some u := by
        rw [List.findSome?_eq_some_iff] at hu ⊢
        obtain ⟨before, name, after, hsplit, hname, hbefore⟩ := hu
        exact ⟨before, name, after, hsplit, hfound name u hreach hname,
          fun x hx => hnames x (hbefore x hx)⟩
      rw [hsome]
      exact .some hreach

/-! ### The same job on two grounds -/

/-- A template without ancestors is rendered with the data. -/
def Engine.plainJob (e : Engine) (data : Json.Fields) (t : Source) : Job :=
  ⟨e, data, t, []⟩

/-- No block, and what is embedded is found alike. -/
def Node.IsShared (Known : Source → Prop) (e e' : Engine) : Node → Prop
  | .block _ _ _ _ => False
  | .embed _ names _ => FoundIn Known (names.findSome? e.find?) (names.findSome? e'.find?)
  | _ => True

theorem Shared.inside (h : Shared Known e e') {t : Source} (ht : Known t) :
    ∀ x ∈ nodesInside t.nodes, x.IsShared Known e e' := by
  intro x hx
  cases x with
  | block o name body c => cases (h.plain t ht).blocks _ hx
  | embed m names optional => exact h.embeds t ht m names optional hx
  | _ => trivial

theorem Shared.nodes (h : Shared Known e e') {t : Source} (ht : Known t) :
    ∀ x ∈ t.nodes, x.IsOf (Node.IsShared Known e e') false :=
  isOf_nodes (h.placed t ht) (h.inside ht)

theorem Shared.definitions (h : Shared Known e e') {t : Source} (ht : Known t) :
    ∀ d ∈ t.definitions, ∀ x ∈ d.body, x.IsOf (Node.IsShared Known e e') false := by
  intro d hd
  rw [h.read t ht] at hd
  obtain ⟨y, hy, hdefinition⟩ := List.mem_filterMap.1 hd
  cases y <;> cases hdefinition
  exact (h.nodes ht _ hy).define

theorem ancestors_of_isPlain {t : Source} (h : t.IsPlain) (e : Engine) :
    e.ancestors t = .ok [] := by
  unfold Engine.ancestors Engine.climb
  rw [h.parent]
  rfl

/-- Under the name, both engines find nothing, or the same one of some templates. -/
def FoundAlike (Known : Source → Prop) (e e' : Engine) (name : String) : Prop :=
  FoundIn Known (e.find? name) (e'.find? name)

/-- The correspondence of a template's states on two grounds. -/
abbrev Bond.shared (Known : Source → Prop) (e e' : Engine) (c : Source)
    (page page' : Option String) : Bond :=
  .standing page page' c.name (FoundAlike Known e e')

section
variable {c : Source} {page page' : Option String} {k : Nat} {s s' : State}

theorem Shared.template (h : Shared Known e e') (hc : Known c)
    (hs : (Bond.shared Known e e' c page page').firm k s s') :
    s'.template = s.template ∧ FoundAlike Known e e' s.template := by
  obtain ⟨top, locals, -, htop, rfl, rfl⟩ := hs
  rw [template_standing page', template_standing page]
  refine ⟨rfl, ?_⟩
  cases top with
  | nil => exact h.own c hc
  | cons f top => exact (htop f List.mem_cons_self).2

theorem speaker_of_shared (hs : (Bond.shared Known e e' c page page').firm k s s')
    (data : Json.Fields) (t t' : Source) :
    (e.plainJob data t).speaker s = s.template ∧
      (e'.plainJob data t').speaker s' = s'.template := by
  obtain ⟨top, locals, -, -, rfl, rfl⟩ := hs
  exact ⟨if_neg (not_not_intro rfl), if_neg (not_not_intro rfl)⟩

theorem value_of_shared (hs : (Bond.shared Known e e' c page page').firm k s s')
    (data : Json.Fields) (t t' : Source) (path : String) :
    (e'.plainJob data t').value s' path = (e.plainJob data t).value s path := by
  obtain ⟨top, locals, -, -, rfl, rfl⟩ := hs
  have hleft := value_standing page c.name data top locals path
  have hright := value_standing page' c.name data top locals path
  exact hright.trans hleft.symm

theorem push_of_shared (hs : (Bond.shared Known e e' c page page').firm k s s') {f : Frame}
    (hflow : f.flow = .next) (hf : FoundAlike Known e e' f.template) :
    (Bond.shared Known e e' c page page').firm (k + 1) (s.push f) (s'.push f) := by
  obtain ⟨top, locals, rfl, htop, rfl, rfl⟩ := hs
  exact ⟨f :: top, locals, rfl, List.forall_mem_cons.2 ⟨⟨hflow, hf⟩, htop⟩, rfl, rfl⟩

/-- No block has been entered, so there is none to look for further up. -/
theorem follows_renderAbove (data : Json.Fields) (t t' : Source) (n n' : Nat) (escape : Bool) :
    Follows (.shared Known e e' c page page') (Bond.shared Known e e' c page page').firm
      (Bond.shared Known e e' c page page').firm (renderAbove (e.plainJob data t) (n + 1) escape)
      (renderAbove (e'.plainJob data t') (n' + 1) escape) := by
  rintro k _ _ r u ⟨top, locals, hk, htop, rfl, rfl⟩ hu
  cases hu
  exact ⟨k, _, Nat.le_refl k, rfl, top, locals, hk, htop, rfl, rfl⟩

theorem Shared.alike (h : Shared Known e e') (hc : Known c) (data : Json.Fields)
    (page page' : Option String) (t t' : Source) :
    Alike (.shared Known e e' c page page')
      (fun inLoop x => x.IsOf (Node.IsShared Known e e') inLoop)
      (FoundAlike Known e e') Known (e.plainJob data t) (e'.plainJob data t') where
  bond := sound_standing page page' c.name _
  library := h.library
  value _ _ _ hs path := value_of_shared hs data t t' path
  template _ _ _ hs := h.template hc hs
  speaker k s s' hs := by
    obtain ⟨hfirst, hsecond⟩ := speaker_of_shared hs data t t'
    rw [hfirst, hsecond]
    exact h.template hc hs
  push _ _ _ hs f hflow hf := push_of_shared hs hflow hf
  choose _ _ _ _ hx := hx.choose
  loop _ _ _ _ _ _ _ _ hx := hx.loop
  filtered _ _ _ _ _ hx := hx.filtered
  left inLoop m hx k s s' hs := by
    obtain rfl : inLoop = true := hx.elim (·.1) (·.1)
    exact hs
  find? _ hname := hname.1
  known _ u hname hu := hname.2 u hu
  home := h.own
  nodes _ hu := h.nodes hu
  definitions _ hu := h.definitions hu
  imports := h.imports
  ancestors u hu := by
    have hplain : (e.plainJob data t).engine.ancestors u = .ok [] :=
      ancestors_of_isPlain (h.plain u hu) e
    rw [hplain]
    refine ⟨ancestors_of_isPlain (h.plain u hu) e', fun l hl => ?_⟩
    cases hl
    exact List.forall_mem_nil _
  embed _ _ _ _ hx := hx.self
  block _ _ _ _ _ _ _ _ _ hx := hx.self.elim
  above n n' _ escape := follows_renderAbove data t t' n n' escape

end

/-! ### Whole renderings -/

section
variable {B : Bond} {f f' : Node → Run String} {l : List Node}

/-- Where no round has been left, nodes inside another text are rendered as those at the top are. -/
theorem follows_renderEach_renderAll (hflow : ∀ k s s', B.firm k s s' → s'.flow = .next)
    (hf : ∀ x ∈ l, Follows B B.firm B.firm (f x) (f' x)) :
    Follows B B.firm B.firm (renderEach f l) (renderAll f' l) := by
  induction l with
  | nil => exact .pure ""
  | cons x l ih =>
    obtain ⟨hx, hl⟩ := List.forall_mem_cons.1 hf
    refine .bind hx fun s => .bind_asks_right hflow ?_
    rw [if_pos rfl]
    exact .bind (ih hl) fun t => .pure _

theorem follows_renderAll_renderEach (hflow : ∀ k s s', B.firm k s s' → s.flow = .next)
    (hf : ∀ x ∈ l, Follows B B.firm B.firm (f x) (f' x)) :
    Follows B B.firm B.firm (renderAll f l) (renderEach f' l) := by
  induction l with
  | nil => exact .pure ""
  | cons x l ih =>
    obtain ⟨hx, hl⟩ := List.forall_mem_cons.1 hf
    refine .bind hx fun s => .bind_asks_left hflow ?_
    rw [if_pos rfl]
    exact .bind (ih hl) fun t => .pure _

end

theorem flow_of_shared {c : Source} {page page' : Option String} (k : Nat) (s s' : State)
    (hs : (Bond.shared Known e e' c page page').firm k s s') :
    s.flow = .next ∧ s'.flow = .next := by
  obtain ⟨top, locals, -, htop, rfl, rfl⟩ := hs
  exact ⟨flow_of_quiet htop, flow_of_quiet htop⟩

theorem isPlain_embedding (name entry : String) : (Source.embedding name entry).IsPlain where
  parent := rfl
  blocks x hx := by
    cases List.mem_singleton.1 hx
    rfl

theorem shelves_embedding (e : Engine) (n : Nat) (name entry : String) :
    e.shelves (n + 1) (.embedding name entry) = some [] := by
  unfold Engine.shelves
  rw [ancestors_of_isPlain (isPlain_embedding name entry)]
  rfl

/-- What a rendering comes to: nothing when it needs more depth, no text when it fails. -/
def Run.text? (x : Run String) (s : State) : Option (Option String) :=
  (x s).map fun q => q.1.toOption

theorem text?_eq {x x' : Run String} {s s' : State}
    (h : (x' s').map Prod.fst = (x s).map Prod.fst) : x'.text? s' = x.text? s := by
  have hmap (x : Run String) (s : State) :
      x.text? s = ((x s).map Prod.fst).map Except.toOption := by
    rw [Option.map_map]
    rfl
  rw [hmap, hmap, h]

theorem text?_placed (scene : State → Scene) (x : Run String) (s : State) :
    (Run.placed scene x).text? s = x.text? s := by
  unfold Run.text? Run.placed
  rcases x s with _ | ⟨_ | _, _⟩ <;> rfl

/-- What goes on with a text and hands it over changes nothing. -/
theorem text?_bind {f : String → Run String} (hf : ∀ a t, (f a).text? t = some (some a))
    (x : Run String) (s : State) : (x >>= f).text? s = x.text? s := by
  cases hx : x s with
  | none =>
    change ((x s).bind _).map _ = (x s).map _
    rw [hx]
    rfl
  | some q =>
    obtain ⟨_ | a, t⟩ := q
    · rw [Run.text?, Run.bind_error hx, Run.text?, hx]
    · rw [Run.text?, Run.bind_ok hx, Run.text?, hx]
      exact hf a t

theorem text?_inFrame (f : Frame) (x : Run String) (s : State) :
    (Run.inFrame f x).text? s = x.text? (s.push f) := by
  rw [Run.text?, Run.inFrame_eq]
  exact text?_bind (fun _ _ => rfl) x (s.push f)

theorem text?_renderEach_singleton (f : Node → Run String) (x : Node) (s : State) :
    (renderEach f [x]).text? s = (f x).text? s :=
  text?_bind (f := fun s => do let t ← renderEach f []; pure (s ++ t))
    (fun _ _ => congrArg (some ∘ some) String.append_empty) (f x) s

theorem text?_within?_bind {α : Type} (y : Option α) (f : α → Run String) (s : State) :
    (Run.within? y >>= f).text? s = y.bind fun a => (f a).text? s := by
  cases y <;> rfl

theorem outcome_of_isPlain {name : String} {t : Source} (hfind : e.find? name = some t)
    (ht : t.IsPlain) (n : Nat) (fields : Json.Fields) :
    e.outcome n name fields = (e.shelves n t).bind fun _ =>
      (renderEach (render (e.plainJob fields t) n (escapes t.name)) t.nodes).text?
        (standing none t.name [] []) := by
  rw [← funext fun _ => text?_placed ((·.scene (e.plainJob fields t))) _ _]
  unfold Engine.outcome Engine.renderWithin
  rw [hfind]
  dsimp only
  rw [ancestors_of_isPlain ht]
  cases e.shelves n t with
  | none => rfl
  | some shelves =>
    unfold Run.text?
    change ((Job.render (e.plainJob fields t) n (standing none t.name [] [])).bind _).map _ =
      (Job.render (e.plainJob fields t) n (standing none t.name [] [])).map _
    cases Job.render (e.plainJob fields t) n (standing none t.name [] []) <;> rfl

theorem outcome_of_embedding {c : Source} {page : String} (hc : e.find? c.name = some c)
    (hpage : e.find? page = some (.embedding page c.name)) (n : Nat) (fields : Json.Fields) :
    e.outcome (n + 1) page fields = (e.shelves n c).bind fun _ =>
      (renderAll (render (e.plainJob fields (.embedding page c.name)) n (escapes page))
        c.nodes).text? (standing (some page) c.name [] []) := by
  have hfind : [c.name].findSome?
      (e.plainJob fields (.embedding page c.name)).engine.find? = some c := by
    change [c.name].findSome? e.find? = some c
    rw [List.findSome?_cons, hc]
  rw [outcome_of_isPlain hpage (isPlain_embedding page c.name), shelves_embedding]
  change (renderEach _ [.embed _ [c.name] false]).text? _ = _
  rw [text?_renderEach_singleton]
  unfold render
  dsimp only
  rw [hfind]
  dsimp only
  rw [text?_within?_bind]
  refine congrArg _ (funext fun _ => ?_)
  exact text?_inFrame _ _ _

/-- A plain template comes to the same text embedded in a page of an engine that knows the same,
where it needs one more level. -/
theorem Shared.outcome_embedding (h : Shared Known e e') {c : Source} (hc : Known c) {page : String}
    (hfind : e.find? c.name = some c) (hpage : e'.find? page = some (.embedding page c.name))
    (hescapes : escapes page = escapes c.name) (n : Nat) (fields : Json.Fields) :
    e'.outcome (n + 1) page fields = e.outcome n c.name fields := by
  have hfind' : e'.find? c.name = some c := (h.own c hc).1.trans hfind
  have alike := h.alike hc fields none (some page) c (.embedding page c.name)
  have alike' := h.symm.alike hc fields (some page) none (.embedding page c.name) c
  have hshelves : e'.shelves n c = e.shelves n c :=
    Option.ext fun _ => ⟨alike'.shelves (Nat.le_refl n) hc, alike.shelves (Nat.le_refl n) hc⟩
  have level := level_of_alike alike (Nat.le_refl n)
  have level' := level_of_alike alike' (Nat.le_refl n)
  have hrender := follows_renderEach_renderAll (fun k s s' hs => (flow_of_shared k s s' hs).2)
    fun x hx => level.render (escapes c.name) false x (h.nodes hc x hx)
  have hrender' := follows_renderAll_renderEach (fun k s s' hs => (flow_of_shared k s s' hs).1)
    fun x hx => level'.render (escapes c.name) false x (h.symm.nodes hc x hx)
  have hstart : ∀ Home page page', Standing page page' c.name (Quiet Home) 0
      (standing page c.name [] []) (standing page' c.name [] []) :=
    fun _ _ _ => ⟨[], [], rfl, List.forall_mem_nil _, rfl, rfl⟩
  have htext := text?_eq (hrender.map_fst_eq hrender' (hstart _ _ _) (hstart _ _ _))
  rw [outcome_of_embedding hfind' hpage, outcome_of_isPlain hfind (h.plain c hc), hshelves,
    hescapes]
  exact congrArg _ (funext fun _ => htext)

end LivePages.Template
