import LivePages.Proofs.Markdown.Constructs
import LivePages.Proofs.Markdown.Writing
import LivePages.Proofs.Result
import LivePages.Proofs.Text.Utf8

/-! When a text is refused and what is shown then. Converting a tree stops at its first node that is
too deep or of an extension; reading without extensions gives none of an extension, and what is made
of a document is always written. -/

namespace LivePages.Markdown

/-! ### The first node that is refused -/

mutual

/-- The constructs of a tree in document order, each with its level; the root's is `n`. -/
def Tree.levels (n : Nat) : Tree → List (Nat × Construct)
  | .mk c cs => (n, c) :: levelsAll (n + 1) cs

def levelsAll (n : Nat) : List Tree → List (Nat × Construct)
  | [] => []
  | t :: r => t.levels n ++ levelsAll n r

end

def levelRefusal? (node : Nat × Construct) : Option Refusal :=
  if maxDepth < node.1 then some (.tooDeep maxDepth)
  else
    match node.2.kind? with
    | .error e => some e
    | .ok _ => none

mutual

theorem convertAt_eq_error_iff {e : Refusal} : ∀ {t : Tree} {n : Nat},
    convertAt n t = .error e ↔ (t.levels n).findSome? levelRefusal? = some e
  | .mk c cs, n => by
    have hbelow := @convertAll_eq_error_iff e cs (n + 1)
    rw [convertAt, Tree.levels, List.findSome?_cons, levelRefusal?]
    split
    · simp
    cases c.kind? with
    | error e' => simp
    | ok kind =>
      cases hcs : convertAll (n + 1) cs with
      | error e' => simpa [hcs] using hbelow
      | ok ns => simpa [hcs] using hbelow

theorem convertAll_eq_error_iff {e : Refusal} : ∀ {ts : List Tree} {n : Nat},
    convertAll n ts = .error e ↔ (levelsAll n ts).findSome? levelRefusal? = some e
  | [], n => by simp [convertAll, levelsAll]
  | t :: r, n => by
    have hhere := fun e' => @convertAt_eq_error_iff e' t n
    have hrest := @convertAll_eq_error_iff e r n
    rw [convertAll, levelsAll, List.findSome?_append]
    cases ht : convertAt n t with
    | error e' => simp [(hhere e').1 ht]
    | ok m =>
      have hnone : (t.levels n).findSome? levelRefusal? = none := by
        refine Option.eq_none_iff_forall_ne_some.2 fun e' he' => ?_
        rw [(hhere e').2 he'] at ht
        cases ht
      rw [hnone, Option.none_or, ← hrest]
      cases convertAll n r <;> simp

end

/-! ### Trees without extensions -/

def Construct.IsSupported (c : Construct) : Prop :=
  ∃ k, c.kind? = .ok k

mutual

theorem Tree.Every.levels {P : Construct → Prop} : ∀ {t : Tree} {n : Nat}, t.Every P →
    ∀ node ∈ t.levels n, P node.2
  | .mk c cs, n, h, node, hnode => by
    obtain ⟨here, below⟩ := h
    rw [Tree.levels, List.mem_cons] at hnode
    rcases hnode with rfl | hnode
    · exact here
    · exact every_levelsAll below node hnode

theorem every_levelsAll {P : Construct → Prop} : ∀ {ts : List Tree} {n : Nat},
    (∀ t ∈ ts, t.Every P) → ∀ node ∈ levelsAll n ts, P node.2
  | [], n, h, node, hnode => by
    rw [levelsAll] at hnode
    cases hnode
  | t :: r, n, h, node, hnode => by
    obtain ⟨ht, hr⟩ := List.forall_mem_cons.1 h
    rw [levelsAll, List.mem_append] at hnode
    rcases hnode with hnode | hnode
    · exact ht.levels node hnode
    · exact every_levelsAll hr node hnode

end

theorem levelRefusal?_eq_some_iff {node : Nat × Construct} (h : node.2.IsSupported) {e : Refusal} :
    levelRefusal? node = some e ↔ maxDepth < node.1 ∧ e = .tooDeep maxDepth := by
  obtain ⟨k, hk⟩ := h
  rw [levelRefusal?, hk]
  by_cases hdeep : maxDepth < node.1
  · simp [hdeep, eq_comm]
  · simp [hdeep]

/-- A node of `t` lies more than `maxDepth` levels below the root. -/
def Tree.IsTooDeep (t : Tree) : Prop :=
  ∃ level c, (level, c) ∈ t.levels 0 ∧ maxDepth < level

theorem ofTree?_eq_error_iff {t : Tree} (h : t.Every Construct.IsSupported) (e : Refusal) :
    Node.ofTree? t = .error e ↔ t.IsTooDeep ∧ e = .tooDeep maxDepth := by
  have hsupported := h.levels (n := 0)
  rw [Node.ofTree?, convertAt_eq_error_iff]
  constructor
  · intro he
    obtain ⟨node, hnode, hrefused⟩ := List.exists_of_findSome?_eq_some he
    obtain ⟨hdeep, rfl⟩ := (levelRefusal?_eq_some_iff (hsupported node hnode)).1 hrefused
    exact ⟨⟨_, _, hnode, hdeep⟩, rfl⟩
  · rintro ⟨⟨level, c, hnode, hdeep⟩, rfl⟩
    -- some node is refused, and every refusal is the same
    have hrefused := (levelRefusal?_eq_some_iff (hsupported _ hnode)).2 ⟨hdeep, rfl⟩
    have hsome : ((t.levels 0).findSome? levelRefusal?).isSome :=
      List.findSome?_isSome_iff.2 ⟨_, hnode, by rw [hrefused]; rfl⟩
    obtain ⟨e, he⟩ := Option.isSome_iff_exists.1 hsome
    obtain ⟨node, hnode', hfirst⟩ := List.exists_of_findSome?_eq_some he
    rw [he, ((levelRefusal?_eq_some_iff (hsupported node hnode')).1 hfirst).2]

theorem Construct.IsRead.isSupported (c : Construct) (h : c.IsRead .none) : c.IsSupported := by
  cases c with
  | extension name => cases h
  | _ => exact ⟨_, rfl⟩

theorem isSupported_readTree (source : String) :
    (readTree .none source).Every Construct.IsSupported :=
  (isRead_readTree .none source).mono Construct.IsRead.isSupported

/-! ### Texts -/

/-- What becomes of a text once its tree has been read. -/
def Tree.tryRender (t : Tree) : Except Refusal String :=
  match Node.ofTree? t with
  | .error e => .error e
  | .ok document => document.decorate.toHtml?

theorem Tree.tryRender_eq_error_iff {t : Tree} (h : t.Every Construct.IsSupported) (e : Refusal) :
    t.tryRender = .error e ↔ t.IsTooDeep ∧ e = .tooDeep maxDepth := by
  rw [← ofTree?_eq_error_iff h, Tree.tryRender]
  cases Node.ofTree? t with
  | error e' => simp
  | ok document =>
    dsimp only
    rw [Node.toHtml?_eq]
    simp

theorem tryRender_eq (source : String) : tryRender source = (readTree .none source).tryRender :=
  rfl

theorem Reading.kind_finish (r : Reading) : r.finish.2.kind = .document := by
  unfold Reading.finish
  dsimp only
  split <;> rfl

theorem Block.construct_toTree {b : Block} (h : b.kind = .document) (x : Extensions)
    (refs : References) (room : Nat) : (b.toTree x refs room).1.construct = .document := by
  cases b
  cases h
  rw [Block.toTree]
  rfl

/-- The root of what is read is the document itself. -/
theorem construct_readTree (x : Extensions) (source : String) :
    (readTree x source).construct = .document := by
  unfold readTree readBlocks
  rw [construct_settle]
  exact Block.construct_toTree (Reading.kind_finish _) x _ _

/-- What is rendered of a text is what is written of its document with page attributes. -/
theorem exists_read_of_tryRender {source html : String} (h : tryRender source = .ok html) :
    ∃ n, read source = .ok n ∧ n.decorate.toHtml = html := by
  unfold tryRender at h
  cases hn : read source with
  | error e =>
    rw [hn] at h
    cases h
  | ok n =>
    rw [hn] at h
    dsimp only at h
    rw [Node.toHtml?_eq] at h
    cases h
    exact ⟨n, rfl, rfl⟩

theorem render_of_ok {source html : String} (h : tryRender source = .ok html) :
    render source = html := by
  rw [render, h]

theorem render_of_error {source : String} {e : Refusal} (h : tryRender source = .error e) :
    render source = "<p>" ++ source ++ "</p>" := by
  rw [render, h]
  rfl

theorem renderOctets_of_isValidUTF8 {octets : List UInt8} (h : octets.toByteArray.IsValidUTF8) :
    renderOctets octets = render (String.fromUTF8 octets.toByteArray h) := by
  have hdecoded := Text.Utf8.decode?_of_isValidUTF8 h
  rw [renderOctets, tryRenderOctets, hdecoded, Text.Utf8.decodeLossy_of_decode? hdecoded,
    String.ofList_toList]
  dsimp only
  rw [String.ofList_toList, render]

theorem renderOctets_of_not_isValidUTF8 {octets : List UInt8}
    (h : ¬ octets.toByteArray.IsValidUTF8) :
    renderOctets octets = "<p>" ++ String.ofList (Text.Utf8.decodeLossy octets) ++ "</p>" := by
  have hdecoded : Text.Utf8.decode? octets = none := by
    rw [← Option.not_isSome_iff_eq_none, Text.Utf8.isSome_decode?_iff]
    exact h
  rw [renderOctets, tryRenderOctets, hdecoded]
  rfl

/-- A text is refused just when a node lies more than 64 levels deep; then it is shown as it stands,
ill-formed octets replaced. -/
theorem refused_only_when_too_deep :
    (∀ t : Tree, t.Every Construct.IsSupported → ∀ e, t.tryRender = .error e ↔
      (∃ level c, (level, c) ∈ t.levels 0 ∧ 64 < level) ∧ e = .tooDeep 64) ∧
    (∀ source : String,
      (readTree .none source).construct = .document ∧
      (readTree .none source).Every Construct.IsSupported ∧
      tryRender source = (readTree .none source).tryRender ∧
      (∀ e, tryRender source = .error e ↔
        (∃ level c, (level, c) ∈ (readTree .none source).levels 0 ∧ 64 < level) ∧
          e = .tooDeep 64) ∧
      (∀ html, tryRender source = .ok html → render source = html) ∧
      ∀ e, tryRender source = .error e → render source = "<p>" ++ source ++ "</p>") ∧
    ∀ octets : List UInt8,
      (∀ h : octets.toByteArray.IsValidUTF8,
        renderOctets octets = render (String.fromUTF8 octets.toByteArray h)) ∧
      (¬ octets.toByteArray.IsValidUTF8 →
        renderOctets octets = "<p>" ++ String.ofList (Text.Utf8.decodeLossy octets) ++ "</p>") := by
  refine ⟨fun t ht e => Tree.tryRender_eq_error_iff ht e, fun source => ?_, fun octets => ?_⟩
  · have hread := isSupported_readTree source
    refine ⟨construct_readTree _ source, hread, tryRender_eq source, fun e => ?_, ?_, ?_⟩
    · rw [tryRender_eq]
      exact Tree.tryRender_eq_error_iff hread e
    · exact fun html => render_of_ok
    · exact fun e => render_of_error
  · exact ⟨fun h => renderOctets_of_isValidUTF8 h, renderOctets_of_not_isValidUTF8⟩

/-- A text nested too deep, as a tree and as it stands, one that is shown, and octets of both
kinds. -/
theorem refused_only_when_too_deep_quotes :
    (readTree .none (String.ofList (List.replicate 65 '>'))).tryRender = .error (.tooDeep 64) ∧
    render (String.ofList (List.replicate 65 '>')) =
      "<p>" ++ String.ofList (List.replicate 65 '>') ++ "</p>" ∧
    render "a" = "<p>a</p>\n" ∧
    (∃ h, renderOctets [0x61] = render (String.fromUTF8 [0x61].toByteArray h)) ∧
    renderOctets [0x61, 0xFF] = "<p>" ++ String.ofList ['a', '\uFFFD'] ++ "</p>" := by
  obtain ⟨hTree, hText, hOctets⟩ := refused_only_when_too_deep
  have hlevel : ((readTree .none (String.ofList (List.replicate 65 '>'))).levels 0).any
      (fun node => 64 < node.1) = true := by
    decide +kernel
  obtain ⟨⟨level, c⟩, hmem, hdeep⟩ := List.any_eq_true.1 hlevel
  obtain ⟨-, hsupported, hread, -, -, hfallback⟩ := hText (String.ofList (List.replicate 65 '>'))
  have hrefused := (hTree _ hsupported (.tooDeep 64)).2
    ⟨⟨level, c, hmem, of_decide_eq_true hdeep⟩, rfl⟩
  obtain ⟨-, -, -, -, hhtml, -⟩ := hText "a"
  refine ⟨hrefused, hfallback _ (hread.trans hrefused), ?_, ⟨?_, (hOctets _).1 _⟩, (hOctets _).2 ?_⟩
  · exact hhtml _ (eq_ok_of_toOption (by decide +kernel))
  · rw [← Text.Utf8.isSome_decode?_iff]
    decide
  · rw [← Text.Utf8.isSome_decode?_iff]
    decide

end LivePages.Markdown
