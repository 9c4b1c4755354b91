import TypedArtifacts.Proofs.Artifact.Respect
import TypedArtifacts.Proofs.Artifact.Written
import TypedArtifacts.Proofs.ArtifactType
import TypedArtifacts.Proofs.Definition.Consistent

namespace TypedArtifacts

def Descriptor.IsIdentifier (name : String) : Prop :=
  ∃ c cs, name.toList = c :: cs ∧ (c.isAlpha = true ∨ c = '_') ∧
    (∀ x ∈ cs, x.isAlphanum = true ∨ x = '_') ∧ cs.length ≤ 79

def Definition.named (name : String) (d : Definition Artifact) : Definition Artifact :=
  { d with name := some name }

namespace Descriptor

lemma isAttributeName_iff {name : String} : isAttributeName name = true ↔ IsIdentifier name := by
  unfold isAttributeName IsIdentifier
  cases name.toList with
  | nil => simp
  | cons c cs =>
    simp only [Bool.and_eq_true, Bool.or_eq_true, decide_eq_true_eq, List.all_eq_true, isNameChar,
      List.cons.injEq]
    constructor
    · rintro ⟨⟨hc, hcs⟩, hl⟩
      exact ⟨c, cs, ⟨rfl, rfl⟩, hc, hcs, hl⟩
    · rintro ⟨_, _, ⟨rfl, rfl⟩, hc, hcs, hl⟩
      exact ⟨⟨hc, hcs⟩, hl⟩

lemma flag_of_isFlag {attributes : List (String × Definition Artifact)} {flag : String}
    (h : isFlag attributes flag = true) :
    ∃ d, attributes.lookup flag = some d ∧ d.kind = .scalar .boolean := by
  unfold isFlag at h
  cases hl : attributes.lookup flag with
  | none => simp [hl] at h
  | some d =>
    rw [hl, Option.any_some] at h
    refine ⟨d, rfl, ?_⟩
    split at h
    · assumption
    · cases h

end Descriptor

namespace ArtifactType

lemma mem_attributesOf {t : ArtifactType} {role : Role} {e : String × Definition Artifact} :
    e ∈ t.attributesOf role ↔ e ∈ t.attributes ∧ e.2.role = role := by
  rw [attributesOf, List.mem_filter, decide_eq_true_iff]

lemma perm_attributesOf (t : ArtifactType) :
    (t.attributesOf .property ++ t.attributesOf .dependency ++ t.attributesOf .blob).Perm
      t.attributes := by
  unfold attributesOf
  induction t.attributes with
  | nil => exact .refl _
  | cons e rest ih =>
    cases hr : e.2.role with
    | property => simpa [hr] using ih
    | dependency => simpa [hr] using (List.perm_middle.append_right _).trans (ih.cons e)
    | blob => simpa [hr] using List.perm_middle.trans (ih.cons e)

lemma disjoint_attributesOf {t : ArtifactType} (h : Dict.Sorted t.attributes) {role role' : Role}
    (hne : role ≠ role') :
    (Dict.keys (t.attributesOf role)).Disjoint (Dict.keys (t.attributesOf role')) := by
  intro name hm hm'
  obtain ⟨⟨_, d⟩, he, rfl⟩ := List.mem_map.1 hm
  obtain ⟨⟨_, d'⟩, he', rfl⟩ := List.mem_map.1 hm'
  obtain ⟨hmem, hrole⟩ := mem_attributesOf.1 he
  obtain ⟨hmem', hrole'⟩ := mem_attributesOf.1 he'
  have hsame : some d = some d' :=
    (Dict.lookup_of_mem h.nodup hmem).symm.trans (Dict.lookup_of_mem h.nodup hmem')
  obtain rfl := Option.some.inj hsame
  exact hne (hrole.symm.trans hrole')

end ArtifactType

section

variable [Predicates Artifact]

/-- A type that the first descriptor declares, extending what the second one declares, and so on. -/
inductive ArtifactType.DeclaredBy : List Descriptor → ArtifactType → Prop
  | root {d : Descriptor} {t : ArtifactType} : d.parent = none →
      (∀ e ∈ d.attributes, e.2.Built) → d.declare = .ok t → DeclaredBy [d] t
  | extending {d : Descriptor} {ds : List Descriptor} {p t : ArtifactType} : DeclaredBy ds p →
      d.parent = some p → (∀ e ∈ d.attributes, e.2.Built) → d.declare = .ok t →
      DeclaredBy (d :: ds) t

structure ArtifactType.WellFormed (t : ArtifactType) (chain : List Descriptor) : Prop where
  names : ∀ e ∈ t.attributes, Descriptor.IsIdentifier e.1 ∧ e.1 ∉ Descriptor.commonFields ∧
    e.2.name = some e.1
  nearest : ∀ name, t.attributes.lookup name =
    (chain.findSome? (·.attributes.lookup name)).map (Definition.named name)
  views_agree : ∀ role, ∀ e ∈ t.attributesOf role, e.2.role = role
  views_disjoint : ∀ role role', role ≠ role' →
    (Dict.keys (t.attributesOf role)).Disjoint (Dict.keys (t.attributesOf role'))
  views_all : (t.attributesOf .property ++ t.attributesOf .dependency ++
    t.attributesOf .blob).Perm t.attributes
  consistent : ∀ e ∈ t.attributes, ∀ p : Definition Artifact, p.Within e.2 → p.Consistent
  mutability_nearest :
    t.mutability = (chain.findSome? (·.mutability)).getD (.whileState .creating)
  flag_boolean : ∀ flag, t.mutability = .untilFlagSet flag →
    ∃ d, (flag, d) ∈ t.attributesOf .property ∧ d.kind = .scalar .boolean

namespace Descriptor

lemma not_declared_before {before : List String}
    {all given result : List (String × Definition Artifact)}
    (h : declareAttributes before all given = .ok result) : ∀ e ∈ given, e.1 ∉ before := by
  induction given generalizing before all with
  | nil => simp
  | cons e given ih =>
    rw [declareAttributes, Outcome.bind_eq_ok] at h
    obtain ⟨_, hd, hrest⟩ := h
    obtain ⟨_, _, hbefore, _, _⟩ := declareAttribute_eq_ok.1 hd
    rw [List.forall_mem_cons]
    exact ⟨hbefore, fun f hf hm => ih hrest f hf (List.mem_cons_of_mem _ hm)⟩

lemma lookup_declareAttributes {before : List String}
    {all given result : List (String × Definition Artifact)}
    (h : declareAttributes before all given = .ok result) (name : String) :
    result.lookup name = ((given.lookup name).map (Definition.named name)).or (all.lookup name) := by
  induction given generalizing before all with
  | nil =>
    obtain rfl := Except.ok.inj h
    rfl
  | cons e given ih =>
    obtain ⟨key, d⟩ := e
    rw [declareAttributes, Outcome.bind_eq_ok] at h
    obtain ⟨_, hd, hrest⟩ := h
    obtain ⟨_, _, _, hnamed, _⟩ := declareAttribute_eq_ok.1 hd
    obtain rfl := Definition.assignName_eq hnamed
    rw [ih hrest, List.lookup_cons]
    by_cases hkey : name = key
    · subst hkey
      -- The same name would have been refused further on, so this declaration stays.
      have hlater : given.lookup name = none := by
        rw [Dict.lookup_eq_none]
        intro hm
        obtain ⟨f, hf, hname⟩ := List.mem_map.1 hm
        exact not_declared_before hrest f hf (by simp [hname])
      simp [hlater, Definition.named]
    · rw [Dict.lookup_insert_of_ne hkey, beq_false_of_ne hkey]

end Descriptor

namespace ArtifactType

lemma DeclaredBy.declared {chain : List Descriptor} {t : ArtifactType} (h : DeclaredBy chain t) :
    t.Declared := by
  induction h with
  | root hp hbuilt hd =>
    refine .declare (fun p hsome => ?_) hbuilt hd
    rw [hp] at hsome
    cases hsome
  | extending _ hp hbuilt hd ih =>
    refine .declare (fun p hsome => ?_) hbuilt hd
    obtain rfl := Option.some.inj (hp.symm.trans hsome)
    exact ih

lemma DeclaredBy.nearest {chain : List Descriptor} {t : ArtifactType} (h : DeclaredBy chain t)
    (name : String) : t.attributes.lookup name =
      (chain.findSome? (·.attributes.lookup name)).map (Definition.named name) := by
  induction h with
  | @root d _ hp _ hd =>
    obtain ⟨_, hattributes, _⟩ := Descriptor.declare_eq_ok hd
    rw [Descriptor.lookup_declareAttributes hattributes, hp]
    cases hl : d.attributes.lookup name <;> simp [hl]
  | @extending d _ _ _ _ hp _ hd ih =>
    obtain ⟨_, hattributes, _⟩ := Descriptor.declare_eq_ok hd
    rw [Descriptor.lookup_declareAttributes hattributes, hp]
    cases hl : d.attributes.lookup name <;> simp [hl, ih]

lemma DeclaredBy.mutability_nearest {chain : List Descriptor} {t : ArtifactType}
    (h : DeclaredBy chain t) :
    t.mutability = (chain.findSome? (·.mutability)).getD (.whileState .creating) := by
  induction h with
  | @root d _ hp _ hd =>
    obtain ⟨hrule, _, _⟩ := Descriptor.declare_eq_ok hd
    rw [hrule, Descriptor.effectiveMutability, hp]
    cases hm : d.mutability <;> simp [hm]
  | @extending d _ _ _ _ hp _ hd ih =>
    obtain ⟨hrule, _, _⟩ := Descriptor.declare_eq_ok hd
    rw [hrule, Descriptor.effectiveMutability, hp]
    cases hm : d.mutability <;> simp [hm, ih]

lemma Declared.flag_boolean {t : ArtifactType} (h : t.Declared) {flag : String}
    (hflag : t.mutability = .untilFlagSet flag) :
    ∃ d, (flag, d) ∈ t.attributesOf .property ∧ d.kind = .scalar .boolean := by
  obtain ⟨_, _, hd⟩ := h
  obtain ⟨_, _, hcheck⟩ := Descriptor.declare_eq_ok hd
  rw [hflag, Descriptor.checkMutability] at hcheck
  split at hcheck
  · rename_i hf
    obtain ⟨d, hl, hk⟩ := Descriptor.flag_of_isFlag hf
    have hrole : d.role = .property := by
      rw [Definition.role_eq (show d.kind = (Definition.scalar .boolean).kind from hk)]
      rfl
    exact ⟨d, mem_attributesOf.2 ⟨Dict.mem_of_lookup hl, hrole⟩, hk⟩
  · cases hcheck

lemma Declared.names {t : ArtifactType} (h : t.Declared) : ∀ e ∈ t.attributes,
    Descriptor.IsIdentifier e.1 ∧ e.1 ∉ Descriptor.commonFields ∧ e.2.name = some e.1 := by
  have hall := h.forall_attributes (P := fun name e => Descriptor.IsIdentifier name ∧
    name ∉ Descriptor.commonFields ∧ e.name = some name) fun before name d e hd he => by
      obtain ⟨hn, hreserved, _, hnamed, _⟩ := Descriptor.declareAttribute_eq_ok.1 he
      refine ⟨Descriptor.isAttributeName_iff.1 hn, hreserved, ?_⟩
      rw [Definition.assignName_eq hnamed]
  exact hall.2

lemma Declared.consistent {t : ArtifactType} (h : t.Declared) : ∀ e ∈ t.attributes,
    ∀ p : Definition Artifact, p.Within e.2 → p.Built ∧ p.Consistent := by
  have hall := h.forall_attributes (P := fun _ e => ∀ p : Definition Artifact, p.Within e →
    p.Built ∧ p.Consistent) fun before name d e hd he p hp => by
      obtain ⟨_, _, _, hnamed, hchecked⟩ := Descriptor.declareAttribute_eq_ok.1 he
      have hbuilt := Definition.Built.named hd hnamed
      exact ⟨hbuilt.within hp, Definition.consistent_within hbuilt hchecked p hp⟩
  exact hall.2

/-- Registration leaves no type ill formed, however long the chain of types it extends. -/
theorem DeclaredBy.wellFormed {chain : List Descriptor} {t : ArtifactType}
    (h : DeclaredBy chain t) : t.WellFormed chain where
  names := h.declared.names
  nearest := h.nearest
  views_agree _ _ he := (mem_attributesOf.1 he).2
  views_disjoint _ _ := disjoint_attributesOf h.declared.attributes.1
  views_all := t.perm_attributesOf
  consistent e he p hp := (h.declared.consistent e he p hp).2
  mutability_nearest := h.mutability_nearest
  flag_boolean _ := h.declared.flag_boolean

end ArtifactType

end

namespace ArtifactType.Sample

attribute [local instance] Predicates.parityAndSize

def work : Descriptor where
  name := "Work"
  version := "1.0.0"
  attributes := [("sealed", .scalar .boolean), ("title", .scalar .text)]
  mutability := some (.untilFlagSet "sealed")

def workType : ArtifactType :=
  work.declare.toOption.get rfl

def title : Definition Artifact :=
  (Definition.scalar .string).applyAll
    [.default (.text "draft"), .limit (.maxLength 9), .limit (.minLength 1),
      .allowedValues [.string "draft", .string "final"]]

def chapter : Definition Artifact :=
  .composite [("pages", (Definition.scalar .integer).apply (.limit (.minValue (.ofInt 1)))),
    ("notes", .list (.scalar .text))]

def book : Descriptor where
  name := "Book"
  version := "1.0.0"
  parent := some workType
  attributes := [("title", title), ("chapters", .list chapter), ("sequel", .relation), ("scan", .blob)]

def bookType : ArtifactType :=
  book.declare.toOption.get rfl

lemma built_title : title.Built := by
  refine Definition.built_applyAll (.scalar .string) fun f hf => ?_
  simp only [List.mem_cons, List.not_mem_nil, or_false] at hf
  rcases hf with rfl | rfl | rfl | rfl
  · exact Definition.ordered_atom rfl nofun
  · trivial
  · trivial
  · intro v hv
    simp only [List.mem_cons, List.not_mem_nil, or_false] at hv
    rcases hv with rfl | rfl <;> exact Definition.ordered_atom rfl nofun

lemma built_chapter : chapter.Built := by
  refine .composite fun e he => ?_
  simp only [List.mem_cons, List.not_mem_nil, or_false] at he
  rcases he with rfl | rfl
  · exact .facet (.limit (.minValue (.ofInt 1))) trivial (.scalar .integer)
  · exact .list (.scalar _)

lemma bookType_chain : DeclaredBy [book, work] bookType := by
  have hwork : DeclaredBy [work] workType := by
    refine .root rfl (fun e he => ?_) (show work.declare = .ok workType from rfl)
    simp only [work, List.mem_cons, List.not_mem_nil, or_false] at he
    rcases he with rfl | rfl <;> exact .scalar _
  refine .extending hwork rfl (fun e he => ?_) (show book.declare = .ok bookType from rfl)
  simp only [book, List.mem_cons, List.not_mem_nil, or_false] at he
  rcases he with rfl | rfl | rfl | rfl
  · exact built_title
  · exact .list built_chapter
  · exact .relation
  · exact .blob

theorem wellFormed_bookType : DeclaredBy [book, work] bookType ∧
    bookType.WellFormed [book, work] :=
  ⟨bookType_chain, bookType_chain.wellFormed⟩

end ArtifactType.Sample

end TypedArtifacts
