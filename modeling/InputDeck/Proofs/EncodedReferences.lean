import InputDeck.Proofs.KeyedLists
import InputDeck.Proofs.ValueGrammar
import InputDeck.Value.Written

namespace InputDeck

theorem Value.mapM_literal_of_mixed {values : List Value}
    (hknown : ∀ v ∈ values, (∃ r, v = reference r) ∨ ∃ s, v = scalar s)
    (hreference : ∃ r, reference r ∈ values) :
    values.mapM literal = .error (.unsupported "list mixes references and literals") := by
  induction values with
  | nil => simp at hreference
  | cons v rest ih =>
      rw [List.forall_mem_cons] at hknown
      obtain ⟨hv, hrest⟩ := hknown
      rw [List.mapM_cons]
      rcases hv with ⟨r, rfl⟩ | ⟨s, rfl⟩
      · rfl
      · obtain ⟨r, hr⟩ := hreference
        have hlater : reference r ∈ rest := by simpa using hr
        rw [ih hrest ⟨r, hlater⟩]
        rfl

/-- Members that are literals and references, some of each, make no list. -/
theorem Value.ofElements_of_mixed {values : List Value}
    (hknown : ∀ v ∈ values, (∃ r, v = reference r) ∨ ∃ s, v = scalar s)
    (hreference : ∃ r, reference r ∈ values) (hliteral : ∃ s, scalar s ∈ values) :
    ofElements values = .error (.unsupported "list mixes references and literals") := by
  obtain ⟨s, hs⟩ := hliteral
  have hall : (values.all fun v => v.reference?.isSome) = false := by
    rw [List.all_eq_false]
    exact ⟨scalar s, hs, by simp [reference?]⟩
  rw [ofElements, hall, Bool.and_false, if_neg Bool.false_ne_true,
    mapM_literal_of_mixed hknown hreference]
  rfl

/-- Lists of the two sorts look alike when they have no members. -/
theorem Field.written_of_empty (resolver : Resolver) (quote : Quote) :
    ∃ text, ({ value := .list [], quote } : Field).written resolver = .ok text ∧
      ({ value := .references [], quote } : Field).written resolver = .ok text := by
  refine ⟨quote.wrap (.list []) "", rfl, ?_⟩
  cases quote <;> rfl

namespace Producer

/-- The reference `r` as data, perhaps inside wrappers that add nothing. -/
inductive Encodes (r : Reference) : Producer → Prop
  | reference : Encodes r r.toProducer
  | present {inner : Producer} (h : Encodes r inner) : Encodes r (.present inner)
  | wrapper {name : String} {inner : Producer} (hname : ¬ IsToken name) (h : Encodes r inner) :
      Encodes r (.wrapper name inner)

theorem Encodes.isReference {p : Producer} {r : Reference} (h : Encodes r p) :
    p.IsReference r := by
  induction h with
  | reference =>
      obtain ⟨target, _ | port⟩ := r
      · rw [IsReference, Reference.toProducer, bare_of_isToken (.inl rfl)]
        exact .target (.text target)
      · rw [IsReference, Reference.toProducer, bare_of_isToken (.inr rfl)]
        exact .port rfl (.text target) (.text port)
  | present h ih => exact ih
  | wrapper hname h ih =>
      rw [IsReference, bare_of_not_isToken hname]
      exact ih

section Members

variable {p : Producer} {shape : SequenceShape} {elements : List Producer}

theorem isReferences_of_encoded (hp : p.bare = .sequence shape elements) {rs : List Reference}
    (hne : rs ≠ []) (h : List.Forall₂ (fun q r => Encodes r q) elements rs) :
    p.IsReferences rs := by
  refine ⟨shape, elements, hp, ?_, h.imp fun q r => Encodes.isReference⟩
  rintro rfl
  cases h
  exact hne rfl

theorem isList_of_empty (hp : p.bare = .sequence shape []) : p.IsList [] := by
  unfold IsList
  rw [hp]
  exact .sequence .nil

/-- A list that has been read is all literals or all references. -/
theorem exists_fault_of_mixed (hp : p.bare = .sequence shape elements)
    (hreference : ∃ q ∈ elements, ∃ r, q.IsReference r)
    (hliteral : ∃ q ∈ elements, ∃ s, q.IsScalar s) : ∃ fault, p.toValue? = .error fault := by
  obtain ⟨q, hq, r, hr⟩ := hreference
  obtain ⟨other, hother, s, hs⟩ := hliteral
  rw [← toValue?_eq_reference_iff] at hr
  rw [← toValue?_eq_scalar_iff] at hs
  rw [← toValue?_bare, hp]
  cases hv : (Producer.sequence shape elements).toValue? with
  | error fault => exact ⟨fault, rfl⟩
  | ok v =>
      rcases toValue?_sequence_eq_ok_iff.mp hv with ⟨items, hitems, -⟩ | ⟨rs, -, hrs, -⟩
      · obtain ⟨t, ht⟩ := exists_of_mem_of_forall₂ hitems hq
        cases hr.symm.trans ht
      · obtain ⟨t, ht⟩ := exists_of_mem_of_forall₂ hrs hother
        cases hs.symm.trans ht

/-- With nothing else in the list, it is the mixture that is reported. -/
theorem toValue?_of_mixed (hp : p.bare = .sequence shape elements)
    (hreference : ∃ q ∈ elements, ∃ r, q.IsReference r)
    (hliteral : ∃ q ∈ elements, ∃ s, q.IsScalar s)
    (hknown : ∀ q ∈ elements, (∃ r, q.IsReference r) ∨ ∃ s, q.IsScalar s) :
    p.toValue? = .error (.unsupported "list mixes references and literals") := by
  obtain ⟨q, hq, r, hr⟩ := hreference
  obtain ⟨other, hother, s, hs⟩ := hliteral
  simp only [← toValue?_eq_reference_iff, ← toValue?_eq_scalar_iff] at hr hs hknown
  have hvalue : ∀ q ∈ elements, ∃ v, q.toValue? = .ok (some v) ∧
      ((∃ r, v = .reference r) ∨ ∃ s, v = .scalar s) := by
    intro q hq
    rcases hknown q hq with ⟨r, hr⟩ | ⟨s, hs⟩
    · exact ⟨_, hr, .inl ⟨r, rfl⟩⟩
    · exact ⟨_, hs, .inr ⟨s, rfl⟩⟩
  have : Nonempty Value := ⟨.list []⟩
  choose! value hread hsort using hvalue
  have hmem : ∀ q ∈ elements, ∀ v, q.toValue? = .ok (some v) → v ∈ elements.map value := by
    intro q hq v hv
    cases (hread q hq).symm.trans hv
    exact List.mem_map_of_mem hq
  have helements : toElements elements = .ok (elements.map value) := by
    rw [toElements_eq_ok_iff, List.forall₂_map_right_iff, List.forall₂_same]
    exact hread
  have hmixed : Value.ofElements (elements.map value) =
      .error (.unsupported "list mixes references and literals") := by
    refine Value.ofElements_of_mixed ?_ ⟨r, hmem q hq _ hr⟩ ⟨s, hmem other hother _ hs⟩
    rw [List.forall_mem_map]
    exact hsort
  rw [← toValue?_bare, hp, toValue?, helements]
  simp only [hmixed, bind, Except.bind]

end Members

/-- A reference that stands as data is read as what it was, and so are the references of a list. An
empty list is read as one of literals, which makes no difference when it is written. A list that
has a reference and a literal in it is refused, whatever else it has. -/
theorem toValue?_encoded :
    (∀ (p : Producer) (r : Reference), Encodes r p → p.toValue? = .ok (some (.reference r))) ∧
    ∀ (p : Producer) (shape : SequenceShape) (elements : List Producer),
      p.bare = .sequence shape elements →
      (∀ rs : List Reference, rs ≠ [] → List.Forall₂ (fun q r => Encodes r q) elements rs →
        p.toValue? = .ok (some (.references rs))) ∧
      (elements = [] →
        p.toValue? = .ok (some (.list [])) ∧
        ∀ (resolver : Resolver) (quote : Quote), ∃ text,
          ({ value := .list [], quote } : Field).written resolver = .ok text ∧
            ({ value := .references [], quote } : Field).written resolver = .ok text) ∧
      ((∃ q ∈ elements, ∃ r, q.IsReference r) → (∃ q ∈ elements, ∃ s, q.IsScalar s) →
        (∃ fault, p.toValue? = .error fault) ∧
        ((∀ q ∈ elements, (∃ r, q.IsReference r) ∨ ∃ s, q.IsScalar s) →
          p.toValue? = .error (.unsupported "list mixes references and literals"))) := by
  constructor
  · intro p r h
    exact toValue?_eq_reference_iff.mpr h.isReference
  · intro p shape elements hp
    refine ⟨?_, ?_, ?_⟩
    · intro rs hne h
      exact toValue?_eq_references_iff.mpr (isReferences_of_encoded hp hne h)
    · rintro rfl
      exact ⟨toValue?_eq_list_iff.mpr (isList_of_empty hp), Field.written_of_empty⟩
    · intro hreference hliteral
      exact ⟨exists_fault_of_mixed hp hreference hliteral, toValue?_of_mixed hp hreference hliteral⟩

theorem toValue?_encoded_of_nested :
    let mesh : Reference := { target := "" }
    let inlet : Reference := { target := "pipe:1", port := some "" }
    (Producer.present (.wrapper "Inlet" inlet.toProducer)).toValue? =
        .ok (some (.reference inlet)) ∧
      (Producer.wrapper "Ends"
          (.sequence .tuple [mesh.toProducer, .present inlet.toProducer])).toValue? =
        .ok (some (.references [mesh, inlet])) ∧
      (Producer.present (.sequence .tupleStruct [])).toValue? = .ok (some (.list [])) ∧
      (Producer.sequence .sequence [.text "pipe", mesh.toProducer]).toValue? =
        .error (.unsupported "list mixes references and literals") := by
  intro mesh inlet
  obtain ⟨hreference, hlist⟩ := toValue?_encoded
  have hmesh : Encodes mesh mesh.toProducer := .reference
  have hinlet : Encodes inlet inlet.toProducer := .reference
  have hliteral : IsScalar (.text "pipe") (.text "pipe") := .text "pipe"
  refine ⟨?_, ?_, ?_, ?_⟩
  · exact hreference _ inlet (.present (.wrapper (by decide) hinlet))
  · exact (hlist _ _ _ rfl).1 [mesh, inlet] (by simp) (.cons hmesh (.cons (.present hinlet) .nil))
  · exact ((hlist _ _ _ rfl).2.1 rfl).1
  · refine ((hlist _ _ _ rfl).2.2 ⟨_, by simp, mesh, hmesh.isReference⟩
      ⟨_, by simp, _, hliteral⟩).2 ?_
    intro q hq
    rcases List.mem_pair.mp hq with rfl | rfl
    · exact .inr ⟨_, hliteral⟩
    · exact .inl ⟨mesh, hmesh.isReference⟩

/-- A reference in one more wrapper that is meant for texts is not a reference any longer. -/
example :
    (Producer.wrapper referenceToken (Reference.toProducer { target := "mesh" })).toValue? =
      .error (.unsupported "reference target must be a string") := by
  rfl

end Producer

end InputDeck
