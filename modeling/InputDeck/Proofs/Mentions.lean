import InputDeck.Proofs.Forest

namespace InputDeck

/-- A reference where it stands: the block that holds it, the field, and the name it points at. -/
structure Mention where
  owner : String
  field : String
  target : String

def Mention.fault (m : Mention) : Fault :=
  .danglingReference m.owner m.field m.target

def Block.mentions (b : Block) : List Mention :=
  b.fields.entries.flatMap fun entry =>
    entry.2.value.targets.map fun target => { owner := b.key, field := entry.1, target }

/-- All references of the deck in the order in which they are looked up. -/
def Deck.mentions (d : Deck) : List Mention :=
  d.allBlocks.flatMap Block.mentions

/-- `answer`, unless some mention leads nowhere: then the fault of the first such. -/
def Resolver.vouch (resolver : Resolver) (mentions : List Mention) (answer : α) :
    Except Fault α :=
  match mentions.find? fun m => !resolver m.target with
  | some m => .error m.fault
  | none => .ok answer

namespace Resolver

variable (resolver : Resolver)

theorem vouch_bind_pure (ms : List Mention) (answer : α) (f : α → β) :
    (do let a ← resolver.vouch ms answer; return f a) = resolver.vouch ms (f answer) := by
  unfold vouch
  cases ms.find? fun m => !resolver m.target <;> rfl

theorem vouch_bind_vouch (ms ns : List Mention) (answer : α) (f : α → β) :
    (do let a ← resolver.vouch ms answer; resolver.vouch ns (f a)) =
      resolver.vouch (ms ++ ns) (f answer) := by
  unfold vouch
  rw [List.find?_append]
  cases ms.find? fun m => !resolver m.target <;> rfl

theorem vouch_of_forall {ms : List Mention} (h : ∀ m ∈ ms, resolver m.target = true)
    (answer : α) : resolver.vouch ms answer = .ok answer := by
  have hnone : ms.find? (fun m => !resolver m.target) = none := by
    rw [List.find?_eq_none]
    intro m hm
    simp [h m hm]
  simp only [vouch, hnone]

theorem vouch_of_find? {ms : List Mention} {m : Mention}
    (h : ms.find? (fun m => !resolver m.target) = some m) (answer : α) :
    resolver.vouch ms answer = .error m.fault := by
  simp only [vouch, h]

end Resolver

theorem Reference.mapM_resolve (resolver : Resolver) (rs : List Reference) :
    rs.mapM (Reference.resolve resolver) =
      match (rs.map Reference.target).find? fun target => !resolver target with
      | some target => .error ⟨target⟩
      | none => .ok (rs.map Reference.written) := by
  induction rs with
  | nil => rfl
  | cons r rest ih =>
      rw [List.mapM_cons, ih, List.map_cons, List.find?_cons]
      cases hr : resolver r.target with
      | false => simp [Reference.resolve, hr, Bind.bind, Except.bind]
      | true =>
          cases (rest.map Reference.target).find? fun target => !resolver target <;>
            simp [Reference.resolve, hr, Bind.bind, Except.bind, pure, Except.pure]

theorem Value.written_eq (resolver : Resolver) (v : Value) :
    v.written resolver =
      match v.targets.find? fun target => !resolver target with
      | some target => .error ⟨target⟩
      | none => .ok v.plainText := by
  cases v with
  | scalar s => rfl
  | list items => rfl
  | reference r =>
      cases hr : resolver r.target <;> simp [written, targets, Reference.resolve, hr, plainText]
  | references rs =>
      simp only [written, Reference.mapM_resolve, targets]
      cases (rs.map Reference.target).find? fun target => !resolver target <;> rfl

theorem Field.line_eq (resolver : Resolver) (separator owner name : String) (field : Field) :
    field.line resolver separator owner name =
      resolver.vouch (field.value.targets.map fun target => { owner, field := name, target })
        (field.plainLine separator name) := by
  simp only [line, written, Value.written_eq, Resolver.vouch, List.find?_map, Function.comp_def]
  cases field.value.targets.find? fun target => !resolver target <;> rfl

theorem Fields.lines_eq (resolver : Resolver) (separator owner : String) (m : Fields) :
    m.lines resolver separator owner =
      resolver.vouch
        (m.entries.flatMap fun entry =>
          entry.2.value.targets.map fun target => { owner, field := entry.1, target })
        (m.plainLines separator) := by
  unfold lines plainLines
  induction m.entries with
  | nil => rfl
  | cons entry rest ih =>
      rw [List.mapM_cons, ih, Field.line_eq, List.flatMap_cons, List.map_cons]
      simp only [Resolver.vouch_bind_pure, Resolver.vouch_bind_vouch]

namespace Block

theorem linesOfAll_eq (resolver : Resolver) (separator : String) (blocks : List Block) :
    linesOfAll resolver separator blocks =
      resolver.vouch ((innermostFirstOfAll blocks).flatMap mentions)
        (plainLinesOfAll separator blocks) := by
  induction blocks using forestInduction with
  | nil => rfl
  | cons b rest ihChildren ihRest =>
      simp only [linesOfAll_cons, Fields.lines_eq, ihChildren, ihRest, Resolver.vouch_bind_pure,
        Resolver.vouch_bind_vouch, innermostFirstOfAll_cons, plainLinesOfAll_cons,
        List.flatMap_append, List.flatMap_singleton, List.append_assoc]
      rfl

theorem mem_recordNamesOfAll {name : String} {ns : Namespace} (blocks : List Block) :
    name ∈ (recordNamesOfAll ns blocks).names ↔
      name ∈ ns.names ∨
        ∃ e : Entity, entity e ∈ innermostFirstOfAll blocks ∧ e.name.text = name := by
  induction blocks using forestInduction generalizing ns with
  | nil => simp [recordNamesOfAll, innermostFirstOfAll]
  | cons b rest ihChildren ihRest =>
      simp only [innermostFirstOfAll_cons, List.mem_append, List.mem_singleton]
      cases b with
      | entity e =>
          simp only [recordNamesOfAll, recordNames, ihRest, Namespace.mem_insert, children,
            innermostFirstOfAll, List.not_mem_nil, false_or, Block.entity.injEq]
          constructor
          · rintro ((rfl | hold) | ⟨found, hfound, rfl⟩)
            · exact .inr ⟨e, .inl rfl, rfl⟩
            · exact .inl hold
            · exact .inr ⟨found, .inr hfound, rfl⟩
          · rintro (hold | ⟨found, rfl | hfound, rfl⟩)
            · exact .inl (.inr hold)
            · exact .inl (.inl rfl)
            · exact .inr ⟨found, hfound, rfl⟩
      | nested label policy children own =>
          simp only [Block.children] at ihChildren
          simp only [recordNamesOfAll, recordNames, ihRest, ihChildren, Block.children,
            reduceCtorEq, or_false]
          constructor
          · rintro ((hold | ⟨found, hfound, rfl⟩) | ⟨found, hfound, rfl⟩)
            · exact .inl hold
            · exact .inr ⟨found, .inl hfound, rfl⟩
            · exact .inr ⟨found, .inr hfound, rfl⟩
          · rintro (hold | ⟨found, hfound | hfound, rfl⟩)
            · exact .inl (.inl hold)
            · exact .inl (.inr ⟨found, hfound, rfl⟩)
            · exact .inr ⟨found, hfound, rfl⟩

end Block

namespace Deck

theorem lines_eq_vouch (resolver : Resolver) (separator : String) (d : Deck) :
    d.lines resolver separator = resolver.vouch d.mentions (d.plainLines separator) :=
  Block.linesOfAll_eq resolver separator d.blocks

theorem contains_namespaceOf_iff (d : Deck) (name : String) :
    d.namespaceOf.contains name = true ↔
      ∃ e : Entity, .entity e ∈ d.allBlocks ∧ e.name.text = name := by
  unfold Namespace.contains
  rw [List.contains_iff_mem]
  unfold namespaceOf
  rw [Block.mem_recordNamesOfAll]
  exact or_iff_right List.not_mem_nil

theorem render_of_resolved {d : Deck}
    (hresolved : ∀ m ∈ d.mentions, d.namespaceOf.contains m.target = true) (layout : Layout) :
    d.render layout =
      (indentItems layout (d.plainLines layout.separator)).after
        (.rendered d.size d.namespaceOf.size (d.plainLines layout.separator).length) := by
  have hlines : d.lines d.namespaceOf.resolver layout.separator =
      .ok (d.plainLines layout.separator) := by
    rw [lines_eq_vouch]
    exact Resolver.vouch_of_forall _ hresolved _
  simp only [render, hlines]

theorem render_of_first_unresolved {d : Deck} {m : Mention}
    (hfind : d.mentions.find? (fun m => !d.namespaceOf.contains m.target) = some m)
    (layout : Layout) : d.render layout = { result := .error m.fault } := by
  have hlines : d.lines d.namespaceOf.resolver layout.separator = .error m.fault := by
    rw [lines_eq_vouch]
    exact Resolver.vouch_of_find? _ hfind _
  simp only [render, hlines]

theorem exists_first_unresolved {d : Deck} {m : Mention} (hm : m ∈ d.mentions)
    (hdangling : ¬ d.namespaceOf.contains m.target = true) :
    ∃ first, d.mentions.find? (fun m => !d.namespaceOf.contains m.target) = some first := by
  rw [← Option.isSome_iff_exists, List.find?_isSome]
  exact ⟨m, hm, by simpa using hdangling⟩

/-- Writing a deck looks up its references in the order of its fields. It stops at the first one
that leads nowhere, before anything is logged, and otherwise the lines do not depend on what was
asked. A deck can refer to its entities, at whatever depth, and to nothing else. -/
theorem lines_eq_first_unresolved (d : Deck) :
    (∀ (resolver : Resolver) (separator : String),
      d.lines resolver separator =
        match d.mentions.find? fun m => !resolver m.target with
        | some m => .error (.danglingReference m.owner m.field m.target)
        | none => .ok (d.plainLines separator)) ∧
    (∀ layout : Layout,
      d.render layout =
        match d.mentions.find? fun m => !d.namespaceOf.contains m.target with
        | some m => { result := .error (.danglingReference m.owner m.field m.target), events := [] }
        | none =>
            (indentItems layout (d.plainLines layout.separator)).after
              (.rendered d.size d.namespaceOf.size (d.plainLines layout.separator).length)) ∧
    ∀ name : String,
      d.namespaceOf.contains name = true ↔
        ∃ e : Entity, .entity e ∈ d.allBlocks ∧ e.name.text = name := by
  refine ⟨?_, ?_, contains_namespaceOf_iff d⟩
  · intro resolver separator
    exact lines_eq_vouch resolver separator d
  · intro layout
    have hlines : d.lines d.namespaceOf.resolver layout.separator =
        match d.mentions.find? fun m => !d.namespaceOf.contains m.target with
        | some m => .error m.fault
        | none => .ok (d.plainLines layout.separator) :=
      lines_eq_vouch d.namespaceOf.resolver layout.separator d
    cases hfind : d.mentions.find? fun m => !d.namespaceOf.contains m.target with
    | some m =>
        simp only [render, hlines, hfind]
        rfl
    | none => simp only [render, hlines, hfind]

end Deck

end InputDeck
