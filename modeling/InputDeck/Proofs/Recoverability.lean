import InputDeck.Balance
import InputDeck.Catalog.Schema
import InputDeck.Proofs.Mentions
import InputDeck.Proofs.ProducerFaults

namespace InputDeck

def Except.errors : Except ε α → List ε
  | .ok _ => []
  | .error e => [e]

theorem Except.mem_errors_iff {x : Except ε α} {e : ε} : e ∈ errors x ↔ x = .error e := by
  cases x with
  | ok a => simp [errors]
  | error e' => simp [errors, @eq_comm _ e]

/-- A step of putting a deck together. The block that is inserted is an entity or a section. -/
inductive BuildCall where
  | entity (name : String) (fields : Fields)
  | tagged (name kind : String) (fields : Fields)
  | entityFrom (name : String) (p : Producer)
  | emptySection (label : String)
  | insert (s : Section) (b : Block)
  | extend (s : Section) (entities : List Entity)
  | replaceFields (s : Section) (name : String) (fields : Fields)
  | fieldsOf (p : Producer)
  | valueOf (p : Producer)
  | build (schema : Schema) (name : String) (values : Fields)
  | buildFrom (schema : Schema) (name : String) (p : Producer)

/-- What the step reports. -/
def BuildCall.faults : BuildCall → List Fault
  | entity name fields => Except.errors (Entity.ofName name fields)
  | tagged name kind fields => Except.errors (Entity.tagged name kind fields)
  | entityFrom name p => Except.errors (Entity.ofProducer name p)
  | emptySection label => Except.errors (Section.ofLabel label)
  | insert s b => (s.insert b).result.2.toList
  | extend s entities => (s.extend entities).result.2
  | replaceFields s name fields => Except.errors (s.replaceFields name fields)
  | fieldsOf p => Except.errors p.toFields
  | valueOf p => Except.errors p.toValue?
  | build schema name values => Except.errors (schema.build name values)
  | buildFrom schema name p => Except.errors (schema.buildFrom name p)

/-- A step of writing a deck or a part of it. -/
inductive RenderCall where
  | entity (resolver : Resolver) (layout : Layout) (e : Entity)
  | nested (resolver : Resolver) (layout : Layout) (s : Section)
  | lines (resolver : Resolver) (layout : Layout) (d : Deck)
  | deck (layout : Layout) (d : Deck)
  | indentItems (layout : Layout) (items : List String)
  | indentText (layout : Layout) (text : String)
  | checkBalance (text : String)

def RenderCall.faults : RenderCall → List Fault
  | entity resolver layout e => Except.errors (e.lines resolver layout.separator)
  | nested resolver layout s => Except.errors (s.lines resolver layout.separator)
  | lines resolver layout d => Except.errors (d.lines resolver layout.separator)
  | deck layout d => Except.errors (d.render layout).result
  | indentItems layout items => Except.errors (InputDeck.indentItems layout items).result
  | indentText layout text => Except.errors (InputDeck.indentText layout text).result
  | checkBalance text => Except.errors (InputDeck.checkBalance text)

/-- The steps of building whose problem is of no kind of its own: the entity whose fields are to be
replaced is not there, or data is met that its producer hands over wrongly or that has too many
bits. -/
inductive BuildCall.EndsInCustom : BuildCall → String → Prop
  | replaceFields {s : Section} {name : String} {fields : Fields} (h : s.entity? name = none) :
      EndsInCustom (.replaceFields s name fields)
        ("no entity named '" ++ name ++ "' in [" ++ s.label.text ++ "]")
  | entityFrom {name : String} {p : Producer} {problem : String} (h : p.MeetsCustom problem) :
      EndsInCustom (.entityFrom name p) problem
  | fieldsOf {p : Producer} {problem : String} (h : p.MeetsCustom problem) :
      EndsInCustom (.fieldsOf p) problem
  | valueOf {p : Producer} {n : WideInt} (h : p.MeetsWide n) :
      EndsInCustom (.valueOf p) n.refusal
  | buildFrom {schema : Schema} {name : String} {p : Producer} {problem : String}
      (h : p.MeetsCustom problem) : EndsInCustom (.buildFrom schema name p) problem

theorem Fault.IsUnsupported.isRecoverable {fault : Fault} (h : fault.IsUnsupported) :
    fault.isRecoverable = true := by
  obtain ⟨problem, rfl⟩ := h
  rfl

theorem Producer.isRecoverable_or_meetsCustom {p : Producer} {fault : Fault}
    (h : p.toFields = .error fault) :
    fault.isRecoverable = true ∨ ∃ problem, p.MeetsCustom problem := by
  rcases p.toFields_eq_error h with ⟨problem, hproblem, -⟩ | hunsupported
  · exact .inr ⟨problem, hproblem⟩
  · exact .inl hunsupported.isRecoverable

theorem BlockName.isRecoverable_of_ofString {what name : String} {fault : Fault}
    (h : BlockName.ofString what name = .error fault) : fault.isRecoverable = true := by
  unfold BlockName.ofString at h
  split at h
  · cases h
  · cases h
    rfl

theorem Entity.isRecoverable_of_ofName {name : String} {fields : Fields} {fault : Fault}
    (h : Entity.ofName name fields = .error fault) : fault.isRecoverable = true :=
  BlockName.isRecoverable_of_ofString (Except.map_eq_error_iff.mp h)

namespace Section

theorem isRecoverable_of_insert {s : Section} {b : Block} {fault : Fault}
    (h : (s.insert b).result.2 = some fault) : fault.isRecoverable = true := by
  unfold insert at h
  split at h
  · cases h
    rfl
  · cases h

theorem isRecoverable_of_extend {s : Section} {entities : List Entity} {fault : Fault}
    (h : fault ∈ (s.extend entities).result.2) : fault.isRecoverable = true := by
  induction entities generalizing s with
  | nil => simp [extend] at h
  | cons e rest ih =>
      simp only [extend, Logged.bind, Logged.map, List.mem_append, Option.mem_toList] at h
      rcases h with hfirst | hrest
      · exact isRecoverable_of_insert hfirst
      · exact ih hrest

end Section

namespace Schema

theorem isRecoverable_of_fill {kind entity : String} {rules : List FieldRule}
    {values built : Fields} {fault : Fault}
    (h : fill kind entity rules values built = .error fault) : fault.isRecoverable = true := by
  induction rules generalizing values built with
  | nil => cases h
  | cons rule rest ih =>
      rw [fill, Fields.getThenErase?] at h
      cases hget : values.get? rule.name with
      | some field =>
          simp only [hget] at h
          exact ih h
      | none =>
          simp only [hget] at h
          split at h
          · cases h
            rfl
          · exact ih h

theorem isRecoverable_of_build {schema : Schema} {name : String} {values : Fields}
    {fault : Fault} (h : schema.build name values = .error fault) :
    fault.isRecoverable = true := by
  rw [build, Except.bind_eq_error_iff] at h
  rcases h with hname | ⟨name, -, h⟩
  · exact BlockName.isRecoverable_of_ofString hname
  · split at h
    · cases h
      rfl
    · rw [Except.bind_eq_error_iff] at h
      rcases h with hfill | ⟨fields, -, hpure⟩
      · exact isRecoverable_of_fill hfill
      · cases hpure

end Schema

namespace BuildCall

theorem EndsInCustom.faults_eq {call : BuildCall} {problem : String}
    (h : call.EndsInCustom problem) : call.faults = [.custom problem] := by
  cases h with
  | replaceFields h => rw [faults, Section.replaceFields_eq_error_iff.mpr ⟨h, rfl⟩, Except.errors]
  | entityFrom h =>
      rw [faults, Entity.ofProducer, h.toFields_eq]
      rfl
  | fieldsOf h => rw [faults, h.toFields_eq, Except.errors]
  | valueOf h => rw [faults, h.toValue?_eq, Except.errors]
  | buildFrom h =>
      rw [faults, Schema.buildFrom, h.toFields_eq]
      rfl

theorem isRecoverable_or_endsInCustom {call : BuildCall} {fault : Fault}
    (h : fault ∈ call.faults) :
    fault.isRecoverable = true ∨ ∃ problem, call.EndsInCustom problem := by
  cases call with
  | entity name fields => exact .inl (Entity.isRecoverable_of_ofName (Except.mem_errors_iff.mp h))
  | tagged name kind fields =>
      have htagged : Entity.tagged name kind fields = .error fault := Except.mem_errors_iff.mp h
      exact .inl (Entity.isRecoverable_of_ofName (Except.map_eq_error_iff.mp htagged))
  | entityFrom name p =>
      have hentity : Entity.ofProducer name p = .error fault := Except.mem_errors_iff.mp h
      rw [Entity.ofProducer, Except.bind_eq_error_iff] at hentity
      rcases hentity with hfields | ⟨fields, -, hname⟩
      · have hcustom := Producer.isRecoverable_or_meetsCustom hfields
        exact hcustom.imp_right (Exists.imp fun _ => .entityFrom)
      · exact .inl (Entity.isRecoverable_of_ofName hname)
  | emptySection label =>
      have hlabel : Section.ofLabel label = .error fault := Except.mem_errors_iff.mp h
      exact .inl (BlockName.isRecoverable_of_ofString (Except.map_eq_error_iff.mp hlabel))
  | insert s b => exact .inl (Section.isRecoverable_of_insert (Option.mem_toList.mp h))
  | extend s entities => exact .inl (Section.isRecoverable_of_extend h)
  | replaceFields s name fields =>
      have hreplace : s.replaceFields name fields = .error fault := Except.mem_errors_iff.mp h
      exact .inr ⟨_, .replaceFields (Section.replaceFields_eq_error_iff.mp hreplace).1⟩
  | fieldsOf p =>
      have hfields : p.toFields = .error fault := Except.mem_errors_iff.mp h
      have hcustom := Producer.isRecoverable_or_meetsCustom hfields
      exact hcustom.imp_right (Exists.imp fun _ => .fieldsOf)
  | valueOf p =>
      have hvalue : p.toValue? = .error fault := Except.mem_errors_iff.mp h
      rcases p.toValue?_eq_error hvalue with ⟨n, hn, -⟩ | hunsupported
      · exact .inr ⟨n.refusal, .valueOf hn⟩
      · exact .inl hunsupported.isRecoverable
  | build schema name values =>
      have hbuild : schema.build name values = .error fault := Except.mem_errors_iff.mp h
      exact .inl (Schema.isRecoverable_of_build hbuild)
  | buildFrom schema name p =>
      have hentity : schema.buildFrom name p = .error fault := Except.mem_errors_iff.mp h
      rw [Schema.buildFrom, Except.bind_eq_error_iff] at hentity
      rcases hentity with hfields | ⟨values, -, hbuild⟩
      · have hcustom := Producer.isRecoverable_or_meetsCustom hfields
        exact hcustom.imp_right (Exists.imp fun _ => .buildFrom)
      · exact .inl (Schema.isRecoverable_of_build hbuild)

end BuildCall

theorem Block.not_isRecoverable_of_linesOfAll {resolver : Resolver} {separator : String}
    {blocks : List Block} {fault : Fault}
    (h : linesOfAll resolver separator blocks = .error fault) : fault.isRecoverable = false := by
  rw [linesOfAll_eq, Resolver.vouch] at h
  split at h
  · cases h
    rfl
  · cases h

theorem Block.not_isRecoverable_of_lines {resolver : Resolver} {separator : String} {b : Block}
    {fault : Fault} (h : b.lines resolver separator = .error fault) :
    fault.isRecoverable = false := by
  have hrow : linesOfAll resolver separator [b] = .error fault := by
    rw [linesOfAll, h]
    rfl
  exact not_isRecoverable_of_linesOfAll hrow

theorem not_isRecoverable_of_indentFrom {layout : Layout} {line : Nat} {nesting : Nesting}
    {items : List (List Char)} {fault : Fault}
    (h : (indentFrom layout line nesting items).result = .error fault) :
    fault.isRecoverable = false := by
  induction items generalizing line nesting with
  | nil =>
      rw [indentFrom] at h
      split at h
      · cases h
      · cases hbalance : layout.balance <;> simp only [hbalance] at h <;> cases h
        rfl
  | cons item rest ih =>
      simp only [indentFrom] at h
      split at h
      · cases hbalance : layout.balance <;> simp only [hbalance] at h
        · cases h
          rfl
        · exact ih (Except.map_eq_error_iff.mp h)
      · exact ih (Except.map_eq_error_iff.mp h)

theorem not_isRecoverable_of_balanceFrom {count depth deepest : Nat} {lines : List (List Char)}
    {fault : Fault} (h : balanceFrom count depth deepest lines = .error fault) :
    fault.isRecoverable = false := by
  induction lines generalizing count depth deepest with
  | nil =>
      rw [balanceFrom] at h
      split at h
      · cases h
      · cases h
        rfl
  | cons line rest ih =>
      cases hmarker : Marker.ofLine line with
      | opening =>
          simp only [balanceFrom, hmarker] at h
          exact ih h
      | closing =>
          cases depth with
          | zero =>
              simp only [balanceFrom, hmarker] at h
              cases h
              rfl
          | succ outer =>
              simp only [balanceFrom, hmarker] at h
              exact ih h
      | body =>
          simp only [balanceFrom, hmarker] at h
          exact ih h

theorem Deck.not_isRecoverable_of_render {layout : Layout} {d : Deck} {fault : Fault}
    (h : (d.render layout).result = .error fault) : fault.isRecoverable = false := by
  simp only [render] at h
  split at h
  · next hlines =>
      cases h
      exact Block.not_isRecoverable_of_linesOfAll hlines
  · exact not_isRecoverable_of_indentFrom (Except.map_eq_error_iff.mp h)

theorem RenderCall.not_isRecoverable {call : RenderCall} {fault : Fault}
    (h : fault ∈ call.faults) : fault.isRecoverable = false := by
  cases call with
  | entity resolver layout e =>
      have hlines : (Block.entity e).lines resolver layout.separator = .error fault :=
        Except.mem_errors_iff.mp h
      exact Block.not_isRecoverable_of_lines hlines
  | nested resolver layout s =>
      exact Block.not_isRecoverable_of_lines (Except.mem_errors_iff.mp h)
  | lines resolver layout d =>
      exact Block.not_isRecoverable_of_linesOfAll (Except.mem_errors_iff.mp h)
  | deck layout d => exact Deck.not_isRecoverable_of_render (Except.mem_errors_iff.mp h)
  | indentItems layout items =>
      have hpass := Except.map_eq_error_iff.mp (Except.mem_errors_iff.mp h)
      exact not_isRecoverable_of_indentFrom hpass
  | indentText layout text =>
      have hpass := Except.map_eq_error_iff.mp (Except.mem_errors_iff.mp h)
      exact not_isRecoverable_of_indentFrom hpass
  | checkBalance text => exact not_isRecoverable_of_balanceFrom (Except.mem_errors_iff.mp h)

/-- Whatever goes wrong while a deck is written is final. What goes wrong while it is built can be
recovered from, but for the problems that have no kind of their own. -/
theorem isRecoverable_iff_not_custom (building : BuildCall) (rendering : RenderCall) :
    (∀ fault ∈ building.faults,
      fault.isRecoverable = true ↔ ∀ problem, ¬ building.EndsInCustom problem) ∧
    (∀ problem, building.EndsInCustom problem → building.faults = [.custom problem]) ∧
    ∀ fault ∈ rendering.faults, fault.isRecoverable = false := by
  refine ⟨?_, fun _ hcustom => hcustom.faults_eq, fun _ => RenderCall.not_isRecoverable⟩
  intro fault hfault
  constructor
  · intro hrecoverable problem hcustom
    rw [hcustom.faults_eq, List.mem_singleton] at hfault
    subst hfault
    cases hrecoverable
  · intro hcustom
    rcases BuildCall.isRecoverable_or_endsInCustom hfault with hrecoverable | ⟨problem, hproblem⟩
    · exact hrecoverable
    · exact absurd hproblem (hcustom problem)

/-- Of an entity that is not there no fields can be replaced. The section stays as it was, and yet
the fault counts as one that is met in writing. -/
theorem not_isRecoverable_of_missing_entity :
    (BuildCall.replaceFields { label := ⟨"Variables", by decide⟩ } "T" ∅).faults =
        [.custom "no entity named 'T' in [Variables]"] ∧
      ¬ ∀ (call : BuildCall) (fault : Fault), fault ∈ call.faults → fault.isRecoverable = true := by
  have hfaults : (BuildCall.replaceFields { label := ⟨"Variables", by decide⟩ } "T" ∅).faults =
      [.custom "no entity named 'T' in [Variables]"] :=
    BuildCall.EndsInCustom.faults_eq (.replaceFields rfl)
  refine ⟨hfaults, ?_⟩
  intro hrecoverable
  have hcustom := hrecoverable _ _ (hfaults ▸ List.mem_singleton_self _)
  cases hcustom

end InputDeck
