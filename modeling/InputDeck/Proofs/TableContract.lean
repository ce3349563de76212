import InputDeck.Proofs.StructFields
import InputDeck.Proofs.TableOrder

namespace InputDeck

namespace Schema

/-- What is promised of building an entity: it starts with its kind, and no value that was supplied
is reported as missing. -/
def KeepsContract (s : Schema) (name : String) (values : Fields) : Prop :=
  match s.build name values with
  | .ok e =>
      ∃ field rest, e.fields.entries = (typeField, field) :: rest ∧
        field.value = .scalar (.text s.kind)
  | .error (.missingField _ _ field) => values.contains field = false
  | .error _ => True

/-- No row that requires its value stands behind another of its name. -/
def RequiresFirst (s : Schema) : Prop :=
  ∀ before rule behind, s.rules = before ++ rule :: behind → rule.isRequired = true →
    rule.name ∉ before.map FieldRule.name

/-- The row behind `before` requires a value and finds none: none was supplied, or a row before it
has taken it. -/
def Starves (values : Fields) (before : List FieldRule) (rule : FieldRule) : Prop :=
  rule.isRequired = true ∧
    (values.contains rule.name = false ∨ rule.name ∈ before.map FieldRule.name)

/-- `rule` starves, and no row before it does. -/
def FirstStarves (values : Fields) (rules : List FieldRule) (rule : FieldRule) : Prop :=
  ∃ before behind, rules = before ++ rule :: behind ∧ Starves values before rule ∧
    ∀ front row back, before = front ++ row :: back → ¬ Starves values front row

theorem starves_erase_iff {values : Fields} {rule other : FieldRule} {before : List FieldRule} :
    Starves (values.erase rule.name) before other ↔ Starves values (rule :: before) other := by
  unfold Starves
  rw [Fields.contains_erase, List.map_cons, List.mem_cons, Bool.and_eq_false_iff]
  simp only [ne_eq, decide_eq_false_iff_not, not_not, @eq_comm _ rule.name]
  tauto

theorem FirstStarves.eq_of_starves {values : Fields} {rule row : FieldRule} {rest : List FieldRule}
    (h : FirstStarves values (rule :: rest) row) (hrule : Starves values [] rule) : row = rule := by
  obtain ⟨_ | ⟨first, front⟩, behind, hrules, -, hearlier⟩ := h
  · exact (List.cons.inj hrules).1.symm
  · obtain ⟨rfl, -⟩ := List.cons.inj hrules
    exact absurd hrule (hearlier [] rule front rfl)

theorem firstStarves_cons_iff {values : Fields} {rule row : FieldRule} {rest : List FieldRule}
    (hrule : ¬ Starves values [] rule) :
    FirstStarves values (rule :: rest) row ↔ FirstStarves (values.erase rule.name) rest row := by
  unfold FirstStarves
  simp only [starves_erase_iff]
  constructor
  · rintro ⟨_ | ⟨first, before⟩, behind, hrules, hrow, hearlier⟩
    · obtain ⟨rfl, -⟩ := List.cons.inj hrules
      exact absurd hrow hrule
    · obtain ⟨rfl, rfl⟩ := List.cons.inj hrules
      refine ⟨before, behind, rfl, hrow, ?_⟩
      intro front other back hbefore
      exact hearlier (rule :: front) other back (congrArg (rule :: ·) hbefore)
  · rintro ⟨before, behind, rfl, hrow, hearlier⟩
    refine ⟨rule :: before, behind, rfl, hrow, ?_⟩
    rintro (_ | ⟨first, front⟩) other back hbefore
    · obtain ⟨rfl, -⟩ := List.cons.inj hbefore
      exact hrule
    · obtain ⟨rfl, hrest⟩ := List.cons.inj hbefore
      exact hearlier front other back hrest

theorem exists_firstStarves {before : List FieldRule} {rule : FieldRule} {values : Fields}
    (h : Starves values before rule) (behind : List FieldRule) :
    ∃ first, FirstStarves values (before ++ rule :: behind) first := by
  induction before generalizing values with
  | nil => exact ⟨rule, [], behind, rfl, h, by simp⟩
  | cons head front ih =>
      by_cases hhead : Starves values [] head
      · exact ⟨head, [], front ++ rule :: behind, rfl, hhead, by simp⟩
      · obtain ⟨first, hfirst⟩ := ih (starves_erase_iff.mpr h)
        exact ⟨first, (firstStarves_cons_iff hhead).mpr hfirst⟩

variable {kind entity : String}

/-- What a row leaves behind for the others, unless it starves. -/
theorem exists_fill_cons (kind entity : String) {values : Fields} {rule : FieldRule}
    (h : ¬ Starves values [] rule) (rest : List FieldRule) (built : Fields) :
    ∃ next, fill kind entity (rule :: rest) values built =
      fill kind entity rest (values.erase rule.name) next := by
  cases hfield : values.get? rule.name with
  | some field => exact ⟨_, fill_of_supplied hfield rest built⟩
  | none =>
      have hoptional : rule.isRequired = false := by
        rw [← Bool.not_eq_true]
        intro hrequired
        exact h ⟨hrequired, .inl (by simp [Fields.contains, hfield])⟩
      refine ⟨built, ?_⟩
      rw [fill_of_not_supplied hfield, hoptional, if_neg Bool.false_ne_true]

theorem fill_of_starves {values : Fields} {rule : FieldRule} (h : Starves values [] rule)
    (rest : List FieldRule) (built : Fields) :
    fill kind entity (rule :: rest) values built =
      .error (.missingField kind entity rule.name) := by
  obtain ⟨hrequired, hnone | htaken⟩ := h
  · have hfield : values.get? rule.name = none := by simpa [Fields.contains] using hnone
    rw [fill_of_not_supplied hfield, if_pos hrequired]
  · cases htaken

/-- Filling fails at the first row that starves, and at no other. -/
theorem fill_eq_error_iff {rules : List FieldRule} {values built : Fields} {fault : Fault} :
    fill kind entity rules values built = .error fault ↔
      ∃ rule, FirstStarves values rules rule ∧ fault = .missingField kind entity rule.name := by
  induction rules generalizing values built with
  | nil => simp [fill, FirstStarves]
  | cons rule rest ih =>
      by_cases hrule : Starves values [] rule
      · have hfirst : FirstStarves values (rule :: rest) rule := ⟨[], rest, rfl, hrule, by simp⟩
        rw [fill_of_starves hrule]
        constructor
        · intro h
          exact ⟨rule, hfirst, (Except.error.inj h).symm⟩
        · rintro ⟨row, hrow, rfl⟩
          rw [hrow.eq_of_starves hrule]
      · obtain ⟨next, hnext⟩ := exists_fill_cons kind entity hrule rest built
        rw [hnext, ih]
        simp only [firstStarves_cons_iff hrule]

theorem head?_names_fill {rules : List FieldRule} {values built fields : Fields} {first : String}
    (h : fill kind entity rules values built = .ok fields)
    (hfirst : built.names.head? = some first) : fields.names.head? = some first := by
  induction rules generalizing values built with
  | nil =>
      obtain rfl : built = fields := Except.ok.inj h
      exact hfirst
  | cons rule rest ih =>
      cases hfield : values.get? rule.name with
      | some field =>
          rw [fill_of_supplied hfield] at h
          exact ih h (Fields.head?_names_insert hfirst _ _)
      | none =>
          rw [fill_of_not_supplied hfield] at h
          split at h
          · cases h
          · exact ih h hfirst

/-- Under each name stands what was supplied for the first row of that name, or else what stood
there before. -/
theorem get?_fill {rules : List FieldRule} {values built fields : Fields}
    (h : fill kind entity rules values built = .ok fields) (name : String) :
    fields.get? name =
      match values.get? name, rules.find? fun rule => rule.name == name with
      | some field, some rule => some (rule.place field)
      | _, _ => built.get? name := by
  induction rules generalizing values built with
  | nil =>
      obtain rfl : built = fields := Except.ok.inj h
      cases values.get? name <;> rfl
  | cons rule rest ih =>
      cases hfield : values.get? rule.name with
      | some field =>
          rw [fill_of_supplied hfield] at h
          rw [ih h, Fields.get?_erase, Fields.get?_insert, List.find?_cons]
          by_cases hname : rule.name = name
          · subst hname
            simp [hfield]
          · simp [hname, beq_false_of_ne hname]
      | none =>
          rw [fill_of_not_supplied hfield] at h
          split at h
          · cases h
          · rw [ih h, Fields.get?_erase, List.find?_cons]
            by_cases hname : rule.name = name
            · subst hname
              simp [hfield]
            · simp [hname, beq_false_of_ne hname]

variable {s : Schema} {name : String} {values : Fields}

theorem mem_rules_of_value? (hforeign : s.foreign? values = none) {v : Value}
    (h : values.value? name = some v) : name ∈ s.rules.map FieldRule.name := by
  obtain ⟨field, hfield, -⟩ := Option.map_eq_some_iff.mp h
  apply foreign?_eq_none_iff.mp hforeign
  exact Fields.contains_iff.mp (Option.isSome_of_eq_some hfield)

/-- The field of the kind comes first. If it is supplied, that is the value it has. -/
theorem exists_first_of_fill {fields : Fields} (hforeign : s.foreign? values = none)
    (h : fill s.kind name s.rules values s.kindOnly = .ok fields) :
    ∃ field rest, fields.entries = (typeField, field) :: rest ∧
      field.value = (values.value? typeField).getD (.scalar (.text s.kind)) := by
  have hfirst : fields.names.head? = some typeField := head?_names_fill h rfl
  have hget := get?_fill h typeField
  cases hsupplied : values.get? typeField with
  | none =>
      rw [hsupplied] at hget
      obtain ⟨rest, hentries⟩ := Fields.exists_entries_of_head? hfirst hget
      refine ⟨_, rest, hentries, ?_⟩
      rw [Fields.value?, hsupplied]
      rfl
  | some field =>
      have hvalue : values.value? typeField = some field.value := by
        rw [Fields.value?, hsupplied]
        rfl
      have hdeclared : (s.rules.find? fun rule => rule.name == typeField).isSome = true :=
        (Keyed.isSome_get?_iff FieldRule.name).mpr (mem_rules_of_value? hforeign hvalue)
      obtain ⟨rule, hrule⟩ := Option.isSome_iff_exists.mp hdeclared
      rw [hsupplied, hrule] at hget
      obtain ⟨rest, hentries⟩ := Fields.exists_entries_of_head? hfirst hget
      refine ⟨_, rest, hentries, ?_⟩
      rw [hvalue]
      rfl

section Declared

variable (hname : nameFault? name = none) (hforeign : s.foreign? values = none)

include hname hforeign

theorem keepsContract_iff_of_firstStarves {rule : FieldRule}
    (h : FirstStarves values s.rules rule) :
    s.KeepsContract name values ↔ values.contains rule.name = false := by
  have hfill : fill s.kind name s.rules values s.kindOnly =
      .error (.missingField s.kind name rule.name) :=
    fill_eq_error_iff.mpr ⟨rule, h, rfl⟩
  unfold KeepsContract
  rw [build_of_accepted s hname, hforeign]
  simp only [hfill, Except.map]

theorem keepsContract_iff_of_none_starves (h : ∀ rule, ¬ FirstStarves values s.rules rule) :
    s.KeepsContract name values ↔
      ∀ v, values.value? typeField = some v → v = .scalar (.text s.kind) := by
  unfold KeepsContract
  rw [build_of_accepted s hname, hforeign]
  cases hfill : fill s.kind name s.rules values s.kindOnly with
  | error fault =>
      obtain ⟨rule, hrule, -⟩ := fill_eq_error_iff.mp hfill
      exact absurd hrule (h rule)
  | ok fields =>
      obtain ⟨field, rest, hentries, hvalue⟩ := exists_first_of_fill hforeign hfill
      simp only [Except.map]
      constructor
      · rintro ⟨first, others, hfirst, hkind⟩ v hv
        cases hentries.symm.trans hfirst
        rw [hv, Option.getD_some] at hvalue
        exact hvalue.symm.trans hkind
      · intro hkind
        refine ⟨field, rest, hentries, ?_⟩
        rw [hvalue]
        cases hv : values.value? typeField with
        | none => rfl
        | some v => exact hkind v hv

/-- When an accepted name and declared values make an entity as promised. -/
theorem keepsContract_iff_of_declared :
    s.KeepsContract name values ↔
      (∀ rule, FirstStarves values s.rules rule → values.contains rule.name = false) ∧
        ((∀ rule, ¬ FirstStarves values s.rules rule) →
          ∀ v, values.value? typeField = some v → v = .scalar (.text s.kind)) := by
  constructor
  · intro h
    constructor
    · intro rule hrule
      exact (keepsContract_iff_of_firstStarves hname hforeign hrule).mp h
    · intro hnone
      exact (keepsContract_iff_of_none_starves hname hforeign hnone).mp h
  · rintro ⟨hmissing, hkind⟩
    by_cases hstarves : ∃ rule, FirstStarves values s.rules rule
    · obtain ⟨rule, hrule⟩ := hstarves
      exact (keepsContract_iff_of_firstStarves hname hforeign hrule).mpr (hmissing rule hrule)
    · rw [not_exists] at hstarves
      exact (keepsContract_iff_of_none_starves hname hforeign hstarves).mpr (hkind hstarves)

end Declared

theorem keepsContract_of_refused {fault : NameFault} (h : nameFault? name = some fault) :
    s.KeepsContract name values := by
  unfold KeepsContract build
  rw [BlockName.ofString_of_fault h]
  trivial

theorem keepsContract_of_foreign (hname : nameFault? name = none) {field : String}
    (h : s.foreign? values = some field) : s.KeepsContract name values := by
  unfold KeepsContract
  rw [build_of_accepted s hname, h]
  trivial

theorem keepsContract_iff :
    s.KeepsContract name values ↔
      (nameFault? name = none → s.foreign? values = none →
        (∀ rule, FirstStarves values s.rules rule → values.contains rule.name = false) ∧
          ((∀ rule, ¬ FirstStarves values s.rules rule) →
            ∀ v, values.value? typeField = some v → v = .scalar (.text s.kind))) := by
  cases hname : nameFault? name with
  | some fault => simp [keepsContract_of_refused hname]
  | none =>
      cases hforeign : s.foreign? values with
      | some field => simp [keepsContract_of_foreign hname hforeign]
      | none => simp only [keepsContract_iff_of_declared hname hforeign, forall_const]

/-- A value for every row, and none of them is the name of a kind. -/
def everyField (s : Schema) : Fields :=
  Fields.ofList (s.rules.map fun rule => (rule.name, .list []))

theorem mem_names_everyField : name ∈ s.everyField.names ↔ name ∈ s.rules.map FieldRule.name := by
  unfold everyField
  rw [Fields.names_ofList, List.mem_eraseDups, List.map_map]
  rfl

theorem value?_everyField (h : name ∈ s.rules.map FieldRule.name) :
    s.everyField.value? name = some (.list []) := by
  have hcontains := Fields.contains_iff.mpr (mem_names_everyField.mpr h)
  obtain ⟨field, hfield⟩ := Option.isSome_iff_exists.mp hcontains
  rw [Fields.value?, hfield]
  rw [everyField, Fields.get?_ofList] at hfield
  obtain ⟨pair, hpair, rfl⟩ := Option.map_eq_some_iff.mp hfield
  have hmem := List.mem_reverse.mp (List.mem_of_find?_eq_some hpair)
  obtain ⟨rule, -, rfl⟩ := List.mem_map.mp hmem
  rfl

/-- No table does without the condition: it fails when all its rows are supplied. -/
theorem requiresFirst_of_keepsContract (h : s.KeepsContract "e" s.everyField) :
    typeField ∉ s.rules.map FieldRule.name ∧ s.RequiresFirst := by
  have hforeign : s.foreign? s.everyField = none :=
    foreign?_eq_none_iff.mpr fun name => mem_names_everyField.mp
  obtain ⟨hmissing, hkind⟩ := (keepsContract_iff_of_declared (by decide) hforeign).mp h
  have hnone : ∀ rule, ¬ FirstStarves s.everyField s.rules rule := by
    intro rule hrule
    have hcontains := hmissing rule hrule
    obtain ⟨before, behind, hrules, -, -⟩ := hrule
    rw [← Bool.not_eq_true, Fields.contains_iff, mem_names_everyField] at hcontains
    exact hcontains (List.mem_map_of_mem (by simp [hrules]))
  constructor
  · intro htype
    cases hkind hnone _ (value?_everyField htype)
  · intro before rule behind hrules hrequired hname
    have hstarves : Starves s.everyField before rule := ⟨hrequired, .inr hname⟩
    obtain ⟨first, hfirst⟩ := exists_firstStarves hstarves behind
    rw [← hrules] at hfirst
    exact hnone first hfirst

theorem RequiresFirst.keepsContract (h : s.RequiresFirst)
    (htype : typeField ∉ s.rules.map FieldRule.name) (name : String) (values : Fields) :
    s.KeepsContract name values := by
  rw [keepsContract_iff]
  intro _ hforeign
  constructor
  · rintro rule ⟨before, behind, hrules, ⟨hrequired, hnone | hname⟩, -⟩
    · exact hnone
    · exact absurd hname (h before rule behind hrules hrequired)
  · intro _ v hv
    exact absurd (mem_rules_of_value? hforeign hv) htype

theorem Orderly.requiresFirst (h : s.Orderly) : s.RequiresFirst := by
  intro before rule behind hrules _ hname
  have hdistinct := h.distinct
  rw [hrules, List.map_append, List.map_cons, List.nodup_append] at hdistinct
  exact hdistinct.2.2 _ hname _ (by simp) rfl

/-- So the tables of the catalog keep it. -/
theorem Orderly.keepsContract (h : s.Orderly) (name : String) (values : Fields) :
    s.KeepsContract name values :=
  h.requiresFirst.keepsContract h.typeField_not_mem name values

/-- The contract is kept unless the first row that starves does so because an earlier row has taken
its value, or no row starves and the field of the kind is supplied with another value. So a table
keeps it always just if it has no row for the field of the kind, and none that requires its value
stands behind another of its name. -/
theorem keepsContract_iff_first_starving (s : Schema) :
    (∀ (name : String) (values : Fields), s.KeepsContract name values ↔
      (nameFault? name = none → s.foreign? values = none →
        (∀ rule, FirstStarves values s.rules rule → values.contains rule.name = false) ∧
          ((∀ rule, ¬ FirstStarves values s.rules rule) →
            ∀ v, values.value? typeField = some v → v = .scalar (.text s.kind)))) ∧
    ((∀ (name : String) (values : Fields), s.KeepsContract name values) ↔
      typeField ∉ s.rules.map FieldRule.name ∧ s.RequiresFirst) := by
  constructor
  · intro name values
    exact keepsContract_iff
  · constructor
    · intro h
      exact requiresFirst_of_keepsContract (h "e" s.everyField)
    · rintro ⟨htype, hrequired⟩
      exact hrequired.keepsContract htype

/-- A row may take the place of the kind, and a value may be called missing that is there. -/
theorem contract_not_kept :
    (∃ e, ({ kind := "Diffusion", rules := [.optional "type"] } : Schema).build "u"
        (Fields.ofList [("type", .scalar (.text "Other"))]) = .ok e ∧
      e.fields.entries = [("type", { value := .scalar (.text "Other") })]) ∧
    ({ kind := "Diffusion", rules := [.optional "block", .required "block"] } : Schema).build "u"
        (Fields.ofList [("block", .scalar (.text "a"))]) =
      .error (.missingField "Diffusion" "u" "block") ∧
    (Fields.ofList [("block", .scalar (.text "a"))]).contains "block" = true := by
  exact ⟨⟨_, rfl, rfl⟩, rfl, rfl⟩

end Schema

end InputDeck
