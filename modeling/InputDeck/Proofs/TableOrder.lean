import InputDeck.Catalog.Kinds
import Mathlib.Data.List.Find
import Mathlib.Data.List.Nodup

namespace InputDeck

namespace Schema

/-- No field stands twice in the table, and the one that holds the kind does not stand in it. -/
structure Orderly (s : Schema) : Prop where
  distinct : (s.rules.map FieldRule.name).Nodup
  typeField_not_mem : typeField ∉ s.rules.map FieldRule.name

instance (s : Schema) : Decidable s.Orderly :=
  decidable_of_iff (_ ∧ _) ⟨fun h => ⟨h.1, h.2⟩, fun h => ⟨h.distinct, h.typeField_not_mem⟩⟩

/-- The first supplied value that the table has no row for. -/
def foreign? (s : Schema) (values : Fields) : Option String :=
  values.names.find? fun name => name ∉ s.rules.map FieldRule.name

end Schema

/-- The first row that requires a value which is not supplied. -/
def missing? (rules : List FieldRule) (values : Fields) : Option FieldRule :=
  rules.find? fun rule => rule.isRequired && !values.contains rule.name

/-- A supplied field as it is written in this row. -/
def FieldRule.place (rule : FieldRule) (field : Field) : Field where
  value := field.value
  quote := if field.quote = .auto then rule.quote else field.quote

/-- The supplied values in the order of the rows. -/
def placed (rules : List FieldRule) (values : Fields) : List (String × Field) :=
  rules.filterMap fun rule =>
    (values.get? rule.name).map fun field => (rule.name, rule.place field)

theorem Catalog.orderly_of_mem_schemas : ∀ s ∈ schemas, s.Orderly := by
  decide

theorem FieldRule.place_eq (rule : FieldRule) (field : Field) :
    { field with quote := rule.quoteFor field.quote } = rule.place field := by
  obtain ⟨value, quote⟩ := field
  cases quote <;> rfl

section Supply

variable {rules : List FieldRule} {values others : Fields}

theorem missing?_congr (h : ∀ rule ∈ rules, others.get? rule.name = values.get? rule.name) :
    missing? rules others = missing? rules values := by
  unfold missing? Fields.contains
  apply List.find?_congr
  intro rule hrule
  rw [h rule hrule]

theorem placed_congr (h : ∀ rule ∈ rules, others.get? rule.name = values.get? rule.name) :
    placed rules others = placed rules values := by
  unfold placed
  apply List.filterMap_congr
  intro rule hrule
  rw [h rule hrule]

theorem placed_cons (rule : FieldRule) (rest : List FieldRule) (values : Fields) :
    placed (rule :: rest) values =
      ((values.get? rule.name).map fun field => (rule.name, rule.place field)).toList ++
        placed rest values := by
  unfold placed
  rw [List.filterMap_cons]
  cases values.get? rule.name <;> rfl

theorem map_fst_placed (rules : List FieldRule) (values : Fields) :
    (placed rules values).map Prod.fst = (rules.map FieldRule.name).filter values.contains := by
  induction rules with
  | nil => rfl
  | cons rule rest ih =>
      rw [placed_cons, List.map_append, ih, List.map_cons, List.filter_cons, Fields.contains]
      cases values.get? rule.name <;> rfl

theorem mem_map_placed {name : String} {value : Value} :
    (name, value) ∈ (placed rules values).map (Prod.map id Field.value) ↔
      name ∈ rules.map FieldRule.name ∧
        (name, value) ∈ values.entries.map (Prod.map id Field.value) := by
  constructor
  · intro h
    obtain ⟨_, hplaced, hentry⟩ := List.mem_map.mp h
    obtain ⟨rule, hrule, hplace⟩ := List.mem_filterMap.mp hplaced
    obtain ⟨field, hfield, rfl⟩ := Option.map_eq_some_iff.mp hplace
    cases hentry
    exact ⟨List.mem_map_of_mem hrule,
      List.mem_map.mpr ⟨_, Fields.get?_eq_some_iff.mp hfield, rfl⟩⟩
  · rintro ⟨hname, hvalue⟩
    obtain ⟨rule, hrule, rfl⟩ := List.mem_map.mp hname
    obtain ⟨⟨_, field⟩, hfield, hentry⟩ := List.mem_map.mp hvalue
    cases hentry
    refine List.mem_map.mpr ⟨(rule.name, rule.place field), ?_, rfl⟩
    refine List.mem_filterMap.mpr ⟨rule, hrule, ?_⟩
    rw [Fields.get?_eq_some_iff.mpr hfield]
    rfl

/-- No value is lost, none is doubled and none comes under another name. -/
theorem perm_placed (hdistinct : (rules.map FieldRule.name).Nodup)
    (hdeclared : ∀ name ∈ values.names, name ∈ rules.map FieldRule.name) :
    ((placed rules values).map (Prod.map id Field.value)).Perm
      (values.entries.map (Prod.map id Field.value)) := by
  have hplaced : ((placed rules values).map (Prod.map id Field.value)).Nodup := by
    apply List.Nodup.of_map Prod.fst
    rw [List.map_map]
    change ((placed rules values).map Prod.fst).Nodup
    rw [map_fst_placed]
    exact hdistinct.filter _
  have hvalues : (values.entries.map (Prod.map id Field.value)).Nodup := by
    apply List.Nodup.of_map Prod.fst
    rw [List.map_map]
    exact values.distinct
  rw [List.perm_ext_iff_of_nodup hplaced hvalues]
  rintro ⟨name, value⟩
  rw [mem_map_placed]
  apply and_iff_right_of_imp
  intro h
  obtain ⟨_, hfield, hentry⟩ := List.mem_map.mp h
  cases hentry
  exact hdeclared _ (List.mem_map_of_mem hfield)

end Supply

namespace Schema

variable {kind entity : String}

theorem fill_of_supplied {rule : FieldRule} {values : Fields} {field : Field}
    (h : values.get? rule.name = some field) (rest : List FieldRule) (built : Fields) :
    fill kind entity (rule :: rest) values built =
      fill kind entity rest (values.erase rule.name)
        (built.insert rule.name (rule.place field)) := by
  simp only [fill, Fields.getThenErase?, h, rule.place_eq]

theorem fill_of_not_supplied {rule : FieldRule} {values : Fields}
    (h : values.get? rule.name = none) (rest : List FieldRule) (built : Fields) :
    fill kind entity (rule :: rest) values built =
      if rule.isRequired then .error (.missingField kind entity rule.name)
      else fill kind entity rest (values.erase rule.name) built := by
  simp only [fill, Fields.getThenErase?, h]

/-- Filling moves each value to the place of its row. What earlier rows have taken out of the supply
is of other names, so that a row finds there what was supplied for it at first. -/
theorem fill_eq {rules : List FieldRule} {values built : Fields}
    (hdistinct : (rules.map FieldRule.name).Nodup)
    (hfresh : ∀ rule ∈ rules, rule.name ∉ built.names) :
    (fill kind entity rules values built).map Fields.entries =
      match missing? rules values with
      | some rule => .error (.missingField kind entity rule.name)
      | none => .ok (built.entries ++ placed rules values) := by
  induction rules generalizing values built with
  | nil => simp [fill, missing?, placed, Except.map]
  | cons rule rest ih =>
      rw [List.map_cons, List.nodup_cons] at hdistinct
      obtain ⟨hrule, hrest⟩ := hdistinct
      rw [List.forall_mem_cons] at hfresh
      obtain ⟨hruleFresh, hrestFresh⟩ := hfresh
      have hother : ∀ other ∈ rest, rule.name ≠ other.name := by
        intro other hmem hname
        exact hrule (hname ▸ List.mem_map_of_mem hmem)
      have hget : ∀ other ∈ rest,
          (values.erase rule.name).get? other.name = values.get? other.name := by
        intro other hmem
        rw [Fields.get?_erase, if_neg (hother other hmem)]
      -- a row that is not supplied with its value leaves the supply as it is for the others, too
      rw [missing?, List.find?_cons, placed_cons, Fields.contains]
      cases hfield : values.get? rule.name with
      | some field =>
          have hentries := Fields.entries_insert_of_not_mem hruleFresh (rule.place field)
          have hfresh : ∀ other ∈ rest,
              other.name ∉ (built.insert rule.name (rule.place field)).names := by
            intro other hmem
            rw [Fields.names, hentries, List.map_append, List.mem_append, not_or]
            exact ⟨hrestFresh other hmem, by simpa using (hother other hmem).symm⟩
          rw [fill_of_supplied hfield, ih hrest hfresh, missing?_congr hget, placed_congr hget,
            hentries, List.append_assoc, Option.isSome_some, Bool.not_true, Bool.and_false]
          rfl
      | none =>
          rw [fill_of_not_supplied hfield, Option.isSome_none, Bool.not_false, Bool.and_true]
          cases rule.isRequired with
          | true => rfl
          | false =>
              rw [if_neg Bool.false_ne_true, ih hrest hrestFresh, missing?_congr hget,
                placed_congr hget]
              rfl

theorem foreign?_eq (s : Schema) (values : Fields) :
    values.names.find? (fun name => (s.rule? name).isNone) = s.foreign? values := by
  unfold foreign?
  apply List.find?_congr
  intro name _
  have hdeclared : (s.rule? name).isSome = true ↔ name ∈ s.rules.map FieldRule.name :=
    Keyed.isSome_get?_iff FieldRule.name
  rw [Bool.eq_iff_iff, decide_eq_true_iff, ← hdeclared]
  cases s.rule? name <;> simp

def kindOnly (s : Schema) : Fields :=
  Fields.insert ∅ typeField { value := .scalar (.text s.kind) }

theorem build_of_accepted (s : Schema) {name : String} (accepted : nameFault? name = none)
    (values : Fields) :
    s.build name values =
      match s.foreign? values with
      | some field => .error (.unknownField s.kind name field)
      | none =>
          (fill s.kind name s.rules values s.kindOnly).map fun fields =>
            { name := ⟨name, accepted⟩, kind := some s.kind, fields } := by
  unfold build
  rw [BlockName.ofString_of_accepted accepted, ← foreign?_eq]
  rfl

variable {s : Schema} {name : String} {values others : Fields}

theorem Orderly.map_entries_fill (h : s.Orderly) (name : String) (values : Fields) :
    (fill s.kind name s.rules values s.kindOnly).map Fields.entries =
      match missing? s.rules values with
      | some rule => .error (.missingField s.kind name rule.name)
      | none => .ok (s.kindOnly.entries ++ placed s.rules values) := by
  apply fill_eq h.distinct
  intro rule hrule htype
  have hname : rule.name = typeField := List.mem_singleton.mp htype
  apply h.typeField_not_mem
  rw [← hname]
  exact List.mem_map_of_mem hrule

theorem Orderly.fill_of_missing (h : s.Orderly) {rule : FieldRule}
    (hmissing : missing? s.rules values = some rule) (name : String) :
    fill s.kind name s.rules values s.kindOnly =
      .error (.missingField s.kind name rule.name) := by
  have hfill := h.map_entries_fill name values
  rw [hmissing] at hfill
  cases hfields : fill s.kind name s.rules values s.kindOnly with
  | error fault =>
      rw [hfields] at hfill
      exact congrArg Except.error (Except.error.inj hfill)
  | ok fields =>
      rw [hfields] at hfill
      cases hfill

theorem Orderly.build_of_complete (h : s.Orderly) (accepted : nameFault? name = none)
    (hforeign : s.foreign? values = none) (hmissing : missing? s.rules values = none) :
    ∃ fields : Fields,
      s.build name values = .ok { name := ⟨name, accepted⟩, kind := some s.kind, fields } ∧
        fields.entries = s.kindOnly.entries ++ placed s.rules values := by
  have hfill := h.map_entries_fill name values
  rw [hmissing] at hfill
  cases hfields : fill s.kind name s.rules values s.kindOnly with
  | error fault =>
      rw [hfields] at hfill
      cases hfill
  | ok fields =>
      rw [hfields] at hfill
      refine ⟨fields, ?_, Except.ok.inj hfill⟩
      rw [build_of_accepted s accepted, hforeign, hfields]
      rfl

theorem foreign?_eq_none_iff :
    s.foreign? values = none ↔ ∀ name ∈ values.names, name ∈ s.rules.map FieldRule.name := by
  simp [foreign?]

/-- In what order the values are supplied does not matter, if they are complete. -/
theorem Orderly.build_of_perm (h : s.Orderly) (accepted : nameFault? name = none)
    (hforeign : s.foreign? values = none) (hmissing : missing? s.rules values = none)
    (hperm : others.entries.Perm values.entries) :
    s.build name others = s.build name values := by
  have hget : ∀ rule ∈ s.rules, others.get? rule.name = values.get? rule.name :=
    fun rule _ => Fields.get?_of_perm hperm rule.name
  have hforeign' : s.foreign? others = none := by
    rw [foreign?_eq_none_iff] at hforeign ⊢
    intro field hfield
    exact hforeign field ((hperm.map Prod.fst).mem_iff.mp hfield)
  have hmissing' : missing? s.rules others = none := (missing?_congr hget).trans hmissing
  obtain ⟨fields, hbuild, hentries⟩ := h.build_of_complete accepted hforeign hmissing
  obtain ⟨fields', hbuild', hentries'⟩ := h.build_of_complete accepted hforeign' hmissing'
  rw [placed_congr hget, ← hentries] at hentries'
  rw [hbuild, hbuild', Fields.eq_of_entries hentries']

/-- All tables of the catalog are orderly. What an orderly table builds is its kind and then the
supplied values, each once and under its own name, in the order of the rows. It refuses a bad name
first, then the first value that is foreign to it, then the first row that lacks its value. -/
theorem build_eq_placed :
    (∀ s ∈ Catalog.schemas, s.Orderly) ∧
    ∀ s : Schema, s.Orderly → ∀ (name : String) (values : Fields),
      (∀ fault, nameFault? name = some fault →
        s.build name values = .error (.invalidName "entity" name fault.reason)) ∧
      ∀ accepted : nameFault? name = none,
        match s.foreign? values, missing? s.rules values with
        | some field, _ => s.build name values = .error (.unknownField s.kind name field)
        | none, some rule => s.build name values = .error (.missingField s.kind name rule.name)
        | none, none =>
            (∃ fields : Fields,
              s.build name values = .ok { name := ⟨name, accepted⟩, kind := some s.kind, fields } ∧
              fields.entries =
                (typeField, { value := .scalar (.text s.kind), quote := .auto }) ::
                  placed s.rules values) ∧
            ((placed s.rules values).map (Prod.map id Field.value)).Perm
              (values.entries.map (Prod.map id Field.value)) ∧
            ∀ others : Fields, others.entries.Perm values.entries →
              s.build name others = s.build name values := by
  refine ⟨Catalog.orderly_of_mem_schemas, ?_⟩
  intro s h name values
  constructor
  · intro fault hfault
    unfold build
    rw [BlockName.ofString_of_fault hfault]
    rfl
  · intro accepted
    cases hforeign : s.foreign? values with
    | some field => simp only [build_of_accepted s accepted, hforeign]
    | none =>
        cases hmissing : missing? s.rules values with
        | some rule =>
            simp only [build_of_accepted s accepted, hforeign, h.fill_of_missing hmissing]
            rfl
        | none =>
            refine ⟨h.build_of_complete accepted hforeign hmissing,
              perm_placed h.distinct (foreign?_eq_none_iff.mp hforeign), ?_⟩
            exact fun others => h.build_of_perm accepted hforeign hmissing

theorem build_eq_placed_of_boundary :
    let values : Fields :=
      { entries :=
          [("value", { value := .scalar (.bool true) }),
            ("boundary", { value := .scalar (.text "top"), quote := .single }),
            ("variable", { value := .reference { target := "u" } })]
        distinct := by decide }
    ∃ fields : Fields,
      Catalog.dirichletBoundary.build "fixed" values =
        .ok { name := ⟨"fixed", by decide⟩, kind := some "ADDirichletBC", fields } ∧
      fields.entries =
        [("type", { value := .scalar (.text "ADDirichletBC") }),
          ("variable", { value := .reference { target := "u" } }),
          ("boundary", { value := .scalar (.text "top"), quote := .single }),
          ("value", { value := .scalar (.bool true) })] := by
  intro values
  obtain ⟨horderly, hbuild⟩ := build_eq_placed
  have hmem : Catalog.dirichletBoundary ∈ Catalog.schemas := by decide
  have hforeign : Catalog.dirichletBoundary.foreign? values = none := by rfl
  have hmissing : missing? Catalog.dirichletBoundary.rules values = none := by rfl
  have hcase := (hbuild _ (horderly _ hmem) "fixed" values).2 (by decide)
  rw [hforeign, hmissing] at hcase
  exact hcase.1

end Schema

end InputDeck
