import InputDeck.Proofs.ProducerFaults
import InputDeck.Proofs.ValueGrammar

namespace InputDeck

namespace MapCall

/-- Each call with the one right before it. -/
def withPrevious (previous : Option MapCall) (calls : List MapCall) :
    List (Option MapCall × MapCall) :=
  (previous :: calls.map some).zip calls

/-- The name for a value that comes right after `previous`. A key takes the place of the one before
it, and a value uses it up. -/
def pending? : Option MapCall → Option String
  | some (.key p) =>
      match p.toValue? with
      | .ok (some (.scalar (.text s))) => some s
      | _ => none
  | some (.value _) | none => none

/-- What is wrong with a call that comes right after `previous`. -/
def fault? (previous : Option MapCall) : MapCall → Option Fault
  | .key p =>
      match p.toValue? with
      | .error fault => some fault
      | .ok (some (.scalar (.text _))) => none
      | .ok (some v) => some (.unsupported ("field names must be strings, found " ++ v.diagnostic))
      | .ok none => some (.unsupported "field names must be strings, found none")
  | .value p =>
      match pending? previous with
      | none => some (.custom "serialize_value called without serialize_key")
      | some name => (StructEntry.field name p).fault?

/-- What a call adds to the fields when it comes right after `previous`. -/
def present? (previous : Option MapCall) : MapCall → Option (String × Value)
  | .key _ => none
  | .value p => (pending? previous).bind fun name => (StructEntry.field name p).present?

/-- The first call at fault, with the one right before it. -/
def atFault? (calls : List MapCall) : Option (Option MapCall × MapCall) :=
  (withPrevious none calls).find? fun turn => (turn.2.fault? turn.1).isSome

/-- Where the first call at fault is a value that has a key, the value is refused as data without a
form, by the name of the key. -/
def RefusedByName (calls : List MapCall) : Prop :=
  ∀ previous p name, atFault? calls = some (previous, .value p) → pending? previous = some name →
    ∃ problem, (Producer.map calls).toFields =
      .error (.unsupported ("field '" ++ name ++ "': " ++ problem))

theorem pending?_eq_some_iff {previous : Option MapCall} {name : String} :
    pending? previous = some name ↔
      ∃ p, previous = some (.key p) ∧ p.IsScalar (.text name) := by
  simp only [← Producer.toValue?_eq_scalar_iff]
  rcases previous with _ | p | p
  · simp [pending?]
  · simp only [pending?, Option.some.injEq, key.injEq, exists_eq_left']
    rcases p.toValue? with fault | _ | v
    · simp
    · simp
    · rcases v with (b | n | s) | items | r | rs <;> simp
  · simp [pending?]

theorem fault?_key_eq_none_iff {previous : Option MapCall} {p : Producer} :
    fault? previous (.key p) = none ↔ ∃ s, p.IsScalar (.text s) := by
  simp only [← Producer.toValue?_eq_scalar_iff, fault?]
  rcases p.toValue? with fault | _ | v
  · simp
  · simp
  · rcases v with (b | n | s) | items | r | rs <;> simp

theorem of_fault?_key_eq_some {previous : Option MapCall} {p : Producer} {fault : Fault}
    (h : fault? previous (.key p) = some fault) :
    p.toValue? = .error fault ∨ fault.IsUnsupported := by
  simp only [fault?] at h
  split at h
  · next hp => exact .inl (hp.trans (congrArg Except.error (Option.some.inj h)))
  · cases h
  · exact .inr ⟨_, (Option.some.inj h).symm⟩
  · exact .inr ⟨_, (Option.some.inj h).symm⟩

theorem fault?_value_of_name {previous : Option MapCall} {name : String}
    (h : pending? previous = some name) (p : Producer) :
    fault? previous (.value p) =
      match p.toValue? with
      | .error fault => some (fault.inField name)
      | .ok _ => none := by
  cases hp : p.toValue? with
  | error fault => simp only [fault?, h, StructEntry.fault?, hp]
  | ok v => simp only [fault?, h, StructEntry.fault?, hp]

theorem fault?_value_eq_custom_iff {previous : Option MapCall} {p : Producer} :
    (∃ problem, fault? previous (.value p) = some (.custom problem)) ↔
      pending? previous = none ∨ ∃ n, p.MeetsWide n := by
  cases hname : pending? previous with
  | none => simp [fault?, hname]
  | some name =>
      rw [fault?_value_of_name hname]
      constructor
      · rintro ⟨problem, h⟩
        cases hp : p.toValue? with
        | ok v => simp [hp] at h
        | error fault =>
            simp only [hp, Option.some.injEq] at h
            rcases Producer.inField_eq hp name with ⟨n, hn, -⟩ | ⟨other, hother⟩
            · exact .inr ⟨n, hn⟩
            · cases hother.symm.trans h
      · rintro (hnone | ⟨n, hn⟩)
        · cases hnone
        · refine ⟨n.refusal, ?_⟩
          rw [hn.toValue?_eq]
          rfl

theorem ofEntries_cons (entry : Producer × Producer) (rest : List (Producer × Producer)) :
    ofEntries (entry :: rest) = .key entry.1 :: .value entry.2 :: ofEntries rest :=
  rfl

theorem withPrevious_cons (previous : Option MapCall) (call : MapCall) (rest : List MapCall) :
    withPrevious previous (call :: rest) = (previous, call) :: withPrevious (some call) rest :=
  rfl

end MapCall

namespace MapProgress

/-- The pending key is all that one call leaves to the next besides the fields. -/
theorem step_eq (previous : Option MapCall) (m : Fields) (call : MapCall) :
    ({ fields := m, pending := MapCall.pending? previous } : MapProgress).step call =
      match call.fault? previous with
      | some fault => .error fault
      | none =>
          .ok {
            fields := (call.present? previous).elim m fun pair =>
              m.insert pair.1 { value := pair.2 }
            pending := MapCall.pending? (some call) } := by
  cases call with
  | key p =>
      simp only [step, Producer.toKey, MapCall.fault?, MapCall.present?, MapCall.pending?]
      rcases p.toValue? with fault | _ | v
      · rfl
      · rfl
      · rcases v with (b | n | s) | items | r | rs <;> rfl
  | value p =>
      simp only [step, MapCall.fault?, MapCall.present?]
      cases MapCall.pending? previous with
      | none => rfl
      | some name =>
          simp only [Fields.collect_eq, StructEntry.fault?, StructEntry.present?, Option.bind_some]
          rcases p.toValue? with fault | _ | v <;> rfl

/-- Handing over stops at the first call that is at fault. Otherwise the values that are present are
inserted one by one. -/
theorem foldlM_step (previous : Option MapCall) (m : Fields) (calls : List MapCall) :
    (calls.foldlM step { fields := m, pending := MapCall.pending? previous }).map fields =
      match (MapCall.withPrevious previous calls).findSome? fun turn => turn.2.fault? turn.1 with
      | some fault => .error fault
      | none =>
          .ok (((MapCall.withPrevious previous calls).filterMap fun turn =>
            turn.2.present? turn.1).foldl
              (fun m pair => m.insert pair.1 { value := pair.2 }) m) := by
  induction calls generalizing previous m with
  | nil => rfl
  | cons call rest ih =>
      rw [List.foldlM_cons, step_eq, MapCall.withPrevious_cons, List.findSome?_cons,
        List.filterMap_cons]
      cases call.fault? previous with
      | some fault => rfl
      | none =>
          cases call.present? previous with
          | none => exact ih (some call) m
          | some pair => exact ih (some call) (m.insert pair.1 { value := pair.2 })

theorem step_key_of_isScalar {p : Producer} {name : String} (h : p.IsScalar (.text name))
    (progress : MapProgress) :
    progress.step (.key p) = .ok { progress with pending := some name } := by
  rw [← Producer.toValue?_eq_scalar_iff] at h
  rw [step, Producer.toKey, h]
  rfl

/-- A key that is text and the value right after it are handed over like a field of a struct. -/
theorem foldlM_step_ofEntries {entries : List (Producer × String × Producer)}
    (h : ∀ entry ∈ entries, entry.1.IsScalar (.text entry.2.1)) (progress : MapProgress) :
    ((MapCall.ofEntries (entries.map fun entry => (entry.1, entry.2.2))).foldlM step progress).map
        fields =
      (entries.map fun entry => StructEntry.field entry.2.1 entry.2.2).foldlM
        Fields.collectEntry progress.fields := by
  induction entries generalizing progress with
  | nil => rfl
  | cons entry rest ih =>
      rw [List.forall_mem_cons] at h
      obtain ⟨hkey, hrest⟩ := h
      obtain ⟨key, name, value⟩ := entry
      rw [List.map_cons, List.map_cons, MapCall.ofEntries_cons, List.foldlM_cons, List.foldlM_cons,
        step_key_of_isScalar hkey]
      simp only [bind, Except.bind, List.foldlM_cons, step, Fields.collectEntry]
      cases progress.fields.collect name value with
      | error fault => rfl
      | ok m => exact ih hrest { fields := m }

end MapProgress

namespace Producer

open MapCall

theorem toFields_map (calls : List MapCall) :
    (Producer.map calls).toFields =
      match (withPrevious none calls).findSome? fun turn => turn.2.fault? turn.1 with
      | some fault => .error fault
      | none =>
          .ok (Fields.ofList
            ((withPrevious none calls).filterMap fun turn => turn.2.present? turn.1)) :=
  MapProgress.foldlM_step none ∅ calls

theorem toFields_of_atFault? {calls : List MapCall} {previous : Option MapCall} {call : MapCall}
    (h : atFault? calls = some (previous, call)) :
    ∃ fault, call.fault? previous = some fault ∧ (Producer.map calls).toFields = .error fault := by
  obtain ⟨hcall, before, behind, hturns, hbefore⟩ := List.find?_eq_some_iff_append.mp h
  obtain ⟨fault, hfault⟩ := Option.isSome_iff_exists.mp hcall
  refine ⟨fault, hfault, ?_⟩
  have hnone : ∀ turn ∈ before, turn.2.fault? turn.1 = none := by
    intro turn hturn
    simpa using hbefore turn hturn
  rw [toFields_map, hturns, List.findSome?_append, List.findSome?_eq_none_iff.mpr hnone,
    List.findSome?_cons, hfault]
  rfl

theorem refusedByName_iff {calls : List MapCall} :
    RefusedByName calls ↔
      ∀ previous p name n, atFault? calls = some (previous, .value p) →
        pending? previous = some name → ¬ p.MeetsWide n := by
  constructor
  · intro h previous p name n hfirst hname hn
    obtain ⟨problem, hnamed⟩ := h previous p name hfirst hname
    obtain ⟨fault, hfault, hrun⟩ := toFields_of_atFault? hfirst
    rw [fault?_value_of_name hname, hn.toValue?_eq] at hfault
    cases hfault
    cases hrun.symm.trans hnamed
  · intro h previous p name hfirst hname
    obtain ⟨fault, hfault, hrun⟩ := toFields_of_atFault? hfirst
    rw [fault?_value_of_name hname] at hfault
    cases hp : p.toValue? with
    | ok v =>
        rw [hp] at hfault
        cases hfault
    | error inner =>
        rw [hp] at hfault
        rcases toValue?_eq_error p hp with ⟨n, hn, -⟩ | ⟨problem, rfl⟩
        · exact absurd hn (h previous p name n hfirst hname)
        · cases hfault
          exact ⟨problem, hrun⟩

/-- A map is taken call by call, and of what came before a call only the call right before it
counts. The first call at fault decides. If there is none, each value that is present is inserted
under the key right before it. A key is at fault unless it is text. A value is at fault if no key is
pending for it, and otherwise as the same value of a struct would be: it is to be refused by the
name of its key, as data without a form. Numbers of 128 bits have no form either, and yet are not
refused so; there is no other exception. Keys and values in turn make the same fields as a
struct. -/
theorem toFields_map_calls (calls : List MapCall) :
    (Producer.map calls).toFields =
      (match (withPrevious none calls).findSome? fun turn => turn.2.fault? turn.1 with
      | some fault => .error fault
      | none =>
          .ok (Fields.ofList
            ((withPrevious none calls).filterMap fun turn => turn.2.present? turn.1))) ∧
    (RefusedByName calls ↔
      ∀ previous p name n, atFault? calls = some (previous, .value p) →
        pending? previous = some name → ¬ p.MeetsWide n) ∧
    (∀ previous name, pending? previous = some name ↔
      ∃ q, previous = some (.key q) ∧ q.IsScalar (.text name)) ∧
    (∀ previous p,
      (fault? previous (.key p) = none ↔ ∃ s, p.IsScalar (.text s)) ∧
      ∀ fault, fault? previous (.key p) = some fault →
        p.toValue? = .error fault ∨ fault.IsUnsupported) ∧
    (∀ previous p,
      (match pending? previous with
        | none => fault? previous (.value p) =
            some (.custom "serialize_value called without serialize_key")
        | some name => fault? previous (.value p) =
            match p.toValue? with
            | .error fault => some (fault.inField name)
            | .ok _ => none) ∧
      ((∃ problem, fault? previous (.value p) = some (.custom problem)) ↔
        pending? previous = none ∨ ∃ n, p.MeetsWide n)) ∧
    ∀ (name : String) (entries : List (Producer × String × Producer)),
      (∀ entry ∈ entries, entry.1.IsScalar (.text entry.2.1)) →
        (Producer.map (ofEntries (entries.map fun entry => (entry.1, entry.2.2)))).toFields =
          (Producer.struct name
            (entries.map fun entry => .field entry.2.1 entry.2.2)).toFields := by
  refine ⟨toFields_map calls, refusedByName_iff, ?_, ?_, ?_, ?_⟩
  · intro previous name
    exact pending?_eq_some_iff
  · intro previous p
    exact ⟨fault?_key_eq_none_iff, fun fault => of_fault?_key_eq_some⟩
  · intro previous p
    refine ⟨?_, fault?_value_eq_custom_iff⟩
    split
    · next hnone => simp only [fault?, hnone]
    · next name hname => exact fault?_value_of_name hname p
  · intro name entries h
    exact MapProgress.foldlM_step_ofEntries h {}

theorem toFields_map_calls_of_entries :
    (Producer.map (ofEntries
        [(.char 'a', .bool true), (.present (.text "b"), .absent),
          (.unitVariant "a", .wrapper referenceToken (.text "mesh"))])).toFields =
      (Producer.struct "Fields"
        [.field "a" (.bool true), .field "b" .absent,
          .field "a" (.wrapper referenceToken (.text "mesh"))]).toFields := by
  obtain ⟨-, -, -, -, -, hentries⟩ := toFields_map_calls []
  refine hentries "Fields"
    [(.char 'a', "a", .bool true), (.present (.text "b"), "b", .absent),
      (.unitVariant "a", "a", .wrapper referenceToken (.text "mesh"))] ?_
  simp only [List.forall_mem_cons, List.not_mem_nil, false_imp_iff, implies_true, and_true]
  exact ⟨.char 'a', .text "b", .unitVariant "a"⟩

/-- The key is there and its value has no form, but the fault tells neither. -/
theorem toFields_map_of_wide_value :
    (Producer.map [.key (.text "a")]).toFields = .ok ∅ ∧
      (Producer.map [.key (.text "a"), .value (.wide (.uint128 1))]).toFields =
        .error (.custom "u128 is not supported") := by
  exact ⟨rfl, rfl⟩

/-- A key without a value is forgotten, and so is the name of a value that is absent. -/
example :
    (Producer.map [.key (.text "a"), .key (.text "b"), .value .absent, .key (.text "c"),
        .value (.bool true), .key (.text "d")]).toFields.map Fields.entries =
      .ok [("c", { value := .scalar (.bool true) })] := by
  rfl

end Producer

end InputDeck
