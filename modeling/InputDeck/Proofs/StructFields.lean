import InputDeck.Producer.Fields
import Mathlib.Data.List.Induction

namespace InputDeck

/-- The fault of a value as it is reported of its field. -/
def Fault.inField (key : String) : Fault → Fault
  | .unsupported problem => .unsupported ("field '" ++ key ++ "': " ++ problem)
  | fault => fault

namespace StructEntry

def fault? : StructEntry → Option Fault
  | .field key p =>
      match p.toValue? with
      | .error fault => some (fault.inField key)
      | .ok _ => none
  | .skipped _ => none

def present? : StructEntry → Option (String × Value)
  | .field key p =>
      match p.toValue? with
      | .ok (some v) => some (key, v)
      | _ => none
  | .skipped _ => none

end StructEntry

namespace Fields

theorem collect_eq (m : Fields) (key : String) (p : Producer) :
    m.collect key p =
      match p.toValue? with
      | .error fault => .error (fault.inField key)
      | .ok none => .ok m
      | .ok (some v) => .ok (m.insert key { value := v }) := by
  unfold collect
  rcases p.toValue? with fault | _ | v
  · cases fault <;> rfl
  · rfl
  · rfl

/-- Collecting stops at the first entry whose value is at fault. Otherwise those that are present are
inserted one by one. -/
theorem foldlM_collectEntry (entries : List StructEntry) (m : Fields) :
    entries.foldlM collectEntry m =
      match entries.findSome? StructEntry.fault? with
      | some fault => .error fault
      | none =>
          .ok ((entries.filterMap StructEntry.present?).foldl
            (fun m pair => m.insert pair.1 { value := pair.2 }) m) := by
  induction entries generalizing m with
  | nil => rfl
  | cons entry rest ih =>
      rw [List.foldlM_cons, List.findSome?_cons, List.filterMap_cons]
      cases entry with
      | skipped key => exact ih m
      | field key p =>
          simp only [collectEntry, collect_eq, StructEntry.fault?, StructEntry.present?]
          rcases p.toValue? with fault | _ | v
          · rfl
          · exact ih m
          · exact ih (m.insert key { value := v })

theorem ofList_concat (pairs : List (String × Value)) (pair : String × Value) :
    ofList (pairs ++ [pair]) = (ofList pairs).insert pair.1 { value := pair.2 } := by
  unfold ofList
  rw [List.foldl_append]
  rfl

theorem names_ofList (pairs : List (String × Value)) :
    (ofList pairs).names = (pairs.map Prod.fst).eraseDups := by
  induction pairs using List.reverseRecOn with
  | nil => rfl
  | append_singleton pairs pair ih =>
      rw [ofList_concat, List.map_append]
      exact Keyed.map_insert_eq_eraseDups Prod.fst ih

theorem get?_ofList (pairs : List (String × Value)) (name : String) :
    (ofList pairs).get? name =
      (pairs.reverse.find? fun pair => pair.1 == name).map fun pair => { value := pair.2 } := by
  induction pairs using List.reverseRecOn with
  | nil => rfl
  | append_singleton pairs pair ih =>
      rw [ofList_concat, get?_insert, List.reverse_append, List.reverse_singleton,
        List.singleton_append, List.find?_cons, ih]
      by_cases hname : pair.1 = name
      · simp [hname]
      · rw [if_neg hname, beq_false_of_ne hname]

end Fields

namespace Producer

/-- The data inside all wrappers, whatever they are for. -/
def innermost : Producer → Producer
  | .present inner | .wrapper _ inner => inner.innermost
  | p => p

theorem toFields_innermost (p : Producer) : p.toFields = p.innermost.toFields := by
  fun_induction innermost p with
  | case1 inner ih => rw [toFields, ih]
  | case2 name inner ih => rw [toFields, ih]
  | case3 p hpresent hwrapper => rfl

theorem innermost_ne (p : Producer) :
    (∀ inner, p.innermost ≠ .present inner) ∧ ∀ name inner, p.innermost ≠ .wrapper name inner := by
  fun_induction innermost p with
  | case1 inner ih => exact ih
  | case2 name inner ih => exact ih
  | case3 p hpresent hwrapper => exact ⟨hpresent, hwrapper⟩

/-- Taking fields from data looks through all wrappers. Absent data has none. Of a struct the values
that are present are inserted in order, unless one is at fault: then the first fault is reported,
with the name of its field. What is neither a struct nor a map is refused. -/
theorem toFields_eq_inserted (p : Producer) :
    (match p.innermost with
      | .absent | .unit | .unitStruct _ => p.toFields = .ok ∅
      | .struct _ entries =>
          p.toFields =
            match entries.findSome? StructEntry.fault? with
            | some fault => .error fault
            | none => .ok (Fields.ofList (entries.filterMap StructEntry.present?))
      | .map calls => p.toFields = (Producer.map calls).toFields
      | .wide n => p.toFields = .error (.custom n.refusal)
      | _ => ∃ what, p.toFields =
          .error (.unsupported ("producer must be a struct or map, found " ++ what))) ∧
    ∀ pairs : List (String × Value),
      (Fields.ofList pairs).names = (pairs.map Prod.fst).eraseDups ∧
      ∀ name, (Fields.ofList pairs).get? name =
        (pairs.reverse.find? fun pair => pair.1 == name).map fun pair =>
          { value := pair.2, quote := .auto } := by
  refine ⟨?_, fun pairs => ⟨Fields.names_ofList pairs, Fields.get?_ofList pairs⟩⟩
  obtain ⟨hpresent, hwrapper⟩ := p.innermost_ne
  rw [toFields_innermost p]
  generalize p.innermost = q at hpresent hwrapper ⊢
  cases q with
  | absent => rfl
  | unit => rfl
  | unitStruct name => rfl
  | struct name entries => exact Fields.foldlM_collectEntry entries ∅
  | map calls => rfl
  | wide n => rfl
  | present inner => exact absurd rfl (hpresent inner)
  | wrapper name inner => exact absurd rfl (hwrapper name inner)
  | sequence shape elements => cases shape <;> exact ⟨_, rfl⟩
  | _ => exact ⟨_, rfl⟩

/-- The last value that is present counts, at the place of the first. -/
example :
    (Producer.struct "s"
      [.field "a" (.bool true), .skipped "b", .field "c" .unit, .field "d" (.bool true),
        .field "a" (.bool false), .field "a" .absent]).toFields.map Fields.entries =
      .ok
        [("a", { value := .scalar (.bool false) }), ("d", { value := .scalar (.bool true) })] := by
  rfl

end Producer

end InputDeck
