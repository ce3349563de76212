import InputDeck.Fields
import Mathlib.Data.List.Induction
import Mathlib.Data.List.Nodup

namespace InputDeck

/-- A call on the fields of a block. -/
inductive FieldsCall where
  | insert (name : String) (value : Value)
  | insertQuoted (name : String) (value : Value) (quote : Quote)
  | insertField (name : String) (field : Field)
  | erase (name : String)

namespace FieldsCall

def name : FieldsCall → String
  | insert name _ | insertQuoted name _ _ | insertField name _ | erase name => name

/-- What an insertion writes. -/
def field? : FieldsCall → Option Field
  | insert _ value => some { value }
  | insertQuoted _ value quote => some { value, quote }
  | insertField _ field => some field
  | erase _ => none

/-- The call for one entry of a list of fields. -/
def ofEntry : String × Value × Option Quote → FieldsCall
  | (name, value, none) => insert name value
  | (name, value, some quote) => insertQuoted name value quote

def erases (name : String) : FieldsCall → Bool
  | erase other => other == name
  | insert .. | insertQuoted .. | insertField .. => false

theorem field?_eq_none_iff {call : FieldsCall} :
    call.field? = none ↔ call = erase call.name := by
  cases call <;> simp [field?, name]

theorem erases_of_field? {call : FieldsCall} (h : call.field?.isSome = true) (name : String) :
    call.erases name = false := by
  cases call with
  | erase other => cases h
  | _ => rfl

theorem any_erases_iff {calls : List FieldsCall} {name : String} :
    calls.any (erases name) = true ↔ erase name ∈ calls := by
  rw [List.any_eq_true]
  constructor
  · rintro ⟨call, hcall, herases⟩
    cases call with
    | erase other =>
        obtain rfl : other = name := by simpa [erases] using herases
        exact hcall
    | _ => cases herases
  · intro h
    exact ⟨erase name, h, beq_self_eq_true name⟩

end FieldsCall

namespace Fields

def perform (m : Fields) (call : FieldsCall) : Option Field × Fields :=
  match call.field? with
  | some field => m.getThenInsert? call.name field
  | none => m.getThenErase? call.name

/-- What the calls make of no fields, one after the other. -/
def after (calls : List FieldsCall) : Fields :=
  calls.foldl (fun m call => (m.perform call).2) ∅

theorem after_concat (calls : List FieldsCall) (call : FieldsCall) :
    after (calls ++ [call]) = ((after calls).perform call).2 := by
  rw [after, List.foldl_append]
  rfl

theorem perform_of_field? {call : FieldsCall} {field : Field} (h : call.field? = some field)
    (m : Fields) : m.perform call = (m.get? call.name, m.insert call.name field) := by
  simp only [perform, h, getThenInsert?]

theorem perform_erase (m : Fields) (name : String) :
    m.perform (.erase name) = (m.get? name, m.erase name) :=
  rfl

theorem perform_fst (m : Fields) (call : FieldsCall) :
    (m.perform call).1 = m.get? call.name := by
  unfold perform
  split <;> rfl

theorem names_erase (m : Fields) (name : String) :
    (m.erase name).names = m.names.filter (· != name) := by
  have hmap := @List.eraseP_map _ _ (· == name) Prod.fst m.entries
  have hfilter := List.Nodup.erase_eq_filter m.distinct name
  rw [List.erase_eq_eraseP', hmap] at hfilter
  exact hfilter

end Fields

/-- What the last call of that name has left there. -/
def lastField? (calls : List FieldsCall) (name : String) : Option Field :=
  (calls.reverse.find? fun call => call.name == name).bind FieldsCall.field?

/-- The names of the insertions that no later call removes, in order and with all repetitions. -/
def standingNames : List FieldsCall → List String
  | [] => []
  | call :: later =>
      (if call.field?.isSome && !later.any (FieldsCall.erases call.name) then [call.name] else []) ++
        standingNames later

theorem lastField?_concat (calls : List FieldsCall) (call : FieldsCall) (name : String) :
    lastField? (calls ++ [call]) name =
      if call.name = name then call.field? else lastField? calls name := by
  rw [lastField?, List.reverse_append, List.reverse_singleton, List.singleton_append,
    List.find?_cons]
  by_cases hname : call.name = name
  · simp [hname]
  · rw [if_neg hname, beq_false_of_ne hname]
    rfl

theorem standingNames_concat {call : FieldsCall} (h : call.field?.isSome = true)
    (calls : List FieldsCall) :
    standingNames (calls ++ [call]) = standingNames calls ++ [call.name] := by
  induction calls with
  | nil => simp [standingNames, h]
  | cons first rest ih =>
      simp only [List.cons_append, standingNames, ih, List.any_append, List.any_cons, List.any_nil,
        FieldsCall.erases_of_field? h, Bool.or_false, List.append_assoc]

theorem standingNames_concat_erase (calls : List FieldsCall) (name : String) :
    standingNames (calls ++ [.erase name]) = (standingNames calls).filter (· != name) := by
  induction calls with
  | nil => rfl
  | cons first rest ih =>
      rw [List.cons_append, standingNames, standingNames, List.filter_append, ih, List.any_append]
      congr 1
      by_cases hname : first.name = name
      · have hundone : [FieldsCall.erase name].any (FieldsCall.erases first.name) = true := by
          simp [FieldsCall.erases, hname]
        rw [hundone, Bool.or_true, Bool.not_true, Bool.and_false, if_neg Bool.false_ne_true]
        split <;> simp [hname]
      · have hkept : [FieldsCall.erase name].any (FieldsCall.erases first.name) = false := by
          simp [FieldsCall.erases, Ne.symm hname]
        rw [hkept, Bool.or_false]
        split <;> simp [hname]

theorem mem_standingNames_iff {calls : List FieldsCall} {name : String} :
    name ∈ standingNames calls ↔
      ∃ earlier call later, calls = earlier ++ call :: later ∧ call.name = name ∧
        call.field?.isSome = true ∧ .erase name ∉ later := by
  induction calls with
  | nil => simp [standingNames]
  | cons first rest ih =>
      rw [standingNames, List.mem_append, ih]
      constructor
      · rintro (hfirst | ⟨earlier, call, later, rfl, hcall⟩)
        · split at hfirst
          · next hstands =>
              obtain rfl := List.mem_singleton.mp hfirst
              rw [Bool.and_eq_true, Bool.not_eq_true', ← Bool.not_eq_true,
                FieldsCall.any_erases_iff] at hstands
              exact ⟨[], first, rest, rfl, rfl, hstands⟩
          · cases hfirst
        · exact ⟨first :: earlier, call, later, rfl, hcall⟩
      · rintro ⟨earlier, call, later, hsplit, hname, hfield, hlater⟩
        rcases List.append_eq_cons_iff.mp hsplit.symm with ⟨rfl, hcons⟩ | ⟨before, rfl, hrest⟩
        · obtain ⟨rfl, rfl⟩ := List.cons.inj hcons
          rw [← hname, ← FieldsCall.any_erases_iff, Bool.not_eq_true] at hlater
          left
          rw [hfield, hlater, hname]
          exact List.mem_singleton_self name
        · exact .inr ⟨before, call, later, hrest, hname, hfield, hlater⟩

theorem Keyed.eraseDups_filter (p : String → Bool) (names : List String) :
    (names.filter p).eraseDups = names.eraseDups.filter p := by
  induction names using List.reverseRecOn with
  | nil => rfl
  | append_singleton names name ih =>
      rw [List.filter_append, eraseDups_concat]
      cases hp : p name with
      | false =>
          rw [List.filter_singleton, hp]
          split
          · simpa using ih
          · simpa [hp] using ih
      | true =>
          rw [List.filter_singleton, hp]
          have hmem : name ∈ names.filter p ↔ name ∈ names := by simp [hp]
          simp only [Bool.cond_true, eraseDups_concat, hmem, ih]
          split
          · rfl
          · simp [hp]

namespace Fields

theorem get?_after (calls : List FieldsCall) (name : String) :
    (after calls).get? name = lastField? calls name := by
  induction calls using List.reverseRecOn with
  | nil => rfl
  | append_singleton calls call ih =>
      rw [after_concat, lastField?_concat, ← ih]
      cases hfield : call.field? with
      | some field => rw [perform_of_field? hfield, get?_insert]
      | none =>
          rw [FieldsCall.field?_eq_none_iff.mp hfield, perform_erase, get?_erase]
          rfl

theorem names_after (calls : List FieldsCall) :
    (after calls).names = (standingNames calls).eraseDups := by
  induction calls using List.reverseRecOn with
  | nil => rfl
  | append_singleton calls call ih =>
      rw [after_concat]
      cases hfield : call.field? with
      | some field =>
          rw [perform_of_field? hfield, standingNames_concat (by rw [hfield]; rfl)]
          exact Keyed.map_insert_eq_eraseDups Prod.fst ih
      | none =>
          rw [FieldsCall.field?_eq_none_iff.mp hfield, perform_erase, standingNames_concat_erase,
            names_erase, ih, Keyed.eraseDups_filter]

theorem ofEntries_eq_after (entries : List (String × Value × Option Quote)) :
    ofEntries entries = after (entries.map FieldsCall.ofEntry) := by
  rw [ofEntries, after, List.foldl_map]
  congr 1
  funext m entry
  obtain ⟨name, value, _ | quote⟩ := entry <;> rfl

/-- Fields are what the calls make of them, whatever the calls and their order. A name is there if
an insertion of it has come after every removal, the names stand in the order of the first such
insertions, and each has the field that was written last. A call returns what it found. Lists of
values, with and without quotes of their own, are inserted one by one. -/
theorem after_eq_standing (calls : List FieldsCall) :
    (after calls).names.Nodup ∧
    (∀ name, name ∈ (after calls).names ↔
      ∃ earlier call later, calls = earlier ++ call :: later ∧ call.name = name ∧
        call.field?.isSome = true ∧ .erase name ∉ later) ∧
    (after calls).names = (standingNames calls).eraseDups ∧
    (∀ name, (after calls).get? name = lastField? calls name) ∧
    (∀ call : FieldsCall,
      (after calls).perform call = (lastField? calls call.name, after (calls ++ [call]))) ∧
    (∀ pairs : List (String × Value),
      ofList pairs = after (pairs.map fun pair => .insert pair.1 pair.2)) ∧
    ∀ entries : List (String × Value × Option Quote),
      ofEntries entries = after (entries.map FieldsCall.ofEntry) := by
  refine ⟨(after calls).distinct, ?_, names_after calls, get?_after calls, ?_, ?_,
    ofEntries_eq_after⟩
  · intro name
    rw [names_after, List.mem_eraseDups, mem_standingNames_iff]
  · intro call
    rw [after_concat, ← get?_after, ← perform_fst]
  · intro pairs
    rw [ofList, after, List.foldl_map]
    rfl

end Fields

end InputDeck
