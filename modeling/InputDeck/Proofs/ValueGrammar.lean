import InputDeck.Producer.Value
import Mathlib.Data.List.Forall2

namespace InputDeck

namespace MachineInt

theorem minValue_le_toInt (n : MachineInt) : Int64.minValue.toInt ≤ n.toInt := by
  rw [Int64.toInt_minValue]
  cases n with
  | int8 n => exact Int.le_trans (by decide) n.le_toInt
  | int16 n => exact Int.le_trans (by decide) n.le_toInt
  | int32 n => exact Int.le_trans (by decide) n.le_toInt
  | int64 n => exact n.le_toInt
  | uint8 n => exact Int.le_trans (by decide) (Int.natCast_nonneg n.toNat)
  | uint16 n => exact Int.le_trans (by decide) (Int.natCast_nonneg n.toNat)
  | uint32 n => exact Int.le_trans (by decide) (Int.natCast_nonneg n.toNat)
  | uint64 n => exact Int.le_trans (by decide) (Int.natCast_nonneg n.toNat)

theorem exists_eq_uint64 {n : MachineInt} (h : Int64.maxValue.toInt < n.toInt) :
    ∃ m : UInt64, n = .uint64 m := by
  rw [Int64.toInt_maxValue] at h
  cases n with
  | int8 n => exact absurd n.toInt_lt (by simp only [toInt] at h; omega)
  | int16 n => exact absurd n.toInt_lt (by simp only [toInt] at h; omega)
  | int32 n => exact absurd n.toInt_lt (by simp only [toInt] at h; omega)
  | int64 n => exact absurd n.toInt_lt (by simp only [toInt] at h; omega)
  | uint8 n => exact absurd n.toNat_lt (by simp only [toInt] at h; omega)
  | uint16 n => exact absurd n.toNat_lt (by simp only [toInt] at h; omega)
  | uint32 n => exact absurd n.toNat_lt (by simp only [toInt] at h; omega)
  | uint64 n => exact ⟨n, rfl⟩

theorem toNumber_of_le {n : MachineInt} (h : n.toInt ≤ Int64.maxValue.toInt) :
    ∃ i : Int64, i.toInt = n.toInt ∧ n.toNumber = .integer i := by
  refine ⟨Int64.ofInt n.toInt, ?_, if_pos h⟩
  have hmin := n.minValue_le_toInt
  rw [Int64.toInt_minValue] at hmin
  rw [Int64.toInt_maxValue] at h
  apply Int64.toInt_ofInt_of_le
  · exact hmin
  · omega

theorem toNumber_uint64 {n : UInt64} (h : Int64.maxValue.toInt < n.toNat) :
    (uint64 n).toNumber = .float n.toFloat := by
  have hlarge : ¬ ((uint64 n).toInt ≤ Int64.maxValue.toInt) := Int.not_le.mpr h
  simp only [toNumber, if_neg hlarge]
  simp [toInt]

end MachineInt

theorem Except.bind_eq_ok_iff {x : Except ε α} {f : α → Except ε β} {b : β} :
    (do let a ← x; f a) = .ok b ↔ ∃ a, x = .ok a ∧ f a = .ok b := by
  cases x with
  | error e => simp [bind, Except.bind]
  | ok a => simp [bind, Except.bind]

theorem Except.map_eq_ok_iff {x : Except ε α} {f : α → β} {b : β} :
    x.map f = .ok b ↔ ∃ a, x = .ok a ∧ f a = b := by
  cases x <;> simp [Except.map]

/-- Wrappers with one of these names are not seen through. -/
def IsToken (name : String) : Prop :=
  name = referenceToken ∨ name = portReferenceToken

instance : DecidablePred IsToken := fun name =>
  inferInstanceAs (Decidable (name = referenceToken ∨ name = portReferenceToken))

theorem portReferenceToken_ne_referenceToken : portReferenceToken ≠ referenceToken := by
  decide

theorem Value.unwrap_of_not_isToken {name : String} (h : ¬ IsToken name) (found : Option Value) :
    unwrap name found = .ok found := by
  obtain ⟨htarget, hport⟩ := not_or.mp h
  simp only [unwrap, if_neg htarget, if_neg hport]

theorem Value.unwrap_referenceToken_eq_ok_iff {found v : Option Value} :
    unwrap referenceToken found = .ok v ↔
      ∃ target, found = some (.scalar (.text target)) ∧ v = some (.reference { target }) := by
  simp only [unwrap, if_pos]
  split
  · next target => simp [eq_comm]
  · next hother =>
      simp only [reduceCtorEq, false_iff]
      rintro ⟨target, rfl, -⟩
      exact hother target rfl

theorem Value.unwrap_portReferenceToken_eq_ok_iff {found v : Option Value} :
    unwrap portReferenceToken found = .ok v ↔
      ∃ target port, found = some (.list [.text target, .text port]) ∧
        v = some (.reference { target, port := some port }) := by
  simp only [unwrap, if_neg portReferenceToken_ne_referenceToken, if_pos]
  split
  · next target port => simp [eq_comm]
  · next hother =>
      simp only [reduceCtorEq, false_iff]
      rintro ⟨target, port, rfl, -⟩
      exact hother target port rfl

namespace Producer

/-- The data inside the wrappers that add nothing. -/
def bare : Producer → Producer
  | .present inner => inner.bare
  | .wrapper name inner => if IsToken name then .wrapper name inner else inner.bare
  | p => p

def IsBare : Producer → Prop
  | .present _ => False
  | .wrapper name _ => IsToken name
  | _ => True

theorem bare_of_isToken {name : String} (h : IsToken name) (inner : Producer) :
    (Producer.wrapper name inner).bare = .wrapper name inner := by
  rw [bare, if_pos h]

theorem bare_of_not_isToken {name : String} (h : ¬ IsToken name) (inner : Producer) :
    (Producer.wrapper name inner).bare = inner.bare := by
  rw [bare, if_neg h]

theorem isBare_bare (p : Producer) : p.bare.IsBare := by
  fun_induction bare p with
  | case1 inner ih => exact ih
  | case2 name inner htoken => exact htoken
  | case3 name inner hname ih => exact ih
  | case4 p hpresent hwrapper =>
      unfold IsBare
      split
      · next inner => exact hpresent inner rfl
      · next name inner => exact (hwrapper name inner rfl).elim
      · trivial

theorem toValue?_bare (p : Producer) : p.bare.toValue? = p.toValue? := by
  fun_induction bare p with
  | case1 inner ih => rw [ih, toValue?]
  | case2 name inner htoken => rfl
  | case3 name inner hname ih =>
      rw [ih, toValue?]
      simp only [Value.unwrap_of_not_isToken hname]
      cases inner.toValue? <;> rfl
  | case4 p hpresent hwrapper => rfl

def IsAbsent (p : Producer) : Prop :=
  p.bare = .absent ∨ p.bare = .unit ∨ ∃ name, p.bare = .unitStruct name

/-- Data without wrappers that is one literal. A whole number too large for a sign bit is rounded to
the nearest double. -/
inductive ScalarForm : Producer → Scalar → Prop
  | bool (b : Bool) : ScalarForm (.bool b) (.bool b)
  | integer {n : MachineInt} {i : Int64} (h : i.toInt = n.toInt) :
      ScalarForm (.integer n) (.number (.integer i))
  | large {n : UInt64} (h : Int64.maxValue.toInt < n.toNat) :
      ScalarForm (.integer (.uint64 n)) (.number (.float n.toFloat))
  | float32 (x : Float32) : ScalarForm (.float32 x) (.number (.float x.toFloat))
  | float64 (x : Float) : ScalarForm (.float64 x) (.number (.float x))
  | char (c : Char) : ScalarForm (.char c) (.text (String.singleton c))
  | text (s : String) : ScalarForm (.text s) (.text s)
  | unitVariant (variant : String) : ScalarForm (.unitVariant variant) (.text variant)

def IsScalar (p : Producer) (s : Scalar) : Prop :=
  ScalarForm p.bare s

inductive ReferenceForm : Producer → Reference → Prop
  | target {inner : Producer} {target : String} (h : inner.IsScalar (.text target)) :
      ReferenceForm (.wrapper referenceToken inner) { target }
  | port {inner first second : Producer} {shape : SequenceShape} {target port : String}
      (h : inner.bare = .sequence shape [first, second]) (htarget : first.IsScalar (.text target))
      (hport : second.IsScalar (.text port)) :
      ReferenceForm (.wrapper portReferenceToken inner) { target, port := some port }

def IsReference (p : Producer) (r : Reference) : Prop :=
  ReferenceForm p.bare r

inductive ListForm : Producer → List Scalar → Prop
  | bytes (bs : List UInt8) :
      ListForm (.bytes bs) (bs.map fun b => .number (.integer (Int64.ofNat b.toNat)))
  | sequence {shape : SequenceShape} {elements : List Producer} {items : List Scalar}
      (h : List.Forall₂ IsScalar elements items) : ListForm (.sequence shape elements) items

def IsList (p : Producer) (items : List Scalar) : Prop :=
  ListForm p.bare items

def IsReferences (p : Producer) (rs : List Reference) : Prop :=
  ∃ shape elements, p.bare = .sequence shape elements ∧ elements ≠ [] ∧
    List.Forall₂ IsReference elements rs

theorem toElements_eq_ok_iff {elements : List Producer} {values : List Value} :
    toElements elements = .ok values ↔
      List.Forall₂ (fun p v => p.toValue? = .ok (some v)) elements values := by
  induction elements generalizing values with
  | nil => cases values <;> simp [toElements]
  | cons p rest ih =>
      rw [toElements]
      cases hp : p.toValue? with
      | error fault => cases values <;> simp [hp, bind, Except.bind]
      | ok found =>
          cases found with
          | none => cases values <;> simp [hp, bind, Except.bind]
          | some v =>
              cases hrest : toElements rest with
              | error fault =>
                  cases values <;> simp [hp, hrest, ← ih, bind, Except.bind]
              | ok others =>
                  cases values <;> simp [hp, hrest, ← ih, bind, Except.bind, pure, Except.pure]

end Producer

namespace Value

theorem mapM_literal_eq_ok_iff {values : List Value} {items : List Scalar} :
    values.mapM literal = .ok items ↔ values = items.map .scalar := by
  induction values generalizing items with
  | nil => cases items <;> simp [pure, Except.pure]
  | cons v rest ih =>
      rw [List.mapM_cons]
      cases v with
      | scalar s =>
          cases hrest : rest.mapM literal with
          | error fault => cases items <;> simp [literal, hrest, ← ih, bind, Except.bind]
          | ok others =>
              cases items <;> simp [literal, hrest, ← ih, bind, Except.bind, pure, Except.pure]
      | list xs => cases items <;> simp [literal, bind, Except.bind]
      | reference r => cases items <;> simp [literal, bind, Except.bind]
      | references rs => cases items <;> simp [literal, bind, Except.bind]

theorem eq_map_reference {values : List Value}
    (h : ∀ v ∈ values, v.reference?.isSome = true) :
    values = (values.filterMap reference?).map .reference := by
  induction values with
  | nil => rfl
  | cons v rest ih =>
      have hv := h v (by simp)
      have hrest := ih fun other hother => h other (by simp [hother])
      cases v with
      | reference r => exact congrArg (reference r :: ·) hrest
      | scalar s => cases hv
      | list xs => cases hv
      | references rs => cases hv

/-- A list of values is one of literals, or one of references that is not empty. -/
theorem ofElements_eq_ok_iff {values : List Value} {v : Value} :
    ofElements values = .ok v ↔
      (∃ items : List Scalar, values = items.map .scalar ∧ v = .list items) ∨
        ∃ rs : List Reference, rs ≠ [] ∧ values = rs.map .reference ∧ v = .references rs := by
  unfold ofElements
  split
  · next hreferences =>
      rw [Bool.and_eq_true, List.all_eq_true] at hreferences
      obtain ⟨hne, hall⟩ := hreferences
      have hmap := eq_map_reference hall
      constructor
      · intro h
        cases h
        refine .inr ⟨_, ?_, hmap, rfl⟩
        rintro hnil
        rw [hnil] at hmap
        simp [hmap] at hne
      · rintro (⟨items, rfl, rfl⟩ | ⟨rs, -, rfl, rfl⟩)
        · cases items with
          | nil => simp at hne
          | cons s rest => simp [reference?] at hall
        · simp [List.filterMap_map, Function.comp_def, reference?]
  · next hliterals =>
      constructor
      · intro h
        cases hitems : values.mapM literal with
        | error fault => simp [hitems, Except.map] at h
        | ok items =>
            simp only [hitems, Except.map, Except.ok.injEq] at h
            exact .inl ⟨items, mapM_literal_eq_ok_iff.mp hitems, h.symm⟩
      · rintro (⟨items, hitems, rfl⟩ | ⟨rs, hne, rfl, rfl⟩)
        · rw [mapM_literal_eq_ok_iff.mpr hitems]
          rfl
        · simp [reference?, hne] at hliterals

end Value

namespace Producer

theorem toValue?_bytes (bs : List UInt8) :
    (Producer.bytes bs).toValue? =
      .ok (some (.list (bs.map fun b => .number (.integer (Int64.ofNat b.toNat))))) := by
  have hbyte : ∀ b : UInt8, b.toUInt64.toInt64 = Int64.ofNat b.toNat := fun b =>
    congrArg Int64.ofBitVec (BitVec.ofNat_toNat 64 b.toBitVec).symm
  simp only [toValue?, hbyte]

theorem toValue?_sequence_eq_ok_iff {shape : SequenceShape} {elements : List Producer}
    {v : Option Value} :
    (Producer.sequence shape elements).toValue? = .ok v ↔
      (∃ items, List.Forall₂ (fun p s => p.toValue? = .ok (some (.scalar s))) elements items ∧
          v = some (.list items)) ∨
        ∃ rs, elements ≠ [] ∧
          List.Forall₂ (fun p r => p.toValue? = .ok (some (.reference r))) elements rs ∧
          v = some (.references rs) := by
  have hvalue : (Producer.sequence shape elements).toValue? = .ok v ↔
      ∃ values, toElements elements = .ok values ∧
        ∃ found, Value.ofElements values = .ok found ∧ v = some found := by
    rw [toValue?, Except.bind_eq_ok_iff]
    simp only [Except.bind_eq_ok_iff, pure, Except.pure, Except.ok.injEq, @eq_comm _ v]
  rw [hvalue]
  simp only [toElements_eq_ok_iff, Value.ofElements_eq_ok_iff]
  constructor
  · rintro ⟨values, helements, found, ⟨items, rfl, rfl⟩ | ⟨rs, hne, rfl, rfl⟩, rfl⟩
    · rw [List.forall₂_map_right_iff] at helements
      exact .inl ⟨items, helements, rfl⟩
    · rw [List.forall₂_map_right_iff] at helements
      refine .inr ⟨rs, ?_, helements, rfl⟩
      rintro rfl
      cases helements
      exact hne rfl
  · rintro (⟨items, helements, rfl⟩ | ⟨rs, hne, helements, rfl⟩)
    · refine ⟨items.map .scalar, ?_, _, .inl ⟨items, rfl, rfl⟩, rfl⟩
      rwa [List.forall₂_map_right_iff]
    · refine ⟨rs.map .reference, ?_, _, .inr ⟨rs, ?_, rfl, rfl⟩, rfl⟩
      · rwa [List.forall₂_map_right_iff]
      · rintro rfl
        cases helements
        exact hne rfl

theorem toValue?_referenceToken_eq_ok_iff {inner : Producer} {v : Option Value} :
    (Producer.wrapper referenceToken inner).toValue? = .ok v ↔
      ∃ target, inner.toValue? = .ok (some (.scalar (.text target))) ∧
        v = some (.reference { target }) := by
  rw [toValue?, Except.bind_eq_ok_iff]
  simp only [Value.unwrap_referenceToken_eq_ok_iff]
  constructor
  · rintro ⟨found, hfound, target, rfl, hv⟩
    exact ⟨target, hfound, hv⟩
  · rintro ⟨target, hfound, hv⟩
    exact ⟨_, hfound, target, rfl, hv⟩

theorem toValue?_portReferenceToken_eq_ok_iff {inner : Producer} {v : Option Value} :
    (Producer.wrapper portReferenceToken inner).toValue? = .ok v ↔
      ∃ target port, inner.toValue? = .ok (some (.list [.text target, .text port])) ∧
        v = some (.reference { target, port := some port }) := by
  rw [toValue?, Except.bind_eq_ok_iff]
  simp only [Value.unwrap_portReferenceToken_eq_ok_iff]
  constructor
  · rintro ⟨found, hfound, target, port, rfl, hv⟩
    exact ⟨target, port, hfound, hv⟩
  · rintro ⟨target, port, hfound, hv⟩
    exact ⟨_, hfound, target, port, rfl, hv⟩

theorem toValue?_integer_eq_ok_iff {n : MachineInt} {v : Option Value} :
    (Producer.integer n).toValue? = .ok v ↔
      ∃ s, ScalarForm (.integer n) s ∧ v = some (.scalar s) := by
  rw [toValue?, Except.ok.injEq]
  constructor
  · rintro rfl
    refine ⟨_, ?_, rfl⟩
    by_cases hn : n.toInt ≤ Int64.maxValue.toInt
    · obtain ⟨i, hi, hnumber⟩ := MachineInt.toNumber_of_le hn
      rw [hnumber]
      exact .integer hi
    · have hlarge := Int.not_le.mp hn
      obtain ⟨m, rfl⟩ := MachineInt.exists_eq_uint64 hlarge
      rw [MachineInt.toNumber_uint64 hlarge]
      exact .large hlarge
  · rintro ⟨s, h, rfl⟩
    cases h with
    | @integer _ i hi =>
        obtain ⟨j, hj, hnumber⟩ := MachineInt.toNumber_of_le (hi ▸ i.toInt_le)
        rw [← hi, Int64.toInt_inj] at hj
        rw [hnumber, hj]
    | large hn => rw [MachineInt.toNumber_uint64 hn]

/-- What data without wrappers is read as, in terms of what its parts are read as. -/
def Reads (q : Producer) : Option Value → Prop
  | none => q = .absent ∨ q = .unit ∨ ∃ name, q = .unitStruct name
  | some (.scalar s) => ScalarForm q s
  | some (.reference r) =>
      (∃ inner, q = .wrapper referenceToken inner ∧
        ∃ target, inner.toValue? = .ok (some (.scalar (.text target))) ∧ r = { target }) ∨
      ∃ inner, q = .wrapper portReferenceToken inner ∧
        ∃ target port, inner.toValue? = .ok (some (.list [.text target, .text port])) ∧
          r = { target, port := some port }
  | some (.list items) =>
      (∃ bs, q = .bytes bs ∧
        items = bs.map fun b => .number (.integer (Int64.ofNat b.toNat))) ∨
      ∃ shape elements, q = .sequence shape elements ∧
        List.Forall₂ (fun p s => p.toValue? = .ok (some (.scalar s))) elements items
  | some (.references rs) =>
      ∃ shape elements, q = .sequence shape elements ∧ elements ≠ [] ∧
        List.Forall₂ (fun p r => p.toValue? = .ok (some (.reference r))) elements rs

theorem reads_of_toValue? {q : Producer} (hbare : q.IsBare) {v : Option Value}
    (h : q.toValue? = .ok v) : q.Reads v := by
  cases q with
  | bool b =>
      cases h
      exact ScalarForm.bool b
  | integer n =>
      obtain ⟨s, hs, rfl⟩ := toValue?_integer_eq_ok_iff.mp h
      exact hs
  | float32 x =>
      cases h
      exact ScalarForm.float32 x
  | float64 x =>
      cases h
      exact ScalarForm.float64 x
  | char c =>
      cases h
      exact ScalarForm.char c
  | text s =>
      cases h
      exact ScalarForm.text s
  | unitVariant variant =>
      cases h
      exact ScalarForm.unitVariant variant
  | bytes bs =>
      rw [toValue?_bytes] at h
      cases h
      exact .inl ⟨bs, rfl, rfl⟩
  | absent =>
      cases h
      exact .inl rfl
  | unit =>
      cases h
      exact .inr (.inl rfl)
  | unitStruct name =>
      cases h
      exact .inr (.inr ⟨name, rfl⟩)
  | present inner => exact hbare.elim
  | wrapper name inner =>
      rcases (hbare : IsToken name) with rfl | rfl
      · obtain ⟨target, hinner, rfl⟩ := toValue?_referenceToken_eq_ok_iff.mp h
        exact .inl ⟨inner, rfl, target, hinner, rfl⟩
      · obtain ⟨target, port, hinner, rfl⟩ := toValue?_portReferenceToken_eq_ok_iff.mp h
        exact .inr ⟨inner, rfl, target, port, hinner, rfl⟩
  | sequence shape elements =>
      rcases toValue?_sequence_eq_ok_iff.mp h with
        ⟨items, helements, rfl⟩ | ⟨rs, hne, helements, rfl⟩
      · exact .inr ⟨shape, elements, rfl, helements⟩
      · exact ⟨shape, elements, rfl, hne, helements⟩
  | wide n => cases h
  | newtypeVariant variant inner => cases h
  | tupleVariant elements => cases h
  | structVariant variant entries => cases h
  | map calls => cases h
  | struct name entries => cases h

theorem toValue?_of_reads {q : Producer} {v : Option Value} (h : q.Reads v) :
    q.toValue? = .ok v := by
  rcases v with _ | (s | items | r | rs)
  · rcases h with rfl | rfl | ⟨name, rfl⟩ <;> rfl
  · cases (h : ScalarForm q s) with
    | integer hi => exact toValue?_integer_eq_ok_iff.mpr ⟨_, .integer hi, rfl⟩
    | large hn => exact toValue?_integer_eq_ok_iff.mpr ⟨_, .large hn, rfl⟩
    | _ => rfl
  · rcases h with ⟨bs, rfl, rfl⟩ | ⟨shape, elements, rfl, helements⟩
    · exact toValue?_bytes bs
    · exact toValue?_sequence_eq_ok_iff.mpr (.inl ⟨items, helements, rfl⟩)
  · rcases h with ⟨inner, rfl, target, hinner, rfl⟩ | ⟨inner, rfl, target, port, hinner, rfl⟩
    · exact toValue?_referenceToken_eq_ok_iff.mpr ⟨target, hinner, rfl⟩
    · exact toValue?_portReferenceToken_eq_ok_iff.mpr ⟨target, port, hinner, rfl⟩
  · obtain ⟨shape, elements, rfl, hne, helements⟩ := h
    exact toValue?_sequence_eq_ok_iff.mpr (.inr ⟨rs, hne, helements, rfl⟩)

theorem toValue?_eq_ok_iff {p : Producer} {v : Option Value} :
    p.toValue? = .ok v ↔ p.bare.Reads v := by
  rw [← toValue?_bare]
  exact ⟨reads_of_toValue? p.isBare_bare, toValue?_of_reads⟩

theorem toValue?_eq_absent_iff {p : Producer} : p.toValue? = .ok none ↔ p.IsAbsent :=
  toValue?_eq_ok_iff

theorem toValue?_eq_scalar_iff {p : Producer} {s : Scalar} :
    p.toValue? = .ok (some (.scalar s)) ↔ p.IsScalar s :=
  toValue?_eq_ok_iff

theorem toValue?_eq_list_iff {p : Producer} {items : List Scalar} :
    p.toValue? = .ok (some (.list items)) ↔ p.IsList items := by
  rw [toValue?_eq_ok_iff]
  simp only [Reads, toValue?_eq_scalar_iff]
  constructor
  · rintro (⟨bs, hbytes, rfl⟩ | ⟨shape, elements, hsequence, helements⟩)
    · rw [IsList, hbytes]
      exact .bytes bs
    · rw [IsList, hsequence]
      exact .sequence helements
  · intro h
    rw [IsList] at h
    generalize p.bare = q at h ⊢
    cases h with
    | bytes bs => exact .inl ⟨bs, rfl, rfl⟩
    | sequence helements => exact .inr ⟨_, _, rfl, helements⟩

theorem isList_texts_iff {p : Producer} {target port : String} :
    p.IsList [.text target, .text port] ↔
      ∃ shape first second, p.bare = .sequence shape [first, second] ∧
        first.IsScalar (.text target) ∧ second.IsScalar (.text port) := by
  unfold IsList
  generalize p.bare = q
  constructor
  · intro h
    generalize hitems : [Scalar.text target, Scalar.text port] = items at h
    cases h with
    | bytes bs =>
        cases bs with
        | nil => cases hitems
        | cons b rest => cases hitems
    | @sequence shape elements _ helements =>
        subst hitems
        cases helements with
        | cons hfirst hothers =>
            cases hothers with
            | cons hsecond hnone =>
                cases hnone
                exact ⟨shape, _, _, rfl, hfirst, hsecond⟩
  · rintro ⟨shape, first, second, rfl, hfirst, hsecond⟩
    exact .sequence (.cons hfirst (.cons hsecond .nil))

theorem toValue?_eq_reference_iff {p : Producer} {r : Reference} :
    p.toValue? = .ok (some (.reference r)) ↔ p.IsReference r := by
  rw [toValue?_eq_ok_iff]
  simp only [Reads, toValue?_eq_scalar_iff, toValue?_eq_list_iff, isList_texts_iff]
  unfold IsReference
  generalize p.bare = q
  constructor
  · rintro (⟨inner, rfl, target, htarget, rfl⟩ |
      ⟨inner, rfl, target, port, ⟨shape, first, second, hinner, htarget, hport⟩, rfl⟩)
    · exact .target htarget
    · exact .port hinner htarget hport
  · intro h
    cases h with
    | target htarget => exact .inl ⟨_, rfl, _, htarget, rfl⟩
    | port hinner htarget hport =>
        exact .inr ⟨_, rfl, _, _, ⟨_, _, _, hinner, htarget, hport⟩, rfl⟩

theorem toValue?_eq_references_iff {p : Producer} {rs : List Reference} :
    p.toValue? = .ok (some (.references rs)) ↔ p.IsReferences rs := by
  rw [toValue?_eq_ok_iff]
  simp only [Reads, toValue?_eq_reference_iff, IsReferences]

/-- Reading a value accepts just what has one of five forms, and gives what the form says: nothing,
one literal, one reference, a list of literals, or a list of references that is not empty. -/
theorem toValue?_grammar (p : Producer) :
    (p.toValue? = .ok none ↔ p.IsAbsent) ∧
    (∀ s, p.toValue? = .ok (some (.scalar s)) ↔ p.IsScalar s) ∧
    (∀ r, p.toValue? = .ok (some (.reference r)) ↔ p.IsReference r) ∧
    (∀ items, p.toValue? = .ok (some (.list items)) ↔ p.IsList items) ∧
    (∀ rs, p.toValue? = .ok (some (.references rs)) ↔ p.IsReferences rs) ∧
    ((∃ fault, p.toValue? = .error fault) ↔
      ¬ p.IsAbsent ∧ (∀ s, ¬ p.IsScalar s) ∧ (∀ r, ¬ p.IsReference r) ∧
        (∀ items, ¬ p.IsList items) ∧ ∀ rs, ¬ p.IsReferences rs) := by
  refine ⟨toValue?_eq_absent_iff, fun s => toValue?_eq_scalar_iff,
    fun r => toValue?_eq_reference_iff, fun items => toValue?_eq_list_iff,
    fun rs => toValue?_eq_references_iff, ?_⟩
  simp only [← toValue?_eq_absent_iff, ← toValue?_eq_scalar_iff, ← toValue?_eq_reference_iff,
    ← toValue?_eq_list_iff, ← toValue?_eq_references_iff]
  cases p.toValue? with
  | error fault => simp
  | ok v => rcases v with _ | (s | items | r | rs) <;> simp

example :
    (Producer.sequence .tuple [.text "a", .wrapper referenceToken (.text "b")]).toValue? =
      .error (.unsupported "list mixes references and literals") := by
  rfl

end Producer

end InputDeck
