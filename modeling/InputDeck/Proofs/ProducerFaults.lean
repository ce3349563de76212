import InputDeck.Proofs.StructFields

namespace InputDeck

theorem Except.bind_eq_error_iff {x : Except ε α} {f : α → Except ε β} {e : ε} :
    (do let a ← x; f a) = .error e ↔ x = .error e ∨ ∃ a, x = .ok a ∧ f a = .error e := by
  cases x with
  | error e' => simp [bind, Except.bind]
  | ok a => simp [bind, Except.bind]

theorem Except.map_eq_error_iff {x : Except ε α} {f : α → β} {e : ε} :
    x.map f = .error e ↔ x = .error e := by
  cases x <;> simp [Except.map]

/-- A fold stops at the first element that its step refuses. -/
theorem foldlM_eq_error_iff {step : σ → α → Except ε σ} {xs : List α} {s : σ} {e : ε} :
    xs.foldlM step s = .error e ↔
      ∃ before x behind t, xs = before ++ x :: behind ∧ before.foldlM step s = .ok t ∧
        step t x = .error e := by
  constructor
  · intro h
    induction xs generalizing s with
    | nil => cases h
    | cons y rest ih =>
        rw [List.foldlM_cons, Except.bind_eq_error_iff] at h
        rcases h with hfirst | ⟨t, ht, hrest⟩
        · exact ⟨[], y, rest, s, rfl, rfl, hfirst⟩
        · obtain ⟨before, x, behind, u, rfl, hbefore, hx⟩ := ih hrest
          refine ⟨y :: before, x, behind, u, rfl, ?_, hx⟩
          rw [List.foldlM_cons, ht]
          exact hbefore
  · rintro ⟨before, x, behind, t, rfl, hbefore, hx⟩
    rw [List.foldlM_append, hbefore]
    exact Except.bind_eq_error_iff.mpr (.inr ⟨t, rfl, Except.bind_eq_error_iff.mpr (.inl hx)⟩)

def Fault.IsUnsupported (fault : Fault) : Prop :=
  ∃ problem, fault = .unsupported problem

namespace Producer

/-- Reading a value comes upon a number of 128 bits: whatever a list holds in front of it has a
value. -/
inductive MeetsWide : Producer → WideInt → Prop
  | wide (n : WideInt) : MeetsWide (.wide n) n
  | present {inner : Producer} {n : WideInt} (h : MeetsWide inner n) :
      MeetsWide (.present inner) n
  | wrapper {name : String} {inner : Producer} {n : WideInt} (h : MeetsWide inner n) :
      MeetsWide (.wrapper name inner) n
  | sequence {shape : SequenceShape} {before behind : List Producer} {p : Producer} {n : WideInt}
      (hbefore : ∀ q ∈ before, ∃ v, q.toValue? = .ok (some v)) (h : MeetsWide p n) :
      MeetsWide (.sequence shape (before ++ p :: behind)) n

theorem toElements_append {before behind : List Producer} {p : Producer} {fault : Fault}
    (hbefore : ∀ q ∈ before, ∃ v, q.toValue? = .ok (some v)) (hp : p.toValue? = .error fault) :
    toElements (before ++ p :: behind) = .error fault := by
  induction before with
  | nil => simp [toElements, hp, bind, Except.bind]
  | cons q rest ih =>
      obtain ⟨v, hv⟩ := hbefore q (by simp)
      have hrest := ih fun other hother => hbefore other (by simp [hother])
      simp [toElements, hv, hrest, bind, Except.bind]

theorem MeetsWide.toValue?_eq {p : Producer} {n : WideInt} (h : p.MeetsWide n) :
    p.toValue? = .error (.custom n.refusal) := by
  induction h with
  | wide n => rfl
  | present h ih => rw [toValue?, ih]
  | wrapper h ih =>
      rw [toValue?, ih]
      rfl
  | sequence hbefore h ih =>
      rw [toValue?, toElements_append hbefore ih]
      rfl

theorem unwrap_eq_error {name : String} {found : Option Value} {fault : Fault}
    (h : Value.unwrap name found = .error fault) : fault.IsUnsupported := by
  simp only [Value.unwrap] at h
  split at h
  · split at h
    · cases h
    · exact ⟨_, (Except.error.inj h).symm⟩
  · split at h
    · split at h
      · cases h
      · exact ⟨_, (Except.error.inj h).symm⟩
    · cases h

theorem mapM_literal_eq_error {values : List Value} {fault : Fault}
    (h : values.mapM Value.literal = .error fault) : fault.IsUnsupported := by
  induction values with
  | nil => cases h
  | cons v rest ih =>
      rw [List.mapM_cons, Except.bind_eq_error_iff] at h
      rcases h with hv | ⟨s, -, hrest⟩
      · cases v with
        | scalar s => cases hv
        | list items => exact ⟨_, (Except.error.inj hv).symm⟩
        | reference r => exact ⟨_, (Except.error.inj hv).symm⟩
        | references rs => exact ⟨_, (Except.error.inj hv).symm⟩
      · rw [Except.bind_eq_error_iff] at hrest
        rcases hrest with hrest | ⟨others, -, hpure⟩
        · exact ih hrest
        · cases hpure

theorem ofElements_eq_error {values : List Value} {fault : Fault}
    (h : Value.ofElements values = .error fault) : fault.IsUnsupported := by
  unfold Value.ofElements at h
  split at h
  · cases h
  · exact mapM_literal_eq_error (Except.map_eq_error_iff.mp h)

mutual

/-- What is no value is unsupported, unless a number of 128 bits is met on the way. -/
theorem toValue?_eq_error {fault : Fault} : (p : Producer) → p.toValue? = .error fault →
    (∃ n, p.MeetsWide n ∧ fault = .custom n.refusal) ∨ fault.IsUnsupported
  | .wide n, h => .inl ⟨n, .wide n, (Except.error.inj h).symm⟩
  | .present inner, h => by
      rw [toValue?] at h
      rcases toValue?_eq_error inner h with ⟨n, hn, rfl⟩ | hunsupported
      · exact .inl ⟨n, .present hn, rfl⟩
      · exact .inr hunsupported
  | .wrapper name inner, h => by
      rw [toValue?, Except.bind_eq_error_iff] at h
      rcases h with h | ⟨found, -, hunwrap⟩
      · rcases toValue?_eq_error inner h with ⟨n, hn, rfl⟩ | hunsupported
        · exact .inl ⟨n, .wrapper hn, rfl⟩
        · exact .inr hunsupported
      · exact .inr (unwrap_eq_error hunwrap)
  | .sequence shape elements, h => by
      rw [toValue?, Except.bind_eq_error_iff] at h
      rcases h with h | ⟨values, -, h⟩
      · rcases toElements_eq_error elements h with
          ⟨before, p, behind, n, rfl, hbefore, hn, rfl⟩ | hunsupported
        · exact .inl ⟨n, .sequence hbefore hn, rfl⟩
        · exact .inr hunsupported
      · rw [Except.bind_eq_error_iff] at h
        rcases h with h | ⟨v, -, hpure⟩
        · exact .inr (ofElements_eq_error h)
        · cases hpure
  | .newtypeVariant _ _, h | .tupleVariant _, h | .structVariant _ _, h | .map _, h
  | .struct _ _, h => .inr ⟨_, (Except.error.inj h).symm⟩

theorem toElements_eq_error {fault : Fault} : (elements : List Producer) →
    toElements elements = .error fault →
    (∃ before p behind n, elements = before ++ p :: behind ∧
      (∀ q ∈ before, ∃ v, q.toValue? = .ok (some v)) ∧ p.MeetsWide n ∧
        fault = .custom n.refusal) ∨ fault.IsUnsupported
  | p :: rest, h => by
      rw [toElements, Except.bind_eq_error_iff] at h
      rcases h with h | ⟨found, hfound, h⟩
      · rcases toValue?_eq_error p h with ⟨n, hn, rfl⟩ | hunsupported
        · exact .inl ⟨[], p, rest, n, rfl, by simp, hn, rfl⟩
        · exact .inr hunsupported
      · cases found with
        | none => exact .inr ⟨_, (Except.error.inj h).symm⟩
        | some v =>
            rw [Except.bind_eq_error_iff] at h
            rcases h with h | ⟨others, -, hpure⟩
            · rcases toElements_eq_error rest h with
                ⟨before, q, behind, n, rfl, hbefore, hn, rfl⟩ | hunsupported
              · refine .inl ⟨p :: before, q, behind, n, rfl, ?_, hn, rfl⟩
                exact List.forall_mem_cons.mpr ⟨⟨v, hfound⟩, hbefore⟩
              · exact .inr hunsupported
            · cases hpure

end

/-- Taking the fields of data stops with a problem that is not one of its form: a number of 128
bits, or a map that hands over a value for which there is no key. -/
inductive MeetsCustom : Producer → String → Prop
  | wide (n : WideInt) : MeetsCustom (.wide n) n.refusal
  | present {inner : Producer} {problem : String} (h : MeetsCustom inner problem) :
      MeetsCustom (.present inner) problem
  | wrapper {name : String} {inner : Producer} {problem : String}
      (h : MeetsCustom inner problem) : MeetsCustom (.wrapper name inner) problem
  | struct {name key : String} {before behind : List StructEntry} {p : Producer} {n : WideInt}
      (hbefore : ∀ entry ∈ before, entry.fault? = none) (h : p.MeetsWide n) :
      MeetsCustom (.struct name (before ++ .field key p :: behind)) n.refusal
  | mapKey {before behind : List MapCall} {progress : MapProgress} {p : Producer} {n : WideInt}
      (hbefore : before.foldlM MapProgress.step {} = .ok progress) (h : p.MeetsWide n) :
      MeetsCustom (.map (before ++ .key p :: behind)) n.refusal
  | mapValue {before behind : List MapCall} {progress : MapProgress} {key : String} {p : Producer}
      {n : WideInt} (hbefore : before.foldlM MapProgress.step {} = .ok progress)
      (hpending : progress.pending = some key) (h : p.MeetsWide n) :
      MeetsCustom (.map (before ++ .value p :: behind)) n.refusal
  | noKey {before behind : List MapCall} {progress : MapProgress} {p : Producer}
      (hbefore : before.foldlM MapProgress.step {} = .ok progress)
      (hpending : progress.pending = none) :
      MeetsCustom (.map (before ++ .value p :: behind))
        "serialize_value called without serialize_key"

theorem toFields_map_eq_error_iff {calls : List MapCall} {fault : Fault} :
    (Producer.map calls).toFields = .error fault ↔
      ∃ before call behind progress, calls = before ++ call :: behind ∧
        before.foldlM MapProgress.step {} = .ok progress ∧ progress.step call = .error fault := by
  rw [toFields, Except.map_eq_error_iff, foldlM_eq_error_iff]

theorem toFields_struct_eq_error_iff {name : String} {entries : List StructEntry} {fault : Fault} :
    (Producer.struct name entries).toFields = .error fault ↔
      entries.findSome? StructEntry.fault? = some fault := by
  rw [toFields, Fields.foldlM_collectEntry]
  cases entries.findSome? StructEntry.fault? <;> simp

theorem MeetsWide.fault? {p : Producer} {n : WideInt} (h : p.MeetsWide n) (key : String) :
    (StructEntry.field key p).fault? = some (.custom n.refusal) := by
  simp only [StructEntry.fault?, h.toValue?_eq]
  rfl

theorem MeetsWide.toKey_eq {p : Producer} {n : WideInt} (h : p.MeetsWide n) :
    p.toKey = .error (.custom n.refusal) := by
  rw [toKey, h.toValue?_eq]
  rfl

theorem MeetsCustom.toFields_eq {p : Producer} {problem : String} (h : p.MeetsCustom problem) :
    p.toFields = .error (.custom problem) := by
  induction h with
  | wide n => rfl
  | present h ih => rw [toFields, ih]
  | wrapper h ih => rw [toFields, ih]
  | @struct name key before behind p n hbefore h =>
      rw [toFields_struct_eq_error_iff, List.findSome?_append,
        List.findSome?_eq_none_iff.mpr hbefore, List.findSome?_cons, h.fault? key]
      rfl
  | mapKey hbefore h =>
      refine toFields_map_eq_error_iff.mpr ⟨_, _, _, _, rfl, hbefore, ?_⟩
      rw [MapProgress.step, h.toKey_eq]
      rfl
  | @mapValue before behind progress key p n hbefore hpending h =>
      refine toFields_map_eq_error_iff.mpr ⟨_, _, _, _, rfl, hbefore, ?_⟩
      simp only [MapProgress.step, hpending, Fields.collect_eq, h.toValue?_eq]
      rfl
  | noKey hbefore hpending =>
      refine toFields_map_eq_error_iff.mpr ⟨_, _, _, _, rfl, hbefore, ?_⟩
      simp only [MapProgress.step, hpending]

theorem toKey_eq_error {p : Producer} {fault : Fault} (h : p.toKey = .error fault) :
    (∃ n, p.MeetsWide n ∧ fault = .custom n.refusal) ∨ fault.IsUnsupported := by
  rw [toKey, Except.bind_eq_error_iff] at h
  rcases h with h | ⟨found, -, h⟩
  · exact toValue?_eq_error p h
  · split at h
    · cases h
    · exact .inr ⟨_, (Except.error.inj h).symm⟩
    · exact .inr ⟨_, (Except.error.inj h).symm⟩

theorem inField_eq {p : Producer} {fault : Fault} (h : p.toValue? = .error fault) (key : String) :
    (∃ n, p.MeetsWide n ∧ fault.inField key = .custom n.refusal) ∨
      (fault.inField key).IsUnsupported := by
  rcases toValue?_eq_error p h with ⟨n, hn, rfl⟩ | ⟨problem, rfl⟩
  · exact .inl ⟨n, hn, rfl⟩
  · exact .inr ⟨_, rfl⟩

theorem toFields_struct_eq_error {name : String} {entries : List StructEntry} {fault : Fault}
    (h : (Producer.struct name entries).toFields = .error fault) :
    (∃ problem, (Producer.struct name entries).MeetsCustom problem ∧ fault = .custom problem) ∨
      fault.IsUnsupported := by
  rw [toFields_struct_eq_error_iff, List.findSome?_eq_some_iff] at h
  obtain ⟨before, entry, behind, rfl, hentry, hbefore⟩ := h
  cases entry with
  | skipped key => cases hentry
  | field key p =>
      cases hp : p.toValue? with
      | ok found => simp [StructEntry.fault?, hp] at hentry
      | error inner =>
          simp only [StructEntry.fault?, hp, Option.some.injEq] at hentry
          subst hentry
          rcases inField_eq hp key with ⟨n, hn, heq⟩ | hunsupported
          · exact .inl ⟨_, .struct hbefore hn, heq⟩
          · exact .inr hunsupported

theorem toFields_map_eq_error {calls : List MapCall} {fault : Fault}
    (h : (Producer.map calls).toFields = .error fault) :
    (∃ problem, (Producer.map calls).MeetsCustom problem ∧ fault = .custom problem) ∨
      fault.IsUnsupported := by
  obtain ⟨before, call, behind, progress, rfl, hbefore, hcall⟩ := toFields_map_eq_error_iff.mp h
  cases call with
  | key p =>
      rcases toKey_eq_error (Except.map_eq_error_iff.mp hcall) with ⟨n, hn, rfl⟩ | hunsupported
      · exact .inl ⟨_, .mapKey hbefore hn, rfl⟩
      · exact .inr hunsupported
  | value p =>
      rw [MapProgress.step] at hcall
      cases hpending : progress.pending with
      | none =>
          simp only [hpending] at hcall
          exact .inl ⟨_, .noKey hbefore hpending, (Except.error.inj hcall).symm⟩
      | some key =>
          simp only [hpending, Except.map_eq_error_iff, Fields.collect_eq] at hcall
          cases hp : p.toValue? with
          | ok found => cases found <;> simp [hp] at hcall
          | error inner =>
              simp only [hp, Except.error.injEq] at hcall
              subst hcall
              rcases inField_eq hp key with ⟨n, hn, heq⟩ | hunsupported
              · exact .inl ⟨_, .mapValue hbefore hpending hn, heq⟩
              · exact .inr hunsupported

/-- Data that has no fields is unsupported, or it is met by one of the other problems. -/
theorem toFields_eq_error {fault : Fault} : (p : Producer) → p.toFields = .error fault →
    (∃ problem, p.MeetsCustom problem ∧ fault = .custom problem) ∨ fault.IsUnsupported
  | .wide n, h => .inl ⟨_, .wide n, (Except.error.inj h).symm⟩
  | .present inner, h => by
      rw [toFields] at h
      rcases toFields_eq_error inner h with ⟨problem, hproblem, rfl⟩ | hunsupported
      · exact .inl ⟨problem, .present hproblem, rfl⟩
      · exact .inr hunsupported
  | .wrapper name inner, h => by
      rw [toFields] at h
      rcases toFields_eq_error inner h with ⟨problem, hproblem, rfl⟩ | hunsupported
      · exact .inl ⟨problem, .wrapper hproblem, rfl⟩
      · exact .inr hunsupported
  | .struct _ _, h => toFields_struct_eq_error h
  | .map _, h => toFields_map_eq_error h
  | .sequence shape _, h => by
      cases shape <;> exact .inr ⟨_, (Except.error.inj h).symm⟩
  | .bool _, h | .integer _, h | .float32 _, h | .float64 _, h | .char _, h | .text _, h
  | .bytes _, h | .unitVariant _, h | .newtypeVariant _ _, h | .tupleVariant _, h
  | .structVariant _ _, h => .inr ⟨_, (Except.error.inj h).symm⟩

end Producer

end InputDeck
