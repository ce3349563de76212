namespace InputDeck.Keyed

variable {α : Type u} (key : α → String)

/-- The first element of `xs` that goes by the name `name`. -/
def get? (name : String) (xs : List α) : Option α :=
  xs.find? fun x => key x == name

/-- Puts `x` into the slot that already goes by its name, or behind the last slot. -/
def insert (x : α) : List α → List α
  | [] => [x]
  | y :: rest => if key y = key x then x :: rest else y :: insert x rest

/-- Takes the slot named `name` out and closes the gap. -/
def erase (name : String) (xs : List α) : List α :=
  xs.eraseP fun x => key x == name

theorem map_insert_of_mem {x : α} {xs : List α} (h : key x ∈ xs.map key) :
    (insert key x xs).map key = xs.map key := by
  induction xs with
  | nil => simp at h
  | cons y rest ih =>
      by_cases hy : key y = key x
      · simp [insert, hy]
      · have hrest : key x ∈ rest.map key := by
          rcases List.mem_cons.1 h with h | h
          · exact absurd h.symm hy
          · exact h
        simp [insert, hy, ih hrest]

theorem insert_of_not_mem {x : α} {xs : List α} (h : key x ∉ xs.map key) :
    insert key x xs = xs ++ [x] := by
  induction xs with
  | nil => rfl
  | cons y rest ih =>
      have hy : key y ≠ key x := fun hy => h (by simp [hy])
      have hrest : key x ∉ rest.map key := fun hx => h (List.mem_cons_of_mem _ hx)
      simp [insert, hy, ih hrest]

theorem eraseDups_concat (names : List String) (name : String) :
    (names ++ [name]).eraseDups =
      if name ∈ names then names.eraseDups else names.eraseDups ++ [name] := by
  by_cases h : name ∈ names <;> simp [List.eraseDups_append, List.removeAll, h, List.eraseDups_cons]

/-- If the slots have the names `names`, each where it comes first, they go on having them so. -/
theorem map_insert_eq_eraseDups {x : α} {xs : List α} {names : List String}
    (h : xs.map key = names.eraseDups) :
    (insert key x xs).map key = (names ++ [key x]).eraseDups := by
  rw [eraseDups_concat, ← h]
  have hmem : key x ∈ names ↔ key x ∈ xs.map key := by
    rw [h, List.mem_eraseDups]
  split
  · next hname => exact map_insert_of_mem key (hmem.mp hname)
  · next hname =>
      rw [insert_of_not_mem key fun hold => hname (hmem.mpr hold), List.map_append]
      rfl

theorem nodup_map_insert {x : α} {xs : List α} (h : (xs.map key).Nodup) :
    ((insert key x xs).map key).Nodup := by
  by_cases hx : key x ∈ xs.map key
  · rw [map_insert_of_mem key hx]
    exact h
  · rw [insert_of_not_mem key hx, List.map_append, List.nodup_append]
    refine ⟨h, by simp, ?_⟩
    rintro a ha b hb rfl
    simp only [List.map_cons, List.map_nil, List.mem_singleton] at hb
    exact hx (hb ▸ ha)

theorem nodup_map_erase {name : String} {xs : List α} (h : (xs.map key).Nodup) :
    ((erase key name xs).map key).Nodup :=
  h.sublist (List.eraseP_sublist.map key)

/-- A slot that is filled is found, and the others are found as before. -/
theorem get?_insert (x : α) (name : String) (xs : List α) :
    get? key name (insert key x xs) = if key x = name then some x else get? key name xs := by
  induction xs with
  | nil =>
      by_cases hx : key x = name <;> simp [get?, insert, hx]
  | cons y rest ih =>
      simp only [get?] at ih
      by_cases hy : key y = key x
      · by_cases hx : key x = name
        · simp [get?, insert, hy, hx]
        · simp [get?, insert, hy, hx]
      · by_cases hn : key y = name
        · have hx : key x ≠ name := fun hx => hy (hn.trans hx.symm)
          simp [get?, insert, hn, hx, hx.symm]
        · simp [get?, insert, hy, hn, ih]

theorem key_of_get?_eq_some {name : String} {x : α} {xs : List α}
    (h : get? key name xs = some x) : key x = name := by
  simpa using List.find?_some h

theorem isSome_get?_iff {name : String} {xs : List α} :
    (get? key name xs).isSome = true ↔ name ∈ xs.map key := by
  simp [get?, List.find?_isSome]

/-- An element is found under its name if no other has that name. -/
theorem get?_key_of_mem {x : α} {xs : List α} (h : (xs.map key).Nodup) (hx : x ∈ xs) :
    get? key (key x) xs = some x := by
  induction xs with
  | nil => simp at hx
  | cons y rest ih =>
      rw [List.map_cons, List.nodup_cons] at h
      rcases List.mem_cons.1 hx with rfl | hx
      · simp [get?]
      · have hy : key y ≠ key x := fun hy => h.1 (hy ▸ List.mem_map_of_mem hx)
        simpa [get?, hy] using ih h.2 hx

/-- A slot that is taken out is gone, for no other has its name. -/
theorem get?_erase {xs : List α} (h : (xs.map key).Nodup) (name other : String) :
    get? key other (erase key name xs) = if name = other then none else get? key other xs := by
  induction xs with
  | nil => simp [get?, erase]
  | cons y rest ih =>
      rw [List.map_cons, List.nodup_cons] at h
      by_cases hy : key y = name
      · subst hy
        have herase : erase key (key y) (y :: rest) = rest := by simp [erase]
        rw [herase]
        split
        · next hother =>
            rw [← Option.not_isSome_iff_eq_none, isSome_get?_iff, ← hother]
            exact h.1
        · next hother => simp [get?, hother]
      · have herase : erase key name (y :: rest) = y :: erase key name rest := by simp [erase, hy]
        have hrest := ih h.2
        simp only [get?] at hrest
        rw [herase]
        by_cases hother : key y = other
        · simp [get?, hother, show name ≠ other from fun hname => hy (hother.trans hname.symm)]
        · simp [get?, hother, hrest]

end InputDeck.Keyed
