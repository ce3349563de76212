import InputDeck.Keyed
import Mathlib.Data.List.Forall2
import Mathlib.Data.List.Nodup
import Mathlib.Data.List.Perm.Subperm

namespace InputDeck

open List (Forall₂)

theorem forall₂_of_map_eq {f : α → β} {as bs : List α} (h : as.map f = bs.map f) :
    Forall₂ (fun a b => f a = f b) as bs := by
  have hmaps : Forall₂ Eq (as.map f) (bs.map f) := by
    rw [List.forall₂_eq_eq_eq]
    exact h
  rw [List.forall₂_map_left_iff, List.forall₂_map_right_iff] at hmaps
  exact hmaps

theorem map_eq_of_forall₂ {f : α → γ} {g : β → γ} {as : List α} {bs : List β}
    (h : Forall₂ (fun a b => f a = g b) as bs) : as.map f = bs.map g := by
  rw [← List.forall₂_eq_eq_eq, List.forall₂_map_left_iff, List.forall₂_map_right_iff]
  exact h

theorem forall₂_of_beq [BEq α] {as bs : List α} (h : (as == bs) = true) :
    Forall₂ (fun a b => (a == b) = true) as bs := by
  induction as generalizing bs with
  | nil =>
      cases bs with
      | nil => exact .nil
      | cons b bs => cases h
  | cons a as ih =>
      cases bs with
      | nil => cases h
      | cons b bs =>
          rw [List.cons_beq_cons, Bool.and_eq_true] at h
          exact .cons h.1 (ih h.2)

theorem exists_of_mem_of_forall₂ {R : α → β → Prop} {xs : List α} {ys : List β}
    (h : Forall₂ R xs ys) {x : α} (hx : x ∈ xs) : ∃ y, R x y := by
  induction h with
  | nil => cases hx
  | @cons a b xs ys hab hrest ih =>
      rcases List.mem_cons.mp hx with rfl | hx
      · exact ⟨b, hab⟩
      · exact ih hx

theorem exists_forall₂ {R : α → β → Prop} {xs : List α} (h : ∀ x ∈ xs, ∃ y, R x y) :
    ∃ ys, Forall₂ R xs ys := by
  induction xs with
  | nil => exact ⟨[], .nil⟩
  | cons x rest ih =>
      obtain ⟨y, hy⟩ := h x (by simp)
      obtain ⟨ys, hys⟩ := ih fun other hother => h other (by simp [hother])
      exact ⟨y :: ys, .cons hy hys⟩

namespace Keyed

variable {α : Type u} (key : α → String)

theorem filterMap_get? {xs : List α} (h : (xs.map key).Nodup) :
    (xs.map key).filterMap (fun name => get? key name xs) = xs := by
  rw [List.filterMap_map]
  have hfound : ∀ x ∈ xs, ((fun name => get? key name xs) ∘ key) x = some x := fun x hx =>
    get?_key_of_mem key h hx
  rw [List.filterMap_congr hfound, List.filterMap_some]

/-- If each element has a match under its own name, and there are as many on both sides, the matches
are all there is, in whatever order. -/
theorem exists_row {R : α → α → Prop} {xs ys : List α} (hdistinct : (xs.map key).Nodup)
    (hlength : xs.length = ys.length)
    (hfound : ∀ x ∈ xs, ∃ y, get? key (key x) ys = some y ∧ R x y) :
    ∃ row, row.Perm ys ∧ Forall₂ (fun x y => key x = key y ∧ R x y) xs row := by
  obtain ⟨row, hrow⟩ := exists_forall₂ hfound
  have hpairs : Forall₂ (fun x y => key x = key y ∧ R x y) xs row :=
    hrow.imp fun x y hy => ⟨(key_of_get?_eq_some key hy.1).symm, hy.2⟩
  have hkeys : xs.map key = row.map key := map_eq_of_forall₂ (hpairs.imp fun x y hy => hy.1)
  have hnodup : row.Nodup := List.Nodup.of_map key (hkeys ▸ hdistinct)
  have hsubset : row ⊆ ys := by
    intro y hy
    obtain ⟨x, hx, -⟩ := exists_of_mem_of_forall₂ hrow.flip hy
    exact List.mem_of_find?_eq_some hx
  have hle : ys.length ≤ row.length := Nat.le_of_eq (hlength.symm.trans hrow.length_eq)
  exact ⟨row, (List.subperm_of_subset hnodup hsubset).perm_of_length_le hle, hpairs⟩

/-- Elements with distinct names that have the names in the same order stand in the same order. -/
theorem eq_of_perm {row xs : List α} (hperm : row.Perm xs) (hkeys : row.map key = xs.map key)
    (hdistinct : (xs.map key).Nodup) : row = xs := by
  refine List.ext_getElem hperm.length_eq fun i hrow hxs => ?_
  refine List.inj_on_of_nodup_map hdistinct (hperm.subset (List.getElem_mem hrow))
    (List.getElem_mem hxs) ?_
  have hi := congrArg (fun names => names[i]?) hkeys
  simpa [hrow, hxs] using hi

theorem mem_insert {x y : α} {xs : List α} (h : y ∈ insert key x xs) : y = x ∨ y ∈ xs := by
  induction xs with
  | nil => exact .inl (List.mem_singleton.mp h)
  | cons z rest ih =>
      rw [insert] at h
      split at h
      · exact (List.mem_cons.mp h).imp_right (List.mem_cons_of_mem z)
      · rcases List.mem_cons.mp h with rfl | h
        · exact .inr List.mem_cons_self
        · exact (ih h).imp_right (List.mem_cons_of_mem z)

end Keyed

end InputDeck
