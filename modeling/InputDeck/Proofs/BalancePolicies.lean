import InputDeck.Proofs.ClampedPass
import InputDeck.Proofs.StrictPass
import Std.Data.String.ToInt

namespace InputDeck

theorem leftOpen_inj {m n : Int} (h : leftOpen m = leftOpen n) : m = n :=
  Int.repr_inj.mp ((String.append_left_inj _).mp h)

def Layout.withBalance (layout : Layout) (balance : Balance) : Layout :=
  { layout with balance }

/-- How a strict and a clamping pass over the same items end. -/
inductive PoliciesEnd (strict clamped : Logged (Except Fault α)) : Prop
  | written (text : α) (hstrict : strict = { result := .ok text })
      (hclamped : clamped = { result := .ok text })
  | unmatched (line : Nat) (text : α) (others : List Event)
      (hstrict : strict = { result := .error (.malformed line unmatchedClose) })
      (hclamped : clamped =
        { result := .ok text, events := .unmatchedClose line (-1) :: others })
  | leftOpen (line : Nat) (text : α) (depth : Int)
      (hstrict : strict = { result := .error (.malformed line (leftOpen depth)) })
      (hclamped : clamped = { result := .ok text, events := [.leftOpen depth] })

namespace PoliciesEnd

variable {strict clamped : Logged (Except Fault α)}

theorem map (h : PoliciesEnd strict clamped) (f : α → β) :
    PoliciesEnd (strict.map (Except.map f)) (clamped.map (Except.map f)) := by
  cases h with
  | written text hstrict hclamped =>
      subst hstrict hclamped
      exact .written (f text) rfl rfl
  | unmatched line text others hstrict hclamped =>
      subst hstrict hclamped
      exact .unmatched line (f text) others rfl rfl
  | leftOpen line text depth hstrict hclamped =>
      subst hstrict hclamped
      exact .leftOpen line (f text) depth rfl rfl

theorem clamped_ok (h : PoliciesEnd strict clamped) : ∃ text, clamped.result = .ok text := by
  cases h with
  | written text _ hclamped => exact ⟨text, by rw [hclamped]⟩
  | unmatched _ text _ _ hclamped => exact ⟨text, by rw [hclamped]⟩
  | leftOpen _ text _ _ hclamped => exact ⟨text, by rw [hclamped]⟩

theorem strict_ok_iff (h : PoliciesEnd strict clamped) :
    (∃ text, strict.result = .ok text) ↔ clamped.events = [] := by
  cases h with
  | written text hstrict hclamped =>
      rw [hstrict, hclamped]
      exact iff_of_true ⟨text, rfl⟩ rfl
  | unmatched line text others hstrict hclamped =>
      rw [hstrict, hclamped]
      refine iff_of_false ?_ (List.cons_ne_nil _ _)
      rintro ⟨written, hok⟩
      cases hok
  | leftOpen line text depth hstrict hclamped =>
      rw [hstrict, hclamped]
      refine iff_of_false ?_ (List.cons_ne_nil _ _)
      rintro ⟨written, hok⟩
      cases hok

theorem clamped_of_strict_ok (h : PoliciesEnd strict clamped) {text : α}
    (hok : strict.result = .ok text) : clamped.result = .ok text := by
  cases h with
  | written written hstrict hclamped =>
      rw [hstrict] at hok
      rw [hclamped]
      exact hok
  | unmatched line written others hstrict hclamped =>
      rw [hstrict] at hok
      cases hok
  | leftOpen line written depth hstrict hclamped =>
      rw [hstrict] at hok
      cases hok

theorem head?_events (h : PoliciesEnd strict clamped) {line : Nat}
    (hfault : strict.result = .error (.malformed line unmatchedClose)) :
    clamped.events.head? = some (.unmatchedClose line (-1)) := by
  cases h with
  | written text hstrict hclamped =>
      rw [hstrict] at hfault
      cases hfault
  | unmatched other text others hstrict hclamped =>
      rw [hstrict] at hfault
      cases hfault
      rw [hclamped]
      rfl
  | leftOpen other text depth hstrict hclamped =>
      rw [hstrict] at hfault
      have hproblem := (Fault.malformed.inj (Except.error.inj hfault)).2
      exact absurd hproblem.symm (unmatchedClose_ne_leftOpen depth)

theorem events_eq (h : PoliciesEnd strict clamped) {line : Nat} {depth : Int}
    (hfault : strict.result = .error (.malformed line (InputDeck.leftOpen depth))) :
    clamped.events = [.leftOpen depth] := by
  cases h with
  | written text hstrict hclamped =>
      rw [hstrict] at hfault
      cases hfault
  | unmatched other text others hstrict hclamped =>
      rw [hstrict] at hfault
      have hproblem := (Fault.malformed.inj (Except.error.inj hfault)).2
      exact absurd hproblem (unmatchedClose_ne_leftOpen depth)
  | leftOpen other text found hstrict hclamped =>
      rw [hstrict] at hfault
      have hproblem := (Fault.malformed.inj (Except.error.inj hfault)).2
      rw [hclamped, leftOpen_inj hproblem]

theorem fault_cases (h : PoliciesEnd strict clamped) {fault : Fault}
    (hfault : strict.result = .error fault) :
    ∃ line, fault = .malformed line unmatchedClose ∨
      ∃ depth, fault = .malformed line (InputDeck.leftOpen depth) := by
  cases h with
  | written text hstrict hclamped =>
      rw [hstrict] at hfault
      cases hfault
  | unmatched line text others hstrict hclamped =>
      rw [hstrict] at hfault
      exact ⟨line, .inl (Except.error.inj hfault).symm⟩
  | leftOpen line text depth hstrict hclamped =>
      rw [hstrict] at hfault
      exact ⟨line, .inr ⟨depth, (Except.error.inj hfault).symm⟩⟩

end PoliciesEnd

theorem policiesEnd (layout : Layout) (items : List (List Char)) :
    PoliciesEnd (indentFrom (layout.withBalance .strict) 1 {} items)
      (indentFrom (layout.withBalance .clamp) 1 {} items) := by
  have hclamped := @indentFrom_of_clamp (layout.withBalance .clamp) rfl 1 {} items
  by_cases hnever : NeverBelow ({} : Nesting).depth items
  · have hnonneg := hnever.add_rise_nonneg (Int.le_refl 0)
    rw [unmatchedFrom_of_neverBelow 1 hnever, List.nil_append, Event.ofEnd] at hclamped
    by_cases hopen : 0 < ({} : Nesting).depth + rise items
    · rw [if_pos hopen] at hclamped
      exact .leftOpen _ _ _ (indentFrom_leftOpen rfl hnever hopen) hclamped
    · rw [if_neg hopen] at hclamped
      exact .written _ (indentFrom_of_neverBelow _ 1 hnever (by omega)) hclamped
  · obtain ⟨before, last, behind, rfl, hbefore, hzero, hlast⟩ :=
      exists_first_below (Int.le_refl 0) hnever
    rw [unmatchedFrom_append, unmatchedFrom_of_neverBelow 1 hbefore, hzero, unmatchedFrom, hlast,
      Event.ofClosing, if_pos ⟨hlast, by decide⟩] at hclamped
    exact .unmatched _ _ _ (indentFrom_unmatched rfl behind hbefore hzero hlast) hclamped

/-- Clamping always gives a text, and is silent if and only if the strict policy gives one: then it
is the same. Otherwise the first that it tells is what the strict policy refuses. -/
theorem indentItems_strict_clamp (layout : Layout) (items : List String) :
    let strict := (indentItems (layout.withBalance .strict) items).result
    let clamped := indentItems (layout.withBalance .clamp) items
    (∃ text, clamped.result = .ok text) ∧
    ((∃ text, strict = .ok text) ↔ clamped.events = []) ∧
    (∀ text, strict = .ok text → clamped.result = .ok text) ∧
    (∀ line, strict = .error (.malformed line unmatchedClose) →
      clamped.events.head? = some (.unmatchedClose line (-1))) ∧
    (∀ line depth, strict = .error (.malformed line (leftOpen depth)) →
      clamped.events = [.leftOpen depth]) ∧
    ∀ fault, strict = .error fault →
      ∃ line, fault = .malformed line unmatchedClose ∨
        ∃ depth, fault = .malformed line (leftOpen depth) := by
  have hend := (policiesEnd layout (items.map String.toList)).map String.ofList
  exact ⟨hend.clamped_ok, hend.strict_ok_iff, fun _ => hend.clamped_of_strict_ok,
    fun _ => hend.head?_events, fun _ _ => hend.events_eq, fun _ => hend.fault_cases⟩

end InputDeck
