import InputDeck.BlockName
import InputDeck.Indentation
import Mathlib.Data.List.DropRight

namespace InputDeck

namespace Text

theorem trimStart_cons {c : Char} (hc : isBlank c = false) (rest : List Char) :
    trimStart (c :: rest) = c :: rest :=
  List.dropWhile_cons_of_neg (by simp [hc])

theorem trimEnd_concat {c : Char} (hc : isBlank c = false) (cs : List Char) :
    trimEnd (cs ++ [c]) = cs ++ [c] :=
  List.rdropWhile_concat_neg isBlank cs c (by simp [hc])

/-- Trimming at the end stops at the latest at a first character that is not blank. -/
theorem trimEnd_cons {c : Char} (hc : isBlank c = false) (rest : List Char) :
    trimEnd (c :: rest) = c :: trimEnd rest := by
  unfold trimEnd
  rw [List.reverse_cons, List.dropWhile_append]
  cases h : rest.reverse.dropWhile isBlank with
  | nil => simp [hc]
  | cons d ds => simp

theorem isBlank_of_trimStart_eq_cons {cs rest : List Char} {c : Char}
    (h : trimStart cs = c :: rest) : isBlank c = false := by
  have hhead := List.head?_dropWhile_not isBlank cs
  rw [show cs.dropWhile isBlank = c :: rest from h] at hhead
  exact hhead

theorem trim_trimStart (cs : List Char) : trim (trimStart cs) = trim cs :=
  congrArg trimEnd (List.dropWhile_idempotent isBlank cs)

theorem trim_trim (cs : List Char) : trim (trim cs) = trim cs := by
  unfold trim
  cases h : trimStart cs with
  | nil => rfl
  | cons c rest =>
      have hc := isBlank_of_trimStart_eq_cons h
      rw [trimEnd_cons hc, trimStart_cons hc, ← trimEnd_cons hc]
      exact List.rdropWhile_idempotent isBlank (c :: rest)

theorem trim_append_of_blank {blanks : List Char} (h : ∀ c ∈ blanks, isBlank c = true)
    (cs : List Char) : trim (blanks ++ cs) = trim cs :=
  congrArg trimEnd (List.dropWhile_append_of_pos h)

theorem mem_of_mem_trimStart {c : Char} {cs : List Char} (h : c ∈ trimStart cs) : c ∈ cs :=
  List.dropWhile_subset isBlank h

theorem mem_of_mem_trim {c : Char} {cs : List Char} (h : c ∈ trim cs) : c ∈ cs :=
  mem_of_mem_trimStart ((List.rdropWhile_prefix isBlank (trimStart cs)).subset h)

theorem trimStart_append (cs ds : List Char) :
    trimStart (cs ++ ds) =
      if (trimStart cs).isEmpty then trimStart ds else trimStart cs ++ ds :=
  List.dropWhile_append

theorem trimEnd_append (cs ds : List Char) :
    trimEnd (cs ++ ds) = if (trimEnd ds).isEmpty then trimEnd cs else cs ++ trimEnd ds := by
  unfold trimEnd
  rw [List.reverse_append, List.dropWhile_append, List.isEmpty_reverse]
  split <;> simp

theorem trim_append_blanks {blanks : List Char} (h : ∀ c ∈ blanks, isBlank c = true)
    (cs : List Char) : trim (cs ++ blanks) = trim cs := by
  have hstart : trimStart blanks = [] := List.dropWhile_eq_nil_iff.mpr h
  have hend : trimEnd blanks = [] := List.rdropWhile_eq_nil_iff.mpr h
  unfold trim
  rw [trimStart_append]
  split
  · next hnil => rw [hstart, List.isEmpty_iff.mp hnil]
  · rw [trimEnd_append, hend]
    rfl

theorem mem_trimStart_of_mem {c : Char} {cs : List Char} (h : c ∈ cs) (hc : isBlank c = false) :
    c ∈ trimStart cs := by
  rw [← List.takeWhile_append_dropWhile (p := isBlank) (l := cs), List.mem_append] at h
  rcases h with hblank | hkept
  · exact absurd (List.mem_takeWhile_imp hblank) (by simp [hc])
  · exact hkept

theorem mem_trim_of_mem {c : Char} {cs : List Char} (h : c ∈ cs) (hc : isBlank c = false) :
    c ∈ trim cs := by
  refine List.mem_reverse.mpr (mem_trimStart_of_mem ?_ hc)
  exact List.mem_reverse.mpr (mem_trimStart_of_mem h hc)

theorem isBlank_of_getLast?_trim {c : Char} {cs : List Char}
    (h : (trim cs).getLast? = some c) : isBlank c = false := by
  have hne : trim cs ≠ [] := by
    rintro hnil
    simp [hnil] at h
  have hlast := List.rdropWhile_last_not isBlank (trimStart cs) hne
  rw [List.getLast?_eq_some_getLast hne, Option.some.injEq] at h
  exact h ▸ Bool.eq_false_iff.mpr hlast

theorem trim_bracketed (inner : List Char) :
    trim ('[' :: (inner ++ [']'])) = '[' :: (inner ++ [']']) := by
  unfold trim
  rw [trimStart_cons (by decide)]
  exact trimEnd_concat (by decide) ('[' :: inner)

end Text

open Text

theorem trim_trimItem (item : List Char) : trim (trimItem item) = trim item := by
  simp only [trimItem]
  split
  · exact trim_trimStart item
  · exact trim_trim item

theorem trimItem_of_not_mem {item : List Char} (h : '\n' ∉ item) : trimItem item = trim item := by
  have hbare : '\n' ∉ trimStart item := fun hmem => h (mem_of_mem_trimStart hmem)
  simp [trimItem, trim, hbare]

theorem trimItem_bracketed (inner : List Char) :
    trimItem ('[' :: (inner ++ [']'])) = '[' :: (inner ++ [']']) := by
  have hstart : trimStart ('[' :: (inner ++ [']'])) = '[' :: (inner ++ [']']) :=
    trimStart_cons (by decide) _
  have hend : trimEnd ('[' :: (inner ++ [']'])) = '[' :: (inner ++ [']']) :=
    trimEnd_concat (by decide) ('[' :: inner)
  simp only [trimItem, hstart, hend, ite_self]

/-- The margin in front of an item does not change what trimming leaves of it. -/
theorem trim_indentItem (indent : Nat) (depth : Int) (item : List Char) :
    trim (indentItem indent depth item) = trim item := by
  unfold indentItem
  split
  · next hempty => rw [List.isEmpty_iff.mp hempty]
  · refine trim_append_of_blank ?_ item
    intro c hc
    rw [List.eq_of_mem_replicate hc]
    decide

theorem bracketed?_cons (c : Char) (rest : List Char) :
    bracketed? (c :: rest) =
      if c = '[' ∧ rest.getLast? = some ']' then some rest.dropLast else none := by
  by_cases hc : c = '['
  · subst hc
    simp [bracketed?]
  · simp [bracketed?, hc]

theorem bracketed?_bracketed (inner : List Char) :
    bracketed? ('[' :: (inner ++ [']'])) = some inner := by
  simp [bracketed?]

namespace Marker

theorem ofLine_congr {a b : List Char} (h : trim a = trim b) : ofLine a = ofLine b := by
  simp only [ofLine, h]

theorem ofLine_trimItem (item : List Char) : ofLine (trimItem item) = ofLine item :=
  ofLine_congr (trim_trimItem item)

theorem ofLine_bracketed (inner : List Char) :
    ofLine ('[' :: (inner ++ [']'])) =
      if trim inner = [] ∨ trim inner = ['.', '.', '/'] then .closing else .opening := by
  simp only [ofLine, trim_bracketed, bracketed?_bracketed]

end Marker

theorem nameFault?_eq_none_iff {name : String} :
    nameFault? name = none ↔
      trim name.toList ≠ [] ∧ ('\n' ∉ name.toList ∧ '\r' ∉ name.toList) ∧
        ('[' ∉ name.toList ∧ ']' ∉ name.toList) ∧
        ¬ ['.', '/'] <+: trim name.toList ∧ ¬ ['.', '.', '/'] <+: trim name.toList := by
  unfold nameFault?
  simp only [List.isEmpty_iff, List.any_eq_true, Bool.or_eq_true, beq_iff_eq,
    List.isPrefixOf_iff_prefix]
  split_ifs <;> grind

theorem BlockName.toList_header (name : BlockName) :
    name.header.toList = '[' :: (name.text.toList ++ [']']) := by
  simp [header]

theorem BlockName.not_mem_header (name : BlockName) : '\n' ∉ name.header.toList := by
  obtain ⟨-, ⟨hfeed, -⟩, -⟩ := nameFault?_eq_none_iff.mp name.accepted
  simp [name.toList_header, hfeed]

theorem toList_closingLine : closingLine.toList = '[' :: ([] ++ [']']) := rfl

theorem BlockName.ofLine_header (name : BlockName) :
    Marker.ofLine name.header.toList = .opening := by
  obtain ⟨hne, -, -, -, hdots⟩ := nameFault?_eq_none_iff.mp name.accepted
  have hup : trim name.text.toList ≠ ['.', '.', '/'] := by
    intro h
    exact hdots (h ▸ List.prefix_refl _)
  rw [name.toList_header, Marker.ofLine_bracketed, if_neg (by simp [hne, hup])]

theorem ofLine_closingLine : Marker.ofLine closingLine.toList = .closing := by
  rw [toList_closingLine, Marker.ofLine_bracketed]
  rfl

end InputDeck
