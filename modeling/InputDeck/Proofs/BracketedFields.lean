import InputDeck.Proofs.DirectWriting
import InputDeck.Proofs.StrictPass

namespace InputDeck

open Text

theorem bracketed?_trim_field (name value : List Char) :
    bracketed? (trim (name ++ [' ', '=', ' '] ++ value)) =
      if (trimStart name).head? = some '[' ∧ (trimEnd value).getLast? = some ']' then
        some ((trimStart name).tail ++ [' ', '=', ' '] ++ (trimEnd value).dropLast)
      else none := by
  unfold trim
  rw [List.append_assoc, trimStart_append]
  cases hname : trimStart name with
  | nil =>
      have hsign : trimStart ([' ', '=', ' '] ++ value) = '=' :: ' ' :: value := rfl
      rw [List.isEmpty_nil, if_pos rfl, hsign, trimEnd_cons (by decide), bracketed?_cons]
      simp
  | cons c rest =>
      simp only [List.isEmpty_cons, Bool.false_eq_true, if_false, ← List.append_assoc,
        List.head?_cons, Option.some.injEq, List.tail_cons]
      rw [trimEnd_append]
      by_cases hvalue : trimEnd value = []
      · have hsign : trimEnd (c :: rest ++ [' ', '=', ' ']) = c :: (rest ++ [' ', '=']) := by
          rw [trimEnd_append]
          rfl
        rw [hvalue, List.isEmpty_nil, if_pos rfl, hsign, bracketed?_cons]
        simp
      · rw [if_neg (by simpa using hvalue), List.cons_append, List.cons_append, bracketed?_cons,
          List.getLast?_append_of_ne_nil _ hvalue, List.dropLast_append_of_ne_nil hvalue]

/-- The sign keeps what stands between the brackets from being empty or the dots of a closing
line. -/
theorem Marker.ofLine_field (name value : List Char) :
    ofLine (name ++ [' ', '=', ' '] ++ value) =
      if (trimStart name).head? = some '[' ∧ (trimEnd value).getLast? = some ']' then .opening
      else .body := by
  unfold ofLine
  rw [bracketed?_trim_field]
  by_cases hboth : (trimStart name).head? = some '[' ∧ (trimEnd value).getLast? = some ']'
  · rw [if_pos hboth, if_pos hboth]
    have hsign : '=' ∈ trim ((trimStart name).tail ++ [' ', '=', ' '] ++ (trimEnd value).dropLast) :=
      mem_trim_of_mem (by simp) (by decide)
    refine if_neg ?_
    rintro (hempty | hdots)
    · rw [hempty] at hsign
      cases hsign
    · rw [hdots] at hsign
      exact absurd hsign (by decide)
  · rw [if_neg hboth, if_neg hboth]

/-- The field's line begins and ends like a header. -/
def Field.IsBracketed (name : String) (field : Field) : Prop :=
  (trimStart name.toList).head? = some '[' ∧
    (trimEnd (field.quote.wrap field.value field.value.plainText).toList).getLast? = some ']'

instance (name : String) : DecidablePred (Field.IsBracketed name) := fun _ =>
  inferInstanceAs (Decidable (_ ∧ _))

theorem Field.ofLine_plainLine (name : String) (field : Field) :
    Marker.ofLine (field.plainLine " = " name).toList =
      if field.IsBracketed name then .opening else .body := by
  rw [plainLine, String.toList_append, String.toList_append]
  exact Marker.ofLine_field name.toList _

def Block.bracketedFields (b : Block) : List (String × Field) :=
  b.fields.entries.filter fun entry => entry.2.IsBracketed entry.1

def Deck.bracketedFields (d : Deck) : List (String × Field) :=
  d.allBlocks.flatMap Block.bracketedFields

/-- Wherever they stand, the items close no block but their own, and leave `n` blocks open. -/
structure LeavesOpen (n : Nat) (items : List (List Char)) : Prop where
  neverBelow : ∀ depth : Int, 0 ≤ depth → NeverBelow depth items
  rise_eq : rise items = n

namespace LeavesOpen

variable {m n : Nat} {items others : List (List Char)}

theorem nil : LeavesOpen 0 [] :=
  ⟨fun _ _ => trivial, rfl⟩

theorem append (h : LeavesOpen m items) (h' : LeavesOpen n others) :
    LeavesOpen (m + n) (items ++ others) := by
  constructor
  · intro depth hdepth
    rw [neverBelow_append, h.rise_eq]
    exact ⟨h.neverBelow depth hdepth, h'.neverBelow _ (by omega)⟩
  · rw [rise_append, h.rise_eq, h'.rise_eq, Int.natCast_add]

theorem opening {item : List Char} (hitem : Marker.ofLine item = .opening) :
    LeavesOpen 1 [item] := by
  constructor
  · intro depth hdepth
    simp only [NeverBelow, hitem, Marker.rise, and_true]
    omega
  · simp [hitem, Marker.rise]

theorem body {item : List Char} (hitem : Marker.ofLine item = .body) : LeavesOpen 0 [item] := by
  constructor
  · intro depth hdepth
    simpa only [NeverBelow, hitem, Marker.rise, and_true, Int.add_zero] using hdepth
  · simp [hitem, Marker.rise]

theorem block {head last : List Char} (hhead : Marker.ofLine head = .opening)
    (hlast : Marker.ofLine last = .closing) (h : LeavesOpen n items) :
    LeavesOpen n (head :: items ++ [last]) := by
  have hrise := h.rise_eq
  constructor
  · intro depth hdepth
    apply neverBelow_block hhead hlast hdepth (h.neverBelow _ (by omega))
    omega
  · rw [rise_block hhead hlast, hrise]

end LeavesOpen

theorem Block.leavesOpen_fields (b : Block) :
    LeavesOpen b.bracketedFields.length ((b.fields.plainLines " = ").map String.toList) := by
  unfold bracketedFields Fields.plainLines
  induction b.fields.entries with
  | nil => exact LeavesOpen.nil
  | cons entry rest ih =>
      have hentry := entry.2.ofLine_plainLine entry.1
      rw [List.map_cons, List.map_cons, List.filter_cons]
      by_cases hbracketed : entry.2.IsBracketed entry.1
      · rw [if_pos hbracketed] at hentry
        rw [if_pos (by simpa using hbracketed), List.length_cons, Nat.add_comm]
        exact (LeavesOpen.opening hentry).append ih
      · rw [if_neg hbracketed] at hentry
        rw [if_neg (by simpa using hbracketed), ← Nat.zero_add (List.length _)]
        exact (LeavesOpen.body hentry).append ih

theorem Block.leavesOpen (blocks : List Block) :
    LeavesOpen ((innermostFirstOfAll blocks).flatMap bracketedFields).length
      ((plainLinesOfAll " = " blocks).map String.toList) := by
  induction blocks using forestInduction with
  | nil => exact LeavesOpen.nil
  | cons b rest ihChildren ihRest =>
      have hblock := LeavesOpen.block b.name.ofLine_header ofLine_closingLine
        (ihChildren.append b.leavesOpen_fields)
      rw [map_toList_plainLinesOfAll_cons, innermostFirstOfAll_cons, List.flatMap_append,
        List.flatMap_append, List.flatMap_singleton, List.length_append, List.length_append]
      exact hblock.append ihRest

theorem indentItems_of_leavesOpen {layout : Layout} (hstrict : layout.balance = .strict) {n : Nat}
    {items : List String} (h : LeavesOpen n (items.map String.toList)) (hn : 0 < n) :
    ∃ line, (indentItems layout items).result = .error (.malformed line (leftOpen n)) := by
  have hrise : ({} : Nesting).depth + rise (items.map String.toList) = n := by
    rw [h.rise_eq]
    exact Int.zero_add n
  have hopen : 0 < ({} : Nesting).depth + rise (items.map String.toList) := by
    rw [hrise]
    omega
  have hpass := @indentFrom_leftOpen layout _ {} 1 hstrict (h.neverBelow 0 (Int.le_refl 0)) hopen
  rw [indentItems, hpass, hrise]
  exact ⟨_, rfl⟩

namespace Deck

theorem ofLine_fieldLines {d : Deck} (hnone : d.bracketedFields = []) :
    ∀ line ∈ d.fieldLines " = ", Marker.ofLine line.toList = .body := by
  intro line hline
  obtain ⟨b, hb, hline⟩ := List.mem_flatMap.mp hline
  obtain ⟨entry, hentry, rfl⟩ := List.mem_map.mp hline
  rw [Field.ofLine_plainLine, if_neg]
  intro hbracketed
  have hmem : entry ∈ d.bracketedFields := by
    refine List.mem_flatMap.mpr ⟨b, hb, List.mem_filter.mpr ⟨hentry, ?_⟩⟩
    exact decide_eq_true hbracketed
  rw [hnone] at hmem
  cases hmem

/-- With the usual sign and the strict policy a deck whose references all lead somewhere is written
as its tree says, unless the lines of some fields begin and end like headers. They are read as
such, and as there is one closing line for each real header, just as many blocks are reported as
left open. -/
theorem render_default (d : Deck) :
    (∀ (name : String) (field : Field),
      Marker.ofLine (field.plainLine " = " name).toList =
        if field.IsBracketed name then .opening else .body) ∧
    match d.mentions.find? fun m => !d.namespaceOf.contains m.target with
    | some m => (d.render {}).result = .error m.fault
    | none =>
        if d.bracketedFields = [] then (d.render {}).result = .ok (d.directText {})
        else ∃ line, (d.render {}).result =
          .error (.malformed line (leftOpen d.bracketedFields.length)) := by
  refine ⟨fun name field => field.ofLine_plainLine name, ?_⟩
  split
  · next m hfind => rw [render_of_first_unresolved hfind]
  · next hfind =>
      have hresolved : ∀ m ∈ d.mentions, d.namespaceOf.contains m.target = true := by
        simpa using hfind
      rw [render_of_resolved hresolved]
      split
      · next hnone =>
          rw [@indentItems_plainLines {} d (ofLine_fieldLines hnone)]
          rfl
      · next hsome =>
          have hleaves : LeavesOpen d.bracketedFields.length
              ((d.plainLines " = ").map String.toList) := Block.leavesOpen d.blocks
          exact @indentItems_of_leavesOpen {} rfl _ _ hleaves (List.length_pos_iff.mpr hsome)

/-- The value ends in the bracket that the name of the field begins with. -/
theorem malformed_of_bracketed_field :
    render {}
        { blocks :=
            [.entity
              { name := ⟨"e", by decide⟩
                fields := { entries := [("[x", { value := .scalar (.text "]") })] } }] } =
      { result := .error (.malformed 1 "1 block(s) left open at end of document")
        events := [.rendered 1 1 3] } := by
  rfl

end Deck

end InputDeck
