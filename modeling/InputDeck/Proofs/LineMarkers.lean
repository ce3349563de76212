import InputDeck.Catalog.Schema
import InputDeck.Proofs.TerminatedLines
import InputDeck.Proofs.ValueGrammar
import InputDeck.Section

namespace InputDeck

open Text

/-- The ways in which a block comes to be under a name that the caller chose. -/
inductive Block.Made (name : String) : Block → Prop
  | plain {fields : Fields} {e : Entity} (h : Entity.ofName name fields = .ok e) :
      Made name (.entity e)
  | tagged {kind : String} {fields : Fields} {e : Entity}
      (h : Entity.tagged name kind fields = .ok e) : Made name (.entity e)
  | produced {p : Producer} {e : Entity} (h : Entity.ofProducer name p = .ok e) :
      Made name (.entity e)
  | built {schema : Schema} {values : Fields} {e : Entity}
      (h : schema.build name values = .ok e) : Made name (.entity e)
  | builtFrom {schema : Schema} {p : Producer} {e : Entity}
      (h : schema.buildFrom name p = .ok e) : Made name (.entity e)
  | nested {s : Section} (h : Section.ofLabel name = .ok s) : Made name s.toBlock

theorem BlockName.text_of_ofString {what name : String} {accepted : BlockName}
    (h : BlockName.ofString what name = .ok accepted) : accepted.text = name := by
  unfold BlockName.ofString at h
  split at h
  · cases h
    rfl
  · cases h

theorem Entity.text_of_ofName {name : String} {fields : Fields} {e : Entity}
    (h : Entity.ofName name fields = .ok e) : e.name.text = name := by
  obtain ⟨accepted, haccepted, rfl⟩ := Except.map_eq_ok_iff.mp h
  exact BlockName.text_of_ofString haccepted

theorem Schema.text_of_build {schema : Schema} {name : String} {values : Fields} {e : Entity}
    (h : schema.build name values = .ok e) : e.name.text = name := by
  rw [build, Except.bind_eq_ok_iff] at h
  obtain ⟨accepted, haccepted, h⟩ := h
  split at h
  · cases h
  · obtain ⟨fields, -, hpure⟩ := Except.bind_eq_ok_iff.mp h
    cases hpure
    exact BlockName.text_of_ofString haccepted

theorem Block.Made.key_eq {name : String} {b : Block} (h : b.Made name) : b.key = name := by
  cases h with
  | plain h => exact Entity.text_of_ofName h
  | tagged h =>
      obtain ⟨e, he, rfl⟩ := Except.map_eq_ok_iff.mp h
      rw [← Entity.text_of_ofName he]
      rfl
  | produced h =>
      obtain ⟨fields, -, he⟩ := Except.bind_eq_ok_iff.mp h
      exact Entity.text_of_ofName he
  | built h => exact Schema.text_of_build h
  | builtFrom h =>
      obtain ⟨values, -, he⟩ := Except.bind_eq_ok_iff.mp h
      exact Schema.text_of_build he
  | nested h =>
      obtain ⟨accepted, haccepted, rfl⟩ := Except.map_eq_ok_iff.mp h
      exact BlockName.text_of_ofString haccepted

namespace Block

mutual

/-- What the lines of a block are meant to be. -/
def markers : Block → List Marker
  | entity e => .opening :: List.replicate e.fields.size .body ++ [.closing]
  | nested _ _ children fields =>
      .opening :: (markersOfAll children ++ List.replicate fields.size .body) ++ [.closing]

def markersOfAll : List Block → List Marker
  | [] => []
  | b :: rest => b.markers ++ markersOfAll rest

end

theorem markersOfAll_cons (b : Block) (rest : List Block) :
    markersOfAll (b :: rest) =
      .opening :: (markersOfAll b.children ++ List.replicate b.fields.size .body) ++ [.closing] ++
        markersOfAll rest := by
  cases b <;> rfl

end Block

/-- The name is not blank, and its first character that is not blank is no bracket. -/
def StartsPlain (name : String) : Prop :=
  ∃ c ∈ (trimStart name.toList).head?, c ≠ '['

instance : DecidablePred StartsPlain := fun name =>
  decidable_of_iff ((trimStart name.toList).head?.any (· != '[') = true) <| by
    simp [StartsPlain, Option.any_eq_true]

theorem BlockName.ofLine_append_header (name : BlockName) {before behind : List Char}
    (hbefore : ∀ c ∈ before, isBlank c = true) (hbehind : ∀ c ∈ behind, isBlank c = true) :
    Marker.ofLine (before ++ name.header.toList ++ behind) = .opening := by
  have htrim : trim (before ++ name.header.toList ++ behind) = trim name.header.toList := by
    rw [trim_append_blanks hbehind, trim_append_of_blank hbefore]
  rw [Marker.ofLine_congr htrim, name.ofLine_header]

theorem StartsPlain.ofLine_append {name : String} (h : StartsPlain name) (rest : List Char) :
    Marker.ofLine (name.toList ++ rest) = .body := by
  obtain ⟨c, hhead, hc⟩ := h
  obtain ⟨others, hothers⟩ := List.head?_eq_some_iff.mp hhead
  have hstart : trimStart (name.toList ++ rest) = c :: (others ++ rest) := by
    rw [trimStart_append, hothers]
    rfl
  have hbare : bracketed? (trim (name.toList ++ rest)) = none := by
    rw [trim, hstart, trimEnd_cons (isBlank_of_trimStart_eq_cons hothers), bracketed?_cons,
      if_neg fun h => hc h.1]
  simp only [Marker.ofLine, hbare]

theorem StartsPlain.ofLine_of_line {name : String} (h : StartsPlain name) {resolver : Resolver}
    {separator owner : String} {field : Field} {line : String}
    (hline : field.line resolver separator owner name = .ok line) :
    Marker.ofLine line.toList = .body := by
  unfold Field.line at hline
  split at hline
  · cases hline
    rw [String.toList_append, String.toList_append, List.append_assoc]
    exact h.ofLine_append _
  · cases hline

theorem Fields.map_ofLine_plainLines {m : Fields} (h : ∀ name ∈ m.names, StartsPlain name)
    (separator : String) :
    (m.plainLines separator).map (fun line => Marker.ofLine line.toList) =
      List.replicate m.size .body := by
  rw [List.eq_replicate_iff]
  constructor
  · rw [List.length_map, plainLines, List.length_map]
    rfl
  · simp only [plainLines, List.map_map, List.mem_map, Function.comp_apply]
    rintro marker ⟨entry, hentry, rfl⟩
    rw [Field.plainLine, String.toList_append, String.toList_append, List.append_assoc]
    exact (h entry.1 (List.mem_map_of_mem hentry)).ofLine_append _

theorem Block.map_ofLine_plainLinesOfAll {blocks : List Block}
    (h : ∀ b ∈ innermostFirstOfAll blocks, ∀ name ∈ b.fields.names, StartsPlain name)
    (separator : String) :
    (plainLinesOfAll separator blocks).map (fun line => Marker.ofLine line.toList) =
      markersOfAll blocks := by
  induction blocks using forestInduction with
  | nil => rfl
  | cons b rest ihChildren ihRest =>
      obtain ⟨hchildren, hb, hrest⟩ := forall_mem_innermostFirstOfAll_cons.mp h
      simp only [plainLinesOfAll_cons, markersOfAll_cons, List.map_append, List.map_cons,
        List.map_nil, List.cons_append, b.name.ofLine_header, ofLine_closingLine,
        ihChildren hchildren, Fields.map_ofLine_plainLines hb separator, ihRest hrest]

/-- Every block stands under a name that was accepted for it, whichever way it was made. A header
holds its name and no line break, survives trimming and opens a block wherever it stands, and the
line of a field does nothing of the kind, whatever its value is, unless its name begins with a
bracket. So the brackets that are read in the lines of a deck are those of its tree. -/
theorem Deck.map_ofLine_lines (d : Deck) :
    (∀ (name : String) (b : Block), b.Made name → nameFault? name = none ∧ b.key = name) ∧
    (∀ b ∈ d.allBlocks, ∀ what, BlockName.ofString what b.key = .ok b.name) ∧
    (∀ (what name : String) (accepted : BlockName), BlockName.ofString what name = .ok accepted →
      accepted.header = "[" ++ name ++ "]" ∧
      ('\n' ∉ accepted.header.toList ∧ '\r' ∉ accepted.header.toList) ∧
      trimItem accepted.header.toList = accepted.header.toList ∧
      bracketed? accepted.header.toList = some name.toList ∧
      ∀ before behind : List Char, (∀ c ∈ before, isBlank c = true) →
        (∀ c ∈ behind, isBlank c = true) →
        Marker.ofLine (before ++ accepted.header.toList ++ behind) = .opening) ∧
    (∀ (resolver : Resolver) (separator owner name line : String) (field : Field),
      StartsPlain name → field.line resolver separator owner name = .ok line →
      Marker.ofLine line.toList = .body) ∧
    ∀ (resolver : Resolver) (separator : String) (lines : List String),
      (∀ b ∈ d.allBlocks, ∀ name ∈ b.fields.names, StartsPlain name) →
      d.lines resolver separator = .ok lines →
      lines.map (fun line => Marker.ofLine line.toList) = Block.markersOfAll d.blocks := by
  refine ⟨?_, ?_, ?_, ?_, ?_⟩
  · intro name b hmade
    have hkey := hmade.key_eq
    exact ⟨hkey ▸ b.name.accepted, hkey⟩
  · intro b _ what
    exact BlockName.ofString_of_accepted b.name.accepted what
  · intro what name accepted haccepted
    obtain rfl := BlockName.text_of_ofString haccepted
    obtain ⟨-, ⟨-, hreturn⟩, -⟩ := nameFault?_eq_none_iff.mp accepted.accepted
    refine ⟨rfl, ⟨accepted.not_mem_header, ?_⟩, ?_, ?_, ?_⟩
    · simp [accepted.toList_header, hreturn]
    · rw [accepted.toList_header, trimItem_bracketed]
    · rw [accepted.toList_header, bracketed?_bracketed]
    · intro before behind hbefore hbehind
      exact accepted.ofLine_append_header hbefore hbehind
  · intro resolver separator owner name line field hname hline
    exact hname.ofLine_of_line hline
  · intro resolver separator lines hnames hlines
    rw [lines_eq_vouch] at hlines
    rw [Resolver.eq_of_vouch_eq_ok hlines]
    exact Block.map_ofLine_plainLinesOfAll hnames separator

theorem Deck.map_ofLine_lines_of_bracket_texts :
    Block.key (.entity { name := ⟨" u 1 ", by decide⟩ }) = " u 1 " ∧
      Marker.ofLine "\t[ u 1 ] ".toList = .opening ∧
      Marker.ofLine "initial='[x]\n[]'".toList = .body ∧
      ["[Variables]", "[ u 1 ]", "initial = [x]\n[]", "[]", "] = [x]", "[]"].map
          (fun line => Marker.ofLine line.toList) =
        [.opening, .opening, .body, .closing, .body, .closing] := by
  obtain ⟨hmade, -, hheader, hfield, hlines⟩ := Deck.map_ofLine_lines
    { blocks :=
        [.nested ⟨"Variables", by decide⟩ .keepFirst
          [.entity
            { name := ⟨" u 1 ", by decide⟩
              fields := { entries := [("initial", { value := .scalar (.text "[x]\n[]") })] } }]
          { entries := [("]", { value := .scalar (.text "[x]") })] }] }
  refine ⟨?_, ?_, ?_, ?_⟩
  · have hname : Entity.ofName " u 1 " ∅ = .ok { name := ⟨" u 1 ", by decide⟩ } := rfl
    exact (hmade " u 1 " _ (.plain hname)).2
  · obtain ⟨-, -, -, -, hopening⟩ := hheader "entity" " u 1 " ⟨" u 1 ", by decide⟩ rfl
    exact hopening ['\t'] [' '] (List.forall_mem_singleton.mpr rfl)
      (List.forall_mem_singleton.mpr rfl)
  · exact hfield (fun _ => true) "=" " u 1 " "initial" _
      { value := .scalar (.text "[x]\n[]"), quote := .single } (by decide) rfl
  · exact hlines (fun _ => true) " = " _ (by decide) rfl

end InputDeck
