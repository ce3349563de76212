import InputDeck.Deck

namespace InputDeck

namespace Block

def children : Block → List Block
  | entity _ => []
  | nested _ _ children _ => children

def fields : Block → Fields
  | entity e => e.fields
  | nested _ _ _ fields => fields

/-- What holds of a row of blocks as soon as it holds of the row inside its first block and of the
others behind that holds of every row. -/
@[elab_as_elim]
theorem forestInduction {motive : List Block → Prop} (nil : motive [])
    (cons : ∀ b rest, motive b.children → motive rest → motive (b :: rest))
    (blocks : List Block) : motive blocks :=
  @Block.rec_1 (fun b => motive b.children) motive (fun _ => nil)
    (fun _ _ _ _ hchildren => hchildren) nil cons blocks

theorem linesOfAll_cons (resolver : Resolver) (separator : String) (b : Block)
    (rest : List Block) :
    linesOfAll resolver separator (b :: rest) = (do
      let inner ← linesOfAll resolver separator b.children
      let own ← b.fields.lines resolver separator b.key
      let others ← linesOfAll resolver separator rest
      return b.name.header :: (inner ++ own) ++ [closingLine] ++ others) := by
  cases b with
  | entity e =>
      simp only [linesOfAll, lines, Entity.lines, children, fields, key, name]
      cases e.fields.lines resolver separator e.name.text <;> rfl
  | nested label policy children own =>
      simp only [linesOfAll, lines, Block.children, fields, key, name]
      cases linesOfAll resolver separator children with
      | error fault => rfl
      | ok inner => cases own.lines resolver separator label.text <;> rfl

mutual

/-- The blocks inside a block, at any depth, and then the block itself. Fields are written in this
order: those of a section stand behind all that is nested in it. -/
def innermostFirst : Block → List Block
  | entity e => [entity e]
  | nested label policy children fields =>
      innermostFirstOfAll children ++ [nested label policy children fields]

def innermostFirstOfAll : List Block → List Block
  | [] => []
  | b :: rest => b.innermostFirst ++ innermostFirstOfAll rest

end

theorem innermostFirstOfAll_cons (b : Block) (rest : List Block) :
    innermostFirstOfAll (b :: rest) =
      innermostFirstOfAll b.children ++ [b] ++ innermostFirstOfAll rest := by
  cases b <;> rfl

theorem forall_mem_innermostFirstOfAll_cons {p : Block → Prop} {b : Block} {rest : List Block} :
    (∀ c ∈ innermostFirstOfAll (b :: rest), p c) ↔
      (∀ c ∈ innermostFirstOfAll b.children, p c) ∧ p b ∧
        ∀ c ∈ innermostFirstOfAll rest, p c := by
  simp only [innermostFirstOfAll_cons, List.forall_mem_append, List.forall_mem_singleton, and_assoc]

end Block

/-- The text of a value whose references are taken as they stand, without looking them up. -/
def Value.plainText : Value → String
  | scalar s => s.written
  | list items => " ".intercalate (items.map Scalar.written)
  | reference r => r.written
  | references rs => " ".intercalate (rs.map Reference.written)

def Field.plainLine (separator name : String) (field : Field) : String :=
  name ++ separator ++ field.quote.wrap field.value field.value.plainText

def Fields.plainLines (separator : String) (m : Fields) : List String :=
  m.entries.map fun entry => entry.2.plainLine separator entry.1

namespace Block

mutual

/-- The lines of a block without indentation, whatever its references point at. -/
def plainLines (separator : String) : Block → List String
  | entity e => e.name.header :: e.fields.plainLines separator ++ [closingLine]
  | nested label _ children fields =>
      label.header :: (plainLinesOfAll separator children ++ fields.plainLines separator) ++
        [closingLine]

def plainLinesOfAll (separator : String) : List Block → List String
  | [] => []
  | b :: rest => b.plainLines separator ++ plainLinesOfAll separator rest

end

theorem plainLinesOfAll_cons (separator : String) (b : Block) (rest : List Block) :
    plainLinesOfAll separator (b :: rest) =
      b.name.header :: (plainLinesOfAll separator b.children ++ b.fields.plainLines separator) ++
        [closingLine] ++ plainLinesOfAll separator rest := by
  cases b <;> rfl

theorem map_toList_plainLinesOfAll_cons (separator : String) (b : Block) (rest : List Block) :
    (plainLinesOfAll separator (b :: rest)).map String.toList =
      (b.name.header.toList :: ((plainLinesOfAll separator b.children).map String.toList ++
          (b.fields.plainLines separator).map String.toList) ++ [closingLine.toList]) ++
        (plainLinesOfAll separator rest).map String.toList := by
  simp [plainLinesOfAll_cons]

theorem forall_mem_plainLinesOfAll {p : List Char → Prop} {separator : String}
    {blocks : List Block} (hheader : ∀ name : BlockName, p name.header.toList)
    (hclosing : p closingLine.toList)
    (hown : ∀ b ∈ innermostFirstOfAll blocks,
      ∀ item ∈ (b.fields.plainLines separator).map String.toList, p item) :
    ∀ item ∈ (plainLinesOfAll separator blocks).map String.toList, p item := by
  induction blocks using forestInduction with
  | nil => simp [plainLinesOfAll]
  | cons b rest ihChildren ihRest =>
      obtain ⟨hchildren, hb, hrest⟩ := forall_mem_innermostFirstOfAll_cons.mp hown
      simp only [map_toList_plainLinesOfAll_cons, List.forall_mem_append, List.forall_mem_cons]
      exact ⟨⟨⟨hheader b.name, ihChildren hchildren, hb⟩, hclosing, List.forall_mem_nil p⟩,
        ihRest hrest⟩

theorem getLast?_plainLinesOfAll (separator : String) (blocks : List Block) :
    (plainLinesOfAll separator blocks).getLast? =
      if blocks = [] then none else some closingLine := by
  induction blocks with
  | nil => rfl
  | cons b rest ih =>
      rw [plainLinesOfAll_cons, List.getLast?_append, ih, List.getLast?_concat,
        if_neg (List.cons_ne_nil b rest)]
      split <;> rfl

theorem length_plainLinesOfAll (separator : String) (blocks : List Block) :
    (plainLinesOfAll separator blocks).length =
      2 * (innermostFirstOfAll blocks).length +
        ((innermostFirstOfAll blocks).flatMap fun b => b.fields.entries).length := by
  induction blocks using forestInduction with
  | nil => rfl
  | cons b rest ihChildren ihRest =>
      have hown : (b.fields.plainLines separator).length = b.fields.entries.length :=
        List.length_map _
      simp only [plainLinesOfAll_cons, innermostFirstOfAll_cons, List.length_append,
        List.length_cons, List.length_nil, List.flatMap_append, List.flatMap_singleton, ihChildren,
        ihRest, hown]
      omega

end Block

namespace Deck

def allBlocks (d : Deck) : List Block :=
  Block.innermostFirstOfAll d.blocks

def plainLines (separator : String) (d : Deck) : List String :=
  Block.plainLinesOfAll separator d.blocks

def fieldLines (separator : String) (d : Deck) : List String :=
  d.allBlocks.flatMap fun b => b.fields.plainLines separator

theorem forall_mem_fieldLines {p : List Char → Prop} {separator : String} {d : Deck} :
    (∀ line ∈ d.fieldLines separator, p line.toList) ↔
      ∀ b ∈ d.allBlocks, ∀ item ∈ (b.fields.plainLines separator).map String.toList, p item := by
  simp only [fieldLines, List.mem_flatMap, List.forall_mem_map]
  exact ⟨fun h b hb line hline => h line ⟨b, hb, hline⟩,
    fun h line ⟨b, hb, hline⟩ => h b hb line hline⟩

end Deck

end InputDeck
