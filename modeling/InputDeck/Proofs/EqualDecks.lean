import InputDeck.Proofs.AssembledDecks
import InputDeck.Proofs.DirectWriting
import InputDeck.Proofs.EqualValues

namespace InputDeck

open List (Forall₂)

namespace Fields

theorem exists_row_of_beq {m n : Fields} (h : (m == n) = true) :
    ∃ row, row.Perm n.entries ∧
      Forall₂ (fun a b => a.1 = b.1 ∧ (b.2 == a.2) = true) m.entries row := by
  have hbeq : (m.size == n.size &&
      m.entries.all fun entry => n.get? entry.1 == some entry.2) = true := h
  rw [Bool.and_eq_true, beq_iff_eq, List.all_eq_true] at hbeq
  refine Keyed.exists_row Prod.fst m.distinct hbeq.1 fun entry hentry => ?_
  have hfield := hbeq.2 entry hentry
  rw [get?] at hfield
  cases hfound : Keyed.get? Prod.fst entry.1 n.entries with
  | none =>
      rw [hfound] at hfield
      cases hfield
  | some found =>
      rw [hfound] at hfield
      exact ⟨found, rfl, hfield⟩

/-- The fields in order, each with what equality does not tell of its value. -/
def arrangement (m : Fields) : List (String × List Bool) :=
  m.entries.map fun entry => (entry.1, entry.2.value.negativeZeros)

theorem eq_of_forall₂_beq {entries others : List (String × Field)}
    (hpairs : Forall₂ (fun a b => a.1 = b.1 ∧ (b.2 == a.2) = true) entries others)
    (hzeros : entries.map (fun entry => entry.2.value.negativeZeros) =
      others.map fun entry => entry.2.value.negativeZeros) : entries = others := by
  induction hpairs with
  | nil => rfl
  | cons hpair _ ih =>
      obtain ⟨hzero, hrest⟩ := List.cons.inj hzeros
      rw [ih hrest, Prod.ext hpair.1 (Field.eq_of_beq hpair.2 hzero.symm).symm]

theorem eq_of_beq {m n : Fields} (h : (m == n) = true) (harr : m.arrangement = n.arrangement) :
    m = n := by
  obtain ⟨row, hperm, hpairs⟩ := exists_row_of_beq h
  have hnames : m.names = n.names := by
    simpa [arrangement, names, Function.comp_def] using congrArg (List.map Prod.fst) harr
  have hzeros : m.entries.map (fun entry => entry.2.value.negativeZeros) =
      n.entries.map fun entry => entry.2.value.negativeZeros := by
    simpa [arrangement, Function.comp_def] using congrArg (List.map Prod.snd) harr
  have hkeys : row.map Prod.fst = n.names :=
    (map_eq_of_forall₂ (hpairs.imp fun a b hab => hab.1)).symm.trans hnames
  obtain rfl : row = n.entries := Keyed.eq_of_perm Prod.fst hperm hkeys n.distinct
  exact eq_of_entries (eq_of_forall₂_beq hpairs hzeros)

def HasNegativeZero (m : Fields) : Prop :=
  ∃ entry ∈ m.entries, true ∈ entry.2.value.negativeZeros

instance : DecidablePred HasNegativeZero := fun m =>
  inferInstanceAs (Decidable (∃ entry ∈ m.entries, true ∈ entry.2.value.negativeZeros))

theorem entries_perm_of_beq {m n : Fields} (h : (m == n) = true) (hm : ¬ m.HasNegativeZero)
    (hn : ¬ n.HasNegativeZero) : m.entries.Perm n.entries := by
  obtain ⟨row, hperm, hpairs⟩ := exists_row_of_beq h
  have hplain : ∀ entry ∈ m.entries, true ∉ entry.2.value.negativeZeros :=
    fun entry hentry hzero => hm ⟨entry, hentry, hzero⟩
  have hplain' : ∀ entry ∈ row, true ∉ entry.2.value.negativeZeros :=
    fun entry hentry hzero => hn ⟨entry, hperm.subset hentry, hzero⟩
  have hall := (List.forall₂_and_left _ _).mpr
    ⟨hplain', ((List.forall₂_and_left _ _).mpr ⟨hplain, hpairs⟩).flip⟩
  have hzeros : row.map (fun entry => entry.2.value.negativeZeros) =
      m.entries.map fun entry => entry.2.value.negativeZeros := by
    refine map_eq_of_forall₂ (hall.imp fun b a hab => ?_)
    obtain ⟨hb, ha, -, hbeq⟩ := hab
    exact (Value.alike_of_beq (Field.beq_iff.mp hbeq).1).negativeZeros_eq hb ha
  rw [eq_of_forall₂_beq hpairs hzeros.symm]
  exact hperm

theorem names_perm_of_beq {m n : Fields} (h : (m == n) = true) : m.names.Perm n.names := by
  obtain ⟨row, hperm, hpairs⟩ := exists_row_of_beq h
  rw [names, map_eq_of_forall₂ (hpairs.imp fun a b hab => hab.1)]
  exact hperm.map Prod.fst

end Fields

/-- Blocks that are equal one step down: a row of equals of the children of the first stands, in
some order, in the second. -/
inductive Block.Matches : Block → Block → Prop
  | entity {name : BlockName} {kind : Option String} {fields fields' : Fields}
      (hfields : (fields == fields') = true) :
      Matches (.entity { name, kind, fields }) (.entity { name, kind, fields := fields' })
  | nested {label : BlockName} {policy : DuplicatePolicy} {children children' row : List Block}
      {fields fields' : Fields} (hperm : row.Perm children')
      (hpairs : Forall₂ (fun b c => b.key = c.key ∧ (b == c) = true) children row)
      (hfields : (fields == fields') = true) :
      Matches (.nested label policy children fields) (.nested label policy children' fields')

namespace Block

theorem exists_get?_of_allFoundIn {others blocks : List Block}
    (h : allFoundIn others blocks = true) :
    ∀ b ∈ blocks, ∃ c, Keyed.get? key b.key others = some c ∧ (b == c) = true := by
  induction blocks with
  | nil => exact List.forall_mem_nil _
  | cons b rest ih =>
      rw [allFoundIn, Bool.and_eq_true] at h
      refine List.forall_mem_cons.mpr ⟨?_, ih h.2⟩
      cases hfound : Keyed.get? key b.key others with
      | none =>
          rw [hfound] at h
          cases h.1
      | some c =>
          rw [hfound] at h
          exact ⟨c, rfl, h.1⟩

theorem matches_of_beq {b c : Block} (h : (b == c) = true)
    (hdistinct : (b.children.map key).Nodup) : b.Matches c := by
  cases b with
  | entity e =>
      cases c with
      | nested _ _ _ _ => cases h
      | entity e' =>
          obtain ⟨name, kind, fields⟩ := e
          obtain ⟨name', kind', fields'⟩ := e'
          have hbeq : (name == name' && kind == kind' && fields == fields') = true := h
          rw [Bool.and_eq_true, Bool.and_eq_true, beq_iff_eq, beq_iff_eq] at hbeq
          obtain ⟨⟨rfl, rfl⟩, hfields⟩ := hbeq
          exact .entity hfields
  | nested label policy children fields =>
      cases c with
      | entity _ => cases h
      | nested label' policy' children' fields' =>
          have hbeq : (label == label' && children.length == children'.length &&
              allFoundIn children' children && fields == fields' && policy == policy') = true := h
          simp only [Bool.and_eq_true, beq_iff_eq] at hbeq
          obtain ⟨⟨⟨⟨rfl, hlength⟩, hfound⟩, hfields⟩, rfl⟩ := hbeq
          obtain ⟨row, hperm, hpairs⟩ :=
            Keyed.exists_row key hdistinct hlength (exists_get?_of_allFoundIn hfound)
          exact .nested hperm hpairs hfields

namespace Matches

variable {b c : Block}

theorem name_eq (h : b.Matches c) : b.name = c.name := by
  cases h <;> rfl

theorem key_eq (h : b.Matches c) : b.key = c.key :=
  congrArg BlockName.text h.name_eq

theorem fields_beq (h : b.Matches c) : (b.fields == c.fields) = true := by
  cases h with
  | entity hfields => exact hfields
  | nested _ _ hfields => exact hfields

theorem exists_row (h : b.Matches c) :
    ∃ row, row.Perm c.children ∧ Forall₂ (fun b c => (b == c) = true) b.children row := by
  cases h with
  | entity _ => exact ⟨[], .nil, .nil⟩
  | nested hperm hpairs _ => exact ⟨_, hperm, hpairs.imp fun b c hbc => hbc.2⟩

end Matches

end Block

/-- What equality does not tell of a block: the order of its fields and of the blocks in it, and
which of its zeros are negative. -/
inductive Arrangement where
  | block (name : String) (fields : List (String × List Bool)) (inner : List Arrangement)

def Arrangement.name : Arrangement → String
  | block name _ _ => name

namespace Block

mutual

def arrangement : Block → Arrangement
  | entity e => .block e.name.text e.fields.arrangement []
  | nested label _ children fields =>
      .block label.text fields.arrangement (arrangementOfAll children)

def arrangementOfAll : List Block → List Arrangement
  | [] => []
  | b :: rest => b.arrangement :: arrangementOfAll rest

end

theorem arrangementOfAll_cons (b : Block) (rest : List Block) :
    arrangementOfAll (b :: rest) =
      .block b.key b.fields.arrangement (arrangementOfAll b.children) :: arrangementOfAll rest := by
  cases b <;> rfl

theorem map_name_arrangementOfAll (blocks : List Block) :
    (arrangementOfAll blocks).map Arrangement.name = blocks.map key := by
  induction blocks with
  | nil => rfl
  | cons b rest ih => rw [arrangementOfAll_cons, List.map_cons, List.map_cons, ih, Arrangement.name]

theorem eq_of_forall₂_beq {blocks others : List Block}
    (hpairs : Forall₂ (fun b c => (b == c) = true) blocks others)
    (hblocks : SiblingsDistinct blocks) (hothers : SiblingsDistinct others)
    (harr : arrangementOfAll blocks = arrangementOfAll others) : blocks = others := by
  induction blocks using forestInduction generalizing others with
  | nil =>
      cases hpairs
      rfl
  | cons b rest ihChildren ihRest =>
      cases hpairs with
      | @cons _ c _ others hbc hpairs =>
        obtain ⟨hinner, hb, hrest⟩ := forall_mem_innermostFirstOfAll_cons.mp hblocks
        obtain ⟨hinner', hc, hrest'⟩ := forall_mem_innermostFirstOfAll_cons.mp hothers
        rw [arrangementOfAll_cons, arrangementOfAll_cons, List.cons.injEq,
          Arrangement.block.injEq] at harr
        obtain ⟨⟨-, hfields, hchildren⟩, hbehind⟩ := harr
        have hsame : b = c := by
          cases matches_of_beq hbc hb with
          | entity hbeq => rw [Fields.eq_of_beq hbeq hfields]
          | @nested label policy children children' row fields fields' hperm hpairs hbeq =>
              have hkeys : row.map key = children'.map key := by
                have hnames := congrArg (List.map Arrangement.name) hchildren
                rw [map_name_arrangementOfAll, map_name_arrangementOfAll] at hnames
                exact (map_eq_of_forall₂ (hpairs.imp fun b c hbc => hbc.1)).symm.trans hnames
              -- one arrangement leaves the children of `c` no other order than that of the row
              obtain rfl := Keyed.eq_of_perm key hperm hkeys hc
              have hsame : children = row :=
                ihChildren (hpairs.imp fun b c hbc => hbc.2) hinner hinner' hchildren
              rw [hsame, Fields.eq_of_beq hbeq hfields]
        rw [hsame, ihRest hpairs hrest hrest' hbehind]

end Block

/-- `f` brings together what each block has of its own and what the blocks inside it have, in
whatever order. -/
structure Gathers {α : Type} (own : Nat → Block → List α) (f : Nat → List Block → List α) :
    Prop where
  nil : ∀ depth, f depth [] = []
  cons : ∀ depth b rest,
    (f depth (b :: rest)).Perm (own depth b ++ (f (depth + 1) b.children ++ f depth rest))

namespace Gathers

open Block

variable {α : Type} {own : Nat → Block → List α} {f : Nat → List Block → List α}

theorem perm (h : Gathers own f) {row blocks : List Block} (hperm : row.Perm blocks)
    (depth : Nat) : (f depth row).Perm (f depth blocks) := by
  induction hperm with
  | nil => exact .refl _
  | cons b _ ih =>
      exact (h.cons depth b _).trans
        (((ih.append_left _).append_left _).trans (h.cons depth b _).symm)
  | swap b c rest =>
      have hboth : ∀ b c : Block, (f depth (b :: c :: rest)).Perm
          ((own depth b ++ f (depth + 1) b.children) ++
            ((own depth c ++ f (depth + 1) c.children) ++ f depth rest)) := by
        intro b c
        rw [List.append_assoc, List.append_assoc]
        exact (h.cons depth b _).trans (((h.cons depth c rest).append_left _).append_left _)
      exact (hboth c b).trans ((List.perm_append_comm_assoc _ _ _).trans (hboth b c).symm)
  | trans _ _ ih ih' => exact ih.trans ih'

theorem flatMap (g : Block → List α) :
    Gathers (fun _ => g) fun _ blocks => (innermostFirstOfAll blocks).flatMap g := by
  refine ⟨fun _ => rfl, fun _ b rest => ?_⟩
  rw [innermostFirstOfAll_cons, List.flatMap_append, List.flatMap_append, List.flatMap_singleton,
    List.append_assoc]
  exact List.perm_append_comm_assoc _ _ _

theorem laidOut (layout : Layout) :
    Gathers
      (fun depth b =>
        (layout.margin depth ++ b.name.header.toList) :: b.fields.laidOut layout (depth + 1) ++
          [layout.margin depth ++ closingLine.toList])
      (Block.laidOutOfAll layout) := by
  refine ⟨fun _ => rfl, fun depth b rest => ?_⟩
  have hmoved := List.perm_append_comm_assoc (Block.laidOutOfAll layout (depth + 1) b.children)
    (b.fields.laidOut layout (depth + 1) ++ [layout.margin depth ++ closingLine.toList])
    (Block.laidOutOfAll layout depth rest)
  simpa [laidOutOfAll_cons] using hmoved

/-- What is gathered from equal rows of blocks is the same up to order, if that is so for each two
blocks that match. -/
theorem perm_of_beq (h : Gathers own f) {blocks others : List Block}
    (hpairs : Forall₂ (fun b c => (b == c) = true) blocks others)
    (hdistinct : SiblingsDistinct blocks)
    (hown : ∀ b ∈ innermostFirstOfAll blocks, ∀ c ∈ innermostFirstOfAll others, b.Matches c →
      ∀ depth, (own depth b).Perm (own depth c))
    (depth : Nat) : (f depth blocks).Perm (f depth others) := by
  induction blocks using forestInduction generalizing others depth with
  | nil =>
      cases hpairs
      exact .refl _
  | cons b rest ihChildren ihRest =>
      cases hpairs with
      | @cons _ c _ others hbc hpairs =>
        obtain ⟨hinner, hb, hrest⟩ := forall_mem_innermostFirstOfAll_cons.mp hdistinct
        have hmatch := matches_of_beq hbc hb
        obtain ⟨row, hperm, hrow⟩ := hmatch.exists_row
        have hmem : ∀ x ∈ innermostFirstOfAll row, x ∈ innermostFirstOfAll c.children := by
          intro x hx
          obtain ⟨y, hy, hx⟩ := mem_innermostFirstOfAll_iff.mp hx
          exact mem_innermostFirstOfAll_iff.mpr ⟨y, hperm.subset hy, hx⟩
        simp only [innermostFirstOfAll_cons, List.mem_append, List.mem_singleton] at hown
        -- the row stands in for the children of `c`, and is put into their order afterwards
        have hchildren := ihChildren hrow hinner
          (fun x hx y hy => hown x (.inl (.inl hx)) y (.inl (.inl (hmem y hy)))) (depth + 1)
        have hothers := ihRest hpairs hrest
          (fun x hx y hy => hown x (.inr hx) y (.inr hy)) depth
        have hfirst := hown b (.inl (.inr rfl)) c (.inl (.inr rfl)) hmatch depth
        exact (h.cons depth b rest).trans
          ((hfirst.append ((hchildren.trans (h.perm hperm _)).append hothers)).trans
            (h.cons depth c others).symm)

end Gathers

theorem Fields.flatMap_perm_of_beq {m n : Fields} (h : (m == n) = true)
    {g : String × Field → List α}
    (hg : ∀ a b : String × Field, a.1 = b.1 → (b.2 == a.2) = true → g a = g b) :
    (m.entries.flatMap g).Perm (n.entries.flatMap g) := by
  obtain ⟨row, hperm, hpairs⟩ := exists_row_of_beq h
  have hrow : m.entries.map g = row.map g :=
    map_eq_of_forall₂ (hpairs.imp fun a b hab => hg a b hab.1 hab.2)
  rw [List.flatMap_def, hrow, ← List.flatMap_def]
  exact hperm.flatMap_right g

namespace Block

variable {b c : Block}

def entityNames : Block → List String
  | entity e => [e.name.text]
  | nested .. => []

theorem Matches.entityNames_eq (h : b.Matches c) : b.entityNames = c.entityNames := by
  cases h <;> rfl

theorem Matches.mentions_perm (h : b.Matches c) : b.mentions.Perm c.mentions := by
  rw [mentions, mentions, h.key_eq]
  refine Fields.flatMap_perm_of_beq h.fields_beq fun x y hname hbeq => ?_
  have hvalue := (Value.alike_of_beq (Field.beq_iff.mp hbeq).1).targets_eq
  rw [hname, hvalue]

theorem Matches.plainLines_perm (h : b.Matches c) (hb : ¬ b.fields.HasNegativeZero)
    (hc : ¬ c.fields.HasNegativeZero) (separator : String) :
    (b.fields.plainLines separator).Perm (c.fields.plainLines separator) :=
  (Fields.entries_perm_of_beq h.fields_beq hb hc).map _

end Block

namespace Deck

def HasNegativeZero (d : Deck) : Prop :=
  ∃ b ∈ d.allBlocks, b.fields.HasNegativeZero

instance : DecidablePred HasNegativeZero := fun d =>
  inferInstanceAs (Decidable (∃ b ∈ d.allBlocks, b.fields.HasNegativeZero))

def arrangement (d : Deck) : List Arrangement :=
  Block.arrangementOfAll d.blocks

theorem head?_events_render (d : Deck) (layout : Layout) :
    (d.render layout).events.head? =
      if d.mentions.all fun m => d.namespaceOf.contains m.target then
        some (.rendered d.size d.namespaceOf.size (d.plainLines layout.separator).length)
      else none := by
  split
  · next hresolved =>
      rw [List.all_eq_true] at hresolved
      rw [render_of_resolved hresolved]
      rfl
  · next hdangling =>
      simp only [List.all_eq_true, not_forall] at hdangling
      obtain ⟨m, hm, hdangling⟩ := hdangling
      obtain ⟨first, hfirst⟩ := exists_first_unresolved hm hdangling
      rw [render_of_first_unresolved hfirst]
      rfl

theorem contains_namespaceOf_iff_mem (d : Deck) (name : String) :
    d.namespaceOf.contains name = true ↔ name ∈ d.allBlocks.flatMap Block.entityNames := by
  rw [contains_namespaceOf_iff, List.mem_flatMap]
  constructor
  · rintro ⟨x, hx, rfl⟩
    exact ⟨.entity x, hx, List.mem_singleton_self _⟩
  · rintro ⟨b, hb, hname⟩
    cases b with
    | entity x => exact ⟨x, hb, (List.mem_singleton.mp hname).symm⟩
    | nested label policy children fields => cases hname

section

variable {d e : Deck} (hd : d.Assembled) (h : (d == e) = true)

include hd h

theorem flatMap_perm_of_beq {α : Type} {g : Block → List α}
    (hg : ∀ b ∈ d.allBlocks, ∀ c ∈ e.allBlocks, b.Matches c → (g b).Perm (g c)) :
    (d.allBlocks.flatMap g).Perm (e.allBlocks.flatMap g) :=
  (Gathers.flatMap g).perm_of_beq (forall₂_of_beq h) hd.siblingsDistinct
    (fun b hb c hc hmatch _ => hg b hb c hc hmatch) 0

theorem mentions_perm_of_beq : d.mentions.Perm e.mentions :=
  flatMap_perm_of_beq hd h fun _ _ _ _ hmatch => hmatch.mentions_perm

theorem contains_namespaceOf_of_beq (name : String) :
    d.namespaceOf.contains name = e.namespaceOf.contains name := by
  have hnames : (d.allBlocks.flatMap Block.entityNames).Perm
      (e.allBlocks.flatMap Block.entityNames) :=
    flatMap_perm_of_beq hd h fun _ _ _ _ hmatch => .of_eq hmatch.entityNames_eq
  rw [Bool.eq_iff_iff, contains_namespaceOf_iff_mem, contains_namespaceOf_iff_mem]
  exact hnames.mem_iff

theorem size_namespaceOf_of_beq : d.namespaceOf.size = e.namespaceOf.size := by
  refine ((List.perm_ext_iff_of_nodup d.namespaceOf.distinct e.namespaceOf.distinct).mpr
    fun name => ?_).length_eq
  have hname := contains_namespaceOf_of_beq hd h name
  rw [Bool.eq_iff_iff, Namespace.contains, Namespace.contains, List.contains_iff_mem,
    List.contains_iff_mem] at hname
  exact hname

theorem length_plainLines_of_beq (separator : String) :
    (d.plainLines separator).length = (e.plainLines separator).length := by
  have hkeys := flatMap_perm_of_beq hd h (g := fun b => [b.key])
    fun _ _ _ _ hmatch => .of_eq (congrArg List.singleton hmatch.key_eq)
  have hnames := flatMap_perm_of_beq hd h (g := fun b => b.fields.names)
    fun _ _ _ _ hmatch => Fields.names_perm_of_beq hmatch.fields_beq
  have hblocks : d.allBlocks.length = e.allBlocks.length := by
    simpa [List.length_flatMap] using hkeys.length_eq
  have hfields : (d.allBlocks.flatMap fun b => b.fields.entries).length =
      (e.allBlocks.flatMap fun b => b.fields.entries).length := by
    simpa [List.length_flatMap, Fields.names] using hnames.length_eq
  calc
    (d.plainLines separator).length
      = 2 * d.allBlocks.length + (d.allBlocks.flatMap fun b => b.fields.entries).length :=
        Block.length_plainLinesOfAll separator d.blocks
    _ = 2 * e.allBlocks.length + (e.allBlocks.flatMap fun b => b.fields.entries).length := by
        rw [hblocks, hfields]
    _ = (e.plainLines separator).length :=
        (Block.length_plainLinesOfAll separator e.blocks).symm

theorem fieldLines_perm_of_beq (hdz : ¬ d.HasNegativeZero) (hez : ¬ e.HasNegativeZero)
    (separator : String) : (d.fieldLines separator).Perm (e.fieldLines separator) :=
  flatMap_perm_of_beq hd h fun b hb c hc hmatch =>
    hmatch.plainLines_perm (fun hzero => hdz ⟨b, hb, hzero⟩) (fun hzero => hez ⟨c, hc, hzero⟩)
      separator

theorem laidOut_perm_of_beq (hdz : ¬ d.HasNegativeZero) (hez : ¬ e.HasNegativeZero)
    (layout : Layout) :
    (Block.laidOutOfAll layout 0 d.blocks).Perm (Block.laidOutOfAll layout 0 e.blocks) := by
  refine (Gathers.laidOut layout).perm_of_beq (forall₂_of_beq h) hd.siblingsDistinct ?_ 0
  intro b hb c hc hmatch depth
  have hlines := hmatch.plainLines_perm (fun hzero => hdz ⟨b, hb, hzero⟩)
    (fun hzero => hez ⟨c, hc, hzero⟩) layout.separator
  rw [hmatch.name_eq]
  exact ((hlines.map _).append_right _).cons _

theorem resolved_of_beq (hresolved : ∀ m ∈ d.mentions, d.namespaceOf.contains m.target = true) :
    ∀ m ∈ e.mentions, e.namespaceOf.contains m.target = true := by
  intro m hm
  rw [← contains_namespaceOf_of_beq hd h]
  exact hresolved m ((mentions_perm_of_beq hd h).mem_iff.mpr hm)

theorem head?_events_of_beq (layout : Layout) :
    (d.render layout).events.head? = (e.render layout).events.head? := by
  have hall : d.mentions.all (fun m => d.namespaceOf.contains m.target) =
      e.mentions.all fun m => e.namespaceOf.contains m.target := by
    simp only [contains_namespaceOf_of_beq hd h]
    exact (mentions_perm_of_beq hd h).all_eq
  have hsize : d.size = e.size := (forall₂_of_beq h).length_eq
  rw [head?_events_render, head?_events_render, hall, hsize, size_namespaceOf_of_beq hd h,
    length_plainLines_of_beq hd h]

end

/-- Equal decks are written alike if their blocks and fields stand in the same order and the same
zeros are negative, as this is all that equality leaves open. In any case they refer to the same
names and know the same, and log the same event or none. Without negative zeros, and as long as no
field passes for a bracket, the lines of the one are those of the other, at the same depths. -/
theorem render_of_beq {d e : Deck} (hd : d.Assembled) (he : e.Assembled) (h : (d == e) = true) :
    (d.arrangement = e.arrangement → ∀ layout, d.render layout = e.render layout) ∧
    d.mentions.Perm e.mentions ∧
    (∀ name, d.namespaceOf.contains name = e.namespaceOf.contains name) ∧
    (∀ layout, (d.render layout).events.head? = (e.render layout).events.head?) ∧
    ∀ layout : Layout, ¬ d.HasNegativeZero → ¬ e.HasNegativeZero →
      (∀ m ∈ d.mentions, d.namespaceOf.contains m.target = true) →
      (∀ line ∈ d.fieldLines layout.separator, Marker.ofLine line.toList = .body) →
      (Block.laidOutOfAll layout 0 d.blocks).Perm (Block.laidOutOfAll layout 0 e.blocks) ∧
        (d.render layout).result = .ok (d.directText layout) ∧
        (e.render layout).result = .ok (e.directText layout) ∧
        (d.render layout).events = (e.render layout).events := by
  refine ⟨?_, mentions_perm_of_beq hd h, contains_namespaceOf_of_beq hd h,
    head?_events_of_beq hd h, ?_⟩
  · intro harr layout
    have hblocks := Block.eq_of_forall₂_beq (forall₂_of_beq h) hd.siblingsDistinct
      he.siblingsDistinct harr
    obtain ⟨blocks⟩ := d
    obtain ⟨others⟩ := e
    obtain rfl : blocks = others := hblocks
    rfl
  · intro layout hdz hez hresolved hbody
    have hbody' : ∀ line ∈ e.fieldLines layout.separator, Marker.ofLine line.toList = .body :=
      fun line hline => hbody line
        ((fieldLines_perm_of_beq hd h hdz hez layout.separator).mem_iff.mpr hline)
    have hsize : d.size = e.size := (forall₂_of_beq h).length_eq
    rw [render_of_resolved hresolved, indentItems_plainLines hbody,
      render_of_resolved (resolved_of_beq hd h hresolved), indentItems_plainLines hbody', hsize,
      size_namespaceOf_of_beq hd h, length_plainLines_of_beq hd h]
    exact ⟨laidOut_perm_of_beq hd h hdz hez layout, rfl, rfl, rfl⟩

theorem render_of_beq_of_swapped :
    render {}
        { blocks :=
            [(Section.after ⟨"Variables", by decide⟩
              [.insert (.entity { name := ⟨"u", by decide⟩, kind := some "Variable" }),
                .insert (.entity { name := ⟨"u", by decide⟩ })]).toBlock] } =
      render {}
        { blocks :=
            [(Section.after ⟨"Variables", by decide⟩
              [.insert (.entity { name := ⟨"u", by decide⟩ })]).toBlock] } ∧
    (render {}
        { blocks :=
            [(Section.after ⟨"Variables", by decide⟩
              [.insert (.entity { name := ⟨"v", by decide⟩ }),
                .insert (.entity { name := ⟨"u", by decide⟩ })]).toBlock] }).events =
      (render {}
        { blocks :=
            [(Section.after ⟨"Variables", by decide⟩
              [.insert (.entity { name := ⟨"u", by decide⟩ }),
                .insert (.entity { name := ⟨"v", by decide⟩ })]).toBlock] }).events := by
  have hsection : ∀ entities : List Entity,
      Assembled
        { blocks :=
            [(Section.after ⟨"Variables", by decide⟩
              (entities.map fun e => .insert (.entity e))).toBlock] } := by
    intro entities b hb
    rw [List.mem_singleton.mp hb]
    refine .nested _ _ ?_
    simp [SectionCall.blocks, Block.Assembled.entity]
  constructor
  · obtain ⟨hsame, -⟩ := render_of_beq
      (hsection [{ name := ⟨"u", by decide⟩, kind := some "Variable" },
        { name := ⟨"u", by decide⟩ }])
      (hsection [{ name := ⟨"u", by decide⟩ }]) (by decide +kernel)
    exact hsame rfl {}
  · obtain ⟨-, -, -, -, hlines⟩ := render_of_beq
      (hsection [{ name := ⟨"v", by decide⟩ }, { name := ⟨"u", by decide⟩ }])
      (hsection [{ name := ⟨"u", by decide⟩ }, { name := ⟨"v", by decide⟩ }]) (by decide +kernel)
    obtain ⟨-, -, -, hevents⟩ := hlines {} (by decide +kernel) (by decide +kernel)
      (by decide +kernel) (by decide +kernel)
    exact hevents

/-- Equal decks that differ in the order of two fields, and others that differ in the sign of a
zero. -/
theorem render_ne_of_beq :
    (∃ d e : Deck, d.Assembled ∧ e.Assembled ∧ (d == e) = true ∧
      (d.render {}).result = .ok "[e]\n  a = 1\n  b = 2\n[]\n" ∧
      (e.render {}).result = .ok "[e]\n  b = 2\n  a = 1\n[]\n") ∧
    ∃ d e : Deck, d.Assembled ∧ e.Assembled ∧ (d == e) = true ∧
      (d.render {}).result = .ok "[e]\n  k = 0\n[]\n" ∧
      (e.render {}).result = .ok "[e]\n  k = -0\n[]\n" := by
  have hentity : ∀ e : Entity, Assembled { blocks := [.entity e] } := by
    intro e b hb
    rw [List.mem_singleton.mp hb]
    exact .entity e
  constructor
  · exact ⟨_, _,
      hentity
        { name := ⟨"e", by decide⟩
          fields :=
            { entries := [("a", { value := .scalar (.number (.integer 1)) }),
                ("b", { value := .scalar (.number (.integer 2)) })] } },
      hentity
        { name := ⟨"e", by decide⟩
          fields :=
            { entries := [("b", { value := .scalar (.number (.integer 2)) }),
                ("a", { value := .scalar (.number (.integer 1)) })] } },
      by decide +kernel, by rfl, by rfl⟩
  · exact ⟨_, _,
      hentity
        { name := ⟨"e", by decide⟩
          fields := { entries := [("k", { value := .scalar (.number (.float 0)) })] } },
      hentity
        { name := ⟨"e", by decide⟩
          fields := { entries := [("k", { value := .scalar (.number (.float (-0))) })] } },
      by decide +kernel, by rfl, by rfl⟩

end Deck

end InputDeck
