import InputDeck.Proofs.Forest
import InputDeck.Proofs.SectionHistory

namespace InputDeck

namespace Section

variable {p : Block → Prop} {s : Section}

theorem forall_mem_children_store (hs : ∀ c ∈ s.children, p c) {b : Block} (hb : p b) :
    ∀ c ∈ (s.store b).children, p c := by
  intro c hc
  rcases Keyed.mem_insert Block.key hc with rfl | hc
  · exact hb
  · exact hs c hc

theorem forall_mem_children_insert (hs : ∀ c ∈ s.children, p c) {b : Block} (hb : p b) :
    ∀ c ∈ (s.insert b).result.1.children, p c := by
  rw [insert]
  split
  · cases s.policy with
    | keepFirst => exact hs
    | replace => exact forall_mem_children_store hs hb
  · exact forall_mem_children_store hs hb

theorem forall_mem_children_extend (hentity : ∀ e : Entity, p (.entity e))
    (hs : ∀ c ∈ s.children, p c) (entities : List Entity) :
    ∀ c ∈ (s.extend entities).result.1.children, p c := by
  induction entities generalizing s with
  | nil => exact hs
  | cons e rest ih => exact ih (forall_mem_children_insert hs (hentity e))

theorem forall_mem_children_perform (hentity : ∀ e : Entity, p (.entity e))
    (hs : ∀ c ∈ s.children, p c) {call : SectionCall} (hcall : ∀ b ∈ call.blocks, p b) :
    ∀ c ∈ (s.perform call).result.1.children, p c := by
  cases call with
  | insert b => exact forall_mem_children_insert hs (hcall b (List.mem_singleton_self b))
  | extend entities => exact forall_mem_children_extend hentity hs entities
  | replaceFields name fields =>
      simp only [perform, replaceFields]
      cases s.entity? name with
      | none => exact hs
      | some e => exact forall_mem_children_store hs (hentity { e with fields })
  | withField name value => exact hs
  | withPolicy policy => exact hs

theorem forall_mem_children_after (hentity : ∀ e : Entity, p (.entity e)) (label : BlockName)
    {history : List SectionCall} (h : ∀ call ∈ history, ∀ b ∈ call.blocks, p b) :
    ∀ c ∈ (after label history).children, p c := by
  induction history with
  | nil => exact List.forall_mem_nil p
  | cons call earlier ih =>
      rw [List.forall_mem_cons] at h
      exact forall_mem_children_perform hentity (ih h.2) h.1

end Section

/-- The blocks that come about by calls: entities, and sections into which such blocks were
inserted. -/
inductive Block.Assembled : Block → Prop
  | entity (e : Entity) : Assembled (.entity e)
  | nested (label : BlockName) (history : List SectionCall)
      (inserted : ∀ call ∈ history, ∀ b ∈ call.blocks, Assembled b) :
      Assembled (Section.after label history).toBlock

def Deck.Assembled (d : Deck) : Prop :=
  ∀ b ∈ d.blocks, b.Assembled

namespace Block

def SiblingsDistinct (blocks : List Block) : Prop :=
  ∀ b ∈ innermostFirstOfAll blocks, (b.children.map key).Nodup

theorem mem_innermostFirstOfAll_iff {b : Block} {blocks : List Block} :
    b ∈ innermostFirstOfAll blocks ↔ ∃ c ∈ blocks, b ∈ c.innermostFirst := by
  induction blocks with
  | nil => simp [innermostFirstOfAll]
  | cons c rest ih => simp [innermostFirstOfAll, ih]

theorem siblingsDistinct_entity (e : Entity) :
    ∀ c ∈ (entity e).innermostFirst, (c.children.map key).Nodup := by
  intro c hc
  rw [innermostFirst, List.mem_singleton] at hc
  rw [hc]
  exact List.nodup_nil

theorem Assembled.siblingsDistinct {b : Block} (h : b.Assembled) :
    ∀ c ∈ b.innermostFirst, (c.children.map key).Nodup := by
  induction h with
  | entity e => exact siblingsDistinct_entity e
  | nested label history _ ih =>
      have hchildren := Section.forall_mem_children_after siblingsDistinct_entity label ih
      intro c hc
      rw [Section.toBlock, innermostFirst, List.mem_append, List.mem_singleton] at hc
      rcases hc with hc | rfl
      · obtain ⟨child, hchild, hc⟩ := mem_innermostFirstOfAll_iff.mp hc
        exact hchildren child hchild c hc
      · exact (Section.follows_after label history).distinct

end Block

theorem Deck.Assembled.siblingsDistinct {d : Deck} (h : d.Assembled) :
    Block.SiblingsDistinct d.blocks := by
  intro c hc
  obtain ⟨b, hb, hc⟩ := Block.mem_innermostFirstOfAll_iff.mp hc
  exact (h b hb).siblingsDistinct c hc

end InputDeck
