import InputDeck.Proofs.KeyedLists
import InputDeck.Section

namespace InputDeck

/-- What can be done to a section. The block that is inserted is an entity or a section. -/
inductive SectionCall where
  | insert (b : Block)
  | extend (entities : List Entity)
  | replaceFields (name : String) (fields : Fields)
  | withField (name : String) (value : Value)
  | withPolicy (policy : DuplicatePolicy)

inductive SectionAnswer where
  | inserted (conflict : Option Fault)
  | extended (conflicts : List Fault)
  | replaced (former : Except Fault Fields)
  | built

namespace Section

def perform (s : Section) : SectionCall → Logged (Section × SectionAnswer)
  | .insert b => (s.insert b).map fun (s, conflict) => (s, .inserted conflict)
  | .extend entities => (s.extend entities).map fun (s, conflicts) => (s, .extended conflicts)
  | .replaceFields name fields =>
      match s.replaceFields name fields with
      | .ok (former, s) => { result := (s, .replaced (.ok former)) }
      | .error fault => { result := (s, .replaced (.error fault)) }
  | .withField name value => { result := (s.withField name value, .built) }
  | .withPolicy policy => { result := (s.withPolicy policy, .built) }

/-- The section of that label after a history of calls, the latest of which comes first. -/
def after (label : BlockName) : List SectionCall → Section
  | [] => { label }
  | call :: earlier => ((after label earlier).perform call).result.1

end Section

def SectionCall.blocks : SectionCall → List Block
  | insert b => [b]
  | extend entities => entities.map .entity
  | replaceFields .. | withField .. | withPolicy _ => []

def policyAfter : List SectionCall → DuplicatePolicy
  | [] => .keepFirst
  | .withPolicy policy :: _ => policy
  | _ :: earlier => policyAfter earlier

/-- The names that were inserted, with all repetitions, in order. -/
def namesAfter : List SectionCall → List String
  | [] => []
  | call :: earlier => namesAfter earlier ++ call.blocks.map Block.key

theorem namesAfter_cons_of_blocks_eq_nil {call : SectionCall} (h : call.blocks = [])
    {earlier : List SectionCall} : namesAfter (call :: earlier) = namesAfter earlier := by
  rw [namesAfter, h, List.map_nil, List.append_nil]

def fieldsAfter : List SectionCall → Fields
  | [] => ∅
  | .withField name value :: earlier => (fieldsAfter earlier).insert name { value }
  | _ :: earlier => fieldsAfter earlier

def Block.withFields (fields : Fields) : Block → Block
  | entity e => entity { e with fields }
  | nested label policy children own => nested label policy children own

theorem Block.map_withFields_of_not_entity {slot : Option Block}
    (h : slot.bind Block.entity? = none) (fields : Fields) :
    slot.map (Block.withFields fields) = slot := by
  rcases slot with _ | (e | _)
  · rfl
  · cases h
  · rfl

theorem Block.eq_entity_of_bind {slot : Option Block} {e : Entity}
    (h : slot.bind Block.entity? = some e) : slot = some (.entity e) := by
  rcases slot with _ | (found | _)
  · cases h
  · cases h
    rfl
  · cases h

/-- What stands under `name` when a block has come: nothing changes unless it is of that name, and
then the first one stays or the newcomer takes its place. -/
def DuplicatePolicy.settle (policy : DuplicatePolicy) (name : String) (slot : Option Block)
    (newcomer : Block) : Option Block :=
  if newcomer.key = name then
    match policy with
    | .keepFirst => slot.or (some newcomer)
    | .replace => some newcomer
  else slot

def SectionCall.settle (policy : DuplicatePolicy) (name : String) (slot : Option Block) :
    SectionCall → Option Block
  | insert b => policy.settle name slot b
  | extend entities => (entities.map .entity).foldl (policy.settle name) slot
  | replaceFields changed fields =>
      if changed = name then slot.map (Block.withFields fields) else slot
  | withField .. | withPolicy _ => slot

def slotAfter (name : String) : List SectionCall → Option Block
  | [] => none
  | call :: earlier => call.settle (policyAfter earlier) name (slotAfter name earlier)

/-- Those of the names that have come up before, be it among `seen` or in front of themselves. -/
def repeats (seen : List String) : List String → List String
  | [] => []
  | name :: rest => (if name ∈ seen then [name] else []) ++ repeats (seen ++ [name]) rest

def answerAfter (label : BlockName) (history : List SectionCall) : SectionCall → SectionAnswer
  | .insert b =>
      .inserted
        (if b.key ∈ namesAfter history then some (.duplicateName label.text b.key) else none)
  | .extend entities =>
      .extended ((repeats (namesAfter history) (entities.map fun e => e.name.text)).map
        (.duplicateName label.text))
  | .replaceFields name _ =>
      .replaced (match slotAfter name history with
        | some (.entity e) => .ok e.fields
        | _ => .error (.custom ("no entity named '" ++ name ++ "' in [" ++ label.text ++ "]")))
  | .withField .. | .withPolicy _ => .built

/-- What is logged of a call after a history: each name that has come up before, and what is done
about it. -/
def eventsAfter (label : BlockName) (history : List SectionCall) (call : SectionCall) :
    List Event :=
  (repeats (namesAfter history) (call.blocks.map Block.key)).map fun name =>
    .duplicateName label.text name (policyAfter history)

/-- A call after which everything is as before: the names are taken and the first ones stay, or
there is no entity to give other fields to. -/
def SectionCall.Refused (history : List SectionCall) : SectionCall → Prop
  | insert b => policyAfter history = .keepFirst ∧ b.key ∈ namesAfter history
  | extend entities =>
      policyAfter history = .keepFirst ∧ ∀ e ∈ entities, e.name.text ∈ namesAfter history
  | replaceFields name _ => (slotAfter name history).bind Block.entity? = none
  | withField .. | withPolicy _ => False

namespace Section

/-- The children have the names `names`, in the order in which these come first, and under each name
stands what `slot` says. -/
structure Keeps (s : Section) (names : List String) (slot : String → Option Block) : Prop where
  distinct : (s.children.map Block.key).Nodup
  keys_eq : s.children.map Block.key = names.eraseDups
  get?_eq : ∀ name, s.get? name = slot name

namespace Keeps

variable {s : Section} {names : List String} {slot : String → Option Block}

theorem contains_iff (h : s.Keeps names slot) {name : String} :
    s.contains name = true ↔ name ∈ names := by
  unfold contains get?
  rw [Keyed.isSome_get?_iff, h.keys_eq, List.mem_eraseDups]

theorem slot_eq_none_iff (h : s.Keeps names slot) {name : String} :
    slot name = none ↔ name ∉ names := by
  rw [← h.get?_eq, ← h.contains_iff, contains, Option.isSome_iff_ne_none, not_not]

theorem store (h : s.Keeps names slot) (b : Block) :
    (s.store b).Keeps (names ++ [b.key])
      (fun name => if b.key = name then some b else slot name) := by
  refine ⟨Keyed.nodup_map_insert Block.key h.distinct,
    Keyed.map_insert_eq_eraseDups Block.key h.keys_eq, ?_⟩
  intro name
  rw [← h.get?_eq]
  exact Keyed.get?_insert Block.key b name s.children

theorem insert_of_mem (h : s.Keeps names slot) {b : Block} (hb : b.key ∈ names) :
    s.insert b =
      { result :=
          (match s.policy with
            | .keepFirst => s
            | .replace => s.store b,
          some (.duplicateName s.label.text b.key))
        events := [.duplicateName s.label.text b.key s.policy] } :=
  if_pos (h.contains_iff.mpr hb)

theorem insert_of_not_mem (h : s.Keeps names slot) {b : Block} (hb : b.key ∉ names) :
    s.insert b = { result := (s.store b, none) } :=
  if_neg (fun hold => hb (h.contains_iff.mp hold))

theorem insert (h : s.Keeps names slot) (b : Block) :
    (s.insert b).result.1.Keeps (names ++ [b.key])
      (fun name => s.policy.settle name (slot name) b) := by
  by_cases hb : b.key ∈ names
  · rw [h.insert_of_mem hb]
    cases s.policy with
    | replace => exact h.store b
    | keepFirst =>
        refine ⟨h.distinct, ?_, ?_⟩
        · rw [Keyed.eraseDups_concat, if_pos hb, h.keys_eq]
        · intro name
          rw [h.get?_eq, DuplicatePolicy.settle]
          split
          · next hname =>
              subst hname
              cases hslot : slot b.key with
              | none => exact absurd hb (h.slot_eq_none_iff.mp hslot)
              | some first => rfl
          · rfl
  · rw [h.insert_of_not_mem hb]
    have hsettle : (fun name => s.policy.settle name (slot name) b) =
        fun name => if b.key = name then some b else slot name := by
      funext name
      unfold DuplicatePolicy.settle
      split
      · next hname =>
          rw [← hname, h.slot_eq_none_iff.mpr hb]
          cases s.policy <;> rfl
      · rfl
    rw [hsettle]
    exact h.store b

end Keeps

theorem insert_frame (s : Section) (b : Block) :
    (s.insert b).result.1.label = s.label ∧ (s.insert b).result.1.policy = s.policy ∧
      (s.insert b).result.1.fields = s.fields := by
  unfold insert
  split
  · cases hpolicy : s.policy <;> exact ⟨rfl, hpolicy, rfl⟩
  · exact ⟨rfl, rfl, rfl⟩

theorem extend_frame (s : Section) (entities : List Entity) :
    (s.extend entities).result.1.label = s.label ∧ (s.extend entities).result.1.policy = s.policy ∧
      (s.extend entities).result.1.fields = s.fields := by
  induction entities generalizing s with
  | nil => exact ⟨rfl, rfl, rfl⟩
  | cons e rest ih =>
      obtain ⟨hlabel, hpolicy, hfields⟩ := s.insert_frame (.entity e)
      obtain ⟨hlabel', hpolicy', hfields'⟩ := ih (s.insert (.entity e)).result.1
      exact ⟨hlabel'.trans hlabel, hpolicy'.trans hpolicy, hfields'.trans hfields⟩

namespace Keeps

variable {s : Section} {names : List String} {slot : String → Option Block}

theorem extend (h : s.Keeps names slot) (entities : List Entity) :
    (s.extend entities).result.1.Keeps (names ++ entities.map fun e => e.name.text)
      (fun name => (entities.map Block.entity).foldl (s.policy.settle name) (slot name)) := by
  induction entities generalizing s names slot with
  | nil => simpa [Section.extend] using h
  | cons e rest ih =>
      have hrest := ih (h.insert (.entity e))
      rw [(s.insert_frame (.entity e)).2.1, List.append_assoc] at hrest
      exact hrest

theorem insert_answer (h : s.Keeps names slot) (b : Block) :
    (s.insert b).result.2 =
      if b.key ∈ names then some (.duplicateName s.label.text b.key) else none := by
  split
  · next hb => rw [h.insert_of_mem hb]
  · next hb => rw [h.insert_of_not_mem hb]

theorem insert_events (h : s.Keeps names slot) (b : Block) :
    (s.insert b).events =
      if b.key ∈ names then [.duplicateName s.label.text b.key s.policy] else [] := by
  split
  · next hb => rw [h.insert_of_mem hb]
  · next hb => rw [h.insert_of_not_mem hb]

theorem extend_told (h : s.Keeps names slot) (entities : List Entity) :
    (s.extend entities).result.2 =
        (repeats names (entities.map fun e => e.name.text)).map (.duplicateName s.label.text) ∧
      (s.extend entities).events =
        (repeats names (entities.map fun e => e.name.text)).map fun name =>
          .duplicateName s.label.text name s.policy := by
  induction entities generalizing s names slot with
  | nil => exact ⟨rfl, rfl⟩
  | cons e rest ih =>
      obtain ⟨hlabel, hpolicy, -⟩ := s.insert_frame (.entity e)
      -- the name of the first newcomer counts as taken for those behind it
      obtain ⟨hanswer, hevents⟩ := ih (h.insert (.entity e))
      rw [hlabel] at hanswer
      rw [hlabel, hpolicy] at hevents
      have hfirst := h.insert_answer (.entity e)
      have hlogged := h.insert_events (.entity e)
      rw [List.map_cons, repeats, List.map_append, List.map_append]
      constructor
      · change (s.insert (.entity e)).result.2.toList ++
          ((s.insert (.entity e)).result.1.extend rest).result.2 = _
        rw [hanswer, hfirst]
        congr 1
        change Option.toList (if e.name.text ∈ names then _ else _) = _
        split <;> rfl
      · change (s.insert (.entity e)).events ++
          ((s.insert (.entity e)).result.1.extend rest).events = _
        rw [hevents, hlogged]
        congr 1
        change (if e.name.text ∈ names then _ else _) = _
        split <;> rfl

end Keeps

theorem replaceFields_of_entity {s : Section} {names : List String}
    {slot : String → Option Block} (h : s.Keeps names slot) {name : String} {e : Entity}
    (he : slot name = some (.entity e)) (fields : Fields) :
    s.replaceFields name fields = .ok (e.fields, s.store (.entity { e with fields })) := by
  have hentity : s.entity? name = some e := by
    rw [entity?, h.get?_eq, he]
    rfl
  simp only [replaceFields, hentity]

theorem replaceFields_of_not_entity {s : Section} {names : List String}
    {slot : String → Option Block} (h : s.Keeps names slot) {name : String}
    (he : (slot name).bind Block.entity? = none) (fields : Fields) :
    s.replaceFields name fields =
      .error (.custom ("no entity named '" ++ name ++ "' in [" ++ s.label.text ++ "]")) := by
  have hentity : s.entity? name = none := by
    rw [entity?, h.get?_eq, he]
  exact replaceFields_eq_error_iff.mpr ⟨hentity, rfl⟩

theorem Keeps.store_withFields {s : Section} {names : List String}
    {slot : String → Option Block} (h : s.Keeps names slot) {name : String} {e : Entity}
    (he : slot name = some (.entity e)) (fields : Fields) :
    (s.store (.entity { e with fields })).Keeps names fun other =>
      if name = other then (slot other).map (Block.withFields fields) else slot other := by
  have hkey : e.name.text = name :=
    Keyed.key_of_get?_eq_some Block.key ((h.get?_eq name).trans he)
  have hname : e.name.text ∈ names := by
    rw [hkey]
    exact not_not.mp fun hnot => by simp [h.slot_eq_none_iff.mpr hnot] at he
  have hstore := h.store (.entity { e with fields })
  refine ⟨hstore.distinct, ?_, ?_⟩
  · exact hstore.keys_eq.trans ((Keyed.eraseDups_concat names _).trans (if_pos hname))
  · intro other
    rw [hstore.get?_eq]
    change (if e.name.text = other then _ else _) = _
    rw [hkey]
    split
    · next hother =>
        subst hother
        rw [he]
        rfl
    · rfl

structure Follows (s : Section) (label : BlockName) (history : List SectionCall) : Prop
    extends s.Keeps (namesAfter history) (fun name => slotAfter name history) where
  label_eq : s.label = label
  policy_eq : s.policy = policyAfter history
  fields_eq : s.fields = fieldsAfter history

namespace Follows

variable {s : Section} {label : BlockName} {history : List SectionCall}

theorem insert (h : s.Follows label history) (b : Block) :
    (s.insert b).result.1.Follows label (.insert b :: history) := by
  obtain ⟨hlabel, hpolicy, hfields⟩ := s.insert_frame b
  have hkeeps := h.toKeeps.insert b
  rw [h.policy_eq] at hkeeps
  exact ⟨hkeeps, hlabel.trans h.label_eq, hpolicy.trans h.policy_eq, hfields.trans h.fields_eq⟩

theorem extend (h : s.Follows label history) (entities : List Entity) :
    (s.extend entities).result.1.Follows label (.extend entities :: history) := by
  obtain ⟨hlabel, hpolicy, hfields⟩ := s.extend_frame entities
  have hkeeps := h.toKeeps.extend entities
  rw [h.policy_eq] at hkeeps
  have hnames : namesAfter (.extend entities :: history) =
      namesAfter history ++ entities.map fun e => e.name.text := by
    rw [namesAfter, SectionCall.blocks, List.map_map]
    rfl
  refine ⟨?_, hlabel.trans h.label_eq, hpolicy.trans h.policy_eq, hfields.trans h.fields_eq⟩
  rw [hnames]
  exact hkeeps

theorem replaceFields_entity (h : s.Follows label history) {name : String} {e : Entity}
    (he : slotAfter name history = some (.entity e)) (fields : Fields) :
    (s.store (.entity { e with fields })).Follows label
      (.replaceFields name fields :: history) := by
  refine ⟨?_, h.label_eq, h.policy_eq, h.fields_eq⟩
  rw [namesAfter_cons_of_blocks_eq_nil rfl]
  exact h.toKeeps.store_withFields he fields

theorem replaceFields_other (h : s.Follows label history) {name : String}
    (he : (slotAfter name history).bind Block.entity? = none) (fields : Fields) :
    s.Follows label (.replaceFields name fields :: history) := by
  refine ⟨⟨h.distinct, ?_, ?_⟩, h.label_eq, h.policy_eq, h.fields_eq⟩
  · rw [namesAfter_cons_of_blocks_eq_nil rfl]
    exact h.keys_eq
  · intro other
    rw [h.get?_eq, slotAfter, SectionCall.settle]
    split
    · next hother =>
        subst hother
        exact (Block.map_withFields_of_not_entity he fields).symm
    · rfl

theorem withField (h : s.Follows label history) (name : String) (value : Value) :
    (s.withField name value).Follows label (.withField name value :: history) := by
  refine ⟨⟨h.distinct, ?_, h.get?_eq⟩, h.label_eq, h.policy_eq, ?_⟩
  · rw [namesAfter_cons_of_blocks_eq_nil rfl]
    exact h.keys_eq
  · rw [fieldsAfter, ← h.fields_eq]
    rfl

theorem withPolicy (h : s.Follows label history) (policy : DuplicatePolicy) :
    (s.withPolicy policy).Follows label (.withPolicy policy :: history) := by
  refine ⟨⟨h.distinct, ?_, h.get?_eq⟩, h.label_eq, rfl, h.fields_eq⟩
  rw [namesAfter_cons_of_blocks_eq_nil rfl]
  exact h.keys_eq

/-- One call more: the section is what the longer history makes it, and the caller is told and the
log shows what is due after the shorter one. -/
theorem perform (h : s.Follows label history) (call : SectionCall) :
    (s.perform call).result.1.Follows label (call :: history) ∧
      (s.perform call).result.2 = answerAfter label history call ∧
      (s.perform call).events = eventsAfter label history call := by
  cases call with
  | insert b =>
      refine ⟨h.insert b, ?_, ?_⟩
      · have hanswer := h.toKeeps.insert_answer b
        rw [h.label_eq] at hanswer
        exact congrArg SectionAnswer.inserted hanswer
      · have hevents := h.toKeeps.insert_events b
        rw [h.label_eq, h.policy_eq] at hevents
        refine hevents.trans ?_
        simp only [eventsAfter, SectionCall.blocks, List.map_cons, List.map_nil, repeats,
          List.append_nil]
        split <;> rfl
  | extend entities =>
      obtain ⟨hanswer, hevents⟩ := h.toKeeps.extend_told entities
      refine ⟨h.extend entities, ?_, ?_⟩
      · rw [h.label_eq] at hanswer
        exact congrArg SectionAnswer.extended hanswer
      · rw [h.label_eq, h.policy_eq] at hevents
        refine hevents.trans ?_
        simp only [eventsAfter, SectionCall.blocks, List.map_map]
        rfl
  | replaceFields name fields =>
      cases hslot : (slotAfter name history).bind Block.entity? with
      | some e =>
          have he : slotAfter name history = some (.entity e) := Block.eq_entity_of_bind hslot
          have hperform : s.perform (.replaceFields name fields) =
              { result := (s.store (.entity { e with fields }), .replaced (.ok e.fields)) } := by
            simp only [Section.perform, replaceFields_of_entity h.toKeeps he]
          rw [hperform]
          refine ⟨h.replaceFields_entity he fields, ?_, rfl⟩
          simp only [answerAfter, he]
      | none =>
          have hperform : s.perform (.replaceFields name fields) =
              { result := (s, .replaced (.error (.custom
                  ("no entity named '" ++ name ++ "' in [" ++ label.text ++ "]")))) } := by
            simp only [Section.perform, replaceFields_of_not_entity h.toKeeps hslot, h.label_eq]
          rw [hperform]
          refine ⟨h.replaceFields_other hslot fields, ?_, rfl⟩
          rcases hslot' : slotAfter name history with _ | (e | _)
          · simp only [answerAfter, hslot']
          · rw [hslot'] at hslot
            cases hslot
          · simp only [answerAfter, hslot']
  | withField name value => exact ⟨h.withField name value, rfl, rfl⟩
  | withPolicy policy => exact ⟨h.withPolicy policy, rfl, rfl⟩

end Follows

theorem follows_after (label : BlockName) (history : List SectionCall) :
    (after label history).Follows label history := by
  induction history with
  | nil =>
      refine ⟨⟨List.nodup_nil, rfl, ?_⟩, rfl, rfl, rfl⟩
      intro name
      rfl
  | cons call earlier ih => exact (ih.perform call).1

theorem insert_eq_self {s : Section} {names : List String} {slot : String → Option Block}
    (h : s.Keeps names slot) (hpolicy : s.policy = .keepFirst) {b : Block} (hb : b.key ∈ names) :
    (s.insert b).result.1 = s := by
  rw [h.insert_of_mem hb, hpolicy]

theorem extend_eq_self {s : Section} {names : List String} {slot : String → Option Block}
    (h : s.Keeps names slot) (hpolicy : s.policy = .keepFirst) {entities : List Entity}
    (hentities : ∀ e ∈ entities, e.name.text ∈ names) : (s.extend entities).result.1 = s := by
  induction entities with
  | nil => rfl
  | cons e rest ih =>
      have hkey : (Block.entity e).key ∈ names := hentities e (by simp)
      have hfirst := insert_eq_self h hpolicy hkey
      change ((s.insert (.entity e)).result.1.extend rest).result.1 = s
      rw [hfirst]
      exact ih fun other hother => hentities other (by simp [hother])

theorem after_cons_of_refused {label : BlockName} {history : List SectionCall}
    {call : SectionCall} (h : call.Refused history) :
    after label (call :: history) = after label history := by
  have hfollows := follows_after label history
  cases call with
  | insert b => exact insert_eq_self hfollows.toKeeps (hfollows.policy_eq.trans h.1) h.2
  | extend entities => exact extend_eq_self hfollows.toKeeps (hfollows.policy_eq.trans h.1) h.2
  | replaceFields name fields =>
      simp only [after, Section.perform, replaceFields_of_not_entity hfollows.toKeeps h]
  | withField name value => exact absurd h id
  | withPolicy policy => exact absurd h id

theorem ofLabel_text (label : BlockName) : ofLabel label.text = .ok (after label []) := by
  rw [ofLabel, BlockName.ofString_of_accepted label.accepted]
  rfl

/-- A section is what its history makes it, whatever the calls and their order: its children have
the names that were inserted, in the order in which these came first, each once, and under each name
stands what the insertions and replacements of that name left. A newcomer is reported and logged if
and only if its name is taken, and a call that is refused changes nothing. -/
theorem after_eq_history (label : BlockName) (history : List SectionCall) :
    ofLabel label.text = .ok (after label []) ∧
      (after label history).Follows label history ∧
      (after label history).children =
        (namesAfter history).eraseDups.filterMap (fun name => slotAfter name history) ∧
      (∀ call : SectionCall,
        (after label history).perform call =
          { result := (after label (call :: history), answerAfter label history call)
            events := eventsAfter label history call }) ∧
      ∀ call : SectionCall, call.Refused history →
        after label (call :: history) = after label history := by
  have hfollows := follows_after label history
  refine ⟨ofLabel_text label, hfollows, ?_, ?_, fun call => after_cons_of_refused⟩
  · have hchildren := Keyed.filterMap_get? Block.key hfollows.distinct
    rw [hfollows.keys_eq] at hchildren
    exact hchildren.symm.trans
      (List.filterMap_congr fun name _ => hfollows.get?_eq name)
  · intro call
    obtain ⟨-, hanswer, hevents⟩ := hfollows.perform call
    rw [← hanswer, ← hevents]
    rfl

theorem after_eq_history_of_taken_name :
    after ⟨"Mesh", by decide⟩
        [.insert (.nested ⟨"gen", by decide⟩ .replace [] ∅),
          .insert (.entity { name := ⟨"gen", by decide⟩ })] =
      after ⟨"Mesh", by decide⟩ [.insert (.entity { name := ⟨"gen", by decide⟩ })] := by
  obtain ⟨-, -, -, -, hrefused⟩ :=
    after_eq_history ⟨"Mesh", by decide⟩ [.insert (.entity { name := ⟨"gen", by decide⟩ })]
  refine hrefused (.insert (.nested ⟨"gen", by decide⟩ .replace [] ∅)) ⟨rfl, ?_⟩
  decide

end Section

end InputDeck
