import InputDeck.Block
import InputDeck.Logged

namespace InputDeck

/-- A section: blocks with distinct names, followed by fields of its own. -/
structure Section where
  label : BlockName
  policy : DuplicatePolicy := .keepFirst
  children : List Block := []
  fields : Fields := ∅

def Section.toBlock (s : Section) : Block :=
  .nested s.label s.policy s.children s.fields

def Block.toSection? : Block → Option Section
  | .entity _ => none
  | .nested label policy children fields => some { label, policy, children, fields }

namespace Section

/-- An empty section. -/
def ofLabel (label : String) : Except Fault Section :=
  (BlockName.ofString "collection" label).map fun label => { label }

def withPolicy (s : Section) (policy : DuplicatePolicy) : Section :=
  { s with policy }

def withField (s : Section) (name : String) (value : Value) : Section :=
  { s with fields := s.fields.insert name { value } }

def size (s : Section) : Nat :=
  s.children.length

def isEmpty (s : Section) : Bool :=
  s.children.isEmpty

/-- The child of that name, of either sort. -/
def get? (s : Section) (name : String) : Option Block :=
  Keyed.get? Block.key name s.children

def contains (s : Section) (name : String) : Bool :=
  (s.get? name).isSome

def entity? (s : Section) (name : String) : Option Entity :=
  (s.get? name).bind Block.entity?

def nested? (s : Section) (label : String) : Option Section :=
  (s.get? label).bind Block.toSection?

/-- The entities among the children, in order. -/
def entities (s : Section) : List Entity :=
  s.children.filterMap Block.entity?

/-- Puts a block into the slot its name already has, or behind the others. -/
def store (s : Section) (b : Block) : Section :=
  { s with children := Keyed.insert Block.key b s.children }

/-- Adds a block at the end. If its name is taken, that is logged and reported, and the policy says
which of the two stays in the slot. -/
def insert (s : Section) (b : Block) : Logged (Section × Option Fault) :=
  if s.contains b.key then
    { result :=
        (match s.policy with
          | .keepFirst => s
          | .replace => s.store b,
        some (.duplicateName s.label.text b.key))
      events := [.duplicateName s.label.text b.key s.policy] }
  else { result := (s.store b, none) }

/-- Inserts every entity, and gathers the conflicts instead of stopping at the first. -/
def extend (s : Section) : List Entity → Logged (Section × List Fault)
  | [] => { result := (s, []) }
  | e :: rest =>
      (s.insert (.entity e)).bind fun (s, conflict) =>
        (s.extend rest).map fun (s, conflicts) => (s, conflict.toList ++ conflicts)

/-- Gives the child entity `name` other fields, and returns those it had. Name, kind and place stay
as they are. -/
def replaceFields (s : Section) (name : String) (fields : Fields) :
    Except Fault (Fields × Section) :=
  match s.entity? name with
  | some e => .ok (e.fields, s.store (.entity { e with fields }))
  | none => .error (.custom ("no entity named '" ++ name ++ "' in [" ++ s.label.text ++ "]"))

theorem replaceFields_eq_error_iff {s : Section} {name : String} {fields : Fields}
    {fault : Fault} :
    s.replaceFields name fields = .error fault ↔
      s.entity? name = none ∧
        fault = .custom ("no entity named '" ++ name ++ "' in [" ++ s.label.text ++ "]") := by
  unfold replaceFields
  cases s.entity? name with
  | none => simp [eq_comm]
  | some e => simp

/-- Adds the names of all entities in the section, at any depth. -/
def recordNames (s : Section) (ns : Namespace) : Namespace :=
  s.toBlock.recordNames ns

/-- The section line by line, without indentation. -/
def lines (resolver : Resolver) (separator : String) (s : Section) : Except Fault (List String) :=
  s.toBlock.lines resolver separator

instance : BEq Section := ⟨fun a b => a.toBlock == b.toBlock⟩

end Section

end InputDeck
