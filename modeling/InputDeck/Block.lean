import InputDeck.Entity
import InputDeck.Event
import InputDeck.Namespace

namespace InputDeck

/-- A bracketed block: an entity, or a section that nests further blocks and may have fields of its
own. -/
inductive Block where
  | entity (e : Entity)
  | nested (label : BlockName) (policy : DuplicatePolicy) (children : List Block) (fields : Fields)

namespace Block

/-- The name in the header, by which a section tells its children apart. -/
def name : Block → BlockName
  | entity e => e.name
  | nested label _ _ _ => label

def key (b : Block) : String :=
  b.name.text

def entity? : Block → Option Entity
  | entity e => some e
  | nested .. => none

mutual

/-- The block line by line, without indentation: the header, the children, the block's own fields,
the closing line. -/
def lines (resolver : Resolver) (separator : String) : Block → Except Fault (List String)
  | entity e => e.lines resolver separator
  | nested label _ children fields => do
      let inner ← linesOfAll resolver separator children
      let own ← fields.lines resolver separator label.text
      return label.header :: inner ++ own ++ [closingLine]

def linesOfAll (resolver : Resolver) (separator : String) :
    List Block → Except Fault (List String)
  | [] => .ok []
  | b :: rest => do
      let first ← b.lines resolver separator
      let others ← linesOfAll resolver separator rest
      return first ++ others

end

mutual

/-- Adds the names of all entities at any depth, from top to bottom. Labels are not names of
entities. -/
def recordNames (ns : Namespace) : Block → Namespace
  | entity e => ns.insert e.name.text
  | nested _ _ children _ => recordNamesOfAll ns children

def recordNamesOfAll (ns : Namespace) : List Block → Namespace
  | [] => ns
  | b :: rest => recordNamesOfAll (b.recordNames ns) rest

end

mutual

/-- The same block up to the order of fields and of the children of a section. -/
def beq : Block → Block → Bool
  | entity a, entity b => a == b
  | nested label policy children fields, nested label' policy' children' fields' =>
      label == label' && children.length == children'.length && allFoundIn children' children &&
        fields == fields' && policy == policy'
  | _, _ => false

/-- Whether each of the blocks has an equal of its name among `others`. -/
def allFoundIn (others : List Block) : List Block → Bool
  | [] => true
  | b :: rest =>
      (match Keyed.get? key b.key others with
        | some other => b.beq other
        | none => false) && allFoundIn others rest

end

instance : BEq Block := ⟨beq⟩

end Block

end InputDeck
