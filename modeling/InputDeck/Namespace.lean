import InputDeck.Resolver

namespace InputDeck

/-- The names of the entities in a deck, each once, in the order in which they were first seen. -/
structure Namespace where
  names : List String := []
  distinct : names.Nodup := by simp

namespace Namespace

instance : EmptyCollection Namespace := ⟨{}⟩

def size (ns : Namespace) : Nat :=
  ns.names.length

def isEmpty (ns : Namespace) : Bool :=
  ns.names.isEmpty

def contains (ns : Namespace) (name : String) : Bool :=
  ns.names.contains name

/-- Records a name unless it is there already. -/
def insert (ns : Namespace) (name : String) : Namespace :=
  if h : name ∈ ns.names then ns
  else
    { names := ns.names ++ [name]
      distinct := by
        rw [List.nodup_append]
        refine ⟨ns.distinct, by simp, ?_⟩
        rintro a ha b hb rfl
        exact h (List.mem_singleton.1 hb ▸ ha) }

/-- `insert`, with whether the name was there before. -/
def containsThenInsert (ns : Namespace) (name : String) : Bool × Namespace :=
  (ns.contains name, ns.insert name)

def ofList (names : List String) : Namespace :=
  names.foldl insert ∅

/-- A name resolves when it is recorded. -/
def resolver (ns : Namespace) : Resolver :=
  .ofList ns.names

/-- The same names, in whatever order. -/
def beq (a b : Namespace) : Bool :=
  a.size == b.size && a.names.all b.contains

instance : BEq Namespace := ⟨beq⟩

theorem mem_insert (ns : Namespace) (name other : String) :
    other ∈ (ns.insert name).names ↔ other = name ∨ other ∈ ns.names := by
  by_cases h : name ∈ ns.names
  · simp only [insert, h, dite_true]
    exact ⟨.inr, fun ho => ho.elim (fun ho => ho ▸ h) id⟩
  · simp [insert, h, or_comm]

end Namespace

end InputDeck
