import InputDeck.Fault
import InputDeck.Keyed
import InputDeck.Value.Written

namespace InputDeck

/-- The fields of a block in the order in which they are written. No two have one name. -/
structure Fields where
  entries : List (String × Field) := []
  distinct : (entries.map Prod.fst).Nodup := by simp

namespace Fields

instance : EmptyCollection Fields := ⟨{}⟩

def size (m : Fields) : Nat :=
  m.entries.length

def isEmpty (m : Fields) : Bool :=
  m.entries.isEmpty

def names (m : Fields) : List String :=
  m.entries.map Prod.fst

def get? (m : Fields) (name : String) : Option Field :=
  (Keyed.get? Prod.fst name m.entries).map Prod.snd

def value? (m : Fields) (name : String) : Option Value :=
  (m.get? name).map Field.value

def contains (m : Fields) (name : String) : Bool :=
  (m.get? name).isSome

/-- Writes a field into the place its name already has, or behind the others. -/
def insert (m : Fields) (name : String) (field : Field) : Fields where
  entries := Keyed.insert Prod.fst (name, field) m.entries
  distinct := Keyed.nodup_map_insert Prod.fst m.distinct

/-- Drops a field; the others keep their order. -/
def erase (m : Fields) (name : String) : Fields where
  entries := Keyed.erase Prod.fst name m.entries
  distinct := Keyed.nodup_map_erase Prod.fst m.distinct

/-- `insert`, with the field that was there before. -/
def getThenInsert? (m : Fields) (name : String) (field : Field) : Option Field × Fields :=
  (m.get? name, m.insert name field)

/-- `erase`, with the field that was there before. -/
def getThenErase? (m : Fields) (name : String) : Option Field × Fields :=
  (m.get? name, m.erase name)

/-- Inserts the values one after the other, with no quotes of their own. -/
def ofList (pairs : List (String × Value)) : Fields :=
  pairs.foldl (fun m pair => m.insert pair.1 { value := pair.2 }) ∅

/-- Inserts the values one after the other, some with quotes of their own. -/
def ofEntries (entries : List (String × Value × Option Quote)) : Fields :=
  entries.foldl (fun m entry =>
    m.insert entry.1 { value := entry.2.1, quote := entry.2.2.getD .auto }) ∅

/-- The same fields under the same names, in whatever order. -/
def beq (m n : Fields) : Bool :=
  m.size == n.size && m.entries.all fun entry => n.get? entry.1 == some entry.2

instance : BEq Fields := ⟨beq⟩

theorem get?_insert (m : Fields) (name other : String) (field : Field) :
    (m.insert name field).get? other = if name = other then some field else m.get? other := by
  simp only [get?, insert, Keyed.get?_insert]
  split <;> rfl

theorem get?_erase (m : Fields) (name other : String) :
    (m.erase name).get? other = if name = other then none else m.get? other := by
  simp only [get?, erase, Keyed.get?_erase Prod.fst m.distinct]
  split <;> rfl

theorem contains_iff {m : Fields} {name : String} : m.contains name = true ↔ name ∈ m.names := by
  unfold contains get?
  rw [Option.isSome_map]
  exact Keyed.isSome_get?_iff Prod.fst

theorem contains_erase (m : Fields) (name other : String) :
    (m.erase name).contains other = (name ≠ other && m.contains other) := by
  unfold contains
  rw [get?_erase]
  by_cases h : name = other <;> simp [h]

theorem get?_eq_some_iff {m : Fields} {name : String} {field : Field} :
    m.get? name = some field ↔ (name, field) ∈ m.entries := by
  constructor
  · intro h
    obtain ⟨⟨found, _⟩, hfound, rfl⟩ := Option.map_eq_some_iff.mp h
    obtain rfl : found = name := Keyed.key_of_get?_eq_some Prod.fst hfound
    exact List.mem_of_find?_eq_some hfound
  · intro h
    exact congrArg (Option.map Prod.snd) (Keyed.get?_key_of_mem Prod.fst m.distinct h)

theorem get?_of_perm {m n : Fields} (h : m.entries.Perm n.entries) (name : String) :
    m.get? name = n.get? name := by
  apply Option.ext
  intro field
  rw [get?_eq_some_iff, get?_eq_some_iff]
  exact h.mem_iff

theorem entries_insert_of_not_mem {m : Fields} {name : String} (h : name ∉ m.names)
    (field : Field) : (m.insert name field).entries = m.entries ++ [(name, field)] :=
  Keyed.insert_of_not_mem Prod.fst h

/-- Whatever is inserted, the first field stays where it is. -/
theorem head?_names_insert {m : Fields} {first : String} (h : m.names.head? = some first)
    (name : String) (field : Field) : (m.insert name field).names.head? = some first := by
  obtain ⟨_ | ⟨⟨key, old⟩, rest⟩, distinct⟩ := m
  · cases h
  · obtain rfl : key = first := Option.some.inj h
    by_cases hname : key = name <;> simp [names, insert, Keyed.insert, hname]

theorem exists_entries_of_head? {m : Fields} {first : String} {field : Field}
    (h : m.names.head? = some first) (hfield : m.get? first = some field) :
    ∃ rest, m.entries = (first, field) :: rest := by
  obtain ⟨_ | ⟨⟨key, old⟩, rest⟩, distinct⟩ := m
  · cases h
  · obtain rfl : key = first := Option.some.inj h
    obtain rfl : old = field := by simpa [get?, Keyed.get?] using hfield
    exact ⟨rest, rfl⟩

theorem eq_of_entries {m n : Fields} (h : m.entries = n.entries) : m = n := by
  obtain ⟨entries, distinct⟩ := m
  subst h
  rfl

end Fields

/-- The line of one field of the block `owner`. -/
def Field.line (resolver : Resolver) (separator owner name : String) (field : Field) :
    Except Fault String :=
  match field.written resolver with
  | .ok text => .ok (name ++ separator ++ text)
  | .error missing => .error (.danglingReference owner name missing.target)

/-- One line per field, up to the first one that refers to nothing. -/
def Fields.lines (resolver : Resolver) (separator owner : String) (m : Fields) :
    Except Fault (List String) :=
  m.entries.mapM fun entry => entry.2.line resolver separator owner entry.1

end InputDeck
