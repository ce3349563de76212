import InputDeck.Value.Basic

namespace InputDeck

/-- A whole number of one of the machine types of at most 64 bits. -/
inductive MachineInt where
  | int8 (n : Int8)
  | int16 (n : Int16)
  | int32 (n : Int32)
  | int64 (n : Int64)
  | uint8 (n : UInt8)
  | uint16 (n : UInt16)
  | uint32 (n : UInt32)
  | uint64 (n : UInt64)

def MachineInt.toInt : MachineInt → Int
  | int8 n => n.toInt
  | int16 n => n.toInt
  | int32 n => n.toInt
  | int64 n => n.toInt
  | uint8 n => n.toNat
  | uint16 n => n.toNat
  | uint32 n => n.toNat
  | uint64 n => n.toNat

/-- A whole number of 128 bits, for which a deck has no form. -/
inductive WideInt where
  | int128 (n : Int)
  | uint128 (n : Nat)

/-- The name of a wrapper that makes a text the target of a reference. -/
def referenceToken : String :=
  "$moose_input::Reference"

/-- The name of a wrapper that makes two texts the target and the port of a reference. -/
def portReferenceToken : String :=
  "$moose_input::PortReference"

inductive SequenceShape where
  | sequence
  | tuple
  | tupleStruct
  deriving DecidableEq

mutual

/-- A piece of structured data that offers itself as the fields of an entity, or as one value. -/
inductive Producer where
  | bool (b : Bool)
  | integer (n : MachineInt)
  | wide (n : WideInt)
  | float32 (x : Float32)
  | float64 (x : Float)
  | char (c : Char)
  | text (s : String)
  | bytes (bs : List UInt8)
  | absent
  | unit
  | unitStruct (name : String)
  /-- a value that could have been absent -/
  | present (inner : Producer)
  /-- adds nothing but a name, which may be one of the two tokens -/
  | wrapper (name : String) (inner : Producer)
  | unitVariant (variant : String)
  | newtypeVariant (variant : String) (inner : Producer)
  | tupleVariant (elements : List Producer)
  | structVariant (variant : String) (entries : List StructEntry)
  | sequence (shape : SequenceShape) (elements : List Producer)
  | map (calls : List MapCall)
  | struct (name : String) (entries : List StructEntry)

/-- One field of a struct, which may choose to be left out. -/
inductive StructEntry where
  | field (key : String) (value : Producer)
  | skipped (key : String)

/-- A map hands over its keys and its values one at a time, in an order of its own. -/
inductive MapCall where
  | key (p : Producer)
  | value (p : Producer)

end

/-- The calls of a map that hands over each key right before its value. -/
def MapCall.ofEntries (entries : List (Producer × Producer)) : List MapCall :=
  entries.flatMap fun entry => [.key entry.1, .value entry.2]

/-- A reference as data: its target, or its target and its port, in a wrapper that tells it from
text and lists. -/
def Reference.toProducer (r : Reference) : Producer :=
  match r.port with
  | some port => .wrapper portReferenceToken (.sequence .tuple [.text r.target, .text port])
  | none => .wrapper referenceToken (.text r.target)

end InputDeck
