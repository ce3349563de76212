import InputDeck.Fault
import InputDeck.Text.Blank

namespace InputDeck

/-- Why a name cannot stand in a header. -/
inductive NameFault where
  | blank
  | lineBreak
  | bracket
  /-- it would be read as one of the dotted headers `[./name]` and `[../]` -/
  | dotted
  deriving DecidableEq

def NameFault.reason : NameFault → String
  | blank => "names must be non-empty"
  | lineBreak => "names must fit on one line"
  | bracket => "names must not contain brackets"
  | dotted => "names must not start with a sub-block marker"

/-- The first thing that is wrong with `name`, if anything is. -/
def nameFault? (name : String) : Option NameFault :=
  let bare := Text.trim name.toList
  if bare.isEmpty then some .blank
  else if name.toList.any fun c => c == '\n' || c == '\r' then some .lineBreak
  else if name.toList.any fun c => c == '[' || c == ']' then some .bracket
  else if ['.', '/'].isPrefixOf bare || ['.', '.', '/'].isPrefixOf bare then some .dotted
  else none

/-- A name that can stand between the brackets of a header. -/
structure BlockName where
  text : String
  accepted : nameFault? text = none
  deriving DecidableEq

/-- Accepts `name` as the name of a `what`, or says what is wrong with it. -/
def BlockName.ofString (what name : String) : Except Fault BlockName :=
  match h : nameFault? name with
  | none => .ok ⟨name, h⟩
  | some fault => .error (.invalidName what name fault.reason)

theorem BlockName.ofString_of_accepted {name : String} (h : nameFault? name = none)
    (what : String) : BlockName.ofString what name = .ok ⟨name, h⟩ := by
  unfold BlockName.ofString
  split
  · rfl
  · next hfault => cases h.symm.trans hfault

theorem BlockName.ofString_of_fault {name : String} {fault : NameFault}
    (h : nameFault? name = some fault) (what : String) :
    BlockName.ofString what name = .error (.invalidName what name fault.reason) := by
  unfold BlockName.ofString
  split
  · next haccepted => cases haccepted.symm.trans h
  · next other hother => rw [Option.some.inj (hother.symm.trans h)]

/-- The line that opens a block. -/
def BlockName.header (name : BlockName) : String :=
  "[" ++ name.text ++ "]"

/-- The line that closes a block. -/
def closingLine : String :=
  "[]"

end InputDeck
