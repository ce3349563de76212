import InputDeck.Deck

namespace InputDeck

/-- A place for bytes that may take fewer than it is offered. The state says what it is like by
now. -/
structure Sink (σ : Type) where
  /-- offers some bytes, of which as many are taken as the answer says -/
  offer : σ → List UInt8 → Except String Nat × σ

namespace Sink

/-- Offers what is left until nothing is. A sink that takes nothing has failed. -/
def writeAll (sink : Sink σ) (state : σ) (bytes : List UInt8) : Except Fault Unit × σ :=
  if bytes.isEmpty then (.ok (), state)
  else
    match sink.offer state bytes with
    | (.error problem, state) => (.error (.io problem), state)
    | (.ok 0, state) => (.error (.io "failed to write whole buffer"), state)
    | (.ok (taken + 1), state) => writeAll sink state (bytes.drop (taken + 1))
termination_by bytes.length
decreasing_by
  cases bytes with
  | nil => simp_all
  | cons b rest =>
      rw [List.drop_succ_cons, List.length_drop, List.length_cons]
      omega

end Sink

/-- The limits of a sink that keeps its bytes. -/
structure Store where
  /-- the most bytes it takes at once -/
  chunk : Option Nat := none
  /-- the most bytes it has room for -/
  room : Option Nat := none
  /-- what it says when it is full; if nothing, it takes no bytes -/
  refusal : Option String := none

/-- Keeps what it takes, so that its state is all the bytes it ever got. -/
def Store.sink (store : Store) : Sink (List UInt8) where
  offer kept bytes :=
    let free := (store.room.map (· - kept.length)).getD bytes.length
    let taken := min (min bytes.length free) (store.chunk.getD bytes.length)
    if free = 0 then
      match store.refusal with
      | some problem => (.error problem, kept)
      | none => (.ok 0, kept)
    else (.ok taken, kept ++ bytes.take taken)

/-- Renders the deck and writes its text in UTF-8. Nothing is written if rendering fails. -/
def Deck.writeTo (sink : Sink σ) (state : σ) (layout : Layout) (d : Deck) :
    Logged (Except Fault Unit × σ) :=
  (d.render layout).map fun
    | .ok text => sink.writeAll state text.toUTF8.data.toList
    | .error fault => (.error fault, state)

end InputDeck
