namespace InputDeck

/-- Tells which names are names of entities. -/
abbrev Resolver := String → Bool

namespace Resolver

/-- Knows the given names. -/
def ofList (names : List String) : Resolver :=
  fun name => names.contains name

/-- Knows every name that starts with `start`. -/
def startingWith (start : String) : Resolver :=
  fun name => start.toList.isPrefixOf name.toList

end Resolver

end InputDeck
