import InputDeck.Producer.Basic
import InputDeck.Value.Literal

namespace InputDeck.Catalog

/-- The order of the shape functions of a variable. -/
inductive Order where
  | constant
  | first
  | second
  | third
  | fourth
  deriving DecidableEq

def Order.word : Order → String
  | constant => "CONSTANT"
  | first => "FIRST"
  | second => "SECOND"
  | third => "THIRD"
  | fourth => "FOURTH"

/-- The family of the shape functions of a variable. -/
inductive Family where
  | lagrange
  | monomial
  | hermite
  | scalar
  | hierarchic
  | clough
  | xyz
  | szabab
  | bernstein
  | l2Lagrange
  | l2Hierarchic
  | nedelecOne
  | lagrangeVec
  | monomialVec
  | rationalBernstein
  | sideHierarchic
  deriving DecidableEq

def Family.word : Family → String
  | lagrange => "LAGRANGE"
  | monomial => "MONOMIAL"
  | hermite => "HERMITE"
  | scalar => "SCALAR"
  | hierarchic => "HIERARCHIC"
  | clough => "CLOUGH"
  | xyz => "XYZ"
  | szabab => "SZABAB"
  | bernstein => "BERNSTEIN"
  | l2Lagrange => "L2_LAGRANGE"
  | l2Hierarchic => "L2_HIERARCHIC"
  | nedelecOne => "NEDELEC_ONE"
  | lagrangeVec => "LAGRANGE_VEC"
  | monomialVec => "MONOMIAL_VEC"
  | rationalBernstein => "RATIONAL_BERNSTEIN"
  | sideHierarchic => "SIDE_HIERARCHIC"

instance : Literal Order := ⟨fun order => .text order.word⟩
instance : Literal Family := ⟨fun family => .text family.word⟩

def Order.toProducer (order : Order) : Producer :=
  .unitVariant order.word

def Family.toProducer (family : Family) : Producer :=
  .unitVariant family.word

/-- The labels of the usual top-level sections, in the order in which a complete deck has them. -/
def sectionOrder : List String :=
  ["Mesh", "GlobalParams", "Variables", "AuxVariables", "Closures", "Components", "Kernels",
    "AuxKernels", "Functions", "BCs", "FluidProperties", "Materials", "MultiApps", "Transfers",
    "Postprocessors", "Executioner", "Outputs"]

/-- The place of a label in that order. -/
def sectionRank (label : String) : Option Nat :=
  sectionOrder.findIdx? fun other => other == label

end InputDeck.Catalog
