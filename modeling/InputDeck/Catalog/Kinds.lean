import InputDeck.Catalog.Schema

namespace InputDeck.Catalog

/-- The kind of variables that need no other. -/
def variableKind : Schema where
  kind := "MooseVariable"
  rules := [.optional "order", .optional "family", .optional "block" .double]

def fileMesh : Schema where
  kind := "FileMeshGenerator"
  rules := [.required "file", .optional "clear_spline_nodes", .optional "show_info"]

def transformMesh : Schema where
  kind := "TransformGenerator"
  rules := [.required "input" .double, .required "transform", .required "vector_value" .double]

def heatConduction : Schema where
  kind := "ADHeatConduction"
  rules := [.required "variable", .optional "block", .optional "thermal_conductivity"]

def heatConductionTimeDerivative : Schema where
  kind := "ADHeatConductionTimeDerivative"
  rules :=
    [.required "variable", .optional "density_name", .optional "specific_heat", .optional "block"]

def gravity : Schema where
  kind := "ADGravity"
  rules := [.required "variable", .required "value" .double, .optional "block"]

def dirichletBoundary : Schema where
  kind := "ADDirichletBC"
  rules := [.required "variable", .required "boundary" .double, .required "value"]

def neumannBoundary : Schema where
  kind := "ADNeumannBC"
  rules := [.required "variable", .required "boundary" .double, .required "value"]

def convectiveHeatFluxBoundary : Schema where
  kind := "ADConvectiveHeatFluxBC"
  rules :=
    [.required "variable", .required "boundary" .double, .required "heat_transfer_coefficient",
      .required "T_infinity"]

def heatConductionMaterial : Schema where
  kind := "ADHeatConductionMaterial"
  rules :=
    [.required "temp", .optional "block", .required "specific_heat_temperature_function",
      .required "thermal_conductivity_temperature_function"]

def smallStrain : Schema where
  kind := "ADComputeSmallStrain"
  rules := [.required "displacements" .double, .optional "eigenstrain_names", .optional "block"]

def genericFunctionMaterial : Schema where
  kind := "ADGenericFunctionMaterial"
  rules :=
    [.required "prop_names" .single, .required "prop_values" .single, .optional "block" .double]

def piecewiseLinear : Schema where
  kind := "PiecewiseLinear"
  rules := [.required "x" .double, .required "y" .double, .optional "scale_factor"]

def flowChannel : Schema where
  kind := "FlowChannel1Phase"
  rules :=
    [.required "position" .double, .required "orientation" .double, .required "length" .double,
      .required "n_elems" .double, .required "A" .double, .optional "closures" .double,
      .optional "fp" .double]

def flowOutlet : Schema where
  kind := "Outlet1Phase"
  rules := [.required "input" .double, .required "p" .double]

def nodalExtremeValue : Schema where
  kind := "NodalExtremeValue"
  rules :=
    [.required "variable" .double, .optional "block" .double, .optional "value_type" .double]

def nearestNodeTransfer : Schema where
  kind := "MultiAppNearestNodeTransfer"
  rules :=
    [.required "source_variable", .required "variable", .optional "from_multi_app" .double,
      .optional "to_multi_app" .double]

/-- The kinds that the catalog knows: variables, meshes, heat conduction and mechanics, boundary
conditions, materials, functions, flow components, postprocessors and transfers. -/
def schemas : List Schema :=
  [variableKind, fileMesh, transformMesh, heatConduction, heatConductionTimeDerivative, gravity,
    dirichletBoundary, neumannBoundary, convectiveHeatFluxBoundary, heatConductionMaterial,
    smallStrain, genericFunctionMaterial, piecewiseLinear, flowChannel, flowOutlet,
    nodalExtremeValue, nearestNodeTransfer]

def lookup (kind : String) : Option Schema :=
  schemas.find? fun s => s.kind == kind

end InputDeck.Catalog
