import BuildPipeline.Path.Basic

set_option autoImplicit false

namespace BuildPipeline

def helperModule : String :=
  "imba/dist/imba.js"

def helperImport (webModulesUrl : String) : String :=
  "import '" ++ Path.textBelow webModulesUrl helperModule ++ "';\n"

end BuildPipeline
