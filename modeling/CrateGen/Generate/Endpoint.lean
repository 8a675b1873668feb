import CrateGen.Generate.Config

namespace CrateGen.Endpoint

open Code (docs line block blockTemplate)

def module : Module :=
  (Module.named "endpoint" .exported).documented "Endpoint resolution parameters."

def sections (customizations : List EndpointCustomization) (s : EndpointSection) : Code :=
  .join (customizations.map (· s))

def write (customizations : List EndpointCustomization) : Code :=
  let sections := sections customizations
  docs "Parameters used to resolve the endpoint of a request." ++
  line "#[non_exhaustive]" ++
  line "#[derive(Debug, Clone, PartialEq)]" ++
  block "pub struct Params" (sections .fields) ++
  block "impl Params"
    (docs "Derives endpoint parameters from the service config." ++
      line "#[allow(unused_variables)]" ++
      blockTemplate "pub fn from_config(config: &#{Config}) -> Self"
        [("Config", .symbol (.named "Config" Config.module.fullPath))]
        (block "Self" (sections .fromConfig)))

end CrateGen.Endpoint
