import CrateGen.Generate.Decorator

namespace CrateGen.Config

open Code (docs line block)

def module : Module :=
  (Module.named "config" .exported).documented "Configuration for the service."

def sections (customizations : List ConfigCustomization) (s : ConfigSection) : Code :=
  .join (customizations.map (· s))

def write (customizations : List ConfigCustomization) : Code :=
  let sections := sections customizations
  docs "Service configuration." ++
  line "#[derive(Debug, Clone)]" ++
  block "pub struct Config" (sections .fields) ++
  block "impl Config"
    (line (Text.unlines [
        "/// Constructs a config builder.",
        r"pub fn builder() -> Builder {",
        "    Builder::default()",
        r"}"]) ++
      sections .items) ++
  docs "Builder for creating a `Config`." ++
  line "#[derive(Debug, Clone, Default)]" ++
  block "pub struct Builder" (sections .builderFields) ++
  block "impl Builder"
    (line (Text.unlines [
        "/// Constructs a config builder.",
        r"pub fn new() -> Self {",
        "    Self::default()",
        r"}"]) ++
      sections .builderItems ++
      docs "Builds a [`Config`]." ++
      block "pub fn build(self) -> Config"
        (block "Config" (sections .builderBuild)))

end CrateGen.Config
