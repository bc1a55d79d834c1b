import Docent.Number.Amount

/-!
# Settings

What a run is told about the project, its sources, the backend, the output and the log. The values
given here are those of a run that is told nothing.
-/

namespace Docent

/-- What the introduction tells of the project. -/
structure ProjectSettings where
  name : Value := .text "YourPackage"
  description : Value :=
    .text "This package provides essential tools and utilities for your applications."
  installCommand : Value := .text "composer require yourvendor/yourpackage"
  space : Value := .text "YourPackage"

structure SourceSettings where
  root : Value := .text "src"
  extensions : Value := .list [.text ".php"]
  excluded : Value := .list []

structure BackendSettings where
  provider : Value := .text "ollama"
  command : Value := .text "ollama"
  model : Value := .text "phi4:latest"
  timeout : Amount := .real (.ofDecimal false 600 0)
  attempts : Int := 2
  delay : Amount := .real (.ofDecimal false 1 0)
  failFast : Bool := false
  maxTokens : Value := .int 4096
  temperature : Value := .float (.ofDecimal false 2 (-1))

structure OutputSettings where
  path : Value := .text "DOCUMENTATION.md"

structure LogSettings where
  level : Value := .text "INFO"
  format : Value := .text "%(asctime)s - %(name)s - %(levelname)s - %(message)s"
  file : Value := .null

structure Settings where
  project : ProjectSettings := {}
  source : SourceSettings := {}
  backend : BackendSettings := {}
  output : OutputSettings := {}
  log : LogSettings := {}

namespace Settings

def toValues (s : Settings) : List (String × List (String × Value)) :=
  [("project",
      [("name", s.project.name), ("description", s.project.description),
        ("install_command", s.project.installCommand), ("namespace", s.project.space)]),
    ("source",
      [("root_dir", s.source.root), ("extensions", s.source.extensions),
        ("exclude_dirs", s.source.excluded)]),
    ("backend",
      [("provider", s.backend.provider), ("command", s.backend.command),
        ("model", s.backend.model), ("timeout_seconds", s.backend.timeout.toValue),
        ("retry_max_attempts", .int s.backend.attempts),
        ("retry_base_delay", s.backend.delay.toValue), ("fail_fast", .bool s.backend.failFast),
        ("max_tokens", s.backend.maxTokens), ("temperature", s.backend.temperature)]),
    ("output", [("path", s.output.path)]),
    ("logging",
      [("level", s.log.level), ("format", s.log.format), ("file", s.log.file)])]

end Settings

end Docent
