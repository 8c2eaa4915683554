import TextTemplate.Loader

/-!
# Recorded requests

A loader over a table that may change between requests and may be told to fail. It
records every name that it is asked for, so it shows when templates are taken from the
shelf and when they are loaded.
-/

namespace TextTemplate

/-- A table of sources, names that fail, and the requests so far, the last one first. -/
structure Recording where
  templates : Mapping String
  failing : List String
  requests : List String

namespace Recording

/-- Puts a source into the table. -/
def put (recording : Recording) (name source : String) : Recording :=
  { recording with templates := recording.templates.insert name source }

/-- Takes a source out of the table. -/
def remove (recording : Recording) (name : String) : Recording :=
  { recording with templates := recording.templates.erase name }

/-- Records a request. -/
def note (name : String) : EStateM Error Recording Unit := fun recording =>
  .ok () { recording with requests := name :: recording.requests }

/-- Answers a request and records it. -/
def request (name : String) : EStateM Error Recording String := do
  note name
  let recording ← get
  if recording.failing.contains name then throw (.reported ("cannot load " ++ name))
  else Loader.loadFrom recording.templates name

/-- The loader that records, called `shown` in its messages. -/
def loader (shown : String) : Loader Recording :=
  Loader.ofLoad shown request

end Recording

end TextTemplate
