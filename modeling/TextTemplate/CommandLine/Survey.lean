import TextTemplate.Loader

/-!
# Surveys

A program that looks at files can be run on what is known about them so far. When it
asks for a path that is not known, the first such path is noted; once it has been looked
up, the program is run again. Nothing that was computed after the first unknown path is
of any use, and nothing of it is kept.
-/

namespace TextTemplate

/-- What is known about files, and the first path that is missing. -/
structure Survey where
  known : List (Path × FileStatus)
  wanted : Option Path

namespace Survey

/-- Nothing known yet. -/
def start : Survey := ⟨[], none⟩

/-- What is known about a path. -/
def find? (survey : Survey) (path : Path) : Option FileStatus :=
  (survey.known.find? fun entry => entry.1 == path).map Prod.snd

/-- Adds what has been found at a path, and wants nothing more for the moment. -/
def learn (survey : Survey) (path : Path) (status : FileStatus) : Survey :=
  ⟨(path, status) :: survey.known, none⟩

/-- The look-up in a survey. -/
def probe : Probe Survey := fun path survey =>
  match survey.find? path with
  | some status => (status, survey)
  | none =>
    (.unreachable .missing, { survey with wanted := survey.wanted <|> some path })

end Survey

end TextTemplate
