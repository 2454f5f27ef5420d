namespace GroupSearch.Log

/-- Levels are numbers; a higher number is more urgent. -/
abbrev Level := Int

def Level.debug : Level := 10
def Level.info : Level := 20
def Level.warning : Level := 30
def Level.error : Level := 40
def Level.critical : Level := 50

structure Record where
  level : Level
  message : String
  deriving DecidableEq, Repr

end GroupSearch.Log
