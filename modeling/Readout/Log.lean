/-! Records that operations leave for whoever watches them. -/

namespace Readout

inductive Level where
  | debug | info | warn
  deriving DecidableEq

def Level.name : Level → String
  | .debug => "DEBUG"
  | .info => "INFO"
  | .warn => "WARN"

structure Record where
  level : Level
  text : String
  deriving DecidableEq

/-- Oldest record first. -/
abbrev Log := List Record

namespace Log

def debug (log : Log) (text : String) : Log := log ++ [⟨.debug, text⟩]
def info (log : Log) (text : String) : Log := log ++ [⟨.info, text⟩]
def warn (log : Log) (text : String) : Log := log ++ [⟨.warn, text⟩]

end Log

end Readout
