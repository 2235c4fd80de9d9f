import UsingCensus.Proofs.Courses
import UsingCensus.Proofs.Logbooks
import UsingCensus.Session

namespace UsingCensus

namespace LogRecord

def step (stamp : String) (record : LogRecord) : LogStep :=
  .tell stamp (String.ofList (record.logger.toList.drop (programLogger.length + 1))) record.level record.message

end LogRecord

namespace Course

variable {P : LogRecord → Prop}

end Course

namespace Surroundings

open Course LogRecord

variable {around : Surroundings} {modules : List GrammarModule} {disturbance : Option Disturbance}

end Surroundings

namespace Logging.Keeps

variable {options : LogOptions} {place : Option Location} {logging : Logging} {part : String}

end Logging.Keeps

end UsingCensus
