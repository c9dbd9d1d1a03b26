/-!
# Status codes

What went wrong reaches the host as one number and one text. Every kind of error
in the library has a status, and the numbers are the host's own.
-/
namespace GridPolicy

inductive Status where
  | invalidInput
  | unsupportedPoint
  | replicaDoesNotExist
  | verificationMismatch
  | checksumMismatch
  | noRowsFound
  | catalogFailure
  | storageFailure
  | metadataFailure
  | invalidResource
  | aggregatedFailure
  | internal
  deriving DecidableEq, Repr

/-- The number that the host knows a status by. -/
def Status.code : Status → Int
  | .invalidInput => -130000
  | .unsupportedPoint => -130100
  | .replicaDoesNotExist => -164000
  | .verificationMismatch => -319000
  | .checksumMismatch => -314000
  | .noRowsFound => -808000
  | .catalogFailure => -806000
  | .storageFailure => -510000
  | .metadataFailure => -817000
  | .invalidResource => -78000
  | .aggregatedFailure => -1110000
  | .internal => -154000

/-- An error as the host sees it. -/
structure HostError where
  code : Int
  message : String
  deriving DecidableEq, Repr

def HostError.text (e : HostError) : String := "[" ++ toString e.code ++ "] " ++ e.message

end GridPolicy
