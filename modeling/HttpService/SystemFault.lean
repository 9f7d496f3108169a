import HttpService.Error
import HttpService.Text.Decimal

/-!
# Failures told by the system

The system tells a failure of a connection by a number. `systemFaults` are those that connections meet, each
with its kind and the system's own words; the text of such a failure ends in its number.
-/

namespace HttpService

/-- The failures that connections meet. -/
def systemFaults : List (Nat × FaultKind × String) :=
  [(1, .permissionDenied, "Operation not permitted"), (2, .notFound, "No such file or directory"),
    (4, .interrupted, "Interrupted system call"), (11, .wouldBlock, "Resource temporarily unavailable"),
    (12, .outOfMemory, "Cannot allocate memory"), (13, .permissionDenied, "Permission denied"),
    (22, .invalidInput, "Invalid argument"), (24, .other, "Too many open files"),
    (32, .brokenPipe, "Broken pipe"), (95, .unsupported, "Operation not supported"),
    (98, .addressInUse, "Address already in use"), (99, .addressNotAvailable, "Cannot assign requested address"),
    (100, .networkDown, "Network is down"), (101, .networkUnreachable, "Network is unreachable"),
    (103, .connectionAborted, "Software caused connection abort"),
    (104, .connectionReset, "Connection reset by peer"),
    (107, .notConnected, "Transport endpoint is not connected"), (110, .timedOut, "Connection timed out"),
    (111, .connectionRefused, "Connection refused"), (113, .hostUnreachable, "No route to host")]

/-- The failure of a number. -/
def TransportFault.ofSystem (number : Nat) : TransportFault :=
  let (kind, words) := (systemFaults.lookup number).getD (.other, "Unknown error " ++ Decimal.text number)
  ⟨kind, words ++ " (os error " ++ Decimal.text number ++ ")"⟩

end HttpService
