import HttpService.Notice

/-!
# Reports

What a server tells about a failure that no caller hears of. Reports go to a sink; the standard sink records
each of them as a notice.
-/

namespace HttpService

/-- A failure and where it happened. -/
structure Report where
  facility : Facility
  cause : Error
deriving DecidableEq

/-- The report as the standard sink records it. -/
def Report.notice (r : Report) : Notice := .serverFailed r.facility r.cause

/-- A sink in a report: what it does is not shown. -/
def Report.sinkText : String := "ErrorSink \x7b .. \x7d"

end HttpService
