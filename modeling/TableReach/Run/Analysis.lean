import TableReach.Report.Output
import TableReach.Run.Engine

/-!
# Analyses
-/

namespace TableReach

/-- The result of an analysis. -/
structure Analysis where
  /-- The report. -/
  report : Report
  /-- The printed report. -/
  output : String

/-- Analyse facts and print the report. -/
def Analysis.run
    (settings : Settings)
    (facts : Facts)
    (options : OutputOptions) : Logged Analysis := do
  let (report, _) ← (Engine.ofSettings settings).run .oldest facts
  return { report := report, output := report.render options }

end TableReach
