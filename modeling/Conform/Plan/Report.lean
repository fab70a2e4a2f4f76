/-
**The report of a plan.**
-/

import Conform.Plan.Basic

set_option relaxedAutoImplicit false
set_option autoImplicit false

namespace Conform

def reportLine (title item : String) : String := s!"\n  {title}: {item}"

def IndexChange.describe (a : IndexChange) : String :=
  match a.verb with
  | .create => s!"create {a.index} ({a.key})"
  | .drop => s!"drop {a.index} ({a.key})"

/-- **The report of a plan**; a plan that is not carried out has no changes. -/
def WrittenPlan.report (p : WrittenPlan) : String :=
  s!"table `{p.table}`" ++
    if p.changed then
      String.join
        ((p.create.map fun _ => reportLine "create" "new table").toList ++
          p.adds.map (reportLine "add") ++ p.modifies.map (reportLine "modify") ++
          p.defaults.map (reportLine "default") ++ p.comments.map (reportLine "comment") ++
          p.indexes.map fun a => reportLine "index" a.describe)
    else ": no changes"

end Conform
