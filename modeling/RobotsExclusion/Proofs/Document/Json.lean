import RobotsExclusion.Proofs.Document.Render
import RobotsExclusion.Proofs.Json.Print
import RobotsExclusion.Report.Json

/-!
# Reports as JSON

The messages of a report on a document have no surrogates, so that the report as JSON can be read
back.

## Main results

* `Report.isLegible_toJson` — a report can be read back if its messages can
* `Document.isLegible_toJson` — the report on a document can be read back
-/

namespace RobotsExclusion

namespace Json

variable {t : Text}

theorem isUnpaired_of_not_isSurrogate (h : ∀ c ∈ t, c.isSurrogate = false) : IsUnpaired t := by
  refine isUnpaired_of_forall fun c hc => ?_
  have plain := h c hc
  simp only [CodePoint.isSurrogate, Bool.and_eq_false_iff, decide_eq_false_iff_not] at plain
  omega

theorem isUnpaired_ofString (s : String) : IsUnpaired (Text.ofString s) := by
  refine isUnpaired_of_not_isSurrogate fun c hc => ?_
  obtain ⟨x, -, rfl⟩ := List.mem_map.1 hc
  exact CodePoint.isSurrogate_ofChar x

/-- An object with three members, as findings and reports are. -/
theorem isLegible_members {x y z : Json} (a b c : String) (hx : x.IsLegible) (hy : y.IsLegible)
    (hz : z.IsLegible) : (object [(a, x), (b, y), (c, z)]).IsLegible := by
  refine .object ?_ ?_ <;>
    simp only [List.forall_mem_cons, List.not_mem_nil, false_implies, implies_true, and_true]
  · exact ⟨isUnpaired_ofString a, isUnpaired_ofString b, isUnpaired_ofString c⟩
  · exact ⟨hx, hy, hz⟩

end Json

theorem Severity.isUnpaired_name (s : Severity) : Json.IsUnpaired s.name := by
  cases s <;> exact Json.isUnpaired_ofString _

theorem Finding.isLegible_toJson {f : Finding} (h : Json.IsUnpaired f.message) :
    f.toJson.IsLegible :=
  Json.isLegible_members _ _ _ (.int _) (.text h) (.text f.severity.isUnpaired_name)

theorem Report.isLegible_toJson {r : Report} (h : ∀ f ∈ r.findings, Json.IsUnpaired f.message) :
    r.toJson.IsLegible := by
  have findings {fs : List Finding} (hfs : ∀ f ∈ fs, f ∈ r.findings) :
      (Json.array (fs.map Finding.toJson)).IsLegible :=
    .array (List.forall_mem_map.2 fun f hf => Finding.isLegible_toJson (h f (hfs f hf)))
  exact Json.isLegible_members _ _ _ (.bool _) (findings fun _ => List.mem_append_left _)
    (findings fun _ => List.mem_append_right _)

/-- The report on a document can be read back. -/
theorem Document.isLegible_toJson (content : Text) : (check content).toJson.IsLegible :=
  Report.isLegible_toJson fun f hf =>
    Json.isUnpaired_of_not_isSurrogate fun c hc => (arePlain_check content f hf c hc).2

end RobotsExclusion
