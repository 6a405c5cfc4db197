import RobotsExclusion.Proofs.Check

/-!
# What is said about paths

A path is looked at in three ways: at its first character, at each of its characters, and at the end
marks in it. The last of these asks whether there is a mark at all and whether the last character is
one. So a mark within the path is told about, unless the path ends with another mark.

## Main definitions

* `Check.HasInnerEnd` — an end mark stands at another position than the last one

## Main results

* `Check.hasMisplacedEnd_iff` — which end marks are told about
* `Directive.checked_of_path` — all that is said about a path, position by position
* `Directive.checked_of_two_ends` — an end mark within a path that ends with one is passed over
-/

namespace RobotsExclusion

namespace Check

variable {value : Text} {c : CodePoint}

/-- The mark for the end of a path. -/
def endMark : CodePoint := '$'

/-- An end mark stands at another position than the last one. -/
def HasInnerEnd (value : Text) : Prop :=
  ∃ i, i + 1 < value.length ∧ value[i]? = some endMark

theorem mem_dropLast_iff_exists_getElem? :
    c ∈ value.dropLast ↔ ∃ i, i + 1 < value.length ∧ value[i]? = some c := by
  rw [List.mem_iff_getElem?]
  refine exists_congr fun i => ?_
  rw [List.getElem?_dropLast]
  by_cases inner : i < value.length - 1
  · rw [if_pos inner, and_iff_right (by omega)]
  · rw [if_neg inner]
    refine iff_of_false (by simp) fun ⟨before, _⟩ => ?_
    omega

instance (value : Text) : Decidable (HasInnerEnd value) :=
  decidable_of_iff (endMark ∈ value.dropLast) mem_dropLast_iff_exists_getElem?

/-- The end marks that are told about: those within a path that does not end with one. -/
theorem hasMisplacedEnd_iff :
    hasMisplacedEnd value = true ↔ HasInnerEnd value ∧ value.getLast? ≠ some endMark := by
  have inner : HasInnerEnd value ↔ endMark ∈ value.dropLast :=
    mem_dropLast_iff_exists_getElem?.symm
  rw [inner, hasMisplacedEnd, Bool.and_eq_true, List.contains_iff_mem, bne_iff_ne]
  refine and_congr_left fun unended => ⟨fun found => ?_, fun found => ?_⟩
  · exact List.mem_dropLast_of_mem_of_ne_getLast? found (Ne.symm unended)
  · exact (List.dropLast_sublist value).subset found

/-- The characters that a path holds as they are. -/
theorem all_isPlainPathCharacter_iff :
    value.all isPlainPathCharacter = true ↔ ∀ c ∈ value, 0x21 ≤ c.toNat ∧ c.toNat ≤ 0x7E := by
  simp [List.all_eq_true, isPlainPathCharacter]

end Check

namespace Directive

open Check

variable {d : Directive}

/-- What is said about the value of a rule for a path, in this order: that it has another first
character than a slash, that a character in it is not a visible one of ASCII, and that an end mark
stands within it, if it does not end with one. Nothing is said about an empty value. -/
theorem checked_of_path (hd : d = .allow ∨ d = .disallow) (value : Text) (number : Int) :
    d.checked value number =
      if value = [] then []
      else
        (if value[0]? ≠ some (CodePoint.ofChar '/') then
          [.warning number "Path should start with / for proper matching (RFC 9309)"] else [])
        ++ (if ∃ c ∈ value, c.toNat < 0x21 ∨ 0x7E < c.toNat then
          [.warning number
            "Non-ASCII characters should be percent-encoded (RFC 9309 Section 2.2.2)"] else [])
        ++ (if HasInnerEnd value ∧ value.getLast? ≠ some endMark then
          [.warning number "$ should only appear at the end of the path (RFC 9309)"] else []) := by
  have checked : d.checked value number = path value number := by
    rcases hd with rfl | rfl <;> rfl
  have odd : (∃ c ∈ value, c.toNat < 0x21 ∨ 0x7E < c.toNat) ↔
      ¬ value.all isPlainPathCharacter = true := by
    rw [all_isPlainPathCharacter_iff]
    push Not
    exact exists_congr fun c => and_congr_right fun _ => by omega
  rw [checked, path]
  simp only [List.isEmpty_iff, odd, ← hasMisplacedEnd_iff, List.head?_eq_getElem?, ite_not]

/-- Nothing is right about this path, and no end mark is the last character. -/
theorem checked_of_path_relative :
    (disallow = .allow ∨ disallow = .disallow) ∧
      disallow.checked "a b$c" 7 = [
        .warning 7 "Path should start with / for proper matching (RFC 9309)",
        .warning 7 "Non-ASCII characters should be percent-encoded (RFC 9309 Section 2.2.2)",
        .warning 7 "$ should only appear at the end of the path (RFC 9309)"] := by
  have rule : disallow = .allow ∨ disallow = .disallow := .inr rfl
  exact ⟨rule, (checked_of_path rule "a b$c" 7).trans (by decide)⟩

/-- An end mark within a path that ends with another one is passed over. -/
theorem checked_of_two_ends :
    HasInnerEnd "/a$b$" ∧ disallow.checked "/a$b$" 1 = [] ∧ allow.checked "/a$b$" 1 = [] := by
  decide

end Directive

end RobotsExclusion
