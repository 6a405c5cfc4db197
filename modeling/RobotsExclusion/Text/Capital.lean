import RobotsExclusion.Text.Basic

/-!
# Capitals

## Main definitions

* `CodePoint.capital` — the capitals of a letter, if they are letters of ASCII
* `Text.capitals` — a text in capitals
-/

namespace RobotsExclusion

/-- The letters beyond ASCII whose capitals are letters of ASCII. -/
def asciiCapitals : List (Nat × String) := [
  (0xDF, "SS"), (0x131, "I"), (0x17F, "S"), (0xFB00, "FF"), (0xFB01, "FI"), (0xFB02, "FL"),
  (0xFB03, "FFI"), (0xFB04, "FFL"), (0xFB05, "ST"), (0xFB06, "ST")]

/-- The capitals of a letter, if they are letters of ASCII. All else is kept. -/
def CodePoint.capital (c : CodePoint) : Text :=
  if h : 0x61 ≤ c.toNat ∧ c.toNat ≤ 0x7A then [⟨c.toNat - 0x20, by omega⟩]
  else
    match asciiCapitals.find? fun entry => entry.1 = c.toNat with
    | some entry => entry.2
    | none => [c]

/-- A text in capitals, as far as they are letters of ASCII. -/
def Text.capitals (t : Text) : Text := t.flatMap CodePoint.capital

end RobotsExclusion
