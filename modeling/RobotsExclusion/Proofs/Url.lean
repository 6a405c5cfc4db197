import RobotsExclusion.Proofs.Text.Cut
import RobotsExclusion.Url
import Mathlib.Data.List.Basic

/-!
# Web URLs and their authorities

Behind the colon of a web scheme stands an authority, and it does not matter much how many slashes
lead to it. With two slashes it is split off at once; otherwise the URL is read a second time, from
behind all slashes of either direction. Both ways the same text comes to be the authority, unless a
backslash follows the two slashes and is taken for a part of it. So the scheme is accepted or not
for the sake of the authority alone.

## Main definitions

* `Url.IsWebScheme` — a spelling of a web scheme
* `Url.leading` — the authority at the start of a text
* `Url.behindColon` — the authority that is meant behind the colon of a web scheme
* `Url.isServer` — an authority with all that a web scheme asks of it

## Main results

* `Url.absoluteScheme?_of_isWebScheme` — the scheme is accepted if its authority is a server
* `Url.behindColon_append` — slashes before an authority do not matter
* `Url.absoluteScheme?_of_slashes` — so neither does their number
-/

namespace RobotsExclusion

namespace CodePoint

variable {c : CodePoint}

theorem isAsciiLetter_asciiLower (c : CodePoint) :
    c.asciiLower.isAsciiLetter = c.isAsciiLetter := by
  rw [asciiLower]
  split
  case isTrue upper =>
    have small : 0x61 ≤ c.toNat + 0x20 ∧ c.toNat + 0x20 ≤ 0x7A := by omega
    simp [isAsciiLetter, upper, small]
  case isFalse => rfl

end CodePoint

namespace Url

variable {s p r rest t : Text} {c : CodePoint}

/-! ### Spellings of web schemes -/

/-- A web scheme in any letter case. -/
def IsWebScheme (s : Text) : Prop := s.map CodePoint.asciiLower ∈ webSchemes

instance (s : Text) : Decidable (IsWebScheme s) := inferInstanceAs (Decidable (_ ∈ _))

theorem isAsciiLetter_of_mem_webSchemes :
    ∀ scheme ∈ webSchemes, ∀ c ∈ scheme, c.isAsciiLetter = true := by decide

theorem IsWebScheme.isAsciiLetter (hs : IsWebScheme s) : ∀ c ∈ s, c.isAsciiLetter = true := by
  intro c hc
  rw [← CodePoint.isAsciiLetter_asciiLower]
  exact isAsciiLetter_of_mem_webSchemes _ hs _ (List.mem_map_of_mem hc)

theorem IsWebScheme.ne_nil (hs : IsWebScheme s) : s ≠ [] := by
  rintro rfl
  revert hs
  decide

theorem IsWebScheme.not_mem (hs : IsWebScheme s) (hc : c.isAsciiLetter = false) : c ∉ s := by
  intro mem
  exact Bool.false_ne_true (hc.symm.trans (hs.isAsciiLetter c mem))

theorem isSchemeCharacter_of_isAsciiLetter (h : c.isAsciiLetter = true) :
    isSchemeCharacter c = true := by
  simp [isSchemeCharacter, h]

/-- A web scheme is a scheme in each of its spellings. -/
theorem IsWebScheme.isScheme (hs : IsWebScheme s) : isScheme s = true := by
  cases s with
  | nil => exact absurd rfl hs.ne_nil
  | cons c rest =>
    have letters := hs.isAsciiLetter
    rw [Url.isScheme, Bool.and_eq_true]
    refine ⟨letters c List.mem_cons_self, List.all_eq_true.2 fun d hd => ?_⟩
    exact isSchemeCharacter_of_isAsciiLetter (letters d hd)

/-! ### Cleaning -/

/-- A character that is kept when a URL is cleaned, wherever it stands. -/
def isKept (c : CodePoint) : Bool := c ≠ '\t' ∧ c ≠ '\r' ∧ c ≠ '\n'

/-- A text without tabs and line ends. -/
def strip (t : Text) : Text := t.filter isKept

theorem strip_append (t u : Text) : strip (t ++ u) = strip t ++ strip u := List.filter_append ..

theorem strip_of_forall (h : ∀ c ∈ t, isKept c = true) : strip t = t := List.filter_eq_self.2 h

/-- Behind a visible character, nothing but tabs and line ends is dropped. -/
theorem clean_cons (hc : 0x20 < c.toNat) (t : Text) : clean (c :: t) = strip (c :: t) := by
  rw [clean, List.dropWhile_cons_of_neg (by simpa using hc)]
  rfl

theorem isKept_of_isAsciiLetter (h : c.isAsciiLetter = true) : isKept c = true := by
  rw [isKept, decide_eq_true_iff]
  refine ⟨?_, ?_, ?_⟩ <;>
  · rintro rfl
    revert h
    decide

/-- Cleaning leaves the scheme and its colon as they are. -/
theorem clean_of_isWebScheme (hs : IsWebScheme s) (rest : Text) :
    clean (s ++ CodePoint.ofChar ':' :: rest) = s ++ CodePoint.ofChar ':' :: strip rest := by
  have letters := hs.isAsciiLetter
  have kept : strip s = s := strip_of_forall fun c hc => isKept_of_isAsciiLetter (letters c hc)
  have colon : strip [CodePoint.ofChar ':'] = [CodePoint.ofChar ':'] := by decide
  calc clean (s ++ CodePoint.ofChar ':' :: rest)
      = strip (s ++ CodePoint.ofChar ':' :: rest) := by
        cases s with
        | nil => exact absurd rfl hs.ne_nil
        | cons c s =>
          refine clean_cons ?_ _
          have := letters c List.mem_cons_self
          simp only [CodePoint.isAsciiLetter, Bool.or_eq_true, Bool.and_eq_true,
            decide_eq_true_eq] at this
          omega
    _ = strip s ++ (strip [CodePoint.ofChar ':'] ++ strip rest) := by
        rw [← strip_append, List.singleton_append, strip_append]
    _ = s ++ CodePoint.ofChar ':' :: strip rest := by
        rw [kept, colon, List.singleton_append]

/-! ### Splitting -/

/-- The authority at the start of a text. -/
def leading (t : Text) : Text := (strip t).takeWhile (!endsAuthority ·)

/-- An authority that splitting a URL and reading its port does not refuse. -/
def isWellFormed (authority : Text) : Bool :=
  Authority.hasProperBrackets authority && !Authority.isDeceptive authority
    && Authority.isPort (Authority.port authority)

/-- An authority with all that a web scheme asks of it. -/
def isServer (authority : Text) : Bool := isWellFormed authority && namesHost authority

theorem ofTextWithPort?_eq (t : Text) :
    ofTextWithPort? t =
      if isWellFormed (authorityOf (cutScheme (clean t)).2) then
        some ⟨(cutScheme (clean t)).1, authorityOf (cutScheme (clean t)).2⟩
      else none := by
  rw [ofTextWithPort?, ofText?, isWellFormed]
  dsimp only
  cases Authority.hasProperBrackets (authorityOf (cutScheme (clean t)).2)
      && !Authority.isDeceptive (authorityOf (cutScheme (clean t)).2) with
  | false => rfl
  | true => rw [if_pos rfl, Option.filter_some, Bool.true_and]

/-- What is split off behind the colon of a web scheme. -/
theorem ofTextWithPort?_of_isWebScheme (hs : IsWebScheme s) (rest : Text) :
    ofTextWithPort? (s ++ CodePoint.ofChar ':' :: rest) =
      if isWellFormed (authorityOf (strip rest)) then
        some ⟨s.map CodePoint.asciiLower, authorityOf (strip rest)⟩
      else none := by
  have cut : cutScheme (clean (s ++ CodePoint.ofChar ':' :: rest)) =
      (s.map CodePoint.asciiLower, strip rest) := by
    rw [clean_of_isWebScheme hs, cutScheme, Text.cut?_append_cons (hs.not_mem rfl)]
    exact if_pos hs.isScheme
  rw [ofTextWithPort?_eq, cut]

/-- Without a letter at its start, a text has no scheme. -/
theorem cutScheme_cons (hc : c.isAsciiLetter = false) (ne : c ≠ CodePoint.ofChar ':') (t : Text) :
    cutScheme (c :: t) = ([], c :: t) := by
  have noScheme (more : Text) : ¬ isScheme (c :: more) = true := by
    simp [Url.isScheme, hc]
  have before : Text.before (CodePoint.ofChar ':') (c :: t) =
      c :: Text.before (CodePoint.ofChar ':') t :=
    List.takeWhile_cons_of_pos (decide_eq_true ne)
  rw [cutScheme]
  by_cases colon : CodePoint.ofChar ':' ∈ c :: t
  · rw [Text.cut?_of_mem colon, before]
    exact if_neg (noScheme _)
  · rw [Text.cut?_of_not_mem colon]

/-- What is split off behind two slashes alone. -/
theorem ofTextWithPort?_slashes (t : Text) :
    ofTextWithPort? ("//" ++ t) =
      if isWellFormed (leading t) then some ⟨[], leading t⟩ else none := by
  have cleaned : clean ("//" ++ t) = "//" ++ strip t :=
    clean_cons (c := CodePoint.ofChar '/') (by decide) _
  have cut : cutScheme ("//" ++ strip t) = ([], "//" ++ strip t) :=
    cutScheme_cons (by decide) (by decide) _
  rw [ofTextWithPort?_eq, cleaned, cut]
  rfl

/-! ### Accepting -/

/-- The authority that is meant behind the colon of a web scheme: the one behind two slashes or, if
there is none, what follows all slashes of either direction. -/
def behindColon (rest : Text) : Text :=
  if (authorityOf (strip rest)).isEmpty then leading (rest.dropWhile isSlash)
  else authorityOf (strip rest)

/-- A missing authority is well-formed. -/
theorem isWellFormed_nil : isWellFormed [] = true := by decide

/-- A web scheme is accepted if the authority behind its colon is a server. -/
theorem absoluteScheme?_of_isWebScheme (hs : IsWebScheme s) (rest : Text) :
    absoluteScheme? (s ++ CodePoint.ofChar ':' :: rest) =
      if isServer (behindColon rest) then some (s.map CodePoint.asciiLower) else none := by
  have nonempty : ¬ (s.map CodePoint.asciiLower).isEmpty = true := by
    rw [List.isEmpty_iff, List.map_eq_nil_iff]
    exact hs.ne_nil
  have web : ¬ (!webSchemes.contains (s.map CodePoint.asciiLower)) = true := by
    simpa [IsWebScheme] using hs
  have colon : CodePoint.ofChar ':' ∉ s := hs.not_mem rfl
  rw [absoluteScheme?, ofTextWithPort?_of_isWebScheme hs, behindColon]
  by_cases empty : (authorityOf (strip rest)).isEmpty = true
  · -- The URL is read once more from behind the slashes.
    have nothing : authorityOf (strip rest) = [] := List.isEmpty_iff.1 empty
    rw [if_pos empty, nothing, if_pos isWellFormed_nil]
    dsimp only [Option.bind_eq_bind, Option.bind_some]
    rw [if_neg nonempty, if_neg web, if_pos List.isEmpty_nil, readLeniently?,
      Text.cut?_append_cons colon]
    dsimp only [Option.bind_eq_bind, Option.bind_some]
    rw [ofTextWithPort?_slashes, isServer]
    cases isWellFormed (leading (rest.dropWhile isSlash)) <;> rfl
  · rw [if_neg empty, isServer]
    cases isWellFormed (authorityOf (strip rest)) with
    | false => rfl
    | true =>
      rw [if_pos rfl]
      dsimp only [Option.bind_eq_bind, Option.bind_some]
      rw [if_neg nonempty, if_neg web, if_neg empty, Bool.true_and]

/-! ### Slashes -/

/-- A text that starts neither with a slash nor with a character that is dropped, so that an
authority starts where it starts. -/
def StartsPlainly (r : Text) : Prop := ∀ c ∈ r.head?, isSlash c = false ∧ isKept c = true

theorem StartsPlainly.dropWhile_append (hr : StartsPlainly r) (hp : ∀ c ∈ p, isSlash c = true) :
    (p ++ r).dropWhile isSlash = r := by
  rw [List.dropWhile_append_of_pos hp]
  cases r with
  | nil => rfl
  | cons c r => exact List.dropWhile_cons_of_neg (ne_true_of_eq_false (hr c rfl).1)

theorem isKept_of_isSlash (h : isSlash c = true) : isKept c = true := by
  simp only [isSlash, Bool.or_eq_true, decide_eq_true_eq] at h
  rcases h with rfl | rfl <;> decide

theorem StartsPlainly.ne_of_head?_strip (hr : StartsPlainly r) :
    ∀ c ∈ (strip r).head?, c ≠ CodePoint.ofChar '/' := by
  cases r with
  | nil => exact fun c hc => absurd hc (Option.not_mem_none c)
  | cons d r =>
    obtain ⟨noSlash, kept⟩ := hr d rfl
    rw [strip, List.filter_cons_of_pos kept]
    rintro c hc rfl
    obtain rfl := Option.some.inj hc
    cases noSlash

theorem authorityOf_slashes (t : Text) :
    authorityOf ("//" ++ t) = t.takeWhile (!endsAuthority ·) := by
  change authorityOf (CodePoint.ofChar '/' :: CodePoint.ofChar '/' :: t) = _
  rw [authorityOf, if_pos ⟨rfl, rfl⟩]

/-- Without two slashes at its start, there is no authority in a text. -/
theorem authorityOf_eq_nil (h : ¬ ("//" : Text) <+: t) : authorityOf t = [] := by
  match t with
  | [] | [_] => rfl
  | a :: b :: rest =>
    refine if_neg ?_
    rintro ⟨rfl, rfl⟩
    exact h ⟨rest, rfl⟩

/-- Slashes lead to the authority behind them, or to none at all. -/
theorem StartsPlainly.authorityOf_append (hr : StartsPlainly r) (hp : ∀ c ∈ p, isSlash c = true)
    (forward : ¬ ("//\\" : Text) <+: p) :
    authorityOf (strip (p ++ r)) = [] ∨ authorityOf (strip (p ++ r)) = leading r := by
  rw [strip_append, strip_of_forall fun c hc => isKept_of_isSlash (hp c hc)]
  by_cases two : ("//" : Text) <+: p
  · obtain ⟨more, rfl⟩ := two
    rw [List.append_assoc, authorityOf_slashes]
    cases more with
    | nil => exact .inr rfl
    | cons c more =>
      -- A third slash ends the authority before it has started.
      left
      have third : c = CodePoint.ofChar '/' := by
        have slash := hp c (by simp)
        simp only [isSlash, Bool.or_eq_true, decide_eq_true_eq] at slash
        refine slash.resolve_right ?_
        rintro rfl
        exact forward ⟨more, rfl⟩
      rw [third]
      rfl
  · left
    refine authorityOf_eq_nil fun ⟨rest, hrest⟩ => ?_
    match p with
    | [] => exact hr.ne_of_head?_strip _ (congrArg List.head? hrest).symm rfl
    | [_] => exact hr.ne_of_head?_strip _ (congrArg (·.tail.head?) hrest).symm rfl
    | a :: b :: more =>
      obtain ⟨rfl, tail⟩ := List.cons.inj hrest
      obtain ⟨rfl, -⟩ := List.cons.inj tail
      exact two ⟨more, rfl⟩

/-- Slashes before an authority do not matter, unless a backslash follows the first two. -/
theorem behindColon_append (hr : StartsPlainly r) (hp : ∀ c ∈ p, isSlash c = true)
    (forward : ¬ ("//\\" : Text) <+: p) : behindColon (p ++ r) = leading r := by
  rw [behindColon, hr.dropWhile_append hp]
  rcases hr.authorityOf_append hp forward with nothing | same
  · rw [nothing]
    rfl
  · rw [same, ite_self]

/-- The number of slashes behind the colon of a web scheme does not matter, nor does their
direction, unless a backslash follows two slashes; and whether the scheme is accepted depends on what
follows the slashes alone. -/
theorem absoluteScheme?_of_slashes (hs : IsWebScheme s) (hp : ∀ c ∈ p, isSlash c = true)
    (forward : ¬ ("//\\" : Text) <+: p) (hr : StartsPlainly r) :
    absoluteScheme? (s ++ ":" ++ p ++ r) = absoluteScheme? (s ++ "://" ++ r) ∧
      absoluteScheme? (s ++ "://" ++ r) =
        if isServer (leading r) then some (s.map CodePoint.asciiLower) else none := by
  have accept {p : Text} (hp : ∀ c ∈ p, isSlash c = true)
      (forward : ¬ ("//\\" : Text) <+: p) :
      absoluteScheme? (s ++ CodePoint.ofChar ':' :: (p ++ r)) =
        if isServer (leading r) then some (s.map CodePoint.asciiLower) else none := by
    rw [absoluteScheme?_of_isWebScheme hs, behindColon_append hr hp forward]
  have direct : absoluteScheme? (s ++ "://" ++ r) =
      if isServer (leading r) then some (s.map CodePoint.asciiLower) else none := by
    rw [List.append_assoc]
    exact accept (p := "//") (by decide) (by decide)
  refine ⟨?_, direct⟩
  rw [direct, List.append_assoc, List.append_assoc]
  exact accept hp forward

/-- Slashes of both directions before a user, an address between brackets and a port. -/
theorem absoluteScheme?_of_slashes_address :
    let s : Text := "HttpS"
    let p : Text := "/\\\\/"
    let r : Text := "me@[::1]:080?a b"
    (IsWebScheme s ∧ (∀ c ∈ p, isSlash c = true) ∧ ¬ ("//\\" : Text) <+: p ∧ StartsPlainly r) ∧
      absoluteScheme? (s ++ ":" ++ p ++ r) = some "https" ∧
      absoluteScheme? (s ++ "://" ++ r) = some "https" := by
  intro s p r
  have hs : IsWebScheme s := by decide
  have hp : ∀ c ∈ p, isSlash c = true := by decide
  have forward : ¬ ("//\\" : Text) <+: p := by decide
  have hr : StartsPlainly r := by
    rintro c ⟨⟩
    decide
  obtain ⟨same, accepted⟩ := absoluteScheme?_of_slashes hs hp forward hr
  have server : isServer (leading r) = true := by decide +kernel
  rw [if_pos server] at accepted
  have lower : s.map CodePoint.asciiLower = "https" := by decide
  exact ⟨⟨hs, hp, forward, hr⟩, same.trans (accepted.trans (congrArg some lower)),
    accepted.trans (congrArg some lower)⟩

/-- A backslash behind two slashes is an authority by itself. -/
example : absoluteScheme? "http://\\" = some "http" ∧ absoluteScheme? "http://" = none := by
  decide +kernel

end Url

end RobotsExclusion
