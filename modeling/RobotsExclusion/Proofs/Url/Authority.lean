import RobotsExclusion.Proofs.Text.Digit
import RobotsExclusion.Proofs.Url

/-!
# Hosts and ports

Behind two slashes the authority goes on up to the first slash, question mark or number sign, and
nothing that comes later has any influence. Where it has neither a user nor brackets, its first colon
separates the host from the port. An ordinary host is accepted by itself, and with a port it depends
on the port alone. White space in an authority is refused, but for tabs and line ends, which are
dropped before anything is looked at.

## Main definitions

* `Url.IsTail` — what may follow an authority
* `Url.isPlain` — a character that neither ends an authority nor delimits a user or an address
* `Url.isHostCharacter` — a character of an ordinary host

## Main results

* `Url.absoluteScheme?_of_authority` — the scheme is accepted for the sake of the authority alone
* `Url.isServer_of_host`, `Url.isServer_of_port` — an ordinary host without and with a port
* `Authority.isPort_iff` — the ports
* `Url.isServer_eq_false_of_isBlank` — white space in an authority
-/

namespace RobotsExclusion

namespace Authority

variable {q : Text}

/-- The ports are the texts of ASCII digits up to 65535 and the empty one. -/
theorem isPort_iff (h : q.length ≤ maxNumeralLength) :
    isPort q = true ↔ q = [] ∨ (∀ c ∈ q, c.isAsciiDigit = true) ∧
      Nat.ofDigits 10 (q.map (·.toNat - 0x30)).reverse ≤ 65535 := by
  rw [isPort, Bool.or_eq_true, List.isEmpty_iff, Bool.and_eq_true, Bool.and_eq_true,
    List.all_eq_true, decide_eq_true_eq, decide_eq_true_eq, and_iff_left h]
  refine or_congr_right (and_congr_right fun digits => ?_)
  rw [Text.natOfDigits_of_isAsciiDigit digits]

end Authority

namespace Url

variable {s a h q t : Text} {c : CodePoint}

/-! ### Where an authority ends -/

/-- What may follow an authority: nothing at all, or a path, a query or a fragment. -/
def IsTail (t : Text) : Prop := ∀ c ∈ t.head?, endsAuthority c = true

instance (t : Text) : Decidable (IsTail t) :=
  inferInstanceAs (Decidable (∀ c ∈ t.head?, _))

theorem isKept_of_endsAuthority (h : endsAuthority c = true) : isKept c = true := by
  simp only [endsAuthority, Bool.or_eq_true, decide_eq_true_eq] at h
  rcases h with (rfl | rfl) | rfl <;> decide

/-- The authority at the start of a text goes on up to the tail, whatever that holds. -/
theorem leading_append (ha : ∀ c ∈ a, endsAuthority c = false) (ht : IsTail t) :
    leading (a ++ t) = strip a := by
  have within : ∀ c ∈ strip a, (!endsAuthority c) = true := fun c hc => by
    rw [ha c (List.mem_of_mem_filter hc), Bool.not_false]
  -- The character that ends the authority is not dropped, so nothing of the tail moves up to it.
  have stop : (strip t).takeWhile (!endsAuthority ·) = [] := by
    cases t with
    | nil => rfl
    | cons c t =>
      have ends := ht c rfl
      rw [strip, List.filter_cons_of_pos (isKept_of_endsAuthority ends)]
      exact List.takeWhile_cons_of_neg (by simp [ends])
  rw [leading, strip_append, List.takeWhile_append_of_pos within, stop, List.append_nil]

/-- The authority behind two slashes is the one that is meant, unless nothing is left of it. -/
theorem behindColon_slashes (h : leading t ≠ []) : behindColon ("//" ++ t) = leading t := by
  have slashes : strip "//" = "//" := by decide
  have found : authorityOf (strip ("//" ++ t)) = leading t := by
    rw [strip_append, slashes, authorityOf_slashes]
    rfl
  rw [behindColon, found, if_neg (by simpa using h)]

/-- A web scheme is accepted for the sake of the authority behind two slashes, whatever follows. -/
theorem absoluteScheme?_of_authority (hs : IsWebScheme s) (ha : ∀ c ∈ a, endsAuthority c = false)
    (nonempty : strip a ≠ []) (ht : IsTail t) :
    absoluteScheme? (s ++ "://" ++ a ++ t) =
      if isServer (strip a) then some (s.map CodePoint.asciiLower) else none := by
  have meant : behindColon ("//" ++ (a ++ t)) = strip a := by
    rw [behindColon_slashes (by rwa [leading_append ha ht]), leading_append ha ht]
  have split : s ++ "://" ++ a ++ t = s ++ CodePoint.ofChar ':' :: ("//" ++ (a ++ t)) := by
    rw [List.append_assoc, List.append_assoc]
    rfl
  rw [split, absoluteScheme?_of_isWebScheme hs, meant]

/-! ### Hosts and ports -/

/-- A character that neither ends an authority nor is dropped from it, and that delimits neither a
user nor an address between brackets. -/
def isPlain (c : CodePoint) : Bool :=
  isKept c && !endsAuthority c && c ≠ '@' && c ≠ '[' && c ≠ ']'

theorem isPlain_iff : isPlain c = true ↔ isKept c = true ∧ endsAuthority c = false ∧
    c ≠ CodePoint.ofChar '@' ∧ c ≠ CodePoint.ofChar '[' ∧ c ≠ CodePoint.ofChar ']' := by
  simp [isPlain, and_assoc]

/-- A character of an ordinary host. -/
def isHostCharacter (c : CodePoint) : Bool :=
  c.isAsciiLetter || c.isAsciiDigit || c = '-' || c = '.' || c = '_'

theorem le_of_isHostCharacter (h : isHostCharacter c = true) :
    0x2D ≤ c.toNat ∧ c.toNat ≤ 0x7A := by
  simp only [isHostCharacter, CodePoint.isAsciiLetter, CodePoint.isAsciiDigit, Bool.or_eq_true,
    Bool.and_eq_true, decide_eq_true_eq] at h
  rcases h with (((letter | digit) | rfl) | rfl) | rfl
  · omega
  · omega
  · decide
  · decide
  · decide

theorem lt_of_isHostCharacter (h : isHostCharacter c = true) : c.toNat < 0x80 := by
  have := le_of_isHostCharacter h
  omega

theorem isHostCharacter_ne {d : CodePoint} (hd : isHostCharacter d = false)
    (h : isHostCharacter c = true) : c ≠ d := by
  rintro rfl
  exact Bool.false_ne_true (hd.symm.trans h)

theorem isPlain_of_isHostCharacter (h : isHostCharacter c = true) : isPlain c = true := by
  rw [isPlain_iff, isKept, decide_eq_true_iff]
  refine ⟨⟨?_, ?_, ?_⟩, ?_, ?_, ?_, ?_⟩
  case refine_4 =>
    simp only [endsAuthority, Bool.or_eq_false_iff, decide_eq_false_iff_not]
    refine ⟨⟨?_, ?_⟩, ?_⟩ <;> exact isHostCharacter_ne (by decide) h
  all_goals exact isHostCharacter_ne (by decide) h

/-- No host character is white space. -/
theorem isBlank_of_isHostCharacter (h : isHostCharacter c = true) : c.isBlank = false := by
  have range := le_of_isHostCharacter h
  have apart : ∀ r ∈ blankRanges, r.2 < 0x2D ∨ 0x7A < r.1 := by decide
  refine eq_false_of_ne_true fun blank => ?_
  obtain ⟨r, hr, low, high⟩ := CodePoint.exists_range_of_isBlank blank
  have := apart r hr
  omega

/-- Only characters beyond ASCII have a deceptive form. -/
theorem isDeceptive_eq_false (h : ∀ c ∈ a, c.toNat < 0x80) : Authority.isDeceptive a = false := by
  have beyond : ∀ n ∈ Authority.deceptive, 0x80 ≤ n := by decide
  refine List.any_eq_false.2 fun c hc deceptive => ?_
  have := beyond _ (List.contains_iff_mem.1 deceptive)
  have := h c hc
  omega

theorem any_isBlank_eq_false (h : ∀ c ∈ a, c.isBlank = false) : a.any CodePoint.isBlank = false :=
  List.any_eq_false.2 fun c hc => by simp [h c hc]

theorem not_mem_of_isPlain (ha : ∀ c ∈ a, isPlain c = true) (hc : isPlain c = false) : c ∉ a :=
  fun mem => Bool.false_ne_true (hc.symm.trans (ha c mem))

theorem hasProperBrackets_of_isPlain (ha : ∀ c ∈ a, isPlain c = true) :
    Authority.hasProperBrackets a = true := by
  have opening : CodePoint.ofChar '[' ∉ a := not_mem_of_isPlain ha (by decide)
  have closing : CodePoint.ofChar ']' ∉ a := not_mem_of_isPlain ha (by decide)
  simp [Authority.hasProperBrackets, opening, closing]

/-- Without a user and brackets, the first colon separates the host from the port. -/
theorem hostAndPort_of_isPlain (ha : ∀ c ∈ a, isPlain c = true) :
    Authority.hostAndPort a = (a.before ':', a.after ':') := by
  have user : CodePoint.ofChar '@' ∉ a := not_mem_of_isPlain ha (by decide)
  have opening : CodePoint.ofChar '[' ∉ a := not_mem_of_isPlain ha (by decide)
  rw [Authority.hostAndPort, Authority.server, Text.afterLast_of_not_mem user,
    Text.cut?_of_not_mem opening]

/-- An ordinary host. -/
structure IsHost (h : Text) : Prop where
  nonempty : h ≠ []
  characters : ∀ c ∈ h, isHostCharacter c = true

namespace IsHost

theorem isPlain (hh : IsHost h) : ∀ c ∈ h, isPlain c = true :=
  fun c hc => isPlain_of_isHostCharacter (hh.characters c hc)

/-- A colon and plain characters behind it do not change that. -/
theorem isPlain_port (hh : IsHost h) (hq : ∀ c ∈ q, Url.isPlain c = true) :
    ∀ c ∈ h ++ CodePoint.ofChar ':' :: q, Url.isPlain c = true :=
  List.forall_mem_append.2 ⟨hh.isPlain, List.forall_mem_cons.2 ⟨by decide, hq⟩⟩

theorem colon_not_mem (hh : IsHost h) : CodePoint.ofChar ':' ∉ h :=
  fun mem => isHostCharacter_ne (by decide) (hh.characters _ mem) rfl

theorem ascii (hh : IsHost h) : ∀ c ∈ h, c.toNat < 0x80 :=
  fun c hc => lt_of_isHostCharacter (hh.characters c hc)

theorem visible (hh : IsHost h) : ∀ c ∈ h, c.isBlank = false :=
  fun c hc => isBlank_of_isHostCharacter (hh.characters c hc)

end IsHost

/-- An ordinary host is a server. -/
theorem isServer_of_host (hh : IsHost h) : isServer h = true := by
  have parts : Authority.hostAndPort h = (h, []) := by
    rw [hostAndPort_of_isPlain hh.isPlain, Text.before_of_not_mem hh.colon_not_mem,
      Text.after_of_not_mem hh.colon_not_mem]
  have noPort : Authority.isPort [] = true := rfl
  -- What is refused, a host has not: white space, brackets and deceptive characters.
  rw [isServer, isWellFormed, namesHost, Authority.host, Authority.port, parts,
    any_isBlank_eq_false hh.visible, hasProperBrackets_of_isPlain hh.isPlain,
    isDeceptive_eq_false hh.ascii, noPort]
  simp [hh.nonempty]

theorem isAsciiDigit_of_isPort (h : Authority.isPort q = true) :
    ∀ c ∈ q, c.isAsciiDigit = true := by
  rw [Authority.isPort, Bool.or_eq_true, List.isEmpty_iff, Bool.and_eq_true, Bool.and_eq_true,
    List.all_eq_true] at h
  rcases h with rfl | ⟨⟨digits, -⟩, -⟩
  · simp
  · exact digits

/-- Behind an ordinary host and a colon, it depends on the port whether there is a server. -/
theorem isServer_of_port (hh : IsHost h) (hq : ∀ c ∈ q, isPlain c = true) :
    isServer (h ++ CodePoint.ofChar ':' :: q) = Authority.isPort q := by
  have plain := hh.isPlain_port hq
  have parts : Authority.hostAndPort (h ++ CodePoint.ofChar ':' :: q) = (h, q) := by
    rw [hostAndPort_of_isPlain plain, Text.before_append_cons hh.colon_not_mem,
      Text.after_append_cons hh.colon_not_mem]
  cases port : Authority.isPort q with
  | false => simp [isServer, isWellFormed, Authority.port, parts, port]
  | true =>
    -- A port consists of ASCII digits, so it brings nothing else that could be refused.
    have digits : ∀ c ∈ q, isHostCharacter c = true := fun c hc => by
      simp [isHostCharacter, isAsciiDigit_of_isPort port c hc]
    have ascii : ∀ c ∈ h ++ CodePoint.ofChar ':' :: q, c.toNat < 0x80 :=
      List.forall_mem_append.2 ⟨hh.ascii, List.forall_mem_cons.2
        ⟨by decide, fun c hc => lt_of_isHostCharacter (digits c hc)⟩⟩
    have visible : ∀ c ∈ h ++ CodePoint.ofChar ':' :: q, c.isBlank = false :=
      List.forall_mem_append.2 ⟨hh.visible, List.forall_mem_cons.2
        ⟨by decide, fun c hc => isBlank_of_isHostCharacter (digits c hc)⟩⟩
    rw [isServer, isWellFormed, namesHost, Authority.host, Authority.port, parts,
      any_isBlank_eq_false visible, hasProperBrackets_of_isPlain plain, isDeceptive_eq_false ascii,
      port]
    simp [hh.nonempty]

/-! ### White space -/

/-- White space in an authority is refused. -/
theorem isServer_eq_false_of_isBlank (hc : c ∈ a) (blank : c.isBlank = true) :
    isServer a = false := by
  have found : a.any CodePoint.isBlank = true := List.any_eq_true.2 ⟨c, hc, blank⟩
  simp [isServer, namesHost, found]

end Url

end RobotsExclusion
