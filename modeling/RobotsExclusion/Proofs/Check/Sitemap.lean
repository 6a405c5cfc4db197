import RobotsExclusion.Proofs.Check
import RobotsExclusion.Proofs.Url.Authority

/-!
# What is said about sitemaps

A URL of a web scheme with two slashes is a sitemap or not for the sake of the authority behind the
slashes: no path, query or fragment makes a difference. An ordinary host is enough, a port behind it
must be one, and white space must not stand in the authority. The white space that is dropped
beforehand is not seen there: a URL with a tab or a carriage return within the name of its host is
taken for the URL without it.

## Main definitions

* `Check.HasInnerBlank` — white space stands between two characters that are none

## Main results

* `Check.sitemap_of_host` — ordinary hosts, and which ports may follow them
* `Check.sitemap_of_inner_blank` — white space within an authority
* `Check.sitemap_of_inner_tab` — a tab within the name of a host is not seen
-/

namespace RobotsExclusion.Check

variable {s a h q t : Text}

/-- The authority alone decides whether a URL of a web scheme is accepted. -/
theorem sitemap_of_authority (hs : Url.IsWebScheme s)
    (ha : ∀ c ∈ a, Url.endsAuthority c = false) (nonempty : Url.strip a ≠ [])
    (ht : Url.IsTail t) (number : Int) :
    sitemap (s ++ "://" ++ a ++ t) number =
      if Url.isServer (Url.strip a) then []
      else [.error number "sitemap must be a valid absolute URL"] := by
  have something : ¬ (s ++ "://" ++ a ++ t).isEmpty = true := by simp [hs.ne_nil]
  have web : Url.webSchemes.contains (s.map CodePoint.asciiLower) = true :=
    List.contains_iff_mem.2 hs
  rw [sitemap, if_neg something, Url.absoluteScheme?_of_authority hs ha nonempty ht]
  cases Url.isServer (Url.strip a) with
  | false => rfl
  | true =>
    rw [if_pos rfl]
    exact if_pos web

/-- An authority of plain characters is looked at as it is. -/
theorem sitemap_of_isPlain (hs : Url.IsWebScheme s) (ha : ∀ c ∈ a, Url.isPlain c = true)
    (nonempty : a ≠ []) (ht : Url.IsTail t) (number : Int) :
    sitemap (s ++ "://" ++ a ++ t) number =
      if Url.isServer a then [] else [.error number "sitemap must be a valid absolute URL"] := by
  have within : ∀ c ∈ a, Url.endsAuthority c = false :=
    fun c hc => (Url.isPlain_iff.1 (ha c hc)).2.1
  have kept : Url.strip a = a := Url.strip_of_forall fun c hc => (Url.isPlain_iff.1 (ha c hc)).1
  rw [sitemap_of_authority hs within (by rwa [kept]) ht, kept]

/-! ### Ordinary hosts -/

/-- An ordinary host is accepted, whatever follows it. With a colon behind it, a number up to 65535
in ASCII digits or nothing at all must follow that. -/
theorem sitemap_of_host (hs : Url.IsWebScheme s) (hh : Url.IsHost h)
    (hq : ∀ c ∈ q, Url.isPlain c = true) (short : q.length ≤ 4300) (ht : Url.IsTail t)
    (number : Int) :
    sitemap (s ++ "://" ++ h ++ t) number = [] ∧
      sitemap (s ++ "://" ++ h ++ ":" ++ q ++ t) number =
        if q = [] ∨ (∀ c ∈ q, c.isAsciiDigit = true) ∧
            Nat.ofDigits 10 (q.map (·.toNat - 0x30)).reverse ≤ 65535 then []
        else [.error number "sitemap must be a valid absolute URL"] := by
  constructor
  · rw [sitemap_of_isPlain hs hh.isPlain hh.nonempty ht, Url.isServer_of_host hh, if_pos rfl]
  · have join : s ++ "://" ++ h ++ ":" ++ q ++ t =
        s ++ "://" ++ (h ++ CodePoint.ofChar ':' :: q) ++ t := by
      simp only [List.append_assoc]
      rfl
    rw [join, sitemap_of_isPlain hs (hh.isPlain_port hq) (by simp) ht, Url.isServer_of_port hh hq]
    simp only [Authority.isPort_iff short]

/-- Zeros in front do not make a port too large, and behind the authority anything may stand. -/
theorem sitemap_of_host_zeros :
    let s : Text := "HttpS"
    let h : Text := "my_host-1.example"
    let q : Text := "0065535"
    let t : Text := "?x=[@]:65536\t y"
    (Url.IsWebScheme s ∧ Url.IsHost h ∧ (∀ c ∈ q, Url.isPlain c = true) ∧ q.length ≤ 4300 ∧
      Url.IsTail t) ∧
      sitemap (s ++ "://" ++ h ++ t) 1 = [] ∧ sitemap (s ++ "://" ++ h ++ ":" ++ q ++ t) 1 = [] := by
  intro s h q t
  have hs : Url.IsWebScheme s := by decide
  have hh : Url.IsHost h := ⟨by decide, by decide⟩
  have hq : ∀ c ∈ q, Url.isPlain c = true := by decide
  have short : q.length ≤ 4300 := by decide
  have ht : Url.IsTail t := by decide
  obtain ⟨bare, withPort⟩ := sitemap_of_host hs hh hq short ht 1
  have port : Nat.ofDigits 10 (q.map (·.toNat - 0x30)).reverse ≤ 65535 := by decide
  rw [if_pos (.inr ⟨by decide, port⟩)] at withPort
  exact ⟨⟨hs, hh, hq, short, ht⟩, bare, withPort⟩

/-- The least number that is no port, digits of another script, and a second colon. -/
example : sitemap "http://a:65536/" 1 = [.error 1 "sitemap must be a valid absolute URL"] ∧
    sitemap "http://a:٨٠/" 1 = [.error 1 "sitemap must be a valid absolute URL"] ∧
    sitemap "http://a:80:80/" 1 = [.error 1 "sitemap must be a valid absolute URL"] := by
  decide +kernel

/-! ### White space -/

/-- White space stands between two characters that are none. -/
def HasInnerBlank (a : Text) : Prop :=
  ∃ before c after, a = before ++ c :: after ∧ c.isBlank = true ∧
    (∃ d ∈ before, d.isBlank = false) ∧ ∃ d ∈ after, d.isBlank = false

/-- Only white space is dropped from an authority. -/
theorem isKept_of_isBlank_eq_false {c : CodePoint} (h : c.isBlank = false) :
    Url.isKept c = true := by
  rw [Url.isKept, decide_eq_true_iff]
  refine ⟨?_, ?_, ?_⟩ <;>
  · rintro rfl
    revert h
    decide

theorem strip_ne_nil_of_hasInnerBlank (h : HasInnerBlank a) : Url.strip a ≠ [] := by
  obtain ⟨before, c, after, rfl, -, ⟨d, hd, visible⟩, -⟩ := h
  refine List.ne_nil_of_mem (a := d) (List.mem_filter.2 ⟨?_, isKept_of_isBlank_eq_false visible⟩)
  exact List.mem_append_left _ hd

/-- White space within an authority is refused unless it is dropped. Tabs and line ends are: with
them a URL is taken for the URL without them. -/
theorem sitemap_of_inner_blank (hs : Url.IsWebScheme s)
    (ha : ∀ c ∈ a, Url.endsAuthority c = false) (inner : HasInnerBlank a) (ht : Url.IsTail t)
    (number : Int) :
    ((∃ c ∈ a, c.isBlank = true ∧ Url.isKept c = true) →
      sitemap (s ++ "://" ++ a ++ t) number =
        [.error number "sitemap must be a valid absolute URL"]) ∧
      sitemap (s ++ "://" ++ a ++ t) number = sitemap (s ++ "://" ++ Url.strip a ++ t) number := by
  have nonempty := strip_ne_nil_of_hasInnerBlank inner
  refine ⟨fun ⟨c, hc, blank, kept⟩ => ?_, ?_⟩
  · have refused : Url.isServer (Url.strip a) = false :=
      Url.isServer_eq_false_of_isBlank (List.mem_filter.2 ⟨hc, kept⟩) blank
    rw [sitemap_of_authority hs ha nonempty ht, refused]
    rfl
  · have twice : Url.strip (Url.strip a) = Url.strip a :=
      Url.strip_of_forall fun c hc => List.of_mem_filter hc
    have within : ∀ c ∈ Url.strip a, Url.endsAuthority c = false :=
      fun c hc => ha c (List.mem_of_mem_filter hc)
    rw [sitemap_of_authority hs ha nonempty ht, sitemap_of_authority hs within (by rwa [twice]) ht,
      twice]

/-- A no-break space between a user and a host. -/
theorem sitemap_of_inner_blank_noBreak :
    let a : Text := "me@\u00a0example.com"
    (Url.IsWebScheme "http" ∧ (∀ c ∈ a, Url.endsAuthority c = false) ∧ HasInnerBlank a ∧
      Url.IsTail "/s.xml") ∧
      sitemap ("http" ++ "://" ++ a ++ "/s.xml") 2 =
        [.error 2 "sitemap must be a valid absolute URL"] := by
  intro a
  have hs : Url.IsWebScheme "http" := by decide
  have ha : ∀ c ∈ a, Url.endsAuthority c = false := by decide
  have inner : HasInnerBlank a :=
    ⟨"me@", '\u00a0', "example.com", rfl, by decide, ⟨'m', by decide⟩, 'e', by decide⟩
  have ht : Url.IsTail "/s.xml" := by decide
  refine ⟨⟨hs, ha, inner, ht⟩, (sitemap_of_inner_blank hs ha inner ht 2).1 ?_⟩
  exact ⟨'\u00a0', by decide⟩

/-- A tab within the name of a host is not seen. -/
theorem sitemap_of_inner_tab :
    let a : Text := "exa\tmple.com"
    (Url.IsWebScheme "https" ∧ (∀ c ∈ a, Url.endsAuthority c = false) ∧ HasInnerBlank a ∧
      Url.IsTail "/s.xml") ∧
      sitemap ("https" ++ "://" ++ a ++ "/s.xml") 1 = [] := by
  intro a
  have inner : HasInnerBlank a :=
    ⟨"exa", '\t', "mple.com", rfl, by decide, ⟨'e', by decide⟩, 'm', by decide⟩
  exact ⟨⟨by decide, by decide, inner, by decide⟩, by decide +kernel⟩

end RobotsExclusion.Check
