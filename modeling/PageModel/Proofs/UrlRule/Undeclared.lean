import PageModel.Proofs.Extractor.Compiling
import PageModel.Proofs.Pipeline.Fetching
import PageModel.Proofs.Regex.Matches
import PageModel.Proofs.Regex.Search

/-!
# Targets of a schema that declares none

The pattern that stands in for a rule is any run of what the dot matches, from the first character of a
URL to the last. The dot matches every character but the line feed, so the pages of all URLs without a
line feed are targets, and no others (`UrlRuleSet.target_none_isMatch_iff`).
-/

namespace PageModel

open Regex Pipeline

/-- The pattern of every URL in which no line ends, as it is read. -/
def oneLine : Pattern :=
  { source := "^(?:.*)$"
    expr := .cats [.anchor .start, .repeated 0 none true (.set (.compl (.single '\n'))),
      .anchor .ending] }

theorem anyUrl_eq :
  UrlRuleSet.anyUrl = .ok oneLine
  := by
  have hread : Pattern.compile? .default (anchoredSource ".*") = some oneLine := by decide +kernel
  rw [UrlRuleSet.anyUrl, hread]

theorem oneLine_isMatch_iff (url : String) :
  oneLine.isMatch url = true ↔ '\n' ∉ url.toList
  := by
  have hchar (c : Char) : (CharSet.single '\n').compl.contains c = true ↔ c ≠ '\n' := by
    rw [CharSet.contains, CharSet.contains_single]
    simp
  rw [Pattern.isMatch, oneLine, isMatch_anchored_iff, matches_repeated_set_iff]
  simp only [hchar]
  constructor
  · intro h hmem
    apply h '\n' hmem rfl
  · rintro h c hc rfl
    apply h hc

/-- The set of targets without a rule. -/
def oneLineUrls : UrlRuleSet :=
  { patterns := [oneLine], region := none, configured := false }

theorem target_none_eq :
  UrlRuleSet.target none = .ok oneLineUrls
  := by
  rw [UrlRuleSet.target, anyUrl_eq]
  rfl

theorem oneLineUrls_isMatch (url : String) :
  oneLineUrls.isMatch url = oneLine.isMatch url
  := by
  rw [UrlRuleSet.isMatch, oneLineUrls, List.any_cons, List.any_nil, Bool.or_false]

/-- Without a rule a URL is a target if and only if there is no line feed in it. So the extractor of a
schema without a rule has neither a record nor an error for a page if and only if there is a line feed
in its URL. -/
theorem UrlRuleSet.target_none_isMatch_iff (url : String) :
  ∃ s, UrlRuleSet.target none = .ok s ∧ s.configured = false ∧
    (s.isMatch url = true ↔ '\n' ∉ url.toList) ∧
    ∀ {ρ : Type} (schema : Schema ρ) (x : Extractor ρ), schema.targetUrl = none →
      schema.compile = .ok x → x.target = s ∧
        ∀ page, page.url = url → ((x.tryApply page).1 = .ok none ↔ '\n' ∈ url.toList)
  := by
  have hmatch : oneLineUrls.isMatch url = true ↔ '\n' ∉ url.toList := by
    rw [oneLineUrls_isMatch]
    apply oneLine_isMatch_iff
  use oneLineUrls, target_none_eq, rfl, hmatch
  intro ρ schema x hnone hx
  obtain ⟨-, htarget, -⟩ := Schema.parts_of_compile hx
  rw [hnone, target_none_eq] at htarget
  have htarget := (Except.ok.inj htarget).symm
  use htarget
  rintro page rfl
  rw [tryApply_eq_ok_none_iff, htarget, ← Bool.not_eq_true, hmatch, Decidable.not_not]

/-- A URL of two lines is no target. -/
theorem target_none_isMatch_lineFeed :
  ∃ s, UrlRuleSet.target none = .ok s ∧ s.isMatch "http://site/a\nb" = false
  := by
  use oneLineUrls, target_none_eq
  rw [oneLineUrls_isMatch, ← Bool.not_eq_true, oneLine_isMatch_iff]
  decide

end PageModel
