import PageModel.Proofs.Regex.Extending.Items
import PageModel.Proofs.Regex.Reading
import PageModel.Proofs.Regex.Search
import PageModel.UrlRule

/-!
# Anchors around a pattern

The anchors around the text of a pattern stand around its expression as well, if the text is a pattern
by itself (`Expr.parse_anchored`): then a URL is matched as a whole or not at all. The group of a glob
need not be such a text. A glob may close the brackets around it and open others, and then each anchor
stands in some of the alternatives only.
-/

namespace PageModel

open Regex

/-- The text of an anchored pattern is that of the pattern between an anchor with the opening of a group
and the closing. -/
theorem toList_anchored (source : String) :
  (anchoredSource source).toList = '^' :: '(' :: '?' :: ':' :: (source.toList ++ closing)
  := by
  simp [anchoredSource, closing]

/-- A pattern between anchors is read as its expression between anchors. -/
theorem Regex.Expr.parse_anchored {source : String} {e whole : Expr}
    (hread : Expr.parse .default source.toList = some e)
    (hwhole : Expr.parse .default (anchoredSource source).toList = some whole) :
  whole = .cats [.anchor .start, e, .anchor .ending]
  := by
  obtain ⟨after, hitems⟩ := Expr.parse_eq_some_iff.1 hread
  obtain ⟨last, hlast⟩ := Expr.parse_eq_some_iff.1 hwhole
  have hlength : (anchoredSource source).toList.length + 1 = (source.toList.length + 4) + 3 := by
    rw [toList_anchored]
    simp [closing]
  have hstart : startGroup (.initial .default) ('?' :: ':' :: (source.toList ++ closing)) =
      some (.group none (.initial .default) (source.toList ++ closing)) := rfl
  have hfuel : source.toList.length + 1 ≤ source.toList.length + 5 := by omega
  obtain ⟨rest, hgroup, hrest⟩ := itemsExtended hfuel (.closed source.toList) hitems
  rw [hlength, toList_anchored, readItems_atom rfl _ (by decide) rfl rfl] at hlast
  -- the group is closed, unless a comment at the end of the pattern has taken the closing in
  rcases hrest.of_nil with rfl | rfl
  · rw [readItems_group rfl _ hstart hgroup, readItems_atom rfl _ (by decide) rfl rfl,
      readItems_nil rfl] at hlast
    obtain ⟨hlast, -⟩ := Prod.mk.inj (Option.some.inj hlast)
    exact hlast.symm
  · rw [readItems_open rfl _ hstart hgroup] at hlast
    cases hlast

/-- A glob that has a pattern has that of its anchored text. -/
theorem parse_of_compileGlob {glob : String} {p : Pattern} (hp : compileGlob glob = .ok p) :
  Expr.parse .default (anchoredSource (globSource glob)).toList = some p.expr
  := by
  unfold compileGlob at hp
  split at hp
  · next found hfound =>
    cases hp
    obtain ⟨e, he, rfl⟩ := Option.map_eq_some_iff.1 hfound
    exact he
  · cases hp

/-- A glob whose group is a pattern by itself matches whole URLs only: a URL in which its pattern has a
match it matches from the first character to the last, and so does the group without the anchors. -/
theorem compileGlob_isMatch_iff_matches_whole {glob : String} {p q : Pattern}
    (hp : compileGlob glob = .ok p)
    (hq : Pattern.compile? .default (globSource glob) = some q) (url : String) :
  (p.isMatch url = true ↔ Matches p.expr [] url.toList []) ∧
    (p.isMatch url = true ↔ Matches q.expr [] url.toList [])
  := by
  obtain ⟨e, hread, rfl⟩ := Option.map_eq_some_iff.1 hq
  have hexpr : p.expr = .cats [.anchor .start, e, .anchor .ending] :=
    Expr.parse_anchored hread (parse_of_compileGlob hp)
  have hgroup : p.isMatch url = true ↔ Matches e [] url.toList [] := by
    rw [Pattern.isMatch, hexpr]
    exact isMatch_anchored_iff
  have hwhole : Matches p.expr [] url.toList [] ↔ Matches e [] url.toList [] := by
    rw [hexpr]
    exact matches_anchored_iff
  exact ⟨hgroup.trans hwhole.symm, hgroup⟩

/-- Alternatives, also ones that the brackets around the glob close and open, and flags that hold to the
end of the glob. -/
theorem compileGlob_alternatives_matches_whole :
  ∃ p q, compileGlob "q)|(?i)(a|ab" = .ok p ∧
    Pattern.compile? .default (globSource "q)|(?i)(a|ab") = some q ∧
    ∀ url, (p.isMatch url = true ↔ Matches p.expr [] url.toList []) ∧
      (p.isMatch url = true ↔ Matches q.expr [] url.toList [])
  := by
  have hglob : (compileGlob "q)|(?i)(a|ab").toOption.isSome = true := by decide +kernel
  have hgroup : (Pattern.compile? .default (globSource "q)|(?i)(a|ab")).isSome = true := by
    decide +kernel
  obtain ⟨q, hq⟩ := Option.isSome_iff_exists.1 hgroup
  cases hp : compileGlob "q)|(?i)(a|ab" with
  | error e =>
      rw [hp] at hglob
      cases hglob
  | ok p => exact ⟨p, q, rfl, hq, compileGlob_isMatch_iff_matches_whole hp hq⟩

/-- A glob that closes the group between the anchors and opens one of its own: each anchor then stands in
one alternative, and the first one matches the start of a URL that no match spans. -/
theorem compileGlob_straddling_isMatch :
  ∃ p, compileGlob "a))|((b" = .ok p ∧ p.isMatch "ax" = true ∧
    ¬ Matches p.expr [] "ax".toList []
  := by
  have hmatch : (compileGlob "a))|((b").toOption.map (fun p => (p.isMatch "ax",
      Regex.isMatch (.cats [.anchor .start, p.expr, .anchor .ending]) "ax")) =
      some (true, false) := by
    decide +kernel
  cases hp : compileGlob "a))|((b" with
  | error e =>
      rw [hp] at hmatch
      cases hmatch
  | ok p =>
      rw [hp] at hmatch
      obtain ⟨hpart, hwhole⟩ := Prod.mk.inj (Option.some.inj hmatch)
      refine ⟨p, rfl, hpart, ?_⟩
      rw [← isMatch_anchored_iff, hwhole]
      decide

end PageModel
