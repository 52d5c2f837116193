import Mathlib.Tactic.Use
import PageModel.Html.Document

/-!
# Every document has a root element

Until the element that a document consists of is opened, no element is open and the rules are those
of the two modes before it. Either of them keeps to that or opens the element, and at the end of the
text it is opened at the latest. From then on no step of reading moves it, whatever the rules do.
-/

namespace PageModel.Html

open Build Rules

/-! ### Trees of rooted tables -/

theorem Arena.exists_rootElement? {t : Arena} (h : t.Rooted) :
  ∃ root, t.document.rootElement? = some root
  := by
  obtain ⟨r, hr, helement⟩ := h
  obtain ⟨depth, hdepth⟩ := Nat.exists_eq_add_one.2 t.linked.nonempty
  have hmem : t.toNode depth r ∈ t.document.childElements := by
    have hchild : t.toNode depth r ∈ t.document.children := by
      rw [document, size, hdepth, toNode]
      exact List.mem_map_of_mem (Array.mem_toList_iff.2 hr)
    apply List.mem_filter.2 ⟨hchild, _⟩
    cases depth <;> exact helement
  exact ⟨_, List.head?_eq_some_head (List.ne_nil_of_mem hmem)⟩

/-! ### Before the root element -/

/-- States in which nothing has been opened. -/
structure Builder.Unopened (b : Builder) : Prop where
  stack : b.stack = []
  mode : b.mode = .initial ∨ b.mode = .beforeHtml

/-- States in which the document holds an element, or nothing has been opened. -/
def Builder.Ready (b : Builder) : Prop :=
  b.arena.Rooted ∨ b.Unopened

theorem rooted_openRoot (t : Tag) (b : Builder) :
  ((openRoot t).run b).2.arena.Rooted
  := Arena.rooted_append_make b.arena rfl

theorem unopened_initial {b : Builder} (h : b.Unopened) (token : Token) :
  ((initial token).run b).2.Unopened
  := by
  cases token <;> first | exact ⟨h.stack, .inr rfl⟩ | exact ⟨h.stack, h.mode⟩

theorem ready_beforeHtml {b : Builder} (h : b.Unopened) (token : Token) :
  ((beforeHtml token).run b).2.Ready
  := by
  have hsupply : ((openRoot (bareTag "html") >>= fun _ => againIn .beforeHead).run b).2.Ready :=
    .inl (rooted_openRoot (bareTag "html") b)
  unfold beforeHtml
  cases token with
  | blanks s => exact .inr h
  | comment s => exact .inr ⟨h.stack, h.mode⟩
  | startTag t =>
      simp only
      split
      · exact .inl (rooted_openRoot t b)
      · exact hsupply
  | endTag t =>
      simp only
      split
      · exact hsupply
      · exact .inr h
  | _ => exact hsupply

theorem ready_apply {b : Builder} (h : b.Ready) (token : Token) :
  ((apply token).run b).2.Ready
  := by
  rcases h with hrooted | hunopened
  · exact .inl ((apply token).rooted b hrooted)
  · have happly : (apply token).run b = (inMode b.mode token).run b := by
      unfold apply
      rw [run_bind, run_state, hunopened.stack]
    rw [happly]
    rcases hunopened.mode with hmode | hmode
    · rw [hmode]
      exact .inr (unopened_initial hunopened token)
    · rw [hmode]
      exact ready_beforeHtml hunopened token

/-! ### Whole texts -/

theorem ready_applyRounds (token : Token) (rounds : Nat) {b : Builder} (h : b.Ready) :
  ((applyRounds token rounds).run b).2.Ready
  := by
  induction rounds generalizing b with
  | zero => exact h
  | succ rounds ih =>
      have happly := ready_apply h token
      rw [applyRounds, run_bind]
      split
      · exact happly
      · exact ih happly

theorem ready_handle (token : Token) {b : Builder} (h : b.Ready) :
  ((handle token).run b).2.Ready
  := by
  rw [handle, run_bind, run_state]
  exact ready_applyRounds token _ h

/-- The state in which a token is handled. -/
def Builder.started (b : Builder) : Builder :=
  { b with skipLineFeed := false }

theorem Builder.Ready.started {b : Builder} (h : b.Ready) :
  b.started.Ready
  := by
  rcases h with hrooted | hunopened
  · exact .inl hrooted
  · exact .inr ⟨hunopened.stack, hunopened.mode⟩

theorem ready_take (token : Token) {b : Builder} (h : b.Ready) :
  ((take token).run b).2.Ready
  := by
  rw [take, run_bind, run_state, run_bind, run_change]
  simp only
  split
  · split
    · exact ready_handle _ h.started
    · exact h.started
  · split
    · exact ready_handle _ h.started
    · exact h.started

theorem ready_takeAll (tokens : List Token) {b : Builder} (h : b.Ready) :
  ((takeAll tokens).run b).2.Ready
  := by
  induction tokens generalizing b with
  | nil => exact h
  | cons token tokens ih =>
      rw [takeAll, run_bind]
      exact ih (ready_take token h)

/-! ### The end of a text -/

theorem rooted_apply_eof {b : Builder} (h : b.Unopened) (hmode : b.mode = .beforeHtml) :
  ((apply .eof).run b).2.arena.Rooted
  := by
  have happly : (apply .eof).run b = (beforeHtml .eof).run b := by
    rw [apply, run_bind, run_state, h.stack, hmode]
    rfl
  rw [happly]
  exact rooted_openRoot (bareTag "html") b

theorem rooted_applyRounds_of_apply {token : Token} {b : Builder}
    (h : ((apply token).run b).2.arena.Rooted) (rounds : Nat) :
  ((applyRounds token (rounds + 1)).run b).2.arena.Rooted
  := by
  rw [applyRounds, run_bind]
  split
  · exact h
  · exact (applyRounds token rounds).rooted _ h

/-- At the end of the text two rounds are enough to open the root element. -/
theorem rooted_applyRounds_eof (rounds : Nat) {b : Builder} (h : b.Ready) :
  ((applyRounds .eof (rounds + 2)).run b).2.arena.Rooted
  := by
  rcases h with hrooted | hunopened
  · exact (applyRounds .eof (rounds + 2)).rooted b hrooted
  · rcases hunopened.mode with hmode | hmode
    · have happly : (apply .eof).run b = (initial .eof).run b := by
        rw [apply, run_bind, run_state, hunopened.stack, hmode]
        rfl
      rw [applyRounds, run_bind, happly]
      apply rooted_applyRounds_of_apply
      exact rooted_apply_eof ⟨hunopened.stack, .inr rfl⟩ rfl
    · exact rooted_applyRounds_of_apply (rooted_apply_eof hunopened hmode) _

theorem rooted_take_eof {b : Builder} (h : b.Ready) :
  ((take .eof).run b).2.arena.Rooted
  := by
  have hhandle : ((handle .eof).run b.started).2.arena.Rooted := by
    rw [handle, run_bind, run_state]
    exact rooted_applyRounds_eof _ h.started
  rw [take, run_bind, run_state, run_bind, run_change]
  cases hskip : b.skipLineFeed <;> exact hhandle

theorem rooted_build (cs : List Char) {b : Builder} (h : b.Ready) :
  (build b cs).arena.Rooted
  := by
  fun_induction build b cs with
  | case1 b => exact rooted_take_eof h
  | case2 b c cs read ih => exact ih (ready_takeAll _ h)

/-- Every document has a root element. -/
theorem exists_rootElement? (text : String) :
  ∃ root, (parse text).rootElement? = some root
  := Arena.exists_rootElement? (rooted_build _ (.inr ⟨rfl, .inl rfl⟩))

end PageModel.Html
