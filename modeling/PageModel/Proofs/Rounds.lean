import Mathlib.Data.PFun

/-!
# Computations that need not end

A computation that may fail, on a state that is kept if it does. It may go on in rounds, of which
nothing says that they come to an end. One that does not end has no outcome at all, so that to end is a
property of a computation and not of how it is written down.
-/

namespace PageModel

/-- Computations on a state that may fail and need not end. -/
abbrev Process (ε σ : Type) := ExceptT ε (StateT σ Part)

namespace Process

variable {ε σ α β : Type}

/-- What comes of a computation from a state on, and the state that it leaves behind. -/
def runFrom (x : Process ε σ α) (s : σ) : Part (Except ε α × σ) :=
  x.run.run s

/-- What a round comes to: the outcome of all rounds, or what the next one starts from. -/
def afterRound : Except ε (β ⊕ α) × σ → (Except ε β × σ) ⊕ (α × σ)
  | (.ok (.inl b), s) => .inl (.ok b, s)
  | (.ok (.inr a), s) => .inr (a, s)
  | (.error e, s) => .inl (.error e, s)

/-- Round after round, each from what the one before it has come to, until one comes to a result or
fails. -/
def rounds (round : α → Process ε σ (β ⊕ α)) (a : α) : Process ε σ β :=
  fun s => PFun.fix (fun (a, s) => ((round a).runFrom s).map afterRound) (a, s)

variable {x : Process ε σ α} {f : α → Process ε σ β} {s s' : σ} {a : α} {e : ε}

theorem runFrom_pure (a : α) (s : σ) :
  (.ok a, s) ∈ (pure a : Process ε σ α).runFrom s
  := Part.mem_some _

theorem runFrom_throw (e : ε) (s : σ) :
  (.error e, s) ∈ (throw e : Process ε σ α).runFrom s
  := Part.mem_some _

theorem runFrom_get (s : σ) :
  (.ok s, s) ∈ (get : Process ε σ σ).runFrom s
  := by
  change _ ∈ (Part.some (s, s)).bind fun (a, s) => Part.some (Except.ok a, s)
  rw [Part.bind_some]
  apply Part.mem_some

theorem runFrom_modify (g : σ → σ) (s : σ) :
  (.ok (), g s) ∈ (modify g : Process ε σ Unit).runFrom s
  := by
  change _ ∈ (Part.some ((), g s)).bind fun (a, s) => Part.some (Except.ok a, s)
  rw [Part.bind_some]
  apply Part.mem_some

theorem runFrom_bind_ok (h : (.ok a, s') ∈ x.runFrom s) :
  (x >>= f).runFrom s = (f a).runFrom s'
  := by
  rw [runFrom, ExceptT.run_bind, StateT.run_bind]
  change (x.runFrom s).bind _ = _
  rw [Part.eq_some_iff.2 h, Part.bind_some]
  rfl

theorem runFrom_bind_error (h : (.error e, s') ∈ x.runFrom s) :
  (.error e, s') ∈ (x >>= f).runFrom s
  := by
  rw [runFrom, ExceptT.run_bind, StateT.run_bind]
  change _ ∈ (x.runFrom s).bind _
  rw [Part.eq_some_iff.2 h, Part.bind_some]
  apply Part.mem_some

variable {round : α → Process ε σ (β ⊕ α)} {a' : α} {b : β}

theorem runFrom_rounds_last (h : (.ok (.inl b), s') ∈ (round a).runFrom s) :
  (.ok b, s') ∈ (rounds round a).runFrom s
  := PFun.fix_stop (Part.mem_map afterRound h)

theorem runFrom_rounds_error (h : (.error e, s') ∈ (round a).runFrom s) :
  (.error e, s') ∈ (rounds round a).runFrom s
  := PFun.fix_stop (Part.mem_map afterRound h)

theorem runFrom_rounds_again (h : (.ok (.inr a'), s') ∈ (round a).runFrom s) :
  (rounds round a).runFrom s = (rounds round a').runFrom s'
  := PFun.fix_fwd_eq (Part.mem_map afterRound h)

/-- Rounds that always go on never end. -/
theorem runFrom_rounds_eq_none (h : ∀ a s, ∃ a' s', (.ok (.inr a'), s') ∈ (round a).runFrom s) :
  (rounds round a).runFrom s = Part.none
  := by
  apply Part.eq_none_iff.2
  intro outcome houtcome
  apply PFun.fixInduction (C := fun _ => False) houtcome
  rintro ⟨a, s⟩ - ih
  obtain ⟨a', s', hagain⟩ := h a s
  apply ih (a', s') (Part.mem_map afterRound hagain)

end Process

end PageModel
