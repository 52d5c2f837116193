import PageModel.Proofs.Html.Numbers
import PageModel.XPath.Evaluate

/-!
# Chains of elements

What a path means in a document: it reaches the elements at the ends of chains, one element for each
step, that start at the root element or below it and go on to children or to what stands below, each
element being one that its step accepts.
-/

namespace PageModel.XPath

open Html

/-! ### Single steps -/

/-- Whether a step may lead from the document, outside of its root element, to an element. -/
def Step.Starts (s : Step) (root e : Node) : Prop :=
  match s.axis with
  | .child => e = root
  | .descendant => e = root ∨ root.IsBelow e

/-- Whether a step may lead from an element to another. -/
def Step.Leads (s : Step) (e f : Node) : Prop :=
  match s.axis with
  | .child => f ∈ e.children
  | .descendant => e.IsBelow f

/-- Whether a step accepts an element in the place that it has in a document. -/
def Step.AcceptsIn (s : Step) (document e : Node) : Prop :=
  ∃ parent ∈ document.preorder, e ∈ parent.childElements ∧
    s.accepts ⟨parent.childElements, e⟩ = true

/-! ### Chains -/

/-- Chains that go on from an element, one step after the other. -/
inductive Follows (document : Node) : (e : Node) → List Step → List Node → Prop
  | nil (e : Node) : Follows document e [] []
  | cons {e f : Node} {s : Step} {ss : List Step} {fs : List Node} :
      s.Leads e f → s.AcceptsIn document f → Follows document f ss fs →
      Follows document e (s :: ss) (f :: fs)

/-- Chains of the steps of a path. -/
inductive IsChain (document root : Node) : List Step → List Node → Prop
  | nil : IsChain document root [] []
  | cons {e : Node} {s : Step} {ss : List Step} {es : List Node} :
      s.Starts root e → s.AcceptsIn document e → Follows document e ss es →
      IsChain document root (s :: ss) (e :: es)

/-- The relation of a path with the elements at the ends of its chains. Without steps this is the
root element alone. -/
def Path.Reaches (p : Path) (document root e : Node) : Prop :=
  ∃ es, IsChain document root p.steps es ∧ es.getLastD root = e

end PageModel.XPath
