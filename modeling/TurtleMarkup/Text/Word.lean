import TurtleMarkup.Text.Basic

/-!
# Words

A word is built from ASCII letters, ASCII digits and the underscore.  A boundary lies between two
neighbours of which exactly one belongs to a word; both ends of a text count as no word.
-/

namespace TurtleMarkup.Text

/-- The characters of a word. -/
def isWordChar (c : Char) : Bool := c.isAlphanum || c == '_'

/-- Whether a word begins or ends between two neighbours, either of which may be missing. -/
def isBoundary (before after : Option Char) : Bool := before.any isWordChar != after.any isWordChar

/-- The cut made by `longestBounded`, with the run in reverse: characters move from the end of the
run to the text behind it until the cut is a boundary. -/
def cutAtBoundary : Text → Text → Option (Text × Text)
  | [], _ => none
  | c :: run, rest =>
    if isBoundary (some c) rest.head? then some ((c :: run).reverse, rest)
    else cutAtBoundary run (c :: rest)

/-- The longest nonempty beginning of `run` that ends at a boundary of `run ++ rest`, and what
stands behind it. -/
def longestBounded (run rest : Text) : Option (Text × Text) := cutAtBoundary run.reverse rest

theorem cutAtBoundary_eq_some {run rest kept after : Text}
    (h : cutAtBoundary run rest = some (kept, after)) :
    run.reverse ++ rest = kept ++ after ∧ kept ≠ [] := by
  induction run generalizing rest with
  | nil => simp [cutAtBoundary] at h
  | cons c run ih =>
    rw [cutAtBoundary] at h
    split at h
    · simp only [Option.some.injEq, Prod.mk.injEq] at h
      simp [← h.1, ← h.2]
    · have := ih h
      exact ⟨by simpa using this.1, this.2⟩

/-- The cut loses nothing and keeps something. -/
theorem longestBounded_eq_some {run rest kept after : Text}
    (h : longestBounded run rest = some (kept, after)) :
    run ++ rest = kept ++ after ∧ kept ≠ [] := by
  simpa using cutAtBoundary_eq_some h

end TurtleMarkup.Text
