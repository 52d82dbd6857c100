import TurtleMarkup.Proofs.Search

/-!
# Pass after pass

A pass hands each gap on before it turns to its next match, so a text is
classified depth first.  The same tokens come out if the passes run one after
another over the whole text (`Pass.classify_eq_passByPass`): a text begins as one
segment without category, every pass replaces each such segment, in its place,
by the tokens of its matches and the gaps between them, and what has no category
after the last pass is plain.

Two facts carry this.  What later passes make of a list of segments they make of
each segment by itself (`Segment.through_eq_flatMap`), and one pass over a
segment leaves what its sweep goes through (`Pass.sweep_eq_flatMap`).
-/

namespace TurtleMarkup

/-! ## Segments -/

/-- A stretch of a text between two passes. -/
inductive Segment where
  /-- Text without a category, and where it starts. -/
  | unclassified (start : Nat) (text : Text)
  /-- A token, which stays as it is. -/
  | classified (token : Token)
deriving DecidableEq, Repr

namespace Segment

/-- The stretch of the text `t` at `base` that a span covers, as a segment without a category;
nothing if the span is empty. -/
def gap (base : Nat) (t : Text) (s : Span) : List Segment :=
  if s.start < s.stop then [.unclassified (base + s.start) (s.slice t)] else []

/-- What the matches of a pass make of the text `t` at `base` from the byte `last` on: the tokens
of each match, and the gaps before, between and behind the matches. -/
def ofMatches (p : Pass) (base : Nat) (t : Text) (last : Nat) : List (List Span) → List Segment
  | [] => gap base t ⟨last, t.byteSize⟩
  | [] :: ms => ofMatches p base t last ms
  | (whole :: groups) :: ms =>
    gap base t ⟨last, whole.start⟩
      ++ (p.emit (whole :: groups)).map (fun token => .classified (token.shift base))
      ++ ofMatches p base t whole.stop ms

/-- What a pass makes of a segment. -/
def refine (p : Pass) : Segment → List Segment
  | .unclassified start t => ofMatches p start t 0 (p.find t)
  | .classified token => [.classified token]

/-- What passes one after another make of a list of segments. -/
def through (ps : List Pass) (ss : List Segment) : List Segment :=
  ps.foldl (fun ss p => ss.flatMap (refine p)) ss

/-- The token of a segment after the last pass. -/
def toToken : Segment → Token
  | .unclassified start t => .covering .plain start t.byteSize
  | .classified token => token

/-- The tokens of a segment, where `onGap` gives those of a text without a category. -/
def tokens (onGap : Nat → Text → List Token) : Segment → List Token
  | .unclassified start t => onGap start t
  | .classified token => [token]

theorem through_eq_flatMap (ps : List Pass) (ss : List Segment) :
    through ps ss = ss.flatMap fun s => through ps [s] := by
  induction ps generalizing ss with
  | nil => simp [through]
  | cons p ps ih =>
    have hcons : ∀ ss, through (p :: ps) ss = through ps (ss.flatMap (refine p)) := fun _ => rfl
    rw [hcons, ih, List.flatMap_assoc]
    apply List.flatMap_congr
    intro s _
    rw [hcons, List.flatMap_singleton, ← ih]

/-- No pass touches a token. -/
theorem through_classified (ps : List Pass) (token : Token) :
    through ps [.classified token] = [.classified token] := by
  induction ps with
  | nil => rfl
  | cons p ps ih => exact ih

end Segment

/-! ## One pass -/

namespace Pass

theorem flatMap_gap (onGap : Nat → Text → List Token) (base : Nat) (t : Text) (s : Span) :
    (Segment.gap base t s).flatMap (Segment.tokens onGap)
      = if s.start < s.stop then onGap (base + s.start) (s.slice t) else [] := by
  unfold Segment.gap
  by_cases h : s.start < s.stop
  · rw [if_pos h, if_pos h, List.flatMap_singleton, Segment.tokens]
  · rw [if_neg h, if_neg h, List.flatMap_nil]

/-- Going through the matches of a pass is going through the segments that they make. -/
theorem sweep_eq_flatMap (p : Pass) (base : Nat) (t : Text) (last : Nat) (ms : List (List Span)) :
    p.sweep base t last ms
      = (Segment.ofMatches p base t last ms).flatMap (Segment.tokens p.forward) := by
  induction ms generalizing last with
  | nil => rw [sweep, Segment.ofMatches, flatMap_gap]
  | cons m ms ih =>
    cases m with
    | nil => rw [sweep, Segment.ofMatches, ih]
    | cons whole groups =>
      have htokens : ∀ l : List Token,
          (l.map fun token => Segment.classified (token.shift base)).flatMap
            (Segment.tokens p.forward) = l.map (Token.shift base) := by
        intro l
        rw [List.flatMap_map, List.map_eq_flatMap]
        rfl
      rw [sweep, Segment.ofMatches, List.flatMap_append, List.flatMap_append, flatMap_gap, htokens,
        ih]

theorem classify_eq_flatMap_refine (p : Pass) (base : Nat) (t : Text) :
    p.classify base t
      = (Segment.refine p (.unclassified base t)).flatMap (Segment.tokens p.forward) := by
  rw [classify_eq_sweep, sweep_eq_flatMap, Segment.refine]

/-! ## All passes -/

/-- The tokens of the text `t` at `base` when the given passes run one after another. -/
def passByPass (ps : List Pass) (base : Nat) (t : Text) : List Token :=
  (Segment.through ps [.unclassified base t]).map Segment.toToken

theorem passByPass_cons (p : Pass) (ps : List Pass) (base : Nat) (t : Text) :
    passByPass (p :: ps) base t
      = (Segment.refine p (.unclassified base t)).flatMap (Segment.tokens (passByPass ps)) := by
  have hsegment : ∀ s : Segment,
      (Segment.through ps [s]).map Segment.toToken = s.tokens (passByPass ps) := by
    intro s
    cases s with
    | unclassified start u => rfl
    | classified token => rw [Segment.through_classified]; rfl
  have hfirst : Segment.through (p :: ps) [.unclassified base t]
      = Segment.through ps (Segment.refine p (.unclassified base t)) := by
    rw [Segment.through, List.foldl_cons, List.flatMap_singleton]
    rfl
  rw [passByPass, hfirst, Segment.through_eq_flatMap, List.map_flatMap]
  exact List.flatMap_congr fun s _ => hsegment s

theorem passByPass_onward (p : Pass) : passByPass p.onward = p.classify := by
  refine onward_induction (motive := fun ps onText => passByPass ps = onText) rfl ?_ p
  intro p ps ih
  funext base t
  rw [passByPass_cons, ih, classify_eq_flatMap_refine]

/-- **The chain of passes runs them in their order.**  A pass goes through its matches from left to
right and hands each gap on before the next match.  The tokens that come out are those of the
passes run one after another over the whole text, each on what those before it have left without a
category.  With the limit on offsets it is the same. -/
theorem classify_eq_passByPass (base : Nat) (t : Text) :
    (∀ p : Pass, p.classify base t = p.sweep base t 0 (p.find t)) ∧
      uri.classify base t = passByPass order base t ∧
      uri.classify? base t = Token.checked (passByPass order base t) := by
  have huri : passByPass order = uri.classify := uri.passByPass_onward
  refine ⟨fun p => p.classify_eq_sweep base t, ?_, ?_⟩
  · rw [huri]
  · rw [classify?, huri]

end Pass

end TurtleMarkup
