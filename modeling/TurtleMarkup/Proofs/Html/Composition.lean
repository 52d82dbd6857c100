import TurtleMarkup.Proofs.Html.Structure
import TurtleMarkup.Proofs.Independence

/-!
# Markup composes over lines

The markup of a source is that of its lines, joined by line feeds
(`Html.fragment_highlight`), and the markup of a line depends on the text of the
line and the options alone: neither where the line stands nor what surrounds it
leaves a trace, although the tokens carry positions and are cut out of the whole
source.

So a source may be cut at any line feed between parts that are not empty, and the
markup of the parts put together again (`Html.fragment_composes`).  An empty part
is another matter: the empty source has no line, but between two line feeds stands
an empty one.
-/

namespace TurtleMarkup

namespace Html

/-! ## The markup of a line -/

/-- The nodes of a line with the given parts. -/
def partNodes (o : Options) (ps : List Part) : List Node :=
  if o.wrapLines && !(ps.map Prod.fst == [.comment]) then
    [span none (ps.map fun p => tokenNode o p.1 p.2)]
  else ps.map fun p => tokenNode o p.1 p.2

/-- The markup of a line with the given text. -/
def lineMarkup (o : Options) (t : Text) : Text := writeAll (partNodes o (Line.parts t))

/-- The nodes of a line of a highlighted source are those of its parts, wherever it stands. -/
theorem lineNodes_highlight (o : Options) {source : Text} {l : SourceLine}
    (hl : l ∈ SourceLine.ofSource source) :
    lineNodes o (Block.highlight source) (Line.ofSourceLine l)
      = partNodes o (Line.parts l.text) := by
  have hcomment : (Line.ofSourceLine l).isComment
      = ((Line.parts l.text).map Prod.fst == [.comment]) := by
    rw [isComment_eq_loneComment, loneComment, Line.ofSourceLine, Line.classify_eq_layOut,
      Token.map_kind_layOut]
  rw [lineNodes, Block.parts_highlight hl, hcomment]
  rfl

theorem writeAll_flatMap {α : Type} (f : α → List Node) (l : List α) :
    writeAll (l.flatMap f) = l.flatMap fun x => writeAll (f x) := by
  induction l with
  | nil => rfl
  | cons x l ih => rw [List.flatMap_cons, List.flatMap_cons, writeAll_append, ih]

theorem writeAll_feed (terminated : Bool) :
    writeAll (if terminated then [.text ['\n']] else []) = if terminated then ['\n'] else [] := by
  cases terminated <;> rfl

/-- **The markup of a source is that of its lines, joined by line feeds.** -/
theorem fragment_highlight (o : Options) {source : Text} (h : source ≠ []) :
    fragment o (Block.highlight source)
      = Text.join '\n' ((Text.split '\n' source).map (lineMarkup o)) := by
  have hlines : SourceLine.ofSource source = SourceLine.layOut 0 (Text.split '\n' source) := by
    rw [SourceLine.ofSource, if_neg (by simpa using h)]
  have hline : ∀ l ∈ SourceLine.ofSource source,
      writeAll (lineNodes o (Block.highlight source) (Line.ofSourceLine l)
          ++ if l.terminated then [.text ['\n']] else [])
        = lineMarkup o l.text ++ if l.terminated then ['\n'] else [] := by
    intro l hl
    rw [writeAll_append, lineNodes_highlight o hl, writeAll_feed, lineMarkup]
  calc fragment o (Block.highlight source)
      = (SourceLine.ofSource source).flatMap fun l =>
          writeAll (lineNodes o (Block.highlight source) (Line.ofSourceLine l)
            ++ if l.terminated then [.text ['\n']] else []) := by
        rw [fragment, nodes, writeAll_flatMap, Block.highlight, List.flatMap_map]
        rfl
    _ = (SourceLine.ofSource source).flatMap fun l =>
          lineMarkup o l.text ++ if l.terminated then ['\n'] else [] := List.flatMap_congr hline
    _ = Text.join '\n' ((Text.split '\n' source).map (lineMarkup o)) := by
        rw [hlines, SourceLine.flatMap_layOut]

/-! ## Sources in pieces -/

theorem fragment_highlight_append (o : Options) {s₁ s₂ : Text} (h₁ : s₁ ≠ []) (h₂ : s₂ ≠ []) :
    fragment o (Block.highlight (s₁ ++ '\n' :: s₂))
      = fragment o (Block.highlight s₁) ++ '\n' :: fragment o (Block.highlight s₂) := by
  have hne : s₁ ++ '\n' :: s₂ ≠ [] := by simp
  have hmap : ∀ s : Text, (Text.split '\n' s).map (lineMarkup o) ≠ [] := by
    intro s
    rw [Ne, List.map_eq_nil_iff]
    exact Text.split_ne_nil '\n' s
  rw [fragment_highlight o hne, fragment_highlight o h₁, fragment_highlight o h₂,
    Text.split_append, List.map_append, Text.join_append '\n' (hmap s₁) (hmap s₂)]

theorem fragment_highlight_join (o : Options) {pieces : List Text} (h : ∀ s ∈ pieces, s ≠ []) :
    fragment o (Block.highlight (Text.join '\n' pieces))
      = Text.join '\n' (pieces.map fun s => fragment o (Block.highlight s)) := by
  induction pieces with
  | nil => rfl
  | cons s pieces ih =>
    cases pieces with
    | nil => rfl
    | cons u us =>
      have htail : ∀ t ∈ u :: us, t ≠ [] := fun t ht => h t (List.mem_cons_of_mem s ht)
      rw [Text.join_cons_cons, List.singleton_append,
        fragment_highlight_append o (h s List.mem_cons_self)
          (Text.join_ne_nil (List.cons_ne_nil u us) htail), ih htail]
      rfl

/-- **Markup composes over lines.**  Two sources that are not empty, with a line feed between them,
have the markup of the first, a line feed, and the markup of the second.  So a source that is cut
into any number of pieces, at line feeds between pieces that are not empty, has the markup of its
pieces, joined by line feeds. -/
theorem fragment_composes (o : Options) :
    (∀ s₁ s₂ : Text, s₁ ≠ [] → s₂ ≠ [] →
      fragment o (Block.highlight (s₁ ++ '\n' :: s₂))
        = fragment o (Block.highlight s₁) ++ '\n' :: fragment o (Block.highlight s₂)) ∧
      ∀ pieces : List Text, (∀ s ∈ pieces, s ≠ []) →
        fragment o (Block.highlight (Text.join '\n' pieces))
          = Text.join '\n' (pieces.map fun s => fragment o (Block.highlight s)) :=
  ⟨fun _ _ h₁ h₂ => fragment_highlight_append o h₁ h₂, fun _ h => fragment_highlight_join o h⟩

/-- The first piece ends in a line feed and the second is one: between the comment and the keyword
stand three empty lines, each in an element of its own, and the comment is in none. -/
theorem fragment_composes_empty_lines :
    ['#', '\n'] ≠ [] ∧ ['\n'] ≠ [] ∧ ['a'] ≠ [] ∧
      fragment {} (Block.highlight (Text.join '\n' [['#', '\n'], ['\n'], ['a']]))
        = ("<span class=\"turtle-comment\">#</span>\n<span></span>\n<span></span>\n<span></span>\n"
            ++ "<span><span class=\"turtle-keyword\">a</span></span>").toList := by
  have hpieces : ∀ s ∈ [['#', '\n'], ['\n'], ['a']], s ≠ [] := by simp
  refine ⟨by decide, by decide, by decide, ?_⟩
  rw [(fragment_composes {}).2 _ hpieces]
  decide +kernel

end Html

end TurtleMarkup
