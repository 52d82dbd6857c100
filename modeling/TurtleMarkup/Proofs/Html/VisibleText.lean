import TurtleMarkup.Proofs.Html.Structure
import TurtleMarkup.Proofs.Lossless

/-!
# The visible text of a page

Without its tags, the markup of nodes is the escaped text of the nodes
(`withoutTags_writeAll`), and the text of a block's nodes is what the block puts
together again (`textOf_linesTree`), for any block.  A highlighted source is put
together without loss, so what a reader sees is the source, under all options.
-/

namespace TurtleMarkup.Html

/-! ## Deleting tags -/

/-- The text with all tags deleted, where `inTag` says whether it begins inside a tag. -/
def withoutTagsFrom (inTag : Bool) : Text → Text
  | [] => []
  | c :: t =>
    if inTag then withoutTagsFrom (c != '>') t
    else if c = '<' then withoutTagsFrom true t
    else c :: withoutTagsFrom false t

/-- The text with every stretch from a `<` to the next `>` deleted. -/
def withoutTags (t : Text) : Text := withoutTagsFrom false t

theorem withoutTagsFrom_true_append {body : Text} (h : '>' ∉ body) (rest : Text) :
    withoutTagsFrom true (body ++ '>' :: rest) = withoutTags rest := by
  induction body with
  | nil => rfl
  | cons c body ih =>
    rw [List.mem_cons, not_or] at h
    have hc : (c != '>') = true := bne_iff_ne.2 (Ne.symm h.1)
    rw [List.cons_append, withoutTagsFrom, if_pos rfl, hc]
    exact ih h.2

theorem withoutTags_tag_append {body : Text} (h : '>' ∉ body) (rest : Text) :
    withoutTags ('<' :: (body ++ ['>']) ++ rest) = withoutTags rest := by
  rw [withoutTags, List.cons_append, withoutTagsFrom, if_neg Bool.false_ne_true, if_pos rfl,
    List.append_assoc]
  exact withoutTagsFrom_true_append h rest

theorem withoutTags_append {t : Text} (h : '<' ∉ t) (rest : Text) :
    withoutTags (t ++ rest) = t ++ withoutTags rest := by
  induction t with
  | nil => rfl
  | cons c t ih =>
    rw [List.mem_cons, not_or] at h
    rw [List.cons_append, withoutTags, withoutTagsFrom, if_neg Bool.false_ne_true,
      if_neg (Ne.symm h.1), List.cons_append]
    exact congrArg (c :: ·) (ih h.2)

/-! ## The text of nodes -/

/-- The texts among nodes and inside them, one after another. -/
def textOf : List Node → Text
  | [] => []
  | .text t :: ns => t ++ textOf ns
  | .element _ _ children :: ns => textOf children ++ textOf ns

theorem textOf_append (a b : List Node) : textOf (a ++ b) = textOf a ++ textOf b := by
  induction a with
  | nil => simp [textOf]
  | cons n a ih => cases n <;> simp [textOf, ih]

theorem withoutTags_writeAll_append {ns : List Node} (h : named ns) (rest : Text) :
    withoutTags (writeAll ns ++ rest) = escape (textOf ns) ++ withoutTags rest := by
  induction ns using nodes_induction generalizing rest with
  | nil =>
    rw [writeAll, textOf]
    rfl
  | text t ns ih =>
    rw [named] at h
    have hlt : '<' ∉ escape t := fun hmem => (ne_of_mem_escape hmem).1 rfl
    rw [writeAll, Node.write, textOf, List.append_assoc, withoutTags_append hlt, ih h,
      escape_append, List.append_assoc]
  | element tag cls children ns ihc ih =>
    rw [named, Bool.and_eq_true, Bool.and_eq_true] at h
    obtain ⟨⟨htag, hchildren⟩, hns⟩ := h
    have hopen : '>' ∉ tag ++ classText cls := fun hmem => (ne_of_mem_opening htag hmem).2 rfl
    have hclose : '>' ∉ '/' :: tag := fun hmem => (ne_of_mem_closing htag hmem).2 rfl
    rw [writeAll, Node.write, textOf, List.append_assoc, List.append_assoc, List.append_assoc,
      openingTag_eq, withoutTags_tag_append hopen, ihc hchildren, closingTag_eq,
      withoutTags_tag_append hclose, ih hns, escape_append, List.append_assoc]

/-- Deleting the tags of written nodes leaves their text, escaped. -/
theorem withoutTags_writeAll {ns : List Node} (h : named ns) :
    withoutTags (writeAll ns) = escape (textOf ns) := by
  have hall := withoutTags_writeAll_append h []
  rwa [List.append_nil, show withoutTags [] = [] from rfl, List.append_nil] at hall

/-! ## The text of blocks -/

theorem textOf_map_tokenTree (o : Options) (b : Block) (ts : List Token) :
    textOf (ts.map (tokenTree o b)) = ts.flatMap fun t => b.text t.span := by
  induction ts with
  | nil => rw [List.map_nil, textOf, List.flatMap_nil]
  | cons t ts ih =>
    rw [List.map_cons, tokenTree, List.flatMap_cons]
    by_cases h : t.kind = .plain
    · rw [if_pos h, textOf, ih]
    · rw [if_neg h, textOf, textOf, textOf, ih, List.append_nil]

theorem textOf_lineTree (o : Options) (b : Block) (l : Line) :
    textOf (lineTree o b l) = l.tokens.flatMap fun t => b.text t.span := by
  unfold lineTree
  split
  · rw [textOf, textOf, List.append_nil, textOf_map_tokenTree]
  · exact textOf_map_tokenTree o b l.tokens

/-- The nodes of a block hold the text that the block puts together. -/
theorem textOf_linesTree (o : Options) (b : Block) : textOf (linesTree o b) = b.reconstruct := by
  unfold linesTree Block.reconstruct
  induction b.lines with
  | nil => rw [List.flatMap_nil, List.flatMap_nil, textOf]
  | cons l ls ih =>
    have hfeed : textOf (if l.terminated then [.text ['\n']] else [])
        = if l.terminated then ['\n'] else [] := by
      split <;> simp [textOf]
    rw [List.flatMap_cons, textOf_append, textOf_append, textOf_lineTree, hfeed, ih,
      List.flatMap_cons, Block.lineText]

theorem withoutTags_fragment (o : Options) (b : Block) :
    withoutTags (fragment o b) = escape b.reconstruct := by
  rw [fragment, nodes_eq_linesTree, withoutTags_writeAll (named_linesTree o b), textOf_linesTree]

theorem withoutTags_page (o : Options) (b : Block) :
    withoutTags (page o b) = escape b.reconstruct := by
  rw [page_eq_writeAll, withoutTags_writeAll (named_page o b), textOf, textOf, List.append_nil,
    textOf_linesTree]

/-- Two sources with the same markup are the same, provided that the markup shows the source. -/
theorem injective_of_withoutTags {render : Text → Text}
    (h : ∀ source, withoutTags (render source) = escape source) : Function.Injective render := by
  intro s t heq
  apply escape_injective
  rw [← h s, ← h t, heq]

/-- A highlighted source shows exactly the source, under all options: without its tags, the markup
is the escaped source, from which the source is decoded.  Different sources have different
markup. -/
theorem highlight_shows_source (o : Options) (source : Text) :
    withoutTags (fragment o (Block.highlight source)) = escape source ∧
      withoutTags (page o (Block.highlight source)) = escape source ∧
      decode (escape source) = source ∧
      (∀ o' : Options,
        withoutTags (fragment o' (Block.highlight source))
            = withoutTags (fragment o (Block.highlight source)) ∧
          withoutTags (page o' (Block.highlight source))
            = withoutTags (page o (Block.highlight source))) ∧
      Function.Injective (fun s => fragment o (Block.highlight s)) ∧
      Function.Injective (fun s => page o (Block.highlight s)) := by
  have hfragment : ∀ o s, withoutTags (fragment o (Block.highlight s)) = escape s := fun o s => by
    rw [withoutTags_fragment, Block.reconstruct_eq_source]
  have hpage : ∀ o s, withoutTags (page o (Block.highlight s)) = escape s := fun o s => by
    rw [withoutTags_page, Block.reconstruct_eq_source]
  refine ⟨hfragment o source, hpage o source, decode_escape source, fun o' => ⟨?_, ?_⟩,
    injective_of_withoutTags (hfragment o), injective_of_withoutTags (hpage o)⟩
  · rw [hfragment o' source, hfragment o source]
  · rw [hpage o' source, hpage o source]

end TurtleMarkup.Html
