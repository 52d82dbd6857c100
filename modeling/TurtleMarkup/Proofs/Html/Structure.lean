import TurtleMarkup.Html.Page
import TurtleMarkup.Proofs.Html.Reader

/-!
# The structure of a page

What a page stands for is fixed by the block and the options alone: `linesTree`
writes it down token by token and line by line.  Reading a page gives this tree
inside a `pre` element, whatever characters the source and the classes hold and
whatever the spans of the block are.  The angle brackets of a page are those of
its tags, so their number (`elementCount`) depends on the categories of the
tokens and on `wrapLines` and on nothing else.
-/

namespace TurtleMarkup.Html

/-! ## The intended tree -/

/-- Whether the tokens of a line are a single comment. -/
def loneComment (l : Line) : Bool := l.tokens.map Token.kind == [.comment]

/-- The class of the element of a token with a label. -/
def tokenClass (o : Options) (kind : Kind) : Text :=
  o.classPrefix ++ (o.classNames.label? kind).getD []

/-- A plain token is its text, and every other token an element around its text. -/
def tokenTree (o : Options) (b : Block) (t : Token) : Node :=
  if t.kind = .plain then .text (b.text t.span)
  else .element "span".toList (some (tokenClass o t.kind)) [.text (b.text t.span)]

/-- The tokens of a line in order, held by an element without a class when lines are wrapped and
the line is not a single comment. -/
def lineTree (o : Options) (b : Block) (l : Line) : List Node :=
  if o.wrapLines && !loneComment l then
    [.element "span".toList none (l.tokens.map (tokenTree o b))]
  else l.tokens.map (tokenTree o b)

/-- The lines in order, with a line feed behind every terminated line. -/
def linesTree (o : Options) (b : Block) : List Node :=
  b.lines.flatMap fun l => lineTree o b l ++ if l.terminated then [.text ['\n']] else []

theorem isComment_eq_loneComment (l : Line) : l.isComment = loneComment l := by
  unfold Line.isComment loneComment
  split
  · rename_i t h
    rw [h, List.map_singleton]
    cases t.kind <;> rfl
  · rename_i h
    symm
    rw [beq_eq_false_iff_ne]
    intro heq
    obtain ⟨t, ht, -⟩ := List.map_eq_singleton_iff.1 heq
    exact h t ht

/-- In both vocabularies exactly the plain category has no label. -/
theorem label?_eq_none_iff (names : ClassNames) (kind : Kind) :
    names.label? kind = none ↔ kind = .plain := by
  cases names <;> cases kind <;> decide

theorem tokenNode_eq_tokenTree (o : Options) (b : Block) (t : Token) :
    tokenNode o t.kind (b.text t.span) = tokenTree o b t := by
  unfold tokenNode tokenTree tokenClass
  cases hlabel : o.classNames.label? t.kind with
  | none => rw [if_pos ((label?_eq_none_iff _ _).1 hlabel)]
  | some label =>
    have hkind : t.kind ≠ .plain := fun h => by
      rw [(label?_eq_none_iff _ _).2 h] at hlabel
      contradiction
    rw [if_neg hkind]
    rfl

theorem lineNodes_eq_lineTree (o : Options) (b : Block) (l : Line) :
    lineNodes o b l = lineTree o b l := by
  unfold lineNodes lineTree span Block.parts
  simp only [List.map_map, Function.comp_def, tokenNode_eq_tokenTree, isComment_eq_loneComment]

theorem nodes_eq_linesTree (o : Options) (b : Block) : nodes o b = linesTree o b := by
  unfold nodes linesTree
  simp only [lineNodes_eq_lineTree]

theorem page_eq_writeAll (o : Options) (b : Block) :
    page o b = writeAll [.element "pre".toList (some o.preClass) (linesTree o b)] := by
  rw [page, pageNode, nodes_eq_linesTree, writeAll, writeAll, List.append_nil]

/-! ## Tags of the tree -/

theorem named_append (a b : List Node) : named (a ++ b) = (named a && named b) := by
  induction a with
  | nil => simp [named]
  | cons n a ih => cases n <;> simp [named, ih, Bool.and_assoc]

theorem named_flatMap {α : Type} {f : α → List Node} {l : List α} (h : ∀ x ∈ l, named (f x)) :
    named (l.flatMap f) := by
  induction l with
  | nil => simp [named]
  | cons x l ih =>
    rw [List.flatMap_cons, named_append, Bool.and_eq_true]
    exact ⟨h x List.mem_cons_self, ih fun y hy => h y (List.mem_cons_of_mem x hy)⟩

theorem isName_span : isName "span".toList = true := by decide

theorem isName_pre : isName "pre".toList = true := by decide

theorem named_map_tokenTree (o : Options) (b : Block) (ts : List Token) :
    named (ts.map (tokenTree o b)) := by
  induction ts with
  | nil => rw [List.map_nil, named]
  | cons t ts ih =>
    rw [List.map_cons, tokenTree]
    split
    · rwa [named]
    · simp only [named, isName_span, ih, Bool.and_self]

theorem named_lineTree (o : Options) (b : Block) (l : Line) : named (lineTree o b l) := by
  have htokens := named_map_tokenTree o b l.tokens
  unfold lineTree
  split
  · simp only [named, isName_span, htokens, Bool.and_self]
  · exact htokens

theorem named_linesTree (o : Options) (b : Block) : named (linesTree o b) := by
  refine named_flatMap fun l _ => ?_
  rw [named_append, named_lineTree, Bool.true_and]
  split <;> simp [named]

theorem named_page (o : Options) (b : Block) :
    named [.element "pre".toList (some o.preClass) (linesTree o b)] := by
  simp only [named, isName_pre, named_linesTree, Bool.and_self]

/-! ## Angle brackets of the markup -/

/-- The number of elements among nodes and inside them. -/
def elements : List Node → Nat
  | [] => 0
  | .text _ :: ns => elements ns
  | .element _ _ children :: ns => 1 + elements children + elements ns

theorem elements_append (a b : List Node) : elements (a ++ b) = elements a + elements b := by
  induction a with
  | nil => simp [elements]
  | cons n a ih => cases n <;> simp [elements, ih, Nat.add_assoc]

section Brackets

variable {d : Char} (hd : d = '<' ∨ d = '>')

include hd

theorem count_eq_zero_of_ne {t : Text} (h : ∀ c ∈ t, c ≠ '<' ∧ c ≠ '>') : t.count d = 0 := by
  rw [List.count_eq_zero]
  intro hmem
  rcases hd with rfl | rfl
  · exact (h _ hmem).1 rfl
  · exact (h _ hmem).2 rfl

theorem count_tag {body : Text} (h : ∀ c ∈ body, c ≠ '<' ∧ c ≠ '>') :
    ('<' :: (body ++ ['>'])).count d = 1 := by
  rw [List.count_cons, List.count_append, count_eq_zero_of_ne hd h]
  rcases hd with rfl | rfl <;> decide

/-- The angle brackets of written nodes are those of the two tags of each element. -/
theorem count_writeAll {ns : List Node} (h : named ns) :
    (writeAll ns).count d = 2 * elements ns := by
  induction ns using nodes_induction with
  | nil => rw [writeAll, elements, List.count_nil]
  | text t ns ih =>
    rw [named] at h
    have hescape : (escape t).count d = 0 := count_eq_zero_of_ne hd fun _ hc => ne_of_mem_escape hc
    rw [writeAll, Node.write, elements, List.count_append, hescape, ih h, Nat.zero_add]
  | element tag cls children ns ihc ih =>
    rw [named, Bool.and_eq_true, Bool.and_eq_true] at h
    obtain ⟨⟨htag, hchildren⟩, hns⟩ := h
    have hopen : (openingTag tag cls).count d = 1 := by
      rw [openingTag_eq]
      exact count_tag hd fun c hc => ne_of_mem_opening htag hc
    have hclose : (closingTag tag).count d = 1 := by
      rw [closingTag_eq]
      exact count_tag hd fun c hc => ne_of_mem_closing htag hc
    rw [writeAll, Node.write, elements]
    simp only [List.count_append, hopen, hclose, ihc hchildren, ih hns]
    omega

end Brackets

/-- The number of elements of a page: one for the page, one for every token with a label and one
for every wrapped line. -/
def elementCount (o : Options) (b : Block) : Nat :=
  1 + b.tokens.countP (·.kind != .plain)
    + if o.wrapLines then b.lines.countP (!loneComment ·) else 0

theorem elements_map_tokenTree (o : Options) (b : Block) (ts : List Token) :
    elements (ts.map (tokenTree o b)) = ts.countP (·.kind != .plain) := by
  induction ts with
  | nil => rw [List.map_nil, elements, List.countP_nil]
  | cons t ts ih =>
    rw [List.map_cons, tokenTree, List.countP_cons]
    by_cases h : t.kind = .plain
    · simp [h, elements, ih]
    · simp [h, elements, ih, Nat.add_comm]

theorem elements_lineTree (o : Options) (b : Block) (l : Line) :
    elements (lineTree o b l) = l.tokens.countP (·.kind != .plain)
      + if o.wrapLines && !loneComment l then 1 else 0 := by
  unfold lineTree
  split
  · rw [elements, elements, elements_map_tokenTree]
    omega
  · rw [elements_map_tokenTree, Nat.add_zero]

theorem elements_linesTree (o : Options) (b : Block) :
    1 + elements (linesTree o b) = elementCount o b := by
  unfold linesTree elementCount Block.tokens
  induction b.lines with
  | nil => simp [elements]
  | cons l ls ih =>
    have hfeed : elements (if l.terminated then [.text ['\n']] else []) = 0 := by
      split <;> simp [elements]
    rw [List.flatMap_cons, elements_append, elements_append, hfeed, elements_lineTree,
      List.flatMap_cons, List.countP_append, List.countP_cons]
    cases hwrap : o.wrapLines with
    | true =>
      rw [hwrap, if_pos rfl] at ih
      rw [Bool.true_and, if_pos rfl]
      omega
    | false =>
      rw [hwrap, if_neg Bool.false_ne_true] at ih
      rw [Bool.false_and, if_neg Bool.false_ne_true, if_neg Bool.false_ne_true]
      omega

/-! ## Reading a page -/

theorem settle_element (tag : Text) (cls : Option Text) (children : List Node) :
    settle [.element tag cls children] = [.element tag cls (settle children)] := by
  simp [settle, settleFrom, textNode]

/-- Reading a page gives the intended tree, with neighbouring texts as one, and every angle bracket
of the page belongs to a tag of this tree. -/
theorem page_reads_as_tree (o : Options) (b : Block) :
    read? (page o b) = some [.element "pre".toList (some o.preClass) (settle (linesTree o b))] ∧
      (page o b).count '<' = 2 * elementCount o b ∧
      (page o b).count '>' = 2 * elementCount o b := by
  have hnamed := named_page o b
  have helements : elements [.element "pre".toList (some o.preClass) (linesTree o b)]
      = elementCount o b := by
    rw [elements, elements, Nat.add_zero, elements_linesTree]
  rw [page_eq_writeAll, ← helements]
  refine ⟨?_, count_writeAll (.inl rfl) hnamed, count_writeAll (.inr rfl) hnamed⟩
  rw [read?_writeAll hnamed, settle_element]

end TurtleMarkup.Html
