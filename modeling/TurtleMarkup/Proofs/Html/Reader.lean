import TurtleMarkup.Html.Node
import TurtleMarkup.Proofs.Html.Escape

/-!
# Reading markup

A reader of plain markup that shares nothing with the writer.  `events?` finds
the tags, each from `<` to the next `>`, and decodes the text between them;
`tree?` builds elements from the tags and refuses tags that are not properly
nested.

Reading what was written gives the nodes back (`read?_writeAll`), except that
texts side by side have become one text and an empty text is gone, which
`settle` does to the nodes.  The only thing asked of the nodes is that their
tags are names: their texts and classes may hold any characters.
-/

namespace TurtleMarkup.Html

/-! ## Events -/

/-- What a reader comes across: a tag, or the text up to the next tag. -/
inductive Event where
  /-- A tag that opens an element, with the class it gives. -/
  | opening (tag : Text) (cls : Option Text)
  /-- A tag that closes an element. -/
  | closing (tag : Text)
  /-- Text between tags. -/
  | text (t : Text)
deriving DecidableEq, Repr

/-- Whether a text may be the name of a tag. -/
def isName (t : Text) : Bool := !t.isEmpty && t.all Char.isAlphanum

/-- What stands before the value of a class. -/
def classMarker : Text := " class=\"".toList

/-- The value between double quotes in what stands behind the name of a tag. -/
def classValue? (t : Text) : Option Text :=
  if classMarker.isPrefixOf t then
    let value := t.drop classMarker.length
    if value.dropWhile (· != '"') = ['"'] then some (value.takeWhile (· != '"')) else none
  else none

/-- The tag with the given text between its angle brackets. -/
def tag? : Text → Option Event
  | '/' :: name => if isName name then some (.closing name) else none
  | body =>
    let name := body.takeWhile (· != ' ')
    if isName name then
      match body.dropWhile (· != ' ') with
      | [] => some (.opening name none)
      | rest => (classValue? rest).map fun value => .opening name (some (decode value))
    else none

/-- The events of a text: a tag reaches from `<` to the next `>`, and a text to the next `<`. -/
def events? (t : Text) : Option (List Event) :=
  match t with
  | [] => some []
  | c :: cs =>
    if c = '<' then
      match _h : cs.dropWhile (· != '>') with
      | [] => none
      | _ :: rest => (tag? (cs.takeWhile (· != '>'))).bind fun e => (events? rest).map (e :: ·)
    else
      (events? (cs.dropWhile (· != '<'))).map
        (.text (decode (c :: cs.takeWhile (· != '<'))) :: ·)
termination_by t.length
decreasing_by
  · have := (List.dropWhile_suffix (· != '>') (l := cs)).length_le
    simp only [_h, List.length_cons] at this ⊢
    omega
  · have := (List.dropWhile_suffix (· != '<') (l := cs)).length_le
    simp only [List.length_cons]
    omega

/-! ## Trees -/

/-- An element that has been opened and not yet closed, with the nodes in front of it, the nearest
first. -/
structure Frame where
  /-- The tag of the element. -/
  tag : Text
  /-- The class of the element. -/
  cls : Option Text
  /-- The nodes in front of the element. -/
  before : List Node

/-- The nodes that events spell, where `stack` holds the open elements, the innermost first, and
`done` the nodes of the innermost one so far, the nearest first. -/
def tree? (stack : List Frame) (done : List Node) : List Event → Option (List Node)
  | [] => if stack.isEmpty then some done.reverse else none
  | .text t :: es => tree? stack (.text t :: done) es
  | .opening tag cls :: es => tree? (⟨tag, cls, done⟩ :: stack) [] es
  | .closing tag :: es =>
    match stack with
    | [] => none
    | frame :: stack =>
      if frame.tag = tag then
        tree? stack (.element frame.tag frame.cls done.reverse :: frame.before) es
      else none

/-- The nodes that a text spells. -/
def read? (t : Text) : Option (List Node) := (events? t).bind (tree? [] [])

/-! ## Nodes as a reader finds them -/

/-- Induction over nodes one after another and over what the elements among them hold. -/
@[elab_as_elim]
theorem nodes_induction {motive : List Node → Prop} (nil : motive [])
    (text : ∀ t ns, motive ns → motive (.text t :: ns))
    (element : ∀ tag cls children ns, motive children → motive ns →
      motive (.element tag cls children :: ns)) (ns : List Node) : motive ns :=
  match ns with
  | [] => nil
  | .text t :: ns => text t ns (nodes_induction nil text element ns)
  | .element tag cls children :: ns =>
    element tag cls children ns (nodes_induction nil text element children)
      (nodes_induction nil text element ns)

/-- Whether all tags are names. -/
def named : List Node → Bool
  | [] => true
  | .text _ :: ns => named ns
  | .element tag _ children :: ns => isName tag && named children && named ns

/-- A text as nodes; an empty one is none. -/
def textNode (t : Text) : List Node := if t.isEmpty then [] else [.text t]

/-- The nodes behind the text `pending`, with texts side by side put together. -/
def settleFrom (pending : Text) : List Node → List Node
  | [] => textNode pending
  | .text t :: ns => settleFrom (pending ++ t) ns
  | .element tag cls children :: ns =>
    textNode pending ++ .element tag cls (settleFrom [] children) :: settleFrom [] ns

/-- Nodes with texts side by side put together and empty texts left out. -/
def settle (ns : List Node) : List Node := settleFrom [] ns

/-- The events of nodes one after another. -/
def eventsOf : List Node → List Event
  | [] => []
  | .text t :: ns => .text t :: eventsOf ns
  | .element tag cls children :: ns =>
    .opening tag cls :: (eventsOf children ++ .closing tag :: eventsOf ns)

theorem eventsOf_append (a b : List Node) : eventsOf (a ++ b) = eventsOf a ++ eventsOf b := by
  induction a with
  | nil => simp [eventsOf]
  | cons n a ih => cases n <;> simp [eventsOf, ih]

/-- Building the tree of the events of nodes adds these nodes to what is done. -/
theorem tree?_eventsOf_append (ns : List Node) (stack : List Frame) (done : List Node)
    (es : List Event) :
    tree? stack done (eventsOf ns ++ es) = tree? stack (ns.reverse ++ done) es := by
  induction ns using nodes_induction generalizing stack done es with
  | nil => rw [eventsOf, List.nil_append, List.reverse_nil, List.nil_append]
  | text t ns ih =>
    rw [eventsOf, List.cons_append, tree?, ih, List.reverse_cons, List.append_assoc]
    rfl
  | element tag cls children ns ihc ih =>
    rw [eventsOf, List.cons_append, tree?, List.append_assoc, ihc, List.cons_append, tree?]
    -- the closing tag meets the frame of its own opening tag
    simp only [if_true, List.append_nil, List.reverse_reverse]
    rw [ih, List.reverse_cons, List.append_assoc]
    rfl

theorem tree?_eventsOf (ns : List Node) : tree? [] [] (eventsOf ns) = some ns := by
  have h := tree?_eventsOf_append ns [] [] []
  rw [List.append_nil, List.append_nil] at h
  simp [h, tree?]

/-! ## Events of tags -/

section Stops

variable {a : Text} {d : Char}

theorem takeWhile_ne_append (h : d ∉ a) (rest : Text) :
    (a ++ d :: rest).takeWhile (· != d) = a := by
  have ha : ∀ c ∈ a, (c != d) = true := fun c hc => bne_iff_ne.2 fun hcd => h (hcd ▸ hc)
  rw [List.takeWhile_append_of_pos ha, List.takeWhile_cons_of_neg (by simp), List.append_nil]

theorem dropWhile_ne_append (h : d ∉ a) (rest : Text) :
    (a ++ d :: rest).dropWhile (· != d) = d :: rest := by
  have ha : ∀ c ∈ a, (c != d) = true := fun c hc => bne_iff_ne.2 fun hcd => h (hcd ▸ hc)
  rw [List.dropWhile_append_of_pos ha, List.dropWhile_cons_of_neg (by simp)]

end Stops

theorem not_mem_of_isName {tag : Text} (h : isName tag) {d : Char} (hd : d.isAlphanum = false) :
    d ∉ tag := by
  intro hmem
  have hall : tag.all Char.isAlphanum = true := (Bool.and_eq_true_iff.1 h).2
  rw [List.all_eq_true.1 hall d hmem] at hd
  contradiction

/-- What stands behind the name of a tag. -/
def classText : Option Text → Text
  | some c => classMarker ++ (escapeAttribute c ++ ['"'])
  | none => []

theorem openingTag_eq (tag : Text) (cls : Option Text) :
    openingTag tag cls = '<' :: (tag ++ classText cls ++ ['>']) := by
  cases cls with
  | none => simp only [openingTag, classText, List.append_nil, List.cons_append]
  | some c =>
    show '<' :: tag ++ (classMarker ++ escapeAttribute c ++ ['"']) ++ ['>'] = _
    rw [classText, List.append_assoc classMarker, List.cons_append, List.cons_append]

theorem closingTag_eq (tag : Text) : closingTag tag = '<' :: ('/' :: tag ++ ['>']) := by
  simp [closingTag]

theorem ne_of_mem_name {tag : Text} (h : isName tag) {d : Char} (hd : d ∈ tag) :
    d ≠ '<' ∧ d ≠ '>' :=
  ⟨fun heq => not_mem_of_isName h (by decide) (heq ▸ hd),
    fun heq => not_mem_of_isName h (by decide) (heq ▸ hd)⟩

theorem ne_of_mem_classText {cls : Option Text} {d : Char} (hd : d ∈ classText cls) :
    d ≠ '<' ∧ d ≠ '>' := by
  cases cls with
  | none => exact absurd hd List.not_mem_nil
  | some c =>
    rcases List.mem_append.1 hd with hmarker | hrest
    · have hall : classMarker.all fun c => c ≠ '<' ∧ c ≠ '>' := by decide
      exact of_decide_eq_true (List.all_eq_true.1 hall d hmarker)
    · rcases List.mem_append.1 hrest with hvalue | hquote
      · exact ⟨(ne_of_mem_escapeAttribute hvalue).1, (ne_of_mem_escapeAttribute hvalue).2.1⟩
      · rw [List.mem_singleton.1 hquote]
        decide

/-- No angle bracket stands between those of an opening tag. -/
theorem ne_of_mem_opening {tag : Text} (h : isName tag) {cls : Option Text} {d : Char}
    (hd : d ∈ tag ++ classText cls) : d ≠ '<' ∧ d ≠ '>' := by
  rcases List.mem_append.1 hd with hname | hclass
  · exact ne_of_mem_name h hname
  · exact ne_of_mem_classText hclass

/-- No angle bracket stands between those of a closing tag. -/
theorem ne_of_mem_closing {tag : Text} (h : isName tag) {d : Char} (hd : d ∈ '/' :: tag) :
    d ≠ '<' ∧ d ≠ '>' := by
  rcases List.mem_cons.1 hd with rfl | hname
  · decide
  · exact ne_of_mem_name h hname

/-- The value of a class is found, however many of its characters are special. -/
theorem classValue?_classText (c : Text) :
    classValue? (classText (some c)) = some (escapeAttribute c) := by
  have hq : '"' ∉ escapeAttribute c := fun h => (ne_of_mem_escapeAttribute h).2.2 rfl
  have hmarker : classMarker.isPrefixOf (classText (some c)) = true := by
    rw [List.isPrefixOf_iff_prefix]
    exact List.prefix_append _ _
  have hvalue : (classText (some c)).drop classMarker.length = escapeAttribute c ++ ['"'] := by
    rw [classText, List.drop_left]
  rw [classValue?, if_pos hmarker, hvalue]
  simp only [dropWhile_ne_append hq, takeWhile_ne_append hq, if_true]

theorem tag?_closing {tag : Text} (h : isName tag) : tag? ('/' :: tag) = some (.closing tag) := by
  rw [tag?, if_pos h]

theorem tag?_opening {tag : Text} (h : isName tag) (cls : Option Text) :
    tag? (tag ++ classText cls) = some (.opening tag cls) := by
  have hspace : ' ' ∉ tag := not_mem_of_isName h (by decide)
  have hslash : ∀ name, tag ++ classText cls ≠ '/' :: name := by
    intro name heq
    cases tag with
    | nil => exact absurd h (by decide)
    | cons c tag =>
      rw [List.cons_append, List.cons.injEq] at heq
      exact not_mem_of_isName h (d := '/') (by decide) (heq.1 ▸ List.mem_cons_self)
  cases cls with
  | none =>
    have hall : ∀ c ∈ tag, (c != ' ') = true := fun c hc => bne_iff_ne.2 fun heq => hspace (heq ▸ hc)
    rw [tag?.eq_2 _ hslash, classText, List.takeWhile_append_of_pos hall,
      List.dropWhile_append_of_pos hall]
    simp only [List.takeWhile_nil, List.dropWhile_nil, List.append_nil, if_pos h]
  | some c =>
    have hvalue := classValue?_classText c
    -- the first blank of the tag is the one in front of the class
    obtain ⟨rest, hrest⟩ : ∃ rest, classText (some c) = ' ' :: rest := ⟨_, rfl⟩
    rw [hrest] at hvalue hslash ⊢
    rw [tag?.eq_2 _ hslash, takeWhile_ne_append hspace, dropWhile_ne_append hspace]
    simp only [if_pos h, hvalue, Option.map_some, decode_escapeAttribute]

/-- A tag is read up to its first `>`. -/
theorem events?_tag {body rest : Text} {e : Event} {es : List Event} (hbody : '>' ∉ body)
    (he : tag? body = some e) (hes : events? rest = some es) :
    events? ('<' :: (body ++ ['>']) ++ rest) = some (e :: es) := by
  have happ : '<' :: (body ++ ['>']) ++ rest = '<' :: (body ++ '>' :: rest) := by simp
  rw [happ, events?, if_pos rfl]
  split
  · rename_i h
    rw [dropWhile_ne_append hbody] at h
    contradiction
  · rename_i h
    rw [dropWhile_ne_append hbody, List.cons.injEq] at h
    rw [takeWhile_ne_append hbody, he, ← h.2, hes]
    rfl

theorem events?_openingTag_append {tag rest : Text} {es : List Event} (h : isName tag)
    (cls : Option Text) (hes : events? rest = some es) :
    events? (openingTag tag cls ++ rest) = some (.opening tag cls :: es) := by
  rw [openingTag_eq]
  exact events?_tag (fun hmem => (ne_of_mem_opening h hmem).2 rfl) (tag?_opening h cls) hes

theorem events?_closingTag_append {tag rest : Text} {es : List Event} (h : isName tag)
    (hes : events? rest = some es) :
    events? (closingTag tag ++ rest) = some (.closing tag :: es) := by
  rw [closingTag_eq]
  exact events?_tag (fun hmem => (ne_of_mem_closing h hmem).2 rfl) (tag?_closing h) hes

/-! ## Events of text -/

/-- The text is at its end or goes on with a tag. -/
def AtTag (t : Text) : Prop := ∀ c ∈ t.head?, c = '<'

theorem atTag_nil : AtTag [] := by simp [AtTag]

theorem atTag_openingTag_append (tag : Text) (cls : Option Text) (rest : Text) :
    AtTag (openingTag tag cls ++ rest) := by
  rw [openingTag_eq]
  simp [AtTag]

theorem atTag_closingTag_append (tag rest : Text) : AtTag (closingTag tag ++ rest) := by
  rw [closingTag_eq]
  simp [AtTag]

/-- An escaped text is read up to the next tag, and decoded. -/
theorem events?_escape_append (t : Text) {rest : Text} {es : List Event} (hrest : AtTag rest)
    (hes : events? rest = some es) :
    events? (escape t ++ rest) = some (eventsOf (textNode t) ++ es) := by
  have hlt : ∀ c ∈ escape t, (c != '<') = true := fun c hc => bne_iff_ne.2 (ne_of_mem_escape hc).1
  have htake : rest.takeWhile (· != '<') = [] := by
    cases rest with
    | nil => rfl
    | cons c rest => rw [hrest c rfl, List.takeWhile_cons_of_neg (by decide)]
  have hdrop : rest.dropWhile (· != '<') = rest := by
    cases rest with
    | nil => rfl
    | cons c rest => rw [hrest c rfl, List.dropWhile_cons_of_neg (by decide)]
  have hdecode := decode_escape t
  cases hescape : escape t with
  | nil =>
    rw [hescape, decode_nil] at hdecode
    simp [← hdecode, hes, textNode, eventsOf]
  | cons c cs =>
    rw [hescape] at hlt hdecode
    have hc : c ≠ '<' := bne_iff_ne.1 (hlt c List.mem_cons_self)
    have hcs : ∀ c ∈ cs, (c != '<') = true := fun c hc => hlt c (List.mem_cons_of_mem _ hc)
    have ht : t ≠ [] := by
      rintro rfl
      exact absurd hescape (by simp [escape])
    rw [List.cons_append, events?, if_neg hc, List.takeWhile_append_of_pos hcs, htake,
      List.append_nil, List.dropWhile_append_of_pos hcs, hdrop, hes, hdecode]
    simp [textNode, ht, eventsOf]

/-! ## Reading what was written -/

/-- The events of written nodes behind an escaped text. -/
theorem events?_writeAll_append {ns : List Node} (h : named ns) (pending : Text) {rest : Text}
    {es : List Event} (hrest : AtTag rest) (hes : events? rest = some es) :
    events? (escape pending ++ (writeAll ns ++ rest))
      = some (eventsOf (settleFrom pending ns) ++ es) := by
  induction ns using nodes_induction generalizing pending rest es with
  | nil =>
    rw [writeAll, List.nil_append, settleFrom]
    exact events?_escape_append pending hrest hes
  | text t ns ih =>
    rw [named] at h
    rw [writeAll, Node.write, settleFrom, List.append_assoc, ← List.append_assoc, ← escape_append]
    exact ih h (pending ++ t) hrest hes
  | element tag cls children ns ihc ih =>
    rw [named, Bool.and_eq_true, Bool.and_eq_true] at h
    obtain ⟨⟨htag, hchildren⟩, hns⟩ := h
    have hafter : events? (writeAll ns ++ rest) = some (eventsOf (settleFrom [] ns) ++ es) :=
      ih hns [] hrest hes
    have hclose := events?_closingTag_append htag hafter
    have hinside : events? (writeAll children ++ (closingTag tag ++ (writeAll ns ++ rest))) = _ :=
      ihc hchildren [] (atTag_closingTag_append tag _) hclose
    have hopen := events?_openingTag_append htag cls hinside
    rw [writeAll, Node.write, settleFrom, eventsOf_append, eventsOf]
    simp only [List.append_assoc, List.cons_append]
    exact events?_escape_append pending (atTag_openingTag_append tag cls _) hopen

/-- Reading written nodes gives them back. -/
theorem read?_writeAll {ns : List Node} (h : named ns) : read? (writeAll ns) = some (settle ns) := by
  have hevents : events? (writeAll ns) = some (eventsOf (settle ns)) := by
    have hempty : events? [] = some [] := by rw [events?]
    have hall := events?_writeAll_append h [] atTag_nil hempty
    rwa [List.append_nil, List.append_nil] at hall
  rw [read?, hevents, Option.bind_some, tree?_eventsOf]

/-- Elements that overlap are refused. -/
example : (read? "<b><i></b></i>".toList).isNone := by decide +kernel

end TurtleMarkup.Html
