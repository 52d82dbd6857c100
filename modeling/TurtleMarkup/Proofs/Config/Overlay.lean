import Mathlib.Data.List.Nodup
import TurtleMarkup.Config.Store
import TurtleMarkup.Proofs.Toml.Assignments
import TurtleMarkup.Proofs.Toml.Quoted

/-!
# Settings files are overlays on the defaults

A settings file gives some of the settings, each at most once and in any order, and
may give values to other keys, which are ignored.  Loading it gives the default
settings with those of the file in place (`Config.load_overlays_defaults`), wherever
comments, blank lines and other keys stand, and however the values are spelled.

The entry in front decides last: it is looked up before all others, and `overlay`
puts it in place after all others.  So the two agree by induction on the entries
(`Config.gives_foldr`), and order does not matter because different settings are
put in place independently (`Config.overlay_perm`).
-/

namespace TurtleMarkup.Config

open Toml (Assignment Entries IsDocumentOf Scalar Value)

/-! ## Settings and other lines -/

/-- The fields of the settings. -/
inductive Field where
  | classPrefix
  | classNames
  | wrapLines
  | preClass
  | decodeEntities
deriving DecidableEq

/-- The key of a field. -/
def Field.key : Field → String
  | .classPrefix => "class_prefix"
  | .classNames => "class_names"
  | .wrapLines => "wrap_lines"
  | .preClass => "pre_class"
  | .decodeEntities => "decode_entities"

theorem Field.key_inj : ∀ f g : Field, f.key.toList = g.key.toList ↔ f = g := by
  intro f g
  cases f <;> cases g <;> decide

/-- A setting: a field with a value. -/
inductive Setting where
  | classPrefix (t : Text)
  | classNames (names : Html.ClassNames)
  | wrapLines (b : Bool)
  | preClass (t : Text)
  | decodeEntities (b : Bool)

namespace Setting

/-- The field of a setting. -/
def field : Setting → Field
  | .classPrefix _ => .classPrefix
  | .classNames _ => .classNames
  | .wrapLines _ => .wrapLines
  | .preClass _ => .preClass
  | .decodeEntities _ => .decodeEntities

/-- The value of a setting as a scalar. -/
def scalar : Setting → Scalar
  | .classPrefix t => .string t
  | .classNames names => .string (classNamesName names)
  | .wrapLines b => .boolean b
  | .preClass t => .string t
  | .decodeEntities b => .boolean b

/-- The settings with this one in place. -/
def apply : Setting → Config → Config
  | .classPrefix t, c => { c with classPrefix := t }
  | .classNames names, c => { c with classNames := names }
  | .wrapLines b, c => { c with wrapLines := b }
  | .preClass t, c => { c with preClass := t }
  | .decodeEntities b, c => { c with decodeEntities := b }

end Setting

theorem Field.isBareKey_key (f : Field) : Toml.IsBareKey f.key.toList := by
  cases f <;> decide

/-- What a line of a settings file gives: a setting in some spelling, or a value for a key that
is none of a field. -/
inductive Item where
  | setting (s : Setting) (spelling : Text) (spells : s.scalar.Spells spelling)
  | ignored (a : Assignment) (other : ∀ f : Field, f.key.toList ≠ a.key)

namespace Item

/-- The assignment that the line makes. -/
def assignment : Item → Assignment
  | .setting s w h => ⟨s.field.key.toList, s.scalar, w, s.field.isBareKey_key, h⟩
  | .ignored a _ => a

/-- The settings with that of the line in place. -/
def apply : Item → Config → Config
  | .setting s _ _ => s.apply
  | .ignored _ _ => id

end Item

/-- The default settings with those of the lines in place. -/
def overlay (items : List Item) : Config := items.foldr Item.apply {}

/-! ## Order does not matter -/

/-- Different settings are put in place independently. -/
theorem Setting.apply_comm {s t : Setting} (h : s.field ≠ t.field) (c : Config) :
    s.apply (t.apply c) = t.apply (s.apply c) := by
  cases s <;> cases t <;> simp_all [field, apply]

theorem Item.apply_comm {i j : Item} (h : i.assignment.key ≠ j.assignment.key) (c : Config) :
    i.apply (j.apply c) = j.apply (i.apply c) := by
  cases i with
  | ignored => rfl
  | setting s =>
    cases j with
    | ignored => rfl
    | setting t => exact Setting.apply_comm (fun heq => h ((Field.key_inj _ _).2 heq)) c

theorem overlay_perm {items other : List Item}
    (hkeys : (items.map fun i => i.assignment.key).Nodup) (h : other.Perm items) :
    overlay other = overlay items := by
  refine (h.symm.foldr_eq' (fun i hi j hj c => ?_) ({} : Config)).symm
  by_cases hkey : i.assignment.key = j.assignment.key
  · rw [List.inj_on_of_nodup_map hkeys hi hj hkey]
  · exact Item.apply_comm (Ne.symm hkey) c

/-! ## The settings of a document -/

/-- The entries give the settings `c`: each by its key, or else as `d` has it. -/
structure Gives (d : Config) (es : Entries) (c : Config) : Prop where
  classPrefix : setting es (Field.key .classPrefix) d.classPrefix text? = some c.classPrefix
  classNames : setting es (Field.key .classNames) d.classNames classNames? = some c.classNames
  wrapLines : setting es (Field.key .wrapLines) d.wrapLines flag? = some c.wrapLines
  preClass : setting es (Field.key .preClass) d.preClass text? = some c.preClass
  decodeEntities :
    setting es (Field.key .decodeEntities) d.decodeEntities flag? = some c.decodeEntities

theorem ofEntries?_of_gives {es : Entries} {c : Config} (h : Gives {} es c) :
    ofEntries? es = some c := by
  obtain ⟨h₁, h₂, h₃, h₄, h₅⟩ := h
  simp only [Field.key] at h₁ h₂ h₃ h₄ h₅
  simp only [ofEntries?, h₁, h₂, h₃, h₄, h₅, Option.bind_eq_bind, Option.bind_some]

section

variable {α : Type} (v : Value) (es : Entries) (d : α) (read? : Value → Option α)

theorem setting_cons_of_ne {k : Text} {key : String} (h : key.toList ≠ k) :
    setting ((k, v) :: es) key d read? = setting es key d read? := by
  unfold setting
  rw [List.lookup_cons, beq_eq_false_iff_ne.2 h]

theorem setting_cons (f g : Field) :
    setting ((f.key.toList, v) :: es) g.key d read?
      = if g = f then read? v else setting es g.key d read? := by
  split_ifs with h
  · unfold setting
    rw [h, List.lookup_cons, beq_self_eq_true]
  · exact setting_cons_of_ne v es d read? fun heq => h ((Field.key_inj g f).1 heq)

end

theorem classNamesOfName?_classNamesName (names : Html.ClassNames) :
    classNamesOfName? (classNamesName names) = some names := by
  cases names <;> rfl

theorem Gives.cons_setting {d : Config} {es : Entries} {c : Config} (h : Gives d es c)
    (s : Setting) (w : Text) :
    Gives d ((s.field.key.toList, s.scalar.toValue w) :: es) (s.apply c) := by
  cases s <;> constructor <;>
    simp [setting_cons, Setting.field, Setting.scalar, Setting.apply, Scalar.toValue, text?,
      flag?, classNames?, classNamesOfName?_classNamesName, h.classPrefix, h.classNames,
      h.wrapLines, h.preClass, h.decodeEntities]

theorem Gives.cons_ignored {d : Config} {es : Entries} {c : Config} (h : Gives d es c) {k : Text}
    (hk : ∀ f : Field, f.key.toList ≠ k) (v : Value) : Gives d ((k, v) :: es) c := by
  constructor
  · rw [setting_cons_of_ne _ _ _ _ (hk _), h.classPrefix]
  · rw [setting_cons_of_ne _ _ _ _ (hk _), h.classNames]
  · rw [setting_cons_of_ne _ _ _ _ (hk _), h.wrapLines]
  · rw [setting_cons_of_ne _ _ _ _ (hk _), h.preClass]
  · rw [setting_cons_of_ne _ _ _ _ (hk _), h.decodeEntities]

theorem gives_foldr (d : Config) (items : List Item) :
    Gives d ((items.map Item.assignment).map Assignment.entry) (items.foldr Item.apply d) := by
  induction items with
  | nil => exact ⟨rfl, rfl, rfl, rfl, rfl⟩
  | cons i items ih =>
    cases i with
    | setting s w => exact ih.cons_setting s w
    | ignored a hk => exact ih.cons_ignored hk _

theorem read?_of_document {items : List Item} {doc : Text}
    (h : IsDocumentOf (items.map Item.assignment) doc)
    (hkeys : (items.map fun i => i.assignment.key).Nodup)
    (hrange : ∀ i ∈ items, i.assignment.scalar.InRange) : read? doc = some (overlay items) := by
  have hkeys : ((items.map Item.assignment).map Assignment.key).Nodup := by
    rwa [List.map_map]
  rw [read?, Toml.parse?_document h, if_pos hkeys,
    Toml.mapM_entry?_of_inRange (List.forall_mem_map.2 hrange), Option.bind_some,
    ofEntries?_of_gives (gives_foldr {} items), overlay]

theorem read?_eq_none_of_document {l : List Assignment} {doc : Text} (h : IsDocumentOf l doc)
    (hl : ¬ (l.map Assignment.key).Nodup ∨ ∃ a ∈ l, ¬ a.scalar.InRange) : read? doc = none := by
  rw [read?, Toml.parse?_document h]
  rcases hl with hkeys | ⟨a, ha, hrange⟩
  · rw [if_neg hkeys, Option.bind_none]
  · rw [Toml.mapM_entry?_of_not_inRange ha hrange, ite_self, Option.bind_none]

/-! ## Loading -/

theorem ofLookup_encode (path t : Text) :
    ofLookup path (.content (Text.encode t))
      = (read? t).elim (.error (.malformed path)) fun c => .ok (some c) := by
  simp only [ofLookup, Files.Lookup.text?, Files.textOf, Text.decode?_encode]
  cases read? t <;> rfl

/-- **A settings file is an overlay on the defaults.**  A document of settings and other lines with
different keys, all of whose numbers are in range, gives the default settings with those of the
document in place, in whatever order they stand.  A document is refused if a key stands there twice,
whatever the values are, or if a number is out of range. -/
theorem load_overlays_defaults (env : Environment) (look : Text → Files.Lookup) (template : Text)
    {doc : Text} (hfound : look (Template.expand env template) = .content (Text.encode doc)) :
    (∀ items : List Item, IsDocumentOf (items.map Item.assignment) doc →
      (items.map fun i => i.assignment.key).Nodup →
      (∀ i ∈ items, i.assignment.scalar.InRange) →
      load env look template = .ok (some (overlay items)) ∧
        ∀ other : List Item, other.Perm items → overlay other = overlay items) ∧
    ∀ l : List Assignment, IsDocumentOf l doc →
      (¬ (l.map Assignment.key).Nodup ∨ ∃ a ∈ l, ¬ a.scalar.InRange) →
      load env look template = .error (.malformed (Template.expand env template)) := by
  constructor
  · intro items hdoc hkeys hrange
    refine ⟨?_, fun other hperm => overlay_perm hkeys hperm⟩
    rw [load, hfound, ofLookup_encode, read?_of_document hdoc hkeys hrange]
    rfl
  · intro l hdoc hl
    rw [load, hfound, ofLookup_encode, read?_eq_none_of_document hdoc hl]
    rfl

/-- A document with both line endings, comments, an empty line, no line ending at its end and a key
that is ignored sets its one setting; with that key twice a document is refused. -/
theorem load_overlays_defaults_mixed_lines :
    (∃ items : List Item,
      IsDocumentOf (items.map Item.assignment) "# a\r\n\nx\t=0b1_0# b\n wrap_lines=false".toList ∧
      (items.map fun i => i.assignment.key).Nodup ∧
      (∀ i ∈ items, i.assignment.scalar.InRange) ∧
      load {}
          (fun _ => .content (Text.encode "# a\r\n\nx\t=0b1_0# b\n wrap_lines=false".toList)) ['c']
        = .ok (some { wrapLines := false })) ∧
    ∃ l : List Assignment, IsDocumentOf l "x = 0b1_0\nx = true\n".toList ∧
      ¬ (l.map Assignment.key).Nodup ∧
      load {} (fun _ => .content (Text.encode "x = 0b1_0\nx = true\n".toList)) ['c']
        = .error (.malformed ['c']) := by
  have hblanks {b : Text} (h : b.all Toml.isBlank = true) : Toml.IsBlanks b := List.all_eq_true.1 h
  have hcomment {t : Text} (h : t.all Toml.isTextChar = true) : Toml.IsFiller ('#' :: t) :=
    .comment (hblanks (b := []) rfl) (List.all_eq_true.1 h)
  have hnone : Toml.IsFiller [] := .blanks (hblanks rfl)
  have hdigits : Text.Denotes 2 2 ['1', '0'] := ⟨by decide, List.all_eq_true.1 rfl, rfl⟩
  have htwo : Toml.SpellsInteger (2 : Nat) ['0', 'b', '1', '_', '0'] :=
    .based (by decide) hdigits (.underscore '1' (.single '0'))
  let x : Assignment := ⟨['x'], .integer 2, _, by decide, .word (.integer htwo)⟩
  have hother (f : Field) : f.key.toList ≠ ['x'] := by cases f <;> decide
  let wrap : Item := .setting (.wrapLines false) _ (.word .false)
  let items : List Item := [.ignored x hother, wrap]
  have hlast := IsDocumentOf.assignment wrap.assignment (hblanks (b := [' ']) rfl)
    (hblanks (b := []) rfl) (hblanks (b := []) rfl) hnone (.last rfl) .empty
  have hfirst := hlast.assignment x (hblanks (b := []) rfl) (hblanks (b := ['\t']) rfl)
    (hblanks (b := []) rfl) (hcomment (t := [' ', 'b']) rfl) (.lineEnd (.inl rfl))
  have hdoc := (hfirst.filler hnone (.lineEnd (.inl rfl))).filler
    (hcomment (t := [' ', 'a']) rfl) (.lineEnd (.inr rfl))
  have hkeys : (items.map fun i => i.assignment.key).Nodup := by
    show [['x'], "wrap_lines".toList].Nodup
    decide
  have hfits : Toml.fits 2 = true := by decide +kernel
  have hrange : ∀ i ∈ items, i.assignment.scalar.InRange := by
    simp [items, wrap, x, Item.assignment, Setting.scalar, Scalar.InRange, hfits]
  have hlines := Toml.isDocumentOf_lines [x, ⟨['x'], .boolean true, _, by decide, .word .true⟩]
  have hdouble : ¬ [['x'], ['x']].Nodup := by decide
  have hpath : Template.expand {} ['c'] = ['c'] := by decide +kernel
  refine ⟨⟨items, hdoc, hkeys, hrange, ?_⟩, _, hlines, hdouble, ?_⟩
  · exact ((load_overlays_defaults {} _ ['c'] rfl).1 items hdoc hkeys hrange).1
  · rw [(load_overlays_defaults {} _ ['c'] rfl).2 _ hlines (.inl hdouble), hpath]

/-- Not every scalar may stand in a settings file: a float that is too large makes it unreadable,
although its key is ignored. -/
theorem load_refuses_large_float :
    ∃ items : List Item, IsDocumentOf (items.map Item.assignment) "x = 1e309\n".toList ∧
      (items.map fun i => i.assignment.key).Nodup ∧
      load {} (fun _ => .content (Text.encode "x = 1e309\n".toList)) ['c']
        ≠ .ok (some (overlay items)) := by
  have hone : Text.Denotes 10 1 ['1'] := ⟨by decide, List.all_eq_true.1 rfl, rfl⟩
  have hexponent : Text.Denotes 10 309 ['3', '0', '9'] := ⟨by decide, List.all_eq_true.1 rfl, rfl⟩
  have hspells : Toml.SpellsFloat 1 309 ['1', 'e', '3', '0', '9'] :=
    .mk .none hone (by intro h; cases h) (.single '1') .none
      (.some .none (.inl rfl) hexponent (.self hexponent.ne_nil)) (List.cons_ne_nil _ _)
  let x : Assignment := ⟨['x'], .float 1 309, _, by decide, .word (.float hspells)⟩
  have hother (f : Field) : f.key.toList ≠ ['x'] := by cases f <;> decide
  have hlarge : ¬ Toml.IsBelow Toml.floatLimit 1 309 := by decide +kernel
  have hdoc := Toml.isDocumentOf_lines [x]
  have hread : read? "x = 1e309\n".toList = none :=
    read?_eq_none_of_document hdoc (.inr ⟨x, List.mem_singleton_self x, hlarge⟩)
  refine ⟨[.ignored x hother], hdoc, List.nodup_singleton _, ?_⟩
  rw [load, ofLookup_encode, hread]
  intro h
  cases h

end TurtleMarkup.Config
