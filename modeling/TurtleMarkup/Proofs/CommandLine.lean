import Mathlib.Data.List.Induction
import TurtleMarkup.Arguments

/-!
# The grammar of the command line

A command line is a sequence of items (`Arguments.Item`), each written with one
argument or, for a settings file, with two.  The second of the two may be anything,
so what an argument means depends on those before it; still a command line is read
in one way only (`Arguments.spell_injective`).

The arguments are accepted exactly if they spell items with at most one input file
among them, and then they ask for what the items say (`Arguments.ofItems`).
Otherwise the items reach up to a first place that offends (`Arguments.Offends`).
The walk from item to item ends in one of the two ways (`Arguments.reading_or_offence`),
and the parser follows it step by step (`Arguments.parseFrom_words_append`).
-/

namespace TurtleMarkup.Arguments

/-! ## Items -/

/-- One item of a command line. -/
inductive Item where
  /-- `-h`, or `--help` if it is spelled out. -/
  | help (long : Bool)
  /-- `--fragment`. -/
  | fragment
  /-- `--decode-entities`. -/
  | decodeEntities
  /-- `-`. -/
  | standardInput
  /-- `--config` and the argument behind it. -/
  | config (path : Text)
  /-- An input file, whose name does not start with a hyphen. -/
  | file (name : Text) (plain : name.head? ≠ some '-')

namespace Item

/-- The arguments that an item is written with. -/
def words : Item → List Text
  | .help false => ["-h".toList]
  | .help true => ["--help".toList]
  | .fragment => ["--fragment".toList]
  | .decodeEntities => ["--decode-entities".toList]
  | .standardInput => ["-".toList]
  | .config path => ["--config".toList, path]
  | .file name _ => [name]

/-- The sort of the first argument of an item. -/
def sort : Item → Word
  | .help _ => .help
  | .fragment => .fragment
  | .decodeEntities => .decodeEntities
  | .standardInput => .standardInput
  | .config _ => .config
  | .file _ _ => .file

/-- The settings file that an item names. -/
def path? : Item → Option Text
  | .config path => some path
  | _ => none

/-- The input file that an item names. -/
def file? : Item → Option Text
  | .file name _ => some name
  | _ => none

end Item

/-- The arguments that items are written with. -/
def spell (items : List Item) : List Text := items.flatMap Item.words

/-- The input files among items. -/
def files (items : List Item) : List Text := items.filterMap Item.file?

/-- What items ask for: each switch is set if an item sets it, the last settings file counts, and
the input is the input file, if there is one. -/
def ofItems (items : List Item) : Arguments where
  config := (items.filterMap Item.path?).getLast?
  fragment := items.any (·.sort == .fragment)
  decodeEntities := items.any (·.sort == .decodeEntities)
  input := (files items).head?
  help := items.any (·.sort == .help)

/-- The arguments that start with a hyphen and mean something. -/
def options : List Text :=
  ["-h".toList, "--help".toList, "--fragment".toList, "--decode-entities".toList,
    "--config".toList, "-".toList]

/-- The arguments behind the given items begin with one that cannot be read, for the reason that the
message gives. -/
inductive Offends (items : List Item) : List Text → Text → Prop where
  /-- Nothing follows `--config`. -/
  | missingPath : Offends items ["--config".toList] "--config requires a path".toList
  /-- The argument starts with a hyphen and means nothing. -/
  | unknownOption {o : Text} {rest : List Text} (hyphen : o.head? = some '-')
      (unknown : o ∉ options) :
      Offends items (o :: rest) ("unknown option '".toList ++ o ++ "'".toList)
  /-- The argument is an input file, and there is one among the items. -/
  | secondFile {name : Text} {rest : List Text} (plain : name.head? ≠ some '-')
      (earlier : files items ≠ []) :
      Offends items (name :: rest) "only one input file may be given".toList

@[simp] theorem spell_nil : spell [] = [] := rfl

@[simp] theorem spell_cons (item : Item) (items : List Item) :
    spell (item :: items) = item.words ++ spell items := rfl

@[simp] theorem spell_append (a b : List Item) : spell (a ++ b) = spell a ++ spell b := by
  simp [spell]

theorem files_concat (items : List Item) (item : Item) :
    files (items ++ [item]) = files items ++ item.file?.toList := by
  cases h : item.file? <;> simp [files, h]

/-- One item more keeps to one input file if it is none, or the first. -/
theorem length_files_concat {items : List Item} {item : Item} :
    (files (items ++ [item])).length ≤ 1 ↔
      (files items).length ≤ 1 ∧ (item.file? = none ∨ files items = []) := by
  rw [files_concat, List.length_append, ← List.length_eq_zero_iff]
  cases item.file? with
  | none => simp
  | some name =>
    simp only [Option.toList_some, List.length_cons, List.length_nil, reduceCtorEq, false_or]
    omega

/-! ## The sort of an argument -/

theorem ofText_of_not_mem {t : Text} (h : t ∉ options) :
    Word.ofText t = if t.head? = some '-' then .unknownOption else .file := by
  simp only [options, List.mem_cons, List.not_mem_nil, or_false, not_or] at h
  obtain ⟨hshort, hlong, hfragment, hdecode, hconfig, hinput⟩ := h
  rw [Word.ofText, if_neg (not_or.2 ⟨hshort, hlong⟩), if_neg hfragment, if_neg hdecode,
    if_neg hconfig, if_neg hinput]

theorem not_mem_options {t : Text} (h : t.head? ≠ some '-') : t ∉ options := by
  have hall : options.all (fun o => o.head? == some '-') = true := by decide
  intro hmem
  exact h (beq_iff_eq.1 (List.all_eq_true.1 hall t hmem))

theorem ofText_file {t : Text} (h : t.head? ≠ some '-') : Word.ofText t = .file := by
  rw [ofText_of_not_mem (not_mem_options h), if_neg h]

theorem ofText_unknown {t : Text} (hyphen : t.head? = some '-') (h : t ∉ options) :
    Word.ofText t = .unknownOption := by
  rw [ofText_of_not_mem h, if_pos hyphen]

/-- The first argument of an item shows its sort. -/
theorem exists_words (item : Item) :
    ∃ w more, item.words = w :: more ∧ Word.ofText w = item.sort := by
  cases item with
  | help long => cases long <;> exact ⟨_, _, rfl, by decide⟩
  | fragment | decodeEntities | standardInput => exact ⟨_, _, rfl, by decide⟩
  | config path => exact ⟨_, _, rfl, by show Word.ofText _ = Word.config; decide⟩
  | file name plain => exact ⟨_, _, rfl, ofText_file plain⟩

/-! ## There is one reading -/

theorem sort_eq_of_words_append {a b : Item} {rest rest' : List Text}
    (h : a.words ++ rest = b.words ++ rest') : a.sort = b.sort := by
  obtain ⟨v, more, ha, hv⟩ := exists_words a
  obtain ⟨w, more', hb, hw⟩ := exists_words b
  rw [ha, hb] at h
  rw [← hv, ← hw, (List.cons.inj h).1]

theorem length_words (item : Item) :
    item.words.length = if item.sort = .config then 2 else 1 := by
  rcases item with (_ | _) | _ | _ | _ | _ | _ <;> rfl

/-- An item is determined by its sort and the arguments that it is written with. -/
theorem eq_of_words {a b : Item} (hsort : a.sort = b.sort) (h : a.words = b.words) : a = b := by
  cases a <;> cases b <;> cases hsort
  case help.help long long' =>
    cases long <;> cases long' <;> first | rfl | exact absurd h (by decide)
  case config.config path path' =>
    rw [(List.cons.inj (List.cons.inj h).2).1]
  case file.file name _ name' _ =>
    obtain rfl := (List.cons.inj h).1
    rfl
  all_goals rfl

/-- The first item of a command line is determined, and so is what stands behind it. -/
theorem words_append_inj {a b : Item} {rest rest' : List Text}
    (h : a.words ++ rest = b.words ++ rest') : a = b ∧ rest = rest' := by
  have hsort := sort_eq_of_words_append h
  have hlength : a.words.length = b.words.length := by rw [length_words, length_words, hsort]
  obtain ⟨hwords, hrest⟩ := List.append_inj h hlength
  exact ⟨eq_of_words hsort hwords, hrest⟩

theorem spell_eq_nil {items : List Item} (h : spell items = []) : items = [] := by
  cases items with
  | nil => rfl
  | cons item items =>
    obtain ⟨w, more, hwords, -⟩ := exists_words item
    rw [spell_cons, hwords] at h
    cases h

theorem spell_injective : Function.Injective spell := by
  intro items
  induction items with
  | nil => exact fun items' h => (spell_eq_nil h.symm).symm
  | cons item items ih =>
    intro items' h
    cases items' with
    | nil => exact spell_eq_nil h
    | cons item' items' =>
      obtain ⟨rfl, hrest⟩ := words_append_inj h
      rw [ih hrest]

/-! ## The walk from item to item -/

/-- Arguments that are left begin with an item, or with one that cannot be read. -/
theorem words_cases (arguments : List Text) :
    arguments = [] ∨ (∃ item rest, arguments = Item.words item ++ rest) ∨
      arguments = ["--config".toList] ∨
        ∃ o rest, arguments = o :: rest ∧ o.head? = some '-' ∧ o ∉ options := by
  cases arguments with
  | nil => exact .inl rfl
  | cons t rest =>
    right
    by_cases hmem : t ∈ options
    · simp only [options, List.mem_cons, List.not_mem_nil, or_false] at hmem
      obtain rfl | rfl | rfl | rfl | rfl | rfl := hmem
      · exact .inl ⟨.help false, rest, rfl⟩
      · exact .inl ⟨.help true, rest, rfl⟩
      · exact .inl ⟨.fragment, rest, rfl⟩
      · exact .inl ⟨.decodeEntities, rest, rfl⟩
      · cases rest with
        | nil => exact .inr (.inl rfl)
        | cons path rest => exact .inl ⟨.config path, rest, rfl⟩
      · exact .inl ⟨.standardInput, rest, rfl⟩
    · by_cases hyphen : t.head? = some '-'
      · exact .inr (.inr ⟨t, rest, rfl, hyphen, hmem⟩)
      · exact .inl ⟨.file t hyphen, rest, rfl⟩

/-- A second item naming a file offends. -/
theorem offends_of_file? {items : List Item} {item : Item} {rest : List Text}
    (hfile : item.file? ≠ none) (earlier : files items ≠ []) :
    Offends items (item.words ++ rest) "only one input file may be given".toList := by
  cases item with
  | file name plain => exact .secondFile plain earlier
  | _ => exact absurd rfl hfile

/-- From items with at most one input file, the walk goes on to the end of the arguments or to a
place that offends. -/
theorem reading_or_offence_from (items : List Item) (arguments : List Text)
    (hone : (files items).length ≤ 1) :
    (∃ items', spell items' = spell items ++ arguments ∧ (files items').length ≤ 1) ∨
      ∃ items' rest message, spell items ++ arguments = spell items' ++ rest ∧
        (files items').length ≤ 1 ∧ Offends items' rest message := by
  -- an item has one argument or two, so the induction is on how many are left
  induction hlength : arguments.length using Nat.strongRecOn
    generalizing items arguments with
  | _ n ih =>
    subst hlength
    obtain rfl | ⟨item, rest, rfl⟩ | rfl | ⟨o, rest, rfl, hyphen, unknown⟩ := words_cases arguments
    · exact .inl ⟨items, (List.append_nil _).symm, hone⟩
    · by_cases hsecond : item.file? ≠ none ∧ files items ≠ []
      · exact .inr ⟨items, _, _, rfl, hone, offends_of_file? hsecond.1 hsecond.2⟩
      · have hone' : (files (items ++ [item])).length ≤ 1 :=
          length_files_concat.2 ⟨hone, by tauto⟩
        have hshorter : rest.length < (item.words ++ rest).length := by
          rw [List.length_append, length_words]
          split <;> omega
        have hspell : spell items ++ (item.words ++ rest) = spell (items ++ [item]) ++ rest := by
          simp
        rw [hspell]
        exact ih _ hshorter (items ++ [item]) rest hone' rfl
    · exact .inr ⟨items, _, _, rfl, hone, .missingPath⟩
    · exact .inr ⟨items, _, _, rfl, hone, .unknownOption hyphen unknown⟩

theorem reading_or_offence (arguments : List Text) :
    (∃ items, spell items = arguments ∧ (files items).length ≤ 1) ∨
      ∃ items rest message, arguments = spell items ++ rest ∧
        (files items).length ≤ 1 ∧ Offends items rest message :=
  reading_or_offence_from [] arguments (Nat.zero_le 1)

/-! ## The parser follows the walk -/

/-- What has been read, with one item more. -/
def take (read : Arguments) : Item → Arguments
  | .help _ => { read with help := true }
  | .fragment => { read with fragment := true }
  | .decodeEntities => { read with decodeEntities := true }
  | .standardInput => read
  | .config path => { read with config := some path }
  | .file name _ => { read with input := some name }

theorem parseFrom_unknown {o : Text} (hyphen : o.head? = some '-') (unknown : o ∉ options)
    (read : Arguments) (rest : List Text) :
    parseFrom read (o :: rest) = .error (.unknownOption o) := by
  unfold parseFrom
  simp only [ofText_unknown hyphen unknown]

theorem parseFrom_file {name : Text} (plain : name.head? ≠ some '-') (read : Arguments)
    (rest : List Text) :
    parseFrom read (name :: rest) =
      if read.input.isSome then .error .secondInput
      else parseFrom { read with input := some name } rest := by
  rw [parseFrom.eq_def]
  simp only [ofText_file plain]

/-- The step: an item is taken, unless it is an input file and there is one already. -/
theorem parseFrom_words_append {read : Arguments} {item : Item}
    (h : item.file? = none ∨ read.input = none) (rest : List Text) :
    parseFrom read (item.words ++ rest) = parseFrom (read.take item) rest := by
  cases item with
  | help long => cases long <;> simp only [Item.words, List.singleton_append] <;> rfl
  | fragment | decodeEntities | standardInput | config => rfl
  | file name plain =>
    have hinput : read.input = none := h.resolve_left nofun
    rw [Item.words, List.singleton_append, parseFrom_file plain, hinput]
    rfl

/-- Items with at most one input file ask for what taking them one after the other gives. -/
theorem ofItems_concat {items : List Item} {item : Item}
    (h : (files (items ++ [item])).length ≤ 1) :
    ofItems (items ++ [item]) = (ofItems items).take item := by
  cases item with
  | file name plain =>
    have hnone : files items = [] := (length_files_concat.1 h).2.resolve_left nofun
    have hfiles : files (items ++ [.file name plain]) = [name] := by
      rw [files_concat, hnone]
      rfl
    simp [ofItems, take, Item.path?, Item.sort, hfiles]
  | _ => simp [ofItems, take, files, Item.path?, Item.file?, Item.sort]

/-- The run: items with at most one input file are read to their end. -/
theorem parse_spell_append {items : List Item} (hone : (files items).length ≤ 1)
    (rest : List Text) : parse (spell items ++ rest) = parseFrom (ofItems items) rest := by
  induction items using List.reverseRecOn generalizing rest with
  | nil => rfl
  | append_singleton items item ih =>
    obtain ⟨hone', hfree⟩ := length_files_concat.1 hone
    have hinput : item.file? = none ∨ (ofItems items).input = none :=
      hfree.imp_right List.head?_eq_none_iff.2
    rw [ofItems_concat hone, ← parseFrom_words_append hinput, ← ih hone']
    simp

/-- A place that offends is answered with its message. -/
theorem parse_of_offends {items : List Item} {rest : List Text} {message : Text}
    (hone : (files items).length ≤ 1) (h : Offends items rest message) :
    ∃ e, parse (spell items ++ rest) = .error e ∧ e.message = message := by
  rw [parse_spell_append hone]
  cases h with
  | missingPath => exact ⟨.missingConfigPath, rfl, rfl⟩
  | unknownOption hyphen unknown =>
    exact ⟨.unknownOption _, parseFrom_unknown hyphen unknown _ _, rfl⟩
  | secondFile plain earlier =>
    have hinput : (ofItems items).input.isSome = true := by
      simpa [ofItems, List.isSome_head?] using earlier
    exact ⟨.secondInput, by rw [parseFrom_file plain, if_pos hinput], rfl⟩

/-! ## What is accepted, and what is answered -/

/-- **The grammar is what is accepted.**  Arguments are accepted exactly if they can be read as items
with at most one input file.  There is no second reading, and the result is what its items ask for.
Otherwise the message is that of the first place that offends. -/
theorem parse_accepts_its_grammar (arguments : List Text) :
    ((∃ result, parse arguments = .ok result) ↔
        ∃ items, spell items = arguments ∧ (files items).length ≤ 1) ∧
      (∀ items items', spell items = arguments → spell items' = arguments → items = items') ∧
      (∀ items, spell items = arguments → (files items).length ≤ 1 →
        parse arguments = .ok (ofItems items)) ∧
      ∀ message, (∃ e, parse arguments = .error e ∧ e.message = message) ↔
        ∃ items rest, arguments = spell items ++ rest ∧ (files items).length ≤ 1 ∧
          Offends items rest message := by
  have hread : ∀ items, spell items = arguments → (files items).length ≤ 1 →
      parse arguments = .ok (ofItems items) := by
    rintro items rfl hone
    simpa [parseFrom] using parse_spell_append hone []
  refine ⟨⟨?_, ?_⟩, ?_, hread, fun message => ⟨?_, ?_⟩⟩
  · rintro ⟨result, hok⟩
    obtain hreading | ⟨items, rest, message, rfl, hone, hoffends⟩ := reading_or_offence arguments
    · exact hreading
    · obtain ⟨e, he, -⟩ := parse_of_offends hone hoffends
      rw [hok] at he
      cases he
  · rintro ⟨items, hspell, hone⟩
    exact ⟨ofItems items, hread items hspell hone⟩
  · exact fun items items' h h' => spell_injective (h.trans h'.symm)
  · rintro ⟨e, he, rfl⟩
    obtain ⟨items, hspell, hone⟩ | ⟨items, rest, message, rfl, hone, hoffends⟩ :=
      reading_or_offence arguments
    · rw [hread items hspell hone] at he
      cases he
    · obtain ⟨e', he', rfl⟩ := parse_of_offends hone hoffends
      obtain rfl : e = e' := Except.error.inj (he.symm.trans he')
      exact ⟨items, rest, rfl, hone, hoffends⟩
  · rintro ⟨items, rest, rfl, hone, hoffends⟩
    exact parse_of_offends hone hoffends

/-- An option behind `--config` is a path, and a second input file is answered before the unknown
option behind it. -/
theorem parse_accepts_its_grammar_option_as_path :
    parse ["--config".toList, "--help".toList, "-".toList, "a.ttl".toList] =
        .ok { config := some "--help".toList, input := some "a.ttl".toList } ∧
      ∃ e, parse ["a.ttl".toList, "--fragment".toList, "b.ttl".toList, "-x".toList] = .error e ∧
        e.message = "only one input file may be given".toList := by
  constructor
  · exact (parse_accepts_its_grammar _).2.2.1
      [.config "--help".toList, .standardInput, .file "a.ttl".toList (by decide)] rfl (by decide)
  · exact ((parse_accepts_its_grammar _).2.2.2 _).2
      ⟨[.file "a.ttl".toList (by decide), .fragment], ["b.ttl".toList, "-x".toList], rfl,
        by decide, .secondFile (by decide) (by decide)⟩

end TurtleMarkup.Arguments
