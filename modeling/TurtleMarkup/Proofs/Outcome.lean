import TurtleMarkup.Program

/-!
# What a run comes to

A run ends in one of four ways: its arguments are not understood, it prints the usage text, it
prints the whole markup of its input, or it fails and prints nothing.  Which of them it is depends
on the arguments, on the settings that the surroundings give and on the input that they give; the
conditions are said here about files and bytes, without the functions that read them.

* `Action.KeepsFiles` — what is done leaves the files and the environment alone.  It holds of the
  single actions and passes through `>>=`, so it holds of whole runs.
* `exists_loadConfig_eq_ok_iff`, `readInput_eq_ok_iff` — loading and reading succeed exactly when
  the surroundings give settings and a source.
* `run_work_cases` — with understood arguments, all of the markup is printed or nothing is.
-/

/-! ## Reading files -/

namespace TurtleMarkup.Files

theorem mapError_eq_ok_iff {ε ε' α : Type} {f : ε → ε'} {r : Except ε α} {a : α} :
    r.mapError f = .ok a ↔ r = .ok a := by
  cases r with
  | error e =>
    show (Except.error (f e) : Except ε' α) = .ok a ↔ _
    simp
  | ok b =>
    show (Except.ok b : Except ε' α) = .ok a ↔ _
    simp

theorem textOf_eq_ok_iff {bytes : ByteArray} {t : Text} :
    textOf bytes = .ok t ↔ bytes = Text.encode t := by
  rw [← Text.decode?_eq_some_iff, textOf]
  cases Text.decode? bytes with
  | none => simp
  | some u => simp

theorem readBytes_eq_ok_iff {bytes : ByteArray} {t : Text} :
    readBytes bytes = .ok t ↔ bytes = Text.encode t := by
  rw [readBytes, mapError_eq_ok_iff, textOf_eq_ok_iff]

theorem readText_eq_ok_iff {path : Text} {found : Lookup} {t : Text} :
    readText path found = .ok t ↔ found = .content (Text.encode t) := by
  cases found with
  | missing => simp [readText, Lookup.text?]
  | refused f => simp [readText, Lookup.text?, mapError_eq_ok_iff]
  | content bytes =>
    rw [Lookup.content.injEq]
    exact readBytes_eq_ok_iff

end TurtleMarkup.Files

namespace TurtleMarkup.Config

theorem ofLookup_eq_none_iff {path : Text} {found : Files.Lookup} :
    ofLookup path found = .ok none ↔ found = .missing := by
  cases found with
  | missing => simp [ofLookup, Files.Lookup.text?]
  | refused f => simp [ofLookup, Files.Lookup.text?]
  | content bytes =>
    rw [ofLookup, Files.Lookup.text?]
    cases Files.textOf bytes with
    | error f => simp
    | ok t => cases hc : read? t <;> simp [hc]

theorem ofLookup_eq_some_iff {path : Text} {found : Files.Lookup} {c : Config} :
    ofLookup path found = .ok (some c) ↔
      ∃ t, found = .content (Text.encode t) ∧ read? t = some c := by
  cases found with
  | missing => simp [ofLookup, Files.Lookup.text?]
  | refused f => simp [ofLookup, Files.Lookup.text?]
  | content bytes =>
    simp only [ofLookup, Files.Lookup.text?, Files.Lookup.content.injEq, ← Files.textOf_eq_ok_iff]
    cases Files.textOf bytes with
    | error f => simp
    | ok t => cases hc : read? t <;> simp [hc]

end TurtleMarkup.Config

namespace TurtleMarkup.Program

/-! ## Files stay as they are -/

/-- The second machine has the environment of the first, and the same stands at every path. -/
def Machine.SameFiles (m m' : Machine) : Prop := m'.env = m.env ∧ m'.look = m.look

theorem Machine.SameFiles.refl (m : Machine) : m.SameFiles m := ⟨rfl, rfl⟩

theorem Machine.SameFiles.trans {m₁ m₂ m₃ : Machine} (h : m₁.SameFiles m₂)
    (h' : m₂.SameFiles m₃) : m₁.SameFiles m₃ := ⟨h'.1.trans h.1, h'.2.trans h.2⟩

/-- Whatever machine it is done on, the files are afterwards what they were. -/
def Action.KeepsFiles {α : Type} (x : Action α) : Prop :=
  ∀ m : Machine, m.SameFiles (x.run m).2

namespace Action.KeepsFiles

variable {α β : Type}

theorem of_pure (a : α) : KeepsFiles (pure a) := Machine.SameFiles.refl

theorem of_get : KeepsFiles get := Machine.SameFiles.refl

theorem of_ofExcept (r : Except Failure α) : KeepsFiles (MonadExcept.ofExcept r) := by
  intro m
  cases r with
  | error f => exact Machine.SameFiles.refl m
  | ok a => exact Machine.SameFiles.refl m

theorem of_modify {f : Machine → Machine} (h : ∀ m : Machine, m.SameFiles (f m)) :
    KeepsFiles (modify f) := h

theorem bind {x : Action α} {f : α → Action β} (hx : KeepsFiles x)
    (hf : ∀ a, KeepsFiles (f a)) : KeepsFiles (x >>= f) := by
  intro m
  have hm := hx m
  show m.SameFiles (ExceptT.bindCont f (x.run m).1 (x.run m).2).2
  cases (x.run m).1 with
  | error e => exact hm
  | ok a => exact hm.trans (hf a _)

end Action.KeepsFiles

open Action.KeepsFiles

-- Each change that a run makes to a machine concerns what has come out, or standard input.

theorem Machine.sameFiles_note (records : List Log.Record) (m : Machine) :
    m.SameFiles (m.note records) := ⟨rfl, rfl⟩

theorem Machine.sameFiles_print (t : Text) (m : Machine) : m.SameFiles (m.print t) := ⟨rfl, rfl⟩

theorem Machine.sameFiles_complain (t : Text) (m : Machine) : m.SameFiles (m.complain t) :=
  ⟨rfl, rfl⟩

theorem Machine.sameFiles_drain (m : Machine) : m.SameFiles m.drain := ⟨rfl, rfl⟩

theorem keepsFiles_prepare (a : Arguments) : (prepare a).KeepsFiles := by
  apply of_get.bind
  intro m
  apply (of_ofExcept _).bind
  intro loaded
  exact (of_modify (Machine.sameFiles_note _)).bind fun _ => of_pure _

theorem keepsFiles_readSource (a : Arguments) : (readSource a).KeepsFiles := by
  apply (of_modify (Machine.sameFiles_note _)).bind
  intro _
  apply of_get.bind
  intro m
  by_cases h : a.input.isNone
  · simp only [h, if_true]
    exact (of_modify Machine.sameFiles_drain).bind fun _ => of_ofExcept _
  · simp only [h]
    exact of_ofExcept _

theorem keepsFiles_work (a : Arguments) : (work a).KeepsFiles := by
  apply (keepsFiles_prepare a).bind
  intro config
  apply (keepsFiles_readSource a).bind
  intro source
  apply (of_modify (Machine.sameFiles_note _)).bind
  intro _
  apply (of_modify (Machine.sameFiles_print _)).bind
  intro _
  exact of_modify (Machine.sameFiles_print _)

/-! ## What the surroundings give -/

namespace Surroundings

/-- At the path that `template` stands for there is a file whose text gives the settings `c`. -/
def HoldsConfig (s : Surroundings) (template : Text) (c : Config) : Prop :=
  ∃ t, s.look (Template.expand s.env template) = .content (Text.encode t) ∧ Config.read? t = some c

/-- The settings of a run: those at the path that the arguments name, which must be there;
otherwise those at the default path, or the default ones if nothing is there. -/
def GivesConfig (s : Surroundings) (a : Arguments) (c : Config) : Prop :=
  match a.config with
  | some template => s.HoldsConfig template c
  | none =>
    s.HoldsConfig (Config.defaultPath s.env) c ∨
      s.look (Template.expand s.env (Config.defaultPath s.env)) = .missing ∧ c = {}

/-- The source of a run: the text of the file that the arguments name, otherwise that of standard
input. -/
def GivesSource (s : Surroundings) (a : Arguments) (source : Text) : Prop :=
  match a.input with
  | some path => s.look path = .content (Text.encode source)
  | none => s.input = Text.encode source

/-- What a run has to print: the markup of the source under the settings, and a line end. -/
def Shows (s : Surroundings) (a : Arguments) (out : Text) : Prop :=
  ∃ config source, s.GivesConfig a config ∧ s.GivesSource a source ∧
    out = Markup.ofSource source a config ++ ['\n']

end Surroundings

theorem load_eq_some_iff {s : Surroundings} {template : Text} {c : Config} :
    Config.load s.env s.look template = .ok (some c) ↔ s.HoldsConfig template c :=
  Config.ofLookup_eq_some_iff

theorem load_eq_none_iff {s : Surroundings} {template : Text} :
    Config.load s.env s.look template = .ok none ↔
      s.look (Template.expand s.env template) = .missing :=
  Config.ofLookup_eq_none_iff

theorem exists_loadConfig_eq_ok_iff {s : Surroundings} {a : Arguments} {c : Config} :
    (∃ r, loadConfig s a = .ok (c, r)) ↔ s.GivesConfig a c := by
  rw [Surroundings.GivesConfig, loadConfig, configTemplate]
  cases hconfig : a.config with
  | some template =>
    show _ ↔ s.HoldsConfig template c
    rw [← load_eq_some_iff, Option.getD_some]
    rcases Config.load s.env s.look template with e | _ | d
    · simp
    · simp
    · simp
  | none =>
    show _ ↔ s.HoldsConfig _ c ∨ s.look _ = .missing ∧ c = {}
    rw [← load_eq_some_iff, ← load_eq_none_iff, Option.getD_none]
    rcases Config.load s.env s.look (Config.defaultPath s.env) with e | _ | d
    · simp
    · simp [eq_comm]
    · simp

theorem readInput_eq_ok_iff {s : Surroundings} {a : Arguments} {source : Text} :
    readInput s a = .ok source ↔ s.GivesSource a source := by
  rw [readInput, Surroundings.GivesSource]
  cases a.input with
  | none => exact Files.mapError_eq_ok_iff.trans Files.readBytes_eq_ok_iff
  | some path => exact Files.mapError_eq_ok_iff.trans Files.readText_eq_ok_iff

/-- There is only one thing to print. -/
theorem Surroundings.Shows.unique {s : Surroundings} {a : Arguments} {out out' : Text}
    (h : s.Shows a out) (h' : s.Shows a out') : out = out' := by
  obtain ⟨c, source, hc, hsource, rfl⟩ := h
  obtain ⟨c', source', hc', hsource', rfl⟩ := h'
  obtain ⟨r, hr⟩ := exists_loadConfig_eq_ok_iff.2 hc
  obtain ⟨r', hr'⟩ := exists_loadConfig_eq_ok_iff.2 hc'
  have hconfig : c = c' := congrArg Prod.fst (Except.ok.inj (hr.symm.trans hr'))
  have htext : source = source' :=
    Except.ok.inj ((readInput_eq_ok_iff.2 hsource).symm.trans (readInput_eq_ok_iff.2 hsource'))
  rw [hconfig, htext]

theorem not_shows_of_loadConfig {s : Surroundings} {a : Arguments} {f : Failure}
    (h : loadConfig s a = .error f) (out : Text) : ¬ s.Shows a out := by
  rintro ⟨c, source, hc, -, -⟩
  obtain ⟨r, hr⟩ := exists_loadConfig_eq_ok_iff.2 hc
  rw [h] at hr
  cases hr

theorem not_shows_of_readInput {s : Surroundings} {a : Arguments} {f : Failure}
    (h : readInput s a = .error f) (out : Text) : ¬ s.Shows a out := by
  rintro ⟨c, source, -, hsource, -⟩
  rw [readInput_eq_ok_iff.2 hsource] at h
  cases h

/-! ## Runs -/

section Run

variable {α β : Type}

theorem Action.run_ofExcept (r : Except Failure α) (m : Machine) :
    (MonadExcept.ofExcept r : Action α).run m = (r, m) := by
  cases r with
  | error f => rfl
  | ok a => rfl

theorem Action.run_get (m : Machine) : (get : Action Machine).run m = (.ok m, m) := rfl

theorem Action.run_bind_of_ok {x : Action α} {m m' : Machine} {a : α} (f : α → Action β)
    (h : x.run m = (.ok a, m')) : (x >>= f).run m = (f a).run m' := by
  show (ExceptT.bindCont f (x.run m).1).run (x.run m).2 = _
  rw [h]
  rfl

theorem Action.run_bind_of_error {x : Action α} {m m' : Machine} {e : Failure}
    (f : α → Action β) (h : x.run m = (.error e, m')) : (x >>= f).run m = (.error e, m') := by
  show (ExceptT.bindCont f (x.run m).1).run (x.run m).2 = _
  rw [h]
  rfl

end Run

/-- Settings that can be loaded are handed on, and only noted. -/
theorem run_prepare_of_ok {a : Arguments} {m : Machine} {c : Config} {r : Log.Record}
    (h : loadConfig m.toSurroundings a = .ok (c, r)) :
    (prepare a).run m = (.ok c, m.note [r]) := by
  have hload := Action.run_ofExcept (loadConfig m.toSurroundings a) m
  rw [h] at hload
  rw [prepare, Action.run_bind_of_ok _ (Action.run_get m), h, Action.run_bind_of_ok _ hload]
  rfl

theorem run_prepare_of_error {a : Arguments} {m : Machine} {f : Failure}
    (h : loadConfig m.toSurroundings a = .error f) : (prepare a).run m = (.error f, m) := by
  have hload := Action.run_ofExcept (loadConfig m.toSurroundings a) m
  rw [h] at hload
  rw [prepare, Action.run_bind_of_ok _ (Action.run_get m), h, Action.run_bind_of_error _ hload]

/-- Reading prints nothing. -/
theorem run_readSource (a : Arguments) (m : Machine) :
    ∃ m', (readSource a).run m = (readInput m.toSurroundings a, m') ∧ m'.output = m.output := by
  rw [readSource]
  split
  · exact ⟨_, Action.run_ofExcept _ (m.note [inputRecord a]).drain, rfl⟩
  · exact ⟨_, Action.run_ofExcept _ (m.note [inputRecord a]), rfl⟩

/-- A run with understood arguments prints all that it has to, or it stops with nothing printed
because there is nothing that it could show. -/
theorem run_work_cases (a : Arguments) (m : Machine) :
    (∃ out m', (work a).run m = (.ok (), m') ∧ m.Shows a out ∧ m'.output = m.output ++ out) ∨
      (∃ f m', (work a).run m = (.error f, m') ∧ (∀ out, ¬ m.Shows a out) ∧
        m'.output = m.output) := by
  rw [work]
  cases hload : loadConfig m.toSurroundings a with
  | error f =>
    right
    exact ⟨f, m, Action.run_bind_of_error _ (run_prepare_of_error hload),
      not_shows_of_loadConfig hload, rfl⟩
  | ok loaded =>
    obtain ⟨c, r⟩ := loaded
    rw [Action.run_bind_of_ok _ (run_prepare_of_ok hload)]
    obtain ⟨m', hm', hout⟩ := run_readSource a (m.note [r])
    have hread : readInput (m.note [r]).toSurroundings a = readInput m.toSurroundings a := rfl
    rw [hread] at hm'
    cases hsource : readInput m.toSurroundings a with
    | error f =>
      right
      rw [hsource] at hm'
      exact ⟨f, m', Action.run_bind_of_error _ hm', not_shows_of_readInput hsource, hout⟩
    | ok source =>
      left
      rw [hsource] at hm'
      rw [Action.run_bind_of_ok _ hm']
      refine ⟨Markup.ofSource source a c ++ ['\n'], _, rfl,
        ⟨c, source, exists_loadConfig_eq_ok_iff.1 ⟨r, hload⟩, readInput_eq_ok_iff.1 hsource, rfl⟩,
        ?_⟩
      show m'.output ++ Markup.ofSource source a c ++ ['\n'] = _
      rw [hout, List.append_assoc]
      rfl

/-- The machine after a run. -/
def after (s : Surroundings) (arguments : List Text) : Machine :=
  ((execute arguments).run (.start s)).2

theorem execute_of_parse_error {arguments : List Text} {e : ArgumentError} (m : Machine)
    (h : Arguments.parse arguments = .error e) :
    (execute arguments).run m =
      (1, m.complain ("Error: ".toList ++ e.message ++ "\n".toList ++ usage)) := by
  rw [execute, h]
  rfl

theorem execute_of_help {arguments : List Text} {a : Arguments} (m : Machine)
    (h : Arguments.parse arguments = .ok a) (hhelp : a.help = true) :
    (execute arguments).run m = (0, m.print usage) := by
  rw [execute, h]
  simp only [hhelp, if_true]
  rfl

theorem execute_of_work {arguments : List Text} {a : Arguments} (m : Machine)
    (h : Arguments.parse arguments = .ok a) (hhelp : a.help = false) :
    (execute arguments).run m =
      match (work a).run m with
      | (.ok (), m') => (0, m')
      | (.error f, m') => (1, m'.complain f.report) := by
  rw [execute, h]
  simp only [hhelp, Bool.false_eq_true, if_false]
  show (match ((work a).run m).1 with | .ok _ => _ | .error _ => _ : StateM Machine Nat).run
    ((work a).run m).2 = _
  rcases (work a).run m with ⟨f | _, m'⟩
  · rfl
  · rfl

theorem sameFiles_after (s : Surroundings) (arguments : List Text) :
    (Machine.start s).SameFiles (after s arguments) := by
  rw [after]
  cases hparse : Arguments.parse arguments with
  | error e =>
    rw [execute_of_parse_error _ hparse]
    exact Machine.sameFiles_complain _ _
  | ok a =>
    cases hhelp : a.help with
    | true =>
      rw [execute_of_help _ hparse hhelp]
      exact Machine.sameFiles_print _ _
    | false =>
      rw [execute_of_work _ hparse hhelp]
      have hwork := keepsFiles_work a (.start s)
      rcases hr : (work a).run (.start s) with ⟨f | _, m'⟩
      · rw [hr] at hwork
        exact hwork.trans (Machine.sameFiles_complain _ m')
      · rw [hr] at hwork
        exact hwork

theorem run_of_help (s : Surroundings) {arguments : List Text} {a : Arguments}
    (h : Arguments.parse arguments = .ok a) (hhelp : a.help = true) :
    run s arguments = { output := usage } := by
  rw [run, execute_of_help _ h hhelp]
  show ({ output := [] ++ usage } : Outcome) = _
  rw [List.nil_append]

/-- A run with understood arguments ends well, with all that it has to print, or it ends badly,
with nothing printed and because there is nothing that it could show. -/
theorem run_cases {s : Surroundings} {arguments : List Text} {a : Arguments}
    (h : Arguments.parse arguments = .ok a) (hhelp : a.help = false) :
    ((run s arguments).status = 0 ∧ s.Shows a (run s arguments).output) ∨
      ((run s arguments).status = 1 ∧ (run s arguments).output = [] ∧
        ∀ out, ¬ s.Shows a out) := by
  rw [run, execute_of_work _ h hhelp]
  obtain ⟨out, m', hr, hshows, hout⟩ | ⟨f, m', hr, hnone, hout⟩ := run_work_cases a (.start s)
  · left
    rw [hr]
    refine ⟨rfl, ?_⟩
    show s.Shows a m'.output
    rw [hout]
    exact hshows
  · right
    rw [hr]
    exact ⟨rfl, hout, hnone⟩

/-- No run changes a file.  A run whose arguments are not understood ends with status 1 and prints
nothing.  A run that is asked for help prints the usage text, whatever its surroundings, and leaves
standard input unread.  Any other run ends with status 0 and prints `out` exactly when the
surroundings give settings and a source, of which `out` is the markup with a line end; if they do
not, it ends with another status and prints nothing. -/
theorem run_prints_all_or_nothing (s : Surroundings) (arguments : List Text) :
    ((after s arguments).env = s.env ∧ (after s arguments).look = s.look) ∧
    (∀ e, Arguments.parse arguments = .error e →
      (run s arguments).status = 1 ∧ (run s arguments).output = []) ∧
    (∀ a, Arguments.parse arguments = .ok a → a.help = true →
      (run s arguments).status = 0 ∧ (run s arguments).output = usage ∧
        (after s arguments).input = s.input ∧ ∀ s', run s' arguments = run s arguments) ∧
    (∀ a, Arguments.parse arguments = .ok a → a.help = false →
      (∀ out, ((run s arguments).status = 0 ∧ (run s arguments).output = out) ↔
        ∃ config source, s.GivesConfig a config ∧ s.GivesSource a source ∧
          out = Markup.ofSource source a config ++ ['\n']) ∧
      ((¬ ∃ config source, s.GivesConfig a config ∧ s.GivesSource a source) →
        (run s arguments).status ≠ 0 ∧ (run s arguments).output = [])) := by
  refine ⟨sameFiles_after s arguments, ?_, ?_, ?_⟩
  · intro e h
    rw [run, execute_of_parse_error _ h]
    exact ⟨rfl, rfl⟩
  · intro a h hhelp
    have hrun := fun s' => run_of_help s' h hhelp
    refine ⟨by rw [hrun s], by rw [hrun s], ?_, fun s' => (hrun s').trans (hrun s).symm⟩
    rw [after, execute_of_help _ h hhelp]
    rfl
  · intro a h hhelp
    obtain ⟨hstatus, hshows⟩ | ⟨hstatus, hout, hnone⟩ := run_cases (s := s) h hhelp
    · refine ⟨fun out => ⟨?_, fun hout => ⟨hstatus, hshows.unique hout⟩⟩, ?_⟩
      · rintro ⟨-, rfl⟩
        exact hshows
      · intro hnone
        obtain ⟨config, source, hconfig, hsource, -⟩ := hshows
        exact absurd ⟨config, source, hconfig, hsource⟩ hnone
    · refine ⟨fun out => ⟨?_, fun hshows => absurd hshows (hnone out)⟩, fun _ => ?_⟩
      · rintro ⟨hzero, -⟩
        omega
      · exact ⟨by omega, hout⟩

/-- Surroundings in which there is one file, `f`, with the text `a`, and the home directory is
`/u`. -/
def oneFile : Surroundings where
  env := { values := [("HOME".toList, ['/', 'u'])] }
  look path := if path = ['f'] then .content (Text.encode ['a']) else .missing
  input := .empty

/-- The file is shown with default settings; it is not shown with the settings of a file that is
not there; an unknown option is refused; and help is given. -/
theorem run_prints_all_or_nothing_oneFile :
    ((run oneFile [['f']]).status = 0 ∧
      (run oneFile [['f']]).output = Markup.ofSource ['a'] { input := some ['f'] } {} ++ ['\n']) ∧
    ((run oneFile ["--config".toList, ['g'], ['f']]).status ≠ 0 ∧
      (run oneFile ["--config".toList, ['g'], ['f']]).output = []) ∧
    ((run oneFile [['-', 'x']]).status = 1 ∧ (run oneFile [['-', 'x']]).output = []) ∧
    ((run oneFile [['-', 'h']]).status = 0 ∧ (run oneFile [['-', 'h']]).output = usage) := by
  refine ⟨?_, ?_, ?_, ?_⟩
  · obtain ⟨hshows, -⟩ := (run_prints_all_or_nothing oneFile [['f']]).2.2.2
      { input := some ['f'] } rfl rfl
    have hmissing : oneFile.look (Template.expand oneFile.env (Config.defaultPath oneFile.env))
        = .missing :=
      if_neg (by decide +kernel)
    exact (hshows _).2 ⟨{}, ['a'], .inr ⟨hmissing, rfl⟩, rfl, rfl⟩
  · obtain ⟨-, hnone⟩ := (run_prints_all_or_nothing oneFile ["--config".toList, ['g'], ['f']]).2.2.2
      { config := some ['g'], input := some ['f'] } rfl rfl
    have hmissing : oneFile.look (Template.expand oneFile.env ['g']) = .missing :=
      if_neg (by decide +kernel)
    apply hnone
    rintro ⟨config, source, ⟨t, ht, -⟩, -⟩
    rw [hmissing] at ht
    cases ht
  · exact (run_prints_all_or_nothing oneFile [['-', 'x']]).2.1 (.unknownOption ['-', 'x']) rfl
  · obtain ⟨hstatus, hout, -⟩ := (run_prints_all_or_nothing oneFile [['-', 'h']]).2.2.1
      { help := true } rfl rfl
    exact ⟨hstatus, hout⟩

end TurtleMarkup.Program
