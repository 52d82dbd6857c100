import TurtleMarkup.Proofs.Config.RoundTrip
import TurtleMarkup.Proofs.Delimiters
import TurtleMarkup.Proofs.Files.Writing
import TurtleMarkup.Proofs.Outcome

/-!
# Saving and loading at the default path

The default path begins with the home directory, or with a `~` if there is none.
Saving takes it as it is, but loading takes it for a template and fills it in, so
the home directory is read as a template although it is a path already
(`Config.expand_defaultPath`).  If the home directory has no `$` and does not begin
with `~/`, that changes nothing, and saved settings are loaded again; nor does it if
there is no home directory.  Otherwise they may be saved at one place and looked for
at another (`Config.loadDefault_misses_saved`).

`Config.loadDefault_saveDefault_iff` gives the exact condition: the two paths lead
to the same place in the tree with the saved file.
-/

namespace TurtleMarkup

/-! ## Templates with a fixed end -/

namespace Template

variable {env : Environment} {s t : Text}

theorem isNameChar_slash : isNameChar '/' = false := by decide +kernel

theorem partAfterDollar_closed {a : Text} (ha : '\x7d' ∉ a) (b : Text) :
    partAfterDollar ('\x7b' :: (a ++ '\x7d' :: b)) = (braced a, b) := by
  have hrun : ∀ c ∈ a, (c != '\x7d') = true := by
    intro c hc
    rw [bne_iff_ne]
    rintro rfl
    exact ha hc
  have hstop : ('\x7d' != '\x7d') = false := by decide
  rw [partAfterDollar, Text.dropWhile_run hrun hstop, Text.takeWhile_run hrun hstop]

theorem partAfterDollar_unclosed (ht : '\x7d' ∉ t) :
    partAfterDollar ('\x7b' :: t) = (.char '$', '\x7b' :: t) := by
  rw [partAfterDollar, Text.dropWhile_ne_eq_nil ht]

theorem partAfterDollar_bare {c : Char} (hdollar : c ≠ '$') (hbrace : c ≠ '\x7b') (t : Text) :
    partAfterDollar (c :: t)
      = if isNameChar c then
          (.valueOf ((c :: t).takeWhile isNameChar) none, (c :: t).dropWhile isNameChar)
        else (.char '$', c :: t) := by
  unfold partAfterDollar
  split
  · simp_all
  · simp_all
  · rfl

/-- A variable does not reach past a slash with no closing brace behind it. -/
theorem partAfterDollar_append_slash (hs : '\x7d' ∉ s) (t : Text) :
    partAfterDollar (t ++ '/' :: s) = Prod.map id (· ++ '/' :: s) (partAfterDollar t) := by
  cases t with
  | nil =>
    rw [List.nil_append, partAfterDollar_bare (by decide) (by decide), isNameChar_slash]
    rfl
  | cons c t =>
    rw [List.cons_append]
    by_cases hdollar : c = '$'
    · subst hdollar
      rfl
    by_cases hbrace : c = '\x7b'
    · subst hbrace
      by_cases hclosed : '\x7d' ∈ t
      · obtain ⟨a, b, rfl, ha⟩ := List.eq_append_cons_of_mem hclosed
        rw [List.append_assoc, List.cons_append, partAfterDollar_closed ha,
          partAfterDollar_closed ha]
        rfl
      · have hunclosed : '\x7d' ∉ t ++ '/' :: s := by simp [hclosed, hs]
        rw [partAfterDollar_unclosed hunclosed, partAfterDollar_unclosed hclosed]
        rfl
    · rw [partAfterDollar_bare hdollar hbrace, partAfterDollar_bare hdollar hbrace,
        ← List.cons_append, Text.takeWhile_append_stop isNameChar_slash,
        Text.dropWhile_append_stop isNameChar_slash]
      split <;> rfl

theorem parts_of_not_mem (ht : '$' ∉ t) : parts t = t.map .char := by
  induction t with
  | nil => rw [parts]; rfl
  | cons c t ih =>
    rw [List.mem_cons, not_or] at ht
    rw [parts, if_neg (Ne.symm ht.1), ih ht.2, List.map_cons]

/-- The end of a template behind a slash stands for itself. -/
theorem parts_append_slash (hdollar : '$' ∉ s) (hbrace : '\x7d' ∉ s) (t : Text) :
    parts (t ++ '/' :: s) = parts t ++ ('/' :: s).map .char := by
  have hend : parts ('/' :: s) = ('/' :: s).map .char := parts_of_not_mem (by simp [hdollar])
  fun_induction parts t with
  | case1 => rw [List.nil_append, List.nil_append, hend]
  | case2 t ih =>
    rw [List.cons_append, parts, if_pos rfl, partAfterDollar_append_slash hbrace, Prod.map_fst,
      Prod.map_snd, ih]
    rfl
  | case3 c t hc ih => rw [List.cons_append, parts, if_neg hc, ih, List.cons_append]

theorem mapM_expand?_map_char (env : Environment) (t : Text) :
    (t.map Part.char).mapM (Part.expand? env) = some (t.map fun c => [c]) := by
  induction t with
  | nil => rfl
  | cons c t ih => rw [List.map_cons, List.mapM_cons, ih]; rfl

theorem flatten_map_singleton (t : Text) : (t.map fun c => [c]).flatten = t := by
  rw [← List.flatMap_def, List.flatMap_singleton']

theorem fill?_of_not_mem (env : Environment) (ht : '$' ∉ t) : fill? env t = some t := by
  rw [fill?, parts_of_not_mem ht, mapM_expand?_map_char, Option.map_some, flatten_map_singleton]

theorem fill?_append_slash (env : Environment) (hdollar : '$' ∉ s) (hbrace : '\x7d' ∉ s)
    (t : Text) : fill? env (t ++ '/' :: s) = (fill? env t).map (· ++ '/' :: s) := by
  rw [fill?, fill?, parts_append_slash hdollar hbrace, List.mapM_append, mapM_expand?_map_char]
  cases (parts t).mapM (Part.expand? env) with
  | none => rfl
  | some ts =>
    show some (ts ++ ('/' :: s).map fun c => [c]).flatten = some (ts.flatten ++ '/' :: s)
    rw [List.flatten_append, flatten_map_singleton]

theorem expandHome_of_not_tilde (h : ¬ ['~', '/'] <+: t) (h' : t ≠ ['~']) :
    expandHome env t = t := by
  unfold expandHome
  split
  · exact absurd rfl h'
  · exact absurd (List.prefix_append ['~', '/'] _) h
  · rfl

theorem expandHome_append_slash (env : Environment) (t s : Text) :
    expandHome env (t ++ '/' :: s) = expandHome env t ++ '/' :: s := by
  by_cases hhome : t = ['~']
  · subst hhome
    rfl
  by_cases hbelow : ['~', '/'] <+: t
  · obtain ⟨u, rfl⟩ := hbelow
    show env.tilde ++ '/' :: (u ++ '/' :: s) = (env.tilde ++ '/' :: u) ++ '/' :: s
    simp
  · rw [expandHome_of_not_tilde hbelow hhome, expandHome_of_not_tilde]
    · rintro ⟨u, hu⟩
      rcases t with _ | ⟨c, _ | ⟨d, t⟩⟩
      · simp at hu
      · obtain ⟨rfl, -⟩ := List.cons.inj hu
        exact hhome rfl
      · obtain ⟨rfl, hrest⟩ := List.cons.inj hu
        obtain ⟨rfl, -⟩ := List.cons.inj hrest
        exact hbelow ⟨t, rfl⟩
    · rcases t with _ | ⟨c, t⟩ <;> simp

/-- Filling in a template leaves a fixed end alone. -/
theorem expand_append_slash (env : Environment) (hdollar : '$' ∉ s) (hbrace : '\x7d' ∉ s)
    (t : Text) : expand env (t ++ '/' :: s) = expand env t ++ '/' :: s := by
  have htilde : ((t ++ '/' :: s).contains '$' && (t ++ '/' :: s).head? != some '~')
      = (t.contains '$' && t.head? != some '~') := by
    have hcontains : (t ++ '/' :: s).contains '$' = t.contains '$' := by
      rw [Bool.eq_iff_iff]
      simp [hdollar]
    cases t with
    | nil => rw [hcontains]; rfl
    | cons c t => rw [hcontains, List.cons_append, List.head?_cons, List.head?_cons]
  rw [expand, expand, expand?, expand?, htilde, fill?_append_slash env hdollar hbrace]
  cases fill? env t with
  | none => rfl
  | some path =>
    simp only [Option.map_some, Option.getD_some]
    split
    · rfl
    · exact expandHome_append_slash env path s

/-- What `~` stands for, taken for a template, stands for itself if it is no home directory at all
or one without `$` that does not begin with `~/`. -/
theorem expand_tilde (h : ∀ home ∈ env.home?, '$' ∉ home ∧ ¬ ['~', '/'] <+: home) :
    expand env env.tilde = env.tilde := by
  have hplain : '$' ∉ env.tilde ∧ ¬ ['~', '/'] <+: env.tilde := by
    rw [Environment.tilde]
    cases hhome : env.home? with
    | none => decide
    | some home => exact h home hhome
  have hcontains : env.tilde.contains '$' = false := by simpa using hplain.1
  rw [expand, expand?, fill?_of_not_mem env hplain.1, hcontains]
  show expandHome env env.tilde = env.tilde
  by_cases htilde : env.tilde = ['~']
  · rw [htilde, expandHome, htilde]
  · exact expandHome_of_not_tilde hplain.2 htilde

end Template

/-! ## Settings at the default path -/

namespace Config

open Files (Tree Location)

variable {env : Environment} {t : Tree} {cwd : Location}

/-- The path of the settings file from the home directory on. -/
def pathBelowHome : Text := ".config/turtle-highlight/config.toml".toList

theorem defaultPath_eq (env : Environment) :
    defaultPath env = env.tilde ++ '/' :: pathBelowHome := by
  have hpath : '/' :: ".config/turtle-highlight".toList ++ "/config.toml".toList
      = '/' :: pathBelowHome := by decide
  rw [← hpath, ← List.append_assoc]
  rfl

/-- Settings are looked for below the path that the home directory stands for as a template. -/
theorem expand_defaultPath (env : Environment) :
    Template.expand env (defaultPath env)
      = Template.expand env env.tilde ++ '/' :: pathBelowHome := by
  rw [defaultPath_eq, Template.expand_append_slash env (by decide) (by decide)]

/-- The settings file can be written, so any settings can be saved there. -/
theorem exists_saveDefault_eq {c₀ : Config} (h : (c₀.saveDefault env t cwd).fault = none) :
    ∃ (t' : Tree) (loc : Location), t'.Takes cwd (defaultPath env) loc ∧
      ∀ c : Config, c.saveDefault env t cwd = ⟨none, t'.set loc (.file (Text.encode c.write))⟩ := by
  rw [saveDefault, save] at h
  obtain ⟨loc, htakes, hwrite⟩ := Files.Tree.writeFile_of_fault_eq_none h
  refine ⟨_, loc, htakes, ?_⟩
  intro c
  rw [saveDefault, save, hwrite]

/-- Settings are loaded where a file with them is looked up. -/
theorem loadDefault_eq_some_iff {look : Text → Files.Lookup} {c : Config} :
    loadDefault env look = .ok (some c) ↔
      ∃ u, look (Template.expand env (defaultPath env)) = .content (Text.encode u) ∧
        read? u = some c :=
  ofLookup_eq_some_iff

section Saved

variable {t' : Tree} {loc : Location}

/-- If loading looks where saving has written, it gives the saved settings. -/
theorem loadDefault_of_locate (h : t'.Takes cwd (defaultPath env) loc)
    (hsame : t'.locate cwd (Template.expand env (defaultPath env)) = .ok loc) (c : Config) :
    loadDefault env ((t'.set loc (.file (Text.encode c.write))).look cwd) = .ok (some c) := by
  have hslash : Files.Path.endsInSlash (Template.expand env (defaultPath env)) = false := by
    rw [expand_defaultPath, Files.Path.endsInSlash,
      List.getLast?_append_of_ne_nil _ (List.cons_ne_nil _ _)]
    decide
  have htakes : t'.Takes cwd (Template.expand env (defaultPath env)) loc :=
    ⟨hsame, h.free, hslash⟩
  exact loadDefault_eq_some_iff.2 ⟨c.write, Files.Tree.look_set htakes _, read?_write c⟩

/-- If loading gives the saved settings whatever they are, it looks where saving has written. -/
theorem locate_of_loadDefault (h : t'.Takes cwd (defaultPath env) loc)
    (hload : ∀ c : Config,
      loadDefault env ((t'.set loc (.file (Text.encode c.write))).look cwd) = .ok (some c)) :
    t'.locate cwd (Template.expand env (defaultPath env)) = .ok loc := by
  by_contra hne
  -- at another place one file is found, which cannot hold two different settings
  have hfound : ∀ c : Config, ∃ u,
      t'.look cwd (Template.expand env (defaultPath env)) = .content (Text.encode u) ∧
        read? u = some c := by
    intro c
    obtain ⟨u, hu, hread⟩ := loadDefault_eq_some_iff.1 (hload c)
    exact ⟨u, (Files.Tree.look_set_of_ne h hne).1 hu, hread⟩
  obtain ⟨u, hu, hread⟩ := hfound { decodeEntities := false }
  obtain ⟨u', hu', hread'⟩ := hfound { decodeEntities := true }
  have hbytes : Text.encode u = Text.encode u' := by
    rw [hu] at hu'
    exact Files.Lookup.content.inj hu'
  have htext : u = u' := by
    have hdecode := Text.decode?_encode u
    rw [hbytes, Text.decode?_encode] at hdecode
    exact (Option.some.inj hdecode).symm
  rw [htext, hread'] at hread
  exact absurd (congrArg (Option.map Config.decodeEntities) hread) (by decide)

end Saved

/-- **Saved settings are loaded again** if the home directory has no `$` and does not begin with
`~/`, or if there is none.  In general, where settings can be saved at all, whatever is saved is
loaded again exactly if the default path, taken as a template, leads to the place to which it leads
as a path. -/
theorem loadDefault_saveDefault_iff {c₀ : Config}
    (h : (c₀.saveDefault env t cwd).fault = none) :
    ((∀ c : Config,
        loadDefault env ((c.saveDefault env t cwd).tree.look cwd) = .ok (some c)) ↔
      (c₀.saveDefault env t cwd).tree.locate cwd (Template.expand env (defaultPath env))
        = (c₀.saveDefault env t cwd).tree.locate cwd (defaultPath env)) ∧
      ((∀ home ∈ env.home?, '$' ∉ home ∧ ¬ ['~', '/'] <+: home) →
        loadDefault env ((c₀.saveDefault env t cwd).tree.look cwd) = .ok (some c₀)) := by
  obtain ⟨t', loc, htakes, hsave⟩ := exists_saveDefault_eq h
  simp only [hsave]
  constructor
  · have hpath : (t'.set loc (.file (Text.encode c₀.write))).locate cwd (defaultPath env)
        = .ok loc := (Files.Tree.locate_set_iff _ htakes).2 htakes.located
    rw [hpath, Files.Tree.locate_set_iff _ htakes]
    exact ⟨locate_of_loadDefault htakes, loadDefault_of_locate htakes⟩
  · intro hhome
    have hsame : Template.expand env (defaultPath env) = defaultPath env := by
      rw [expand_defaultPath, Template.expand_tilde hhome, ← defaultPath_eq]
    refine loadDefault_of_locate htakes ?_ c₀
    rw [hsame, htakes.located]

/-- A tree with one empty directory. -/
def emptyWorkplace : Tree := .directory [(['w'], .empty)]

/-- The environment with the home directory `/u`, which `HOME` names. -/
def absoluteHome : Environment := { values := [("HOME".toList, ['/', 'u'])] }

/-- The environment in which `HOME` is empty, so the account has to name the home directory. -/
def emptyHome (accountHome : Option Text) : Environment :=
  { values := [("HOME".toList, [])], accountHome }

/-- The settings can be saved at the default path from the directory `/w`, and are loaded again. -/
def LoadsAgain (c : Config) (env : Environment) : Prop :=
  (c.saveDefault env emptyWorkplace [['w']]).fault = none ∧
    loadDefault env ((c.saveDefault env emptyWorkplace [['w']]).tree.look [['w']]) = .ok (some c)

/-- With the home directory `/u`, which is made when settings are saved, be it named by `HOME` or by
the account; and without one, so that settings go below `/w/~`. -/
theorem loadDefault_saveDefault_iff_absolute_home :
    LoadsAgain { preClass := ['"'] } absoluteHome ∧
      LoadsAgain { preClass := ['"'] } (emptyHome (some ['/', 'u'])) ∧
      LoadsAgain { preClass := ['"'] } (emptyHome none) := by
  have hnamed : (saveDefault { preClass := ['"'] } absoluteHome emptyWorkplace [['w']]).fault
      = none := by decide +kernel
  have haccount : (saveDefault { preClass := ['"'] } (emptyHome (some ['/', 'u'])) emptyWorkplace
      [['w']]).fault = none := by decide +kernel
  have hnone : (saveDefault { preClass := ['"'] } (emptyHome none) emptyWorkplace [['w']]).fault
      = none := by decide +kernel
  exact ⟨⟨hnamed, (loadDefault_saveDefault_iff hnamed).2 (by decide)⟩,
    ⟨haccount, (loadDefault_saveDefault_iff haccount).2 (by decide)⟩,
    ⟨hnone, (loadDefault_saveDefault_iff hnone).2 (by decide)⟩⟩

/-- The environment with the home directory `$X/h`, which is a path, and the value `y` of `X`. -/
def dollarHome : Environment := { values := [("HOME".toList, "$X/h".toList), (['X'], ['y'])] }

/-- With the home directory `$X/h` settings are saved below `$X` and looked for below `y`. -/
theorem loadDefault_misses_saved :
    (saveDefault {} dollarHome emptyWorkplace [['w']]).fault = none ∧
      loadDefault dollarHome
          ((saveDefault {} dollarHome emptyWorkplace [['w']]).tree.look [['w']])
        = .ok none := by
  decide +kernel

end Config

end TurtleMarkup
