import TurtleMarkup.Proofs.Config.RoundTrip
import TurtleMarkup.Proofs.Files.Writing
import TurtleMarkup.Proofs.Outcome

/-!
# Saving and loading at a named path

Settings are loaded from a template: the path that it stands for, or the template
itself if one of its variables is not set.  Saved at that path, they are loaded
again (`Config.load_finds_saved`), whatever stood there before.

Nothing can come between: the save has made the directories around the file, so
the path leads to the file (`Files.Tree.look_set`); the file holds the bytes that
were written; and these are read as the settings (`Config.read?_write`).
-/

namespace TurtleMarkup

namespace Template

variable {env : Environment} {t path : Text}

theorem Part.expand?_eq_none_iff {p : Part} :
    p.expand? env = none ↔ ∃ name, p = .valueOf name none ∧ env.lookup name = none := by
  cases p with
  | char c => simp [Part.expand?]
  | valueOf name default => simp [Part.expand?, and_comm]

theorem mapM_expand?_eq_none_iff {ps : List Part} :
    ps.mapM (Part.expand? env) = none ↔ ∃ p ∈ ps, p.expand? env = none := by
  induction ps with
  | nil => simp
  | cons p ps ih =>
    rw [List.mapM_cons, List.exists_mem_cons_iff, ← ih]
    cases p.expand? env with
    | none => simp
    | some a => cases ps.mapM (Part.expand? env) <;> simp

/-- A template cannot be filled in exactly if a variable without a default is not set. -/
theorem expand?_eq_none_iff :
    expand? env t = none ↔ ∃ name, .valueOf name none ∈ parts t ∧ env.lookup name = none := by
  rw [expand?, fill?, Option.map_eq_none_iff, Option.map_eq_none_iff, mapM_expand?_eq_none_iff]
  simp only [Part.expand?_eq_none_iff]
  constructor
  · rintro ⟨-, hp, name, rfl, hname⟩
    exact ⟨name, hp, hname⟩
  · rintro ⟨name, hp, hname⟩
    exact ⟨_, hp, name, rfl, hname⟩

/-- The path for which a template stands: the template filled in, or the template itself if a
variable without a default is not set. -/
inductive StandsFor (env : Environment) (t : Text) : Text → Prop where
  | filled {path : Text} (h : expand? env t = some path) : StandsFor env t path
  | unset {name : Text} (h : .valueOf name none ∈ parts t) (hname : env.lookup name = none) :
    StandsFor env t t

/-- Every template stands for one path. -/
theorem standsFor_iff : StandsFor env t path ↔ path = expand env t := by
  constructor
  · intro h
    cases h with
    | filled h => rw [expand, h, Option.getD_some]
    | unset h hname => rw [expand, expand?_eq_none_iff.2 ⟨_, h, hname⟩, Option.getD_none]
  · rintro rfl
    cases h : expand? env t with
    | some path =>
      rw [expand, h]
      exact .filled h
    | none =>
      obtain ⟨name, hpart, hname⟩ := expand?_eq_none_iff.1 h
      rw [expand, h]
      exact .unset hpart hname

end Template

namespace Config

open Files (Tree Location)

variable {env : Environment} {t : Tree} {cwd : Location} {c : Config}

/-- Settings that were saved are found at their path. -/
theorem look_save {path : Text} (h : (c.save t cwd path).fault = none) :
    (c.save t cwd path).tree.look cwd path = .content (Text.encode c.write) := by
  rw [save] at h ⊢
  obtain ⟨loc, htakes, hwrite⟩ := Files.Tree.writeFile_of_fault_eq_none h
  rw [hwrite]
  exact Files.Tree.look_set htakes _

/-- **Saved settings are what a load of the template finds.**  A template stands for a path, be it
filled in or not, and settings that can be saved at that path are loaded again from the template,
whatever the tree held before. -/
theorem load_finds_saved (env : Environment) (template : Text) :
    (∃ path, Template.StandsFor env template path) ∧
      ∀ path, Template.StandsFor env template path →
        ∀ (c : Config) (t : Tree) (cwd : Location), (c.save t cwd path).fault = none →
          load env ((c.save t cwd path).tree.look cwd) template = .ok (some c) := by
  refine ⟨⟨_, Template.standsFor_iff.2 rfl⟩, ?_⟩
  intro path hpath c t cwd hsaved
  obtain rfl := Template.standsFor_iff.1 hpath
  exact ofLookup_eq_some_iff.2 ⟨c.write, look_save hsaved, read?_write c⟩

/-- The variable of `$B/c` is not set, so settings go to the file `c` in a directory that is named
`$B`, where a byte stands that is no text.  Nor is `HOME`, so for `~/c` they go to the home
directory of the account. -/
theorem load_finds_saved_unset_variable :
    (Template.StandsFor {} ['$', 'B', '/', 'c'] ['$', 'B', '/', 'c'] ∧
      (save { preClass := ['"', '\n'] }
          (.directory [(['$', 'B'], .directory [(['c'], .file ⟨#[255]⟩)])]) []
          ['$', 'B', '/', 'c']).fault = none ∧
      load {}
          ((save { preClass := ['"', '\n'] }
            (.directory [(['$', 'B'], .directory [(['c'], .file ⟨#[255]⟩)])]) []
            ['$', 'B', '/', 'c']).tree.look []) ['$', 'B', '/', 'c']
        = .ok (some { preClass := ['"', '\n'] })) ∧
    (Template.StandsFor { accountHome := some ['/', 'u'] } ['~', '/', 'c'] ['/', 'u', '/', 'c'] ∧
      load { accountHome := some ['/', 'u'] }
          ((save {} .empty [] ['/', 'u', '/', 'c']).tree.look []) ['~', '/', 'c']
        = .ok (some {})) := by
  have hunset : Template.StandsFor {} ['$', 'B', '/', 'c'] ['$', 'B', '/', 'c'] :=
    Template.standsFor_iff.2 (by decide +kernel)
  have hsaved : (save { preClass := ['"', '\n'] }
      (.directory [(['$', 'B'], .directory [(['c'], .file ⟨#[255]⟩)])]) []
      ['$', 'B', '/', 'c']).fault = none := by decide +kernel
  have hhome : Template.StandsFor { accountHome := some ['/', 'u'] } ['~', '/', 'c']
      ['/', 'u', '/', 'c'] := Template.standsFor_iff.2 (by decide +kernel)
  exact ⟨⟨hunset, hsaved, (load_finds_saved {} _).2 _ hunset _ _ _ hsaved⟩,
    hhome, (load_finds_saved _ _).2 _ hhome _ _ _ (by decide +kernel)⟩

end Config

end TurtleMarkup
