import TurtleMarkup.Proofs.Files.Writing
import TurtleMarkup.Proofs.Outcome

/-!
# What a write leaves alone

Writing a file makes the directories around it first, from the outermost to the
innermost, and may fail at any of them or at the file itself.  Whatever happens,
the files of the tree are what they were, the one at the path apart if the write
succeeded, and nothing is new but that file and directories around it
(`Files.write_frames`).

Making directories is followed step by step: `Tree.GrownBy` says what a tree with
some more directories has in common with the old one.  One directory makes the
tree grow (`Tree.GrownBy.ofMakeDirectory`), growth adds up (`Tree.GrownBy.trans`),
and so any number of them does (`Tree.grownBy_makeDirectories`).

A writer may make the directory that holds the path only if the path of that
directory is not empty, or in any case; that comes to the same
(`Tree.makeHolder_eq`).
-/

namespace TurtleMarkup.Files

namespace Tree

variable {t s u : Tree} {loc l : Location} {cwd : Location} {path : Text} {paths : List Text}

/-! ## One more directory -/

/-- A directory is made where nothing stood, in a directory that was there. -/
theorem makeDirectory_eq_ok (h : t.makeDirectory cwd path = .ok s) :
    ∃ parent name, t.HasDirectory parent ∧ t.locate cwd path = .ok (parent ++ [name]) ∧
      t.get? (parent ++ [name]) = none ∧ s = t.set (parent ++ [name]) empty := by
  obtain ⟨⟨parent, name⟩, hlast, h⟩ := bind_eq_ok_iff.1 h
  obtain ⟨loc, henter, h⟩ := bind_eq_ok_iff.1 h
  split at h
  · cases h
  · rename_i hfree
    have hlocate : t.locate cwd path = .ok loc := by rw [locate_of_locateLast hlast, henter]
    obtain ⟨hdir, hloc⟩ := enter_eq_ok henter
    have hnone : ¬ t.HasDirectory loc := by
      rintro ⟨es, hes⟩
      rw [hfree] at hes
      cases hes
    -- the directory itself and the one above it are there already
    rcases hloc with rfl | rfl | rfl
    · exact absurd hdir hnone
    · exact absurd hdir.dropLast hnone
    · exact ⟨parent, name, hdir, hlocate, hfree, (Except.ok.inj h).symm⟩

theorem get?_empty_cons (n : Text) (r : Location) : empty.get? (n :: r) = none := rfl

section MadeDirectory

variable {parent : Location} {name : Text}

theorem get?_set_empty_of_ne (hparent : t.HasDirectory parent)
    (hfree : t.get? (parent ++ [name]) = none) (hl : l ≠ parent ++ [name]) :
    (t.set (parent ++ [name]) empty).get? l = t.get? l ∨
      (t.set (parent ++ [name]) empty).HasDirectory l ∧ t.HasDirectory l := by
  refine get?_set_entry_of_ne hparent (fun n r => ?_) get?_empty_cons hl
  rw [get?_append, hfree, Option.bind_none]

end MadeDirectory

/-! ## Growing -/

/-- The tree `s` is the tree `t` with some directories more: where the given paths lead. -/
structure GrownBy (cwd : Location) (paths : List Text) (t s : Tree) : Prop where
  /-- Every file is what it was. -/
  file_iff : ∀ l b, s.get? l = some (.file b) ↔ t.get? l = some (.file b)
  /-- No directory is gone. -/
  keeps : ∀ l, t.HasDirectory l → s.HasDirectory l
  /-- New directories stand where the paths lead. -/
  made : ∀ l, s.HasDirectory l → t.HasDirectory l ∨ ∃ p ∈ paths, s.locate cwd p = .ok l

namespace GrownBy

theorem refl (cwd : Location) (paths : List Text) (t : Tree) : GrownBy cwd paths t t :=
  ⟨fun _ _ => Iff.rfl, fun _ h => h, fun _ h => Or.inl h⟩

theorem mono (h : GrownBy cwd paths t s) {more : List Text} (hsub : paths ⊆ more) :
    GrownBy cwd more t s := by
  refine ⟨h.file_iff, h.keeps, fun l hl => ?_⟩
  rcases h.made l hl with hold | ⟨p, hp, hlocate⟩
  · exact Or.inl hold
  · exact Or.inr ⟨p, hsub hp, hlocate⟩

theorem trans (h : GrownBy cwd paths t s) (h' : GrownBy cwd paths s u) : GrownBy cwd paths t u := by
  refine ⟨fun l b => (h'.file_iff l b).trans (h.file_iff l b),
    fun l hl => h'.keeps l (h.keeps l hl),
    fun l hl => ?_⟩
  rcases h'.made l hl with hmid | hnew
  · rcases h.made l hmid with hold | ⟨p, hp, hlocate⟩
    · exact Or.inl hold
    · -- the path still leads there, as no directory is gone
      exact Or.inr ⟨p, hp, locate_mono h'.keeps hlocate⟩
  · exact Or.inr hnew

/-- What is new is a directory, and one of the paths leads to it. -/
theorem hasDirectory_of_new (h : GrownBy cwd paths t s) (hold : t.get? l = none)
    (hnew : s.get? l ≠ none) : s.HasDirectory l ∧ ∃ p ∈ paths, s.locate cwd p = .ok l := by
  have hdir : s.HasDirectory l := by
    cases hl : s.get? l with
    | none => exact absurd hl hnew
    | some d =>
      cases d with
      | directory es => exact ⟨es, hl⟩
      | file b =>
        rw [h.file_iff, hold] at hl
        cases hl
  refine ⟨hdir, ?_⟩
  rcases h.made l hdir with ⟨es, hes⟩ | hpath
  · rw [hold] at hes
    cases hes
  · exact hpath

theorem ofMakeDirectory (h : t.makeDirectory cwd path = .ok s) : GrownBy cwd [path] t s := by
  obtain ⟨parent, name, hparent, hlocate, hfree, rfl⟩ := makeDirectory_eq_ok h
  have hother : ∀ l, l ≠ parent ++ [name] →
      (t.set (parent ++ [name]) empty).get? l = t.get? l ∨
        (t.set (parent ++ [name]) empty).HasDirectory l ∧ t.HasDirectory l :=
    fun l hl => get?_set_empty_of_ne hparent hfree hl
  have hkeeps : ∀ l, t.HasDirectory l → (t.set (parent ++ [name]) empty).HasDirectory l := by
    rintro l ⟨es, hes⟩
    have hne : l ≠ parent ++ [name] := by
      rintro rfl
      rw [hfree] at hes
      cases hes
    rcases hother l hne with hsame | ⟨hafter, -⟩
    · exact ⟨es, hsame.trans hes⟩
    · exact hafter
  refine ⟨fun l b => ?_, hkeeps, fun l hl => ?_⟩
  · by_cases hloc : l = parent ++ [name]
    · rw [hloc, hfree, get?_set_entry hparent, empty]
      simp
    · exact get?_eq_file_iff (hother l hloc)
  · by_cases hloc : l = parent ++ [name]
    · subst hloc
      exact Or.inr ⟨path, List.mem_singleton_self path, locate_mono hkeeps hlocate⟩
    · rcases hother l hloc with hsame | ⟨-, hbefore⟩
      · obtain ⟨es, hes⟩ := hl
        exact Or.inl ⟨es, hsame ▸ hes⟩
      · exact Or.inl hbefore

end GrownBy

theorem grownBy_ensureDirectory (t : Tree) (cwd : Location) (path : Text) :
    GrownBy cwd [path] t (t.ensureDirectory cwd path).tree := by
  rw [ensureDirectory]
  split
  · rename_i s hmade
    exact .ofMakeDirectory hmade
  · exact .refl cwd [path] t

/-- However far it gets, making directories only adds some of them. -/
theorem grownBy_makeDirectories (t : Tree) (cwd : Location) (paths : List Text) :
    GrownBy cwd paths t (t.makeDirectories cwd paths).tree := by
  induction paths with
  | nil => exact .refl cwd [] t
  | cons path outer ih =>
    have houter : GrownBy cwd (path :: outer) t (t.makeDirectories cwd outer).tree :=
      ih.mono (List.subset_cons_self path outer)
    have hinner : ∀ s : Tree, GrownBy cwd (path :: outer) s (s.ensureDirectory cwd path).tree :=
      fun s => (grownBy_ensureDirectory s cwd path).mono (by simp)
    rw [makeDirectories]
    split_ifs
    · split
      · rename_i s hmade
        rw [hmade] at houter
        exact houter.trans (hinner s)
      · exact houter
    · exact hinner t

end Tree

/-! ## The whole write -/

section Law

variable {t : Tree} {cwd : Location} {path text : Text}

/-- The trees have the same file at the place, or none. -/
def SameFileAt (t s : Tree) (l : Location) : Prop :=
  ∀ b, s.get? l = some (.file b) ↔ t.get? l = some (.file b)

/-- The second tree has an entry at the place, and the first has none. -/
def IsNewAt (t s : Tree) (l : Location) : Prop := t.get? l = none ∧ s.get? l ≠ none

/-- A directory stands at the place, and it is one of those around the path. -/
def IsAround (s : Tree) (cwd : Location) (path : Text) (l : Location) : Prop :=
  s.HasDirectory l ∧ ∃ p ∈ Path.parents path, s.locate cwd p = .ok l

/-- What writing a text at a path may do to a tree. -/
structure WriteLaw (t : Tree) (cwd : Location) (path text : Text) (c : Change) : Prop where
  /-- A write that succeeds can be read back.  Every file but the one at the path is what it was,
  and that one and directories around it are all that is new. -/
  succeeded : c.fault = none →
    readText path (c.tree.look cwd path) = .ok text ∧
      ∃ loc, c.tree.locate cwd path = .ok loc ∧
        (∀ l, l ≠ loc → SameFileAt t c.tree l) ∧
        ∀ l, IsNewAt t c.tree l → l = loc ∨ IsAround c.tree cwd path l
  /-- A write that fails leaves every file as it was, and directories around the path are all that
  is new. -/
  failed : c.fault ≠ none →
    (∀ l, SameFileAt t c.tree l) ∧ ∀ l, IsNewAt t c.tree l → IsAround c.tree cwd path l
  /-- No directory is gone. -/
  keeps : ∀ l, t.HasDirectory l → c.tree.HasDirectory l

theorem writeLaw_of_fault {c : Change} (hfault : c.fault ≠ none)
    (hgrown : Tree.GrownBy cwd (Path.parents path) t c.tree) : WriteLaw t cwd path text c where
  succeeded h := absurd h hfault
  failed _ := ⟨hgrown.file_iff, fun _ hnew => hgrown.hasDirectory_of_new hnew.1 hnew.2⟩
  keeps := hgrown.keeps

theorem writeLaw_of_takes {s : Tree} {loc : Location}
    (hgrown : Tree.GrownBy cwd (Path.parents path) t s) (htakes : s.Takes cwd path loc) :
    WriteLaw t cwd path text ⟨none, s.set loc (.file (Text.encode text))⟩ where
  succeeded _ := by
    have hlocate : ∀ q l, (s.set loc (.file (Text.encode text))).locate cwd q = .ok l ↔
        s.locate cwd q = .ok l := fun _ _ => Tree.locate_set_iff _ htakes
    refine ⟨?_, loc, (hlocate path loc).2 htakes.located, fun l hl b => ?_, fun l hnew => ?_⟩
    · exact readText_eq_ok_iff.2 (Tree.look_set htakes _)
    · exact (Tree.get?_set_file_iff _ htakes hl).trans (hgrown.file_iff l b)
    · by_cases hl : l = loc
      · exact Or.inl hl
      right
      have hthere : s.get? l ≠ none := by
        rcases htakes.get?_set_of_ne (Text.encode text) hl with hsame | ⟨-, es, hes⟩
        · rw [← hsame]
          exact hnew.2
        · simp [hes]
      obtain ⟨hdir, p, hp, hplace⟩ := hgrown.hasDirectory_of_new hnew.1 hthere
      exact ⟨(Tree.hasDirectory_set_iff _ htakes).2 hdir, p, hp, (hlocate p l).2 hplace⟩
  failed h := absurd rfl h
  keeps l hl := (Tree.hasDirectory_set_iff _ htakes).2 (hgrown.keeps l hl)

theorem writeLaw_writeFile (t : Tree) (cwd : Location) (path text : Text) :
    WriteLaw t cwd path text (t.writeFile cwd path (Text.encode text)) := by
  have hgrown := Tree.grownBy_makeDirectories t cwd (Path.parents path)
  rw [Tree.writeFile]
  split
  · rename_i s hmade
    rw [hmade] at hgrown
    split
    · rename_i u hwrite
      obtain ⟨loc, htakes, rfl⟩ := Tree.write_eq_ok_iff.1 hwrite
      exact writeLaw_of_takes hgrown htakes
    · exact writeLaw_of_fault (by simp) hgrown
  · rename_i hfailed
    refine writeLaw_of_fault (fun hnone => ?_) hgrown
    exact hfailed (t.makeDirectories cwd (Path.parents path)).tree (by rw [← hnone])

end Law

/-! ## The directory that holds a path -/

namespace Path

/-- The path of the directory that holds a path: what stands before its last name.  That is empty
for a single name, and a slash if one stands before it.  Without any name there is none. -/
def parent? (path : Text) : Option Text :=
  if (ancestors path).isEmpty then none
  else some ((parents path).headD (if path.head? = some '/' then ['/'] else []))

/-- The first of the paths that end at names ends at one of the stretches, and the others come
from those before it. -/
theorem ancestorsOf_eq_cons {segments : List Text} {a : Text} {as : List Text}
    (h : ancestorsOf segments = a :: as) :
    ∃ s rest, s :: rest <:+ segments ∧ a = Text.join '/' (s :: rest).reverse ∧
      as = ancestorsOf rest ∧ ancestorsOf (s :: rest) = a :: as := by
  induction segments with
  | nil => cases h
  | cons s rest ih =>
    have hcons := h
    rw [ancestorsOf] at h
    split at h
    · obtain ⟨s', rest', hsuffix, hfacts⟩ := ih h
      exact ⟨s', rest', hsuffix.trans (List.suffix_cons s rest), hfacts⟩
    · obtain ⟨rfl, rfl⟩ := List.cons.inj h
      exact ⟨s, rest, List.suffix_rfl, rfl, rfl, hcons⟩

/-- The paths that end at the names of such a path are those behind it. -/
theorem ancestors_of_ancestorsOf {segments : List Text} {a : Text} {as : List Text}
    (hslash : ∀ s ∈ segments, '/' ∉ s) (h : ancestorsOf segments = a :: as) :
    ancestors a = a :: as := by
  obtain ⟨s, rest, hsuffix, rfl, -, hcons⟩ := ancestorsOf_eq_cons h
  have hne : (s :: rest).reverse ≠ [] := by simp
  have hpieces : ∀ t ∈ (s :: rest).reverse, '/' ∉ t :=
    fun t ht => hslash t (hsuffix.subset (List.mem_reverse.1 ht))
  rw [ancestors, Text.split_join hne hpieces, List.reverse_reverse, hcons]

/-- The directories around a path are the one that holds it and those around that. -/
theorem ancestors_of_parent? {path dir : Text} (h : parent? path = some dir) :
    ancestors dir = parents path := by
  have hslash : ∀ s ∈ (Text.split '/' path).reverse, '/' ∉ s :=
    fun s hs => Text.not_mem_of_mem_split (List.mem_reverse.1 hs)
  rw [parent?] at h
  split at h
  · cases h
  · obtain rfl := Option.some.inj h
    cases hparents : parents path with
    | nil =>
      rw [List.headD_nil]
      split <;> rfl
    | cons dir rest =>
      rw [parents] at hparents
      rw [List.headD_cons]
      cases hpath : ancestors path with
      | nil => simp [hpath] at hparents
      | cons a as =>
        obtain rfl : as = dir :: rest := by simpa [hpath] using hparents
        obtain ⟨s, before, hsuffix, -, hbefore, -⟩ := ancestorsOf_eq_cons hpath
        have hsub : ∀ t ∈ before, '/' ∉ t :=
          fun t ht => hslash t (hsuffix.subset (List.mem_cons_of_mem s ht))
        exact ancestors_of_ancestorsOf hsub hbefore.symm

theorem parents_of_parent?_eq_none {path : Text} (h : parent? path = none) :
    parents path = [] := by
  rw [parent?] at h
  split at h
  · rename_i hnone
    rw [parents, List.isEmpty_iff.1 hnone, List.drop_nil]
  · cases h

end Path

/-- The tree with the directory that holds a path, and those around it, made if `makes` says so of
its path. -/
def Tree.makeHolder (makes : Text → Bool) (t : Tree) (cwd : Location) (path : Text) : Change :=
  ((Path.parent? path).filter makes).elim ⟨none, t⟩ fun dir =>
    t.makeDirectories cwd (Path.ancestors dir)

/-- Passing over an empty path of the holding directory makes no difference. -/
theorem Tree.makeHolder_eq {makes : Text → Bool} (hmakes : ∀ dir, dir ≠ [] → makes dir = true)
    (t : Tree) (cwd : Location) (path : Text) :
    t.makeHolder makes cwd path = t.makeDirectories cwd (Path.parents path) := by
  rw [makeHolder]
  cases hparent : Path.parent? path with
  | none => rw [Path.parents_of_parent?_eq_none hparent]; rfl
  | some dir =>
    rw [← Path.ancestors_of_parent? hparent]
    cases hdir : makes dir with
    | true => rw [Option.filter_some_pos hdir, Option.elim_some]
    | false =>
      have hempty : dir = [] := by
        by_contra hne
        rw [hmakes dir hne] at hdir
        cases hdir
      rw [Option.filter_some_neg hdir, Option.elim_none, hempty]
      rfl

/-- **A write leaves all other files alone**, also one that fails.  If it succeeds, what was written
is read back, and the file and directories around it are all that is new; if it fails, nothing but
such directories is.  This holds of any text and of the settings file.  Whether a writer makes the
holding directory only if its path is not empty, or in any case, it makes the same directories. -/
theorem write_frames (t : Tree) (cwd : Location) (path : Text) :
    (∀ text : Text, WriteLaw t cwd path text (t.writeFile cwd path (Text.encode text))) ∧
      (∀ c : Config, WriteLaw t cwd path c.write (c.save t cwd path)) ∧
      t.makeHolder (fun dir => !dir.isEmpty) cwd path
        = t.makeDirectories cwd (Path.parents path) ∧
      t.makeHolder (fun _ => true) cwd path = t.makeDirectories cwd (Path.parents path) := by
  refine ⟨writeLaw_writeFile t cwd path, fun c => writeLaw_writeFile t cwd path c.write, ?_, ?_⟩
  · exact Tree.makeHolder_eq (by simp) t cwd path
  · exact Tree.makeHolder_eq (fun _ _ => rfl) t cwd path

/-- A tree with one file, `c`, which holds a byte that is no text. -/
def oneFileTree : Tree := .directory [(['c'], .file ⟨#[255]⟩)]

/-- The tree with `x` written to `a/b`. -/
def besideOneFile : Change := oneFileTree.writeFile [] ['a', '/', 'b'] (Text.encode ['x'])

/-- The write to `a/b` succeeds and makes the directory `a`.  The text is read back, and `c` is what
it was. -/
theorem write_frames_new_directory :
    besideOneFile.fault = none ∧ IsNewAt oneFileTree besideOneFile.tree [['a']] ∧
      readText ['a', '/', 'b'] (besideOneFile.tree.look [] ['a', '/', 'b']) = .ok ['x'] ∧
      SameFileAt oneFileTree besideOneFile.tree [['c']] ∧
      IsAround besideOneFile.tree [] ['a', '/', 'b'] [['a']] := by
  have hwritten : besideOneFile.fault = none := by decide +kernel
  have hmade : (besideOneFile.tree.get? [['a']]).isSome := by decide +kernel
  have hnew : IsNewAt oneFileTree besideOneFile.tree [['a']] :=
    ⟨rfl, Option.isSome_iff_ne_none.1 hmade⟩
  have hplace : besideOneFile.tree.locate [] ['a', '/', 'b'] = .ok [['a'], ['b']] := by
    decide +kernel
  obtain ⟨hread, loc, hloc, hsame, haround⟩ :=
    ((write_frames oneFileTree [] ['a', '/', 'b']).1 ['x']).succeeded hwritten
  obtain rfl : [['a'], ['b']] = loc := Except.ok.inj (hplace.symm.trans hloc)
  exact ⟨hwritten, hnew, hread, hsame _ (by decide), (haround _ hnew).resolve_left (by decide)⟩

-- `b/` can be no file, but the directory `a` is made before that shows.
example : (Tree.empty.writeFile [] "a/b/".toList .empty).fault = some .isDirectory ∧
    ((Tree.empty.writeFile [] "a/b/".toList .empty).tree.get? [['a']]).isSome := by
  decide +kernel

end TurtleMarkup.Files
