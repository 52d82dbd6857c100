import Mathlib.Data.List.Basic
import TurtleMarkup.Files.Lookup

/-!
# A written file is found again

Writing changes a tree at one place.  Below and beside that place everything
stays as it was, and above it the same directories are there
(`Tree.get?_set_append`, `Tree.get?_set_elsewhere`).  Following a path only
asks which places are directories, so a path leads after the change where it led
before (`Tree.locate_set_iff`), and the path that was written leads to the new
file (`Tree.look_set`).

`Tree.write_eq_ok_iff` says when a file can be written, without its content.
-/

namespace TurtleMarkup.Files

theorem bind_eq_ok_iff {ε α β : Type} {x : Except ε α} {f : α → Except ε β} {b : β} :
    x >>= f = .ok b ↔ ∃ a, x = .ok a ∧ f a = .ok b := by
  cases x with
  | error e => simp [bind, Except.bind]
  | ok a => simp [bind, Except.bind]

namespace Tree

variable {t s new : Tree} {loc l : Location} {cwd start : Location} {path : Text}

/-! ## Places in a changed tree -/

@[simp] theorem get?_nil (t : Tree) : t.get? [] = some t := by cases t <;> rfl

@[simp] theorem get?_file_cons (content : ByteArray) (n : Text) (ns : Location) :
    (file content).get? (n :: ns) = none := rfl

theorem get?_directory_cons (es : List (Text × Tree)) (n : Text) (ns : Location) :
    (directory es).get? (n :: ns) = (es.lookup n).bind fun s => s.get? ns := by
  rw [get?]
  cases es.lookup n <;> rfl

theorem get?_append (t : Tree) (a b : Location) :
    t.get? (a ++ b) = (t.get? a).bind fun s => s.get? b := by
  induction a generalizing t with
  | nil => simp
  | cons n a ih =>
    cases t with
    | file content => rfl
    | directory es =>
      rw [List.cons_append, get?_directory_cons, get?_directory_cons]
      cases es.lookup n with
      | none => rfl
      | some s => exact ih s

@[simp] theorem set_nil (t new : Tree) : t.set [] new = new := by cases t <;> rfl

theorem lookup_setEntry_self (n : Text) (new : Tree) (es : List (Text × Tree)) :
    (setEntry n new es).lookup n = some new := by
  induction es with
  | nil => simp [setEntry]
  | cons e es ih =>
    rw [setEntry]
    split
    · simp
    · rename_i he
      rw [List.lookup_cons, beq_false_of_ne (Ne.symm he)]
      exact ih

theorem lookup_setEntry_of_ne {m n : Text} (h : m ≠ n) (new : Tree) (es : List (Text × Tree)) :
    (setEntry n new es).lookup m = es.lookup m := by
  induction es with
  | nil => simp [setEntry, h]
  | cons e es ih =>
    rw [setEntry]
    split
    · rename_i he
      have hm : (m == n) = false := beq_false_of_ne h
      rw [List.lookup_cons, List.lookup_cons, he, hm]
    · rw [List.lookup_cons, List.lookup_cons, ih]

/-- Above the place of a change stands what stood there, with the change in it. -/
theorem get?_set_append {d : Tree} (h : t.get? l = some d) (r : Location) (new : Tree) :
    (t.set (l ++ r) new).get? l = some (d.set r new) := by
  induction l generalizing t with
  | nil =>
    obtain rfl : t = d := by simpa using h
    simp
  | cons n l ih =>
    cases t with
    | file content => simp at h
    | directory es =>
      rw [get?_directory_cons] at h
      obtain ⟨s, hs, hd⟩ := Option.bind_eq_some_iff.1 h
      rw [List.cons_append, set, get?_directory_cons, lookup_setEntry_self, hs]
      exact ih hd

/-- Neither above nor below the place of a change anything is changed. -/
theorem get?_set_elsewhere (hl : ¬ loc <+: l) (hloc : ¬ l <+: loc) :
    (t.set loc new).get? l = t.get? l := by
  induction loc generalizing t l with
  | nil => exact absurd List.nil_prefix hl
  | cons n loc ih =>
    cases l with
    | nil => exact absurd List.nil_prefix hloc
    | cons m l =>
      cases t with
      | file content => rfl
      | directory es =>
        rw [set, get?_directory_cons, get?_directory_cons]
        by_cases hmn : m = n
        · subst hmn
          have hstep : ∀ s : Tree, (s.set loc new).get? l = s.get? l := fun s =>
            ih (fun h => hl (List.cons_prefix_cons.2 ⟨rfl, h⟩))
              (fun h => hloc (List.cons_prefix_cons.2 ⟨rfl, h⟩))
          rw [lookup_setEntry_self, Option.bind_some, hstep]
          cases es.lookup m with
          | some s => rfl
          | none =>
            -- what is missing on the way counts as an empty directory, which holds nothing
            cases l with
            | nil => exact absurd (List.cons_prefix_cons.2 ⟨rfl, List.nil_prefix⟩) hloc
            | cons k l => rfl
        · rw [lookup_setEntry_of_ne hmn]

/-! ## Directories -/

/-- A directory stands at the place. -/
def HasDirectory (t : Tree) (loc : Location) : Prop := ∃ es, t.get? loc = some (.directory es)

/-- What holds a directory is a directory. -/
theorem HasDirectory.of_append {a b : Location} (h : t.HasDirectory (a ++ b)) :
    t.HasDirectory a := by
  obtain ⟨es, h⟩ := h
  rw [get?_append] at h
  obtain ⟨s, hs, hb⟩ := Option.bind_eq_some_iff.1 h
  cases s with
  | directory es' => exact ⟨es', hs⟩
  | file content => cases b <;> simp at hb

theorem HasDirectory.dropLast (h : t.HasDirectory loc) : t.HasDirectory loc.dropLast := by
  rcases List.eq_nil_or_concat loc with rfl | ⟨a, n, rfl⟩
  · exact h
  · rw [List.concat_eq_append] at h ⊢
    rw [List.dropLast_concat]
    exact h.of_append

/-- Entering a name needs a directory, and leads nowhere else but to an entry of that name. -/
theorem enter_eq_ok {name : Text} (h : t.enter loc name = .ok l) :
    t.HasDirectory loc ∧ (l = loc ∨ l = loc.dropLast ∨ l = loc ++ [name]) := by
  rw [enter] at h
  split at h
  · cases h
  · cases h
  · rename_i es hes
    refine ⟨⟨es, hes⟩, ?_⟩
    split at h
    · exact Or.inl (Except.ok.inj h).symm
    · split at h
      · exact Or.inr (Or.inl (Except.ok.inj h).symm)
      · split at h
        · cases h
        · exact Or.inr (Or.inr (Except.ok.inj h).symm)

/-- Of the tree only one place counts: it has to be a directory. -/
theorem enter_congr {name : Text} (h : t.HasDirectory loc) (h' : s.HasDirectory loc) :
    t.enter loc name = s.enter loc name := by
  obtain ⟨es, h⟩ := h
  obtain ⟨es', h'⟩ := h'
  rw [enter, enter, h, h']

theorem enter_here (h : t.HasDirectory loc) : t.enter loc Path.here = .ok loc := by
  obtain ⟨es, h⟩ := h
  rw [enter, h]
  exact if_pos rfl

theorem follow_cons (t : Tree) (start : Location) (name : Text) (names : List Text) :
    t.follow start (name :: names) = t.enter start name >>= fun loc => t.follow loc names :=
  List.foldlM_cons

theorem follow_concat (t : Tree) (start : Location) (names : List Text) (name : Text) :
    t.follow start (names ++ [name]) = t.follow start names >>= fun loc => t.enter loc name := by
  rw [follow, List.foldlM_append]
  simp only [List.foldlM_cons, List.foldlM_nil, bind_pure]
  rfl

/-- With the same directories, and perhaps more, names lead where they led. -/
theorem follow_mono (hdir : ∀ l, t.HasDirectory l → s.HasDirectory l) {names : List Text}
    (h : t.follow start names = .ok loc) : s.follow start names = .ok loc := by
  induction names generalizing start with
  | nil => exact h
  | cons n names ih =>
    rw [follow_cons] at h ⊢
    obtain ⟨l, hl, hrest⟩ := bind_eq_ok_iff.1 h
    have hstart := (enter_eq_ok hl).1
    rw [enter_congr hstart (hdir start hstart)] at hl
    exact bind_eq_ok_iff.2 ⟨l, hl, ih hrest⟩

theorem locate_eq_ok_iff : t.locate cwd path = .ok loc ↔
    ∃ start names, Path.route cwd path = .ok (start, names) ∧ t.follow start names = .ok loc := by
  rw [locate, bind_eq_ok_iff, Prod.exists]

theorem locate_mono (hdir : ∀ l, t.HasDirectory l → s.HasDirectory l)
    (h : t.locate cwd path = .ok loc) : s.locate cwd path = .ok loc := by
  obtain ⟨start, names, hroute, hfollow⟩ := locate_eq_ok_iff.1 h
  exact locate_eq_ok_iff.2 ⟨start, names, hroute, follow_mono hdir hfollow⟩

end Tree

/-! ## Where a file can be written -/

/-- A path that does not end in a slash has a name. -/
theorem Path.names_ne_nil {path : Text} (hne : path ≠ []) (hslash : Path.endsInSlash path = false) :
    Path.names path ≠ [] := by
  suffices ∃ s ∈ Text.split '/' path, s ≠ [] by
    obtain ⟨s, hs, hne⟩ := this
    apply List.ne_nil_of_mem (a := s)
    simpa [Path.names, hs] using hne
  rw [Path.endsInSlash] at hslash
  induction path with
  | nil => exact absurd rfl hne
  | cons c cs ih =>
    rw [Text.split]
    by_cases hc : c = '/'
    · cases cs with
      | nil => simp [hc] at hslash
      | cons d ds =>
        rw [List.getLast?_cons_cons] at hslash
        obtain ⟨s, hs, hsne⟩ := ih (List.cons_ne_nil d ds) hslash
        rw [if_pos hc]
        exact ⟨s, List.mem_cons_of_mem _ hs, hsne⟩
    · rw [if_neg hc]
      cases Text.split '/' cs with
      | nil => exact ⟨[c], List.mem_singleton_self _, List.cons_ne_nil c []⟩
      | cons s ss => exact ⟨c :: s, List.mem_cons_self, List.cons_ne_nil c s⟩

theorem Path.route_eq_ok {cwd start : Location} {path : Text} {names : List Text}
    (h : Path.route cwd path = .ok (start, names)) : path ≠ [] ∧ names = Path.names path := by
  unfold Path.route at h
  split at h
  · cases h
  · split at h
    · cases h
    · rename_i hempty
      split at h
      · cases h
      · exact ⟨by simpa using hempty, (congrArg Prod.snd (Except.ok.inj h)).symm⟩

namespace Tree

variable {t s new : Tree} {loc l : Location} {cwd start : Location} {path : Text}

/-- A file can be written at the path: it does not end in a slash, and the place to which it leads
is no directory. -/
structure Takes (t : Tree) (cwd : Location) (path : Text) (loc : Location) : Prop where
  /-- The path leads to the place. -/
  located : t.locate cwd path = .ok loc
  /-- The place is no directory. -/
  free : ¬ t.HasDirectory loc
  /-- The path names a file. -/
  noSlash : Path.endsInSlash path = false

/-- The place of a file is an entry of the directory to which all names but the last lead. -/
theorem Takes.exists_parent (h : t.Takes cwd path loc) :
    ∃ start names parent name, Path.route cwd path = .ok (start, names ++ [name]) ∧
      t.follow start names = .ok parent ∧ t.enter parent name = .ok loc ∧
      loc = parent ++ [name] ∧ t.HasDirectory parent := by
  obtain ⟨start, names, hroute, hfollow⟩ := locate_eq_ok_iff.1 h.located
  obtain ⟨hne, hnames⟩ := Path.route_eq_ok hroute
  rcases List.eq_nil_or_concat names with rfl | ⟨ns, name, rfl⟩
  · exact absurd hnames.symm (Path.names_ne_nil hne h.noSlash)
  · rw [List.concat_eq_append] at hroute hfollow
    rw [follow_concat] at hfollow
    obtain ⟨parent, hparent, henter⟩ := bind_eq_ok_iff.1 hfollow
    obtain ⟨hdir, hloc⟩ := enter_eq_ok henter
    refine ⟨start, ns, parent, name, hroute, hparent, henter, ?_, hdir⟩
    -- the directory itself and the one above it are directories, and the place is none
    rcases hloc with rfl | rfl | hloc
    · exact absurd hdir h.free
    · exact absurd hdir.dropLast h.free
    · exact hloc

theorem locate_of_locateLast {parent : Location} {name : Text}
    (h : t.locateLast cwd path = .ok (parent, name)) :
    t.locate cwd path = t.enter parent name := by
  obtain ⟨⟨start, names⟩, hroute, h⟩ := bind_eq_ok_iff.1 h
  obtain ⟨parent', hparent, h⟩ := bind_eq_ok_iff.1 h
  obtain ⟨l, hhere, h⟩ := bind_eq_ok_iff.1 h
  obtain ⟨rfl, rfl⟩ := Prod.mk.inj (Except.ok.inj h)
  have hlocate : t.locate cwd path = t.follow start names := by
    rw [locate, hroute]
    rfl
  rw [hlocate]
  rcases List.eq_nil_or_concat names with rfl | ⟨ns, name, rfl⟩
  · obtain rfl : start = parent' := Except.ok.inj hparent
    exact (enter_here (enter_eq_ok hhere).1).symm
  · rw [List.concat_eq_append, List.dropLast_concat] at hparent
    rw [List.concat_eq_append, List.getLast?_concat, follow_concat, hparent]
    rfl

theorem locateLast_of_takes (h : t.Takes cwd path loc) :
    ∃ parent name, t.locateLast cwd path = .ok (parent, name) ∧ t.enter parent name = .ok loc := by
  obtain ⟨start, names, parent, name, hroute, hparent, henter, -, hdir⟩ := h.exists_parent
  refine ⟨parent, name, bind_eq_ok_iff.2 ⟨_, hroute, bind_eq_ok_iff.2 ⟨parent, ?_, ?_⟩⟩, henter⟩
  · rw [List.dropLast_concat]
    exact hparent
  · rw [List.getLast?_concat]
    exact bind_eq_ok_iff.2 ⟨parent, enter_here hdir, rfl⟩

/-- A file is written exactly where the tree takes one, whatever its content. -/
theorem write_eq_ok_iff {content : ByteArray} :
    t.write cwd path content = .ok new ↔
      ∃ loc, t.Takes cwd path loc ∧ new = t.set loc (.file content) := by
  constructor
  · intro h
    obtain ⟨⟨parent, name⟩, hlast, h⟩ := bind_eq_ok_iff.1 h
    simp only at h
    split at h
    · cases h
    · rename_i hslash
      obtain ⟨loc, henter, h⟩ := bind_eq_ok_iff.1 h
      split at h
      · cases h
      · rename_i hfree
        refine ⟨loc, ⟨?_, ?_, by simpa using hslash⟩, (Except.ok.inj h).symm⟩
        · rw [locate_of_locateLast hlast, henter]
        · rintro ⟨es, hes⟩
          exact hfree es hes
  · rintro ⟨loc, h, rfl⟩
    obtain ⟨parent, name, hlast, henter⟩ := locateLast_of_takes h
    refine bind_eq_ok_iff.2 ⟨(parent, name), hlast, ?_⟩
    simp only [h.noSlash]
    refine bind_eq_ok_iff.2 ⟨loc, henter, ?_⟩
    split
    · rename_i es hes
      exact absurd ⟨es, hes⟩ h.free
    · rfl

/-! ## What is found afterwards -/

section Entry

variable {parent : Location} {name : Text}

theorem get?_set_entry (h : t.HasDirectory parent) (new : Tree) :
    (t.set (parent ++ [name]) new).get? (parent ++ [name]) = some new := by
  obtain ⟨es, hes⟩ := h
  rw [get?_append, get?_set_append hes, Option.bind_some, set, get?_directory_cons,
    lookup_setEntry_self]
  simp

/-- Where a place stands to another one: above it, at it, below it or beside it. -/
theorem prefix_cases (loc l : Location) :
    (∃ n r, loc = l ++ n :: r) ∨ l = loc ∨ (∃ n r, l = loc ++ n :: r) ∨
      (¬ loc <+: l ∧ ¬ l <+: loc) := by
  by_cases hl : l <+: loc
  · obtain ⟨r, rfl⟩ := hl
    cases r with
    | nil => exact Or.inr (Or.inl (List.append_nil l).symm)
    | cons n r => exact Or.inl ⟨n, r, rfl⟩
  · by_cases hloc : loc <+: l
    · obtain ⟨r, rfl⟩ := hloc
      cases r with
      | nil => exact Or.inr (Or.inl (List.append_nil loc))
      | cons n r => exact Or.inr (Or.inr (Or.inl ⟨n, r, rfl⟩))
    · exact Or.inr (Or.inr (Or.inr ⟨hloc, hl⟩))

/-- What holds an entry of a directory is a directory. -/
theorem HasDirectory.above (h : t.HasDirectory parent) {n : Text} {r : Location}
    (heq : parent ++ [name] = l ++ n :: r) : t.HasDirectory l := by
  have hparent : l ++ (n :: r).dropLast = parent := by
    rw [← List.dropLast_append_of_ne_nil (List.cons_ne_nil n r), ← heq, List.dropLast_concat]
  rw [← hparent] at h
  exact h.of_append

/-- If an entry of a directory holds nothing, before and after it is put there, then at every other
place stands what stood there before, or a directory now and before. -/
theorem get?_set_entry_of_ne (hparent : t.HasDirectory parent)
    (hbefore : ∀ n r, t.get? (parent ++ [name] ++ n :: r) = none)
    (hafter : ∀ n r, new.get? (n :: r) = none) (hl : l ≠ parent ++ [name]) :
    (t.set (parent ++ [name]) new).get? l = t.get? l ∨
      (t.set (parent ++ [name]) new).HasDirectory l ∧ t.HasDirectory l := by
  rcases prefix_cases (parent ++ [name]) l with ⟨n, r, heq⟩ | heq | ⟨n, r, rfl⟩ | ⟨hloc, hl⟩
  · have habove := hparent.above heq
    obtain ⟨es, hes⟩ := habove
    rw [heq]
    exact Or.inr ⟨⟨_, get?_set_append hes (n :: r) new⟩, ⟨es, hes⟩⟩
  · exact absurd heq hl
  · left
    rw [hbefore, get?_append, get?_set_entry hparent, Option.bind_some, hafter]
  · exact Or.inl (get?_set_elsewhere hloc hl)

theorem get?_append_of_not_hasDirectory (h : ¬ t.HasDirectory loc) (n : Text) (r : Location) :
    t.get? (loc ++ n :: r) = none := by
  rw [get?_append]
  cases hloc : t.get? loc with
  | none => rfl
  | some s =>
    cases s with
    | file b => rfl
    | directory es => exact absurd ⟨es, hloc⟩ h

end Entry

section Written

variable (content : ByteArray)

theorem get?_set_self (h : t.Takes cwd path loc) :
    (t.set loc (.file content)).get? loc = some (.file content) := by
  obtain ⟨-, -, parent, name, -, -, -, rfl, hdir⟩ := h.exists_parent
  exact get?_set_entry hdir (.file content)

theorem Takes.get?_set_of_ne (h : t.Takes cwd path loc) (hl : l ≠ loc) :
    (t.set loc (.file content)).get? l = t.get? l ∨
      (t.set loc (.file content)).HasDirectory l ∧ t.HasDirectory l := by
  have hbelow := get?_append_of_not_hasDirectory h.free
  obtain ⟨-, -, parent, name, -, -, -, rfl, hdir⟩ := h.exists_parent
  exact get?_set_entry_of_ne hdir hbelow (fun _ _ => rfl) hl

/-- A written file leaves the directories as they are. -/
theorem hasDirectory_set_iff (h : t.Takes cwd path loc) :
    (t.set loc (.file content)).HasDirectory l ↔ t.HasDirectory l := by
  by_cases hl : l = loc
  · subst hl
    refine iff_of_false ?_ h.free
    rintro ⟨es, hes⟩
    rw [get?_set_self content h] at hes
    cases hes
  · rcases h.get?_set_of_ne content hl with hsame | ⟨hafter, hbefore⟩
    · rw [HasDirectory, HasDirectory, hsame]
    · exact iff_of_true hafter hbefore

/-- If two trees have the same at a place, or directories, they have the same file there or none. -/
theorem get?_eq_file_iff {b : ByteArray}
    (h : s.get? l = t.get? l ∨ s.HasDirectory l ∧ t.HasDirectory l) :
    s.get? l = some (.file b) ↔ t.get? l = some (.file b) := by
  rcases h with hsame | ⟨⟨es, hes⟩, ⟨es', hes'⟩⟩
  · rw [hsame]
  · simp [hes, hes']

/-- Every other file is what it was. -/
theorem get?_set_file_iff (h : t.Takes cwd path loc) (hl : l ≠ loc) {b : ByteArray} :
    (t.set loc (.file content)).get? l = some (.file b) ↔ t.get? l = some (.file b) :=
  get?_eq_file_iff (h.get?_set_of_ne content hl)

/-- Every path leads where it led. -/
theorem locate_set_iff (h : t.Takes cwd path loc) {q : Text} :
    (t.set loc (.file content)).locate cwd q = .ok l ↔ t.locate cwd q = .ok l :=
  ⟨locate_mono fun _ => (hasDirectory_set_iff content h).1,
    locate_mono fun _ => (hasDirectory_set_iff content h).2⟩

end Written

/-- A reader finds content where a path that does not end in a slash leads to a file. -/
theorem look_eq_content_iff {b : ByteArray} : t.look cwd path = .content b ↔
    Path.endsInSlash path = false ∧
      ∃ loc, t.locate cwd path = .ok loc ∧ t.get? loc = some (.file b) := by
  rw [look, find]
  cases hlocate : t.locate cwd path with
  | error f => simp [bind, Except.bind]
  | ok loc =>
    cases hloc : t.get? loc with
    | none => simp [bind, Except.bind, hloc]
    | some s =>
      cases s with
      | directory es => simp [bind, Except.bind, hloc]
      | file b' => cases Path.endsInSlash path <;> simp [bind, Except.bind, hloc]

/-- What was written is found at its path. -/
theorem look_set (h : t.Takes cwd path loc) (content : ByteArray) :
    (t.set loc (.file content)).look cwd path = .content content :=
  look_eq_content_iff.2
    ⟨h.noSlash, loc, (locate_set_iff content h).2 h.located, get?_set_self content h⟩

/-- A path that leads to another place finds the same, whatever was written. -/
theorem look_set_of_ne (h : t.Takes cwd path loc) {q : Text} (hq : t.locate cwd q ≠ .ok loc)
    {content b : ByteArray} :
    (t.set loc (.file content)).look cwd q = .content b ↔ t.look cwd q = .content b := by
  simp only [look_eq_content_iff, locate_set_iff content h]
  refine and_congr_right fun _ => exists_congr fun l => and_congr_right fun hl => ?_
  refine get?_set_file_iff content h ?_
  rintro rfl
  exact hq hl

/-- What a successful write comes to, whatever the content is: the directories around the file are
made, and the tree takes a file at the path. -/
theorem writeFile_of_fault_eq_none {content : ByteArray}
    (h : (t.writeFile cwd path content).fault = none) :
    ∃ loc, (t.makeDirectories cwd (Path.parents path)).tree.Takes cwd path loc ∧
      ∀ content, t.writeFile cwd path content
        = ⟨none, (t.makeDirectories cwd (Path.parents path)).tree.set loc (.file content)⟩ := by
  rw [writeFile] at h
  rcases hmade : t.makeDirectories cwd (Path.parents path) with ⟨fault, t'⟩
  rw [hmade] at h
  cases fault with
  | some f => cases h
  | none =>
    cases hwrite : t'.write cwd path content with
    | error f =>
      simp only [hwrite] at h
      cases h
    | ok t'' =>
      obtain ⟨loc, htakes, -⟩ := write_eq_ok_iff.1 hwrite
      refine ⟨loc, htakes, ?_⟩
      intro content'
      have hwrite' : t'.write cwd path content' = .ok (t'.set loc (.file content')) :=
        write_eq_ok_iff.2 ⟨loc, htakes, rfl⟩
      simp only [writeFile, hmade, hwrite']

end Tree

end TurtleMarkup.Files
