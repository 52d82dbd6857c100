import Mathlib.Data.List.TakeWhile
import TurtleMarkup.Text.Basic

/-!
# Longest runs

A reader that takes characters of a class as long as it can stops in front of the
first other one.  `Text.IsRun` says so of a text that is already cut there, and gives
both parts back.
-/

namespace TurtleMarkup.Text

theorem takeWhile_run {cls : Char → Bool} {run : Text} {d : Char}
    (hrun : ∀ c ∈ run, cls c = true) (hd : cls d = false) (rest : Text) :
    (run ++ d :: rest).takeWhile cls = run := by
  rw [List.takeWhile_append_of_pos hrun]
  simp [hd]

theorem dropWhile_run {cls : Char → Bool} {run : Text} {d : Char}
    (hrun : ∀ c ∈ run, cls c = true) (hd : cls d = false) (rest : Text) :
    (run ++ d :: rest).dropWhile cls = d :: rest := by
  rw [List.dropWhile_append_of_pos hrun]
  simp [hd]

/-- The text `run` is the longest beginning of `run ++ rest` with characters of a class only. -/
structure IsRun (cls : Char → Bool) (run rest : Text) : Prop where
  /-- The characters of the run belong to the class. -/
  all : ∀ c ∈ run, cls c = true
  /-- The character behind the run, if there is one, does not. -/
  stop : rest.head?.any cls = false

theorem isRun_takeWhile (cls : Char → Bool) (t : Text) :
    IsRun cls (t.takeWhile cls) (t.dropWhile cls) where
  all := fun _ hc => List.mem_takeWhile_imp hc
  stop := by
    have hhead := List.head?_dropWhile_not cls t
    cases hd : (t.dropWhile cls).head? with
    | none => rfl
    | some d =>
      rw [hd] at hhead
      simpa using hhead

/-- Every text begins with a longest run of a class, which may be empty. -/
theorem exists_isRun (cls : Char → Bool) (t : Text) :
    ∃ run rest, t = run ++ rest ∧ IsRun cls run rest :=
  ⟨_, _, List.takeWhile_append_dropWhile.symm, isRun_takeWhile cls t⟩

namespace IsRun

variable {cls : Char → Bool} {run rest : Text}

theorem takeWhile_eq (h : IsRun cls run rest) : (run ++ rest).takeWhile cls = run := by
  cases rest with
  | nil => rw [List.append_nil, List.takeWhile_eq_self_iff.2 h.all]
  | cons d rest => exact takeWhile_run h.all (by simpa using h.stop) rest

theorem dropWhile_eq (h : IsRun cls run rest) : (run ++ rest).dropWhile cls = rest := by
  cases rest with
  | nil => rw [List.append_nil, List.dropWhile_eq_nil_iff.2 h.all]
  | cons d rest => exact dropWhile_run h.all (by simpa using h.stop) rest

end IsRun

/-- A run ends at the end of the text, or in front of a character that is not of the class. -/
theorem isRun_of_head {cls : Char → Bool} {run rest : Text} (hrun : ∀ c ∈ run, cls c = true)
    (hrest : ∀ c ∈ rest.head?, cls c = false) : IsRun cls run rest where
  all := hrun
  stop := by
    cases rest with
    | nil => rfl
    | cons d rest => exact hrest d rfl

end TurtleMarkup.Text
