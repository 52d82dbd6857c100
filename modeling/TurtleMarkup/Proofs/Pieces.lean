import Mathlib.Data.List.Chain
import TurtleMarkup.Proofs.Parts

/-!
# The pieces of a pass and the parts they become

A pass never leaves two gaps side by side (`Pass.separated_pieces`), never
leaves an empty gap, and what it finds is a lexeme of its own
(`Pass.pass_of_lexeme?`).  A lexeme neither begins nor ends with a plain part,
which is why gaps can be put through the next passes one by one.  After all
passes

* no part is empty (`Pass.ne_nil_of_mem_partsThrough`),
* no two neighbours are plain (`Pass.separated_partsThrough`),
* the category of a part belongs to a pass that was run, or is plain
  (`Pass.kind_of_mem_partsThrough`).
-/

namespace TurtleMarkup

/-! ## Pieces of a pass -/

namespace Piece

/-- Whether a piece is a gap. -/
def isGap : Piece → Bool
  | .gap _ => true
  | .found _ => false

/-- No two neighbours are gaps. -/
def Separated (ps : List Piece) : Prop := ps.IsChain fun a b => ¬ (a.isGap ∧ b.isGap)

theorem separated_pushGap (c : Char) {ps : List Piece} (h : Separated ps) :
    Separated (pushGap c ps) := by
  cases ps with
  | nil => exact List.isChain_singleton _
  | cons p ps =>
    cases p with
    | gap t =>
      obtain ⟨hhead, htail⟩ := List.isChain_cons.1 h
      exact List.isChain_cons.2 ⟨hhead, htail⟩
    | found l =>
      refine List.isChain_cons.2 ⟨?_, h⟩
      intro b hb
      obtain rfl : Piece.found l = b := by simpa using hb
      simp [isGap]

theorem gap_ne_nil_of_mem_pushGap {c : Char} {ps : List Piece} (h : ∀ t, gap t ∈ ps → t ≠ [])
    {t : Text} (ht : gap t ∈ pushGap c ps) : t ≠ [] := by
  cases ps with
  | nil =>
    obtain rfl : t = [c] := by simpa [pushGap] using ht
    simp
  | cons p ps =>
    cases p with
    | gap u =>
      rcases List.mem_cons.1 ht with heq | ht
      · obtain rfl : t = c :: u := by simpa using heq
        simp
      · exact h t (List.mem_cons_of_mem _ ht)
    | found l =>
      rcases List.mem_cons.1 ht with heq | ht
      · obtain rfl : t = [c] := by simpa using heq
        simp
      · exact h t ht

theorem found_mem_of_mem_pushGap {c : Char} {ps : List Piece} {l : Lexeme}
    (h : found l ∈ pushGap c ps) : found l ∈ ps := by
  cases ps with
  | nil => simp [pushGap] at h
  | cons p ps => cases p <;> simpa [pushGap] using h

end Piece

namespace Pass

theorem separated_piecesAfter (p : Pass) (before : Option Char) (t : Text) :
    Piece.Separated (p.piecesAfter before t) := by
  fun_induction piecesAfter p before t with
  | case1 => exact List.isChain_nil
  | case2 before c cs l rest h ih =>
    refine List.isChain_cons.2 ⟨?_, ih⟩
    intro b _
    simp [Piece.isGap]
  | case3 before c cs h ih => exact Piece.separated_pushGap c ih

/-- A pass leaves no two gaps side by side. -/
theorem separated_pieces (p : Pass) (t : Text) : Piece.Separated (p.pieces t) :=
  p.separated_piecesAfter none t

theorem gap_ne_nil_of_mem_pieces {p : Pass} {t u : Text} (h : .gap u ∈ p.pieces t) : u ≠ [] := by
  suffices ∀ before, ∀ u, .gap u ∈ p.piecesAfter before t → u ≠ [] from this none u h
  clear h u
  intro before
  fun_induction piecesAfter p before t with
  | case1 => simp
  | case2 before c cs l rest h ih =>
    intro u hu
    exact ih u (by simpa using hu)
  | case3 before c cs h ih =>
    intro u hu
    exact Piece.gap_ne_nil_of_mem_pushGap ih hu

/-- What stands among the pieces as found was recognised at some place. -/
theorem exists_lexeme?_of_mem_pieces {p : Pass} {t : Text} {l : Lexeme}
    (h : .found l ∈ p.pieces t) : ∃ before u rest, p.lexeme? before u = some (l, rest) := by
  suffices ∀ before, .found l ∈ p.piecesAfter before t →
      ∃ before u rest, p.lexeme? before u = some (l, rest) from this none h
  clear h
  intro before
  fun_induction piecesAfter p before t with
  | case1 => simp
  | case2 before c cs l' rest h ih =>
    intro hl
    rcases List.mem_cons.1 hl with heq | hl
    · obtain rfl : l = l' := by simpa using heq
      exact ⟨before, c :: cs, rest, h⟩
    · exact ih hl
  | case3 before c cs h ih =>
    intro hl
    exact ih (Piece.found_mem_of_mem_pushGap hl)

end Pass

/-! ## Parts of a lexeme -/

namespace Pass

/-- The categories that a pass gives to what it finds. -/
def kinds : Pass → List Kind
  | .uri => [.uri]
  | .string => [.string]
  | .prefixedName => [.namespacePart, .localPart]
  | .languageTag => [.languageTag]
  | .keyword => [.keyword]

end Pass

namespace Lexeme

/-- The pass that finds a lexeme. -/
def pass : Lexeme → Pass
  | .uri _ => .uri
  | .string _ => .string
  | .prefixedName _ _ => .prefixedName
  | .languageTag _ => .languageTag
  | .keyword _ => .keyword

theorem kind_of_mem_parts {l : Lexeme} {part : Part} (h : part ∈ l.parts) :
    part.1 = .plain ∨ part.1 ∈ l.pass.kinds := by
  cases l with
  | prefixedName space name =>
    simp only [parts, List.mem_cons, List.not_mem_nil, or_false] at h
    rcases h with rfl | rfl | rfl <;> simp [pass, Pass.kinds]
  | uri | string | languageTag | keyword =>
    obtain rfl := List.mem_singleton.1 h
    simp [pass, Pass.kinds]

/-- A lexeme begins and ends with a part that is not plain, and has no two plain parts side by
side. -/
theorem isChain_parts (l : Lexeme) :
    l.parts.IsChain (fun a b => ¬ (a.1 = .plain ∧ b.1 = .plain)) ∧
      (∀ a ∈ l.parts.head?, a.1 ≠ .plain) ∧ ∀ a ∈ l.parts.getLast?, a.1 ≠ .plain := by
  cases l <;> simp [parts]

end Lexeme

namespace Pass

variable {p : Pass} {before : Option Char} {t rest : Text} {l : Lexeme}

theorem pass_of_lexeme? (h : p.lexeme? before t = some (l, rest)) : l.pass = p := by
  cases p with
  | uri =>
    simp only [lexeme?, Lexeme.uri?] at h
    split at h
    · split at h
      · obtain ⟨rfl, -⟩ := by simpa using h
        rfl
      · simp at h
    · simp at h
  | string =>
    simp only [lexeme?, Lexeme.string?] at h
    split at h
    · split at h
      · obtain ⟨rfl, -⟩ := by simpa using h
        rfl
      · simp at h
    · simp at h
  | prefixedName =>
    simp only [lexeme?, Lexeme.prefixedName?] at h
    split at h
    · split at h
      · obtain ⟨name, -, heq⟩ := Option.map_eq_some_iff.1 h
        obtain ⟨rfl, -⟩ := by simpa using heq
        rfl
      · simp at h
    · simp at h
  | languageTag =>
    simp only [lexeme?, Lexeme.languageTag?] at h
    split at h
    · obtain ⟨body, -, heq⟩ := Option.map_eq_some_iff.1 h
      obtain ⟨rfl, -⟩ := by simpa using heq
      rfl
    · simp at h
  | keyword =>
    simp only [lexeme?, Lexeme.keyword?] at h
    split at h
    · obtain ⟨w, -, hw⟩ := List.exists_of_findSome?_eq_some h
      rw [Lexeme.word?] at hw
      split at hw
      · obtain ⟨rfl, -⟩ := by simpa using hw
        rfl
      · simp at hw
    · simp at h

/-- Both names of a prefixed name have a letter at least. -/
theorem names_ne_nil_of_lexeme? {space name : Text}
    (h : p.lexeme? before t = some (.prefixedName space name, rest)) :
    space ≠ [] ∧ name ≠ [] := by
  obtain rfl : Pass.prefixedName = p := pass_of_lexeme? h
  simp only [lexeme?, Lexeme.prefixedName?] at h
  split at h
  · rename_i hstart
    split at h
    · obtain ⟨⟨name', rest'⟩, hrun, heq⟩ := Option.map_eq_some_iff.1 h
      simp only [Prod.mk.injEq, Lexeme.prefixedName.injEq] at heq
      obtain ⟨⟨rfl, rfl⟩, rfl⟩ := heq
      refine ⟨?_, (Lexeme.boundedRun?_eq_some hrun).2⟩
      -- the text begins with a letter, which the run of letters and digits takes
      cases t with
      | nil => simp at hstart
      | cons c cs =>
        have hc : c.isAlphanum = true := by
          have := (Bool.and_eq_true_iff.1 hstart).2
          simp only [List.head?_cons, Option.any_some] at this
          simp [Char.isAlphanum, this]
        simp [hc]
    · simp at h
  · simp at h

theorem ne_nil_of_mem_parts_lexeme? (h : p.lexeme? before t = some (l, rest)) {part : Part}
    (hpart : part ∈ l.parts) : part.2 ≠ [] := by
  cases l with
  | prefixedName space name =>
    obtain ⟨hspace, hname⟩ := names_ne_nil_of_lexeme? h
    simp only [Lexeme.parts, List.mem_cons, List.not_mem_nil, or_false] at hpart
    rcases hpart with rfl | rfl | rfl
    · exact hspace
    · simp
    · exact hname
  | uri | string | languageTag | keyword =>
    obtain rfl := List.mem_singleton.1 hpart
    exact (lexeme?_eq_some h).2

end Pass

/-! ## Parts of a text -/

namespace Part

/-- No two neighbours are plain. -/
def Separated (ps : List Part) : Prop := ps.IsChain fun a b => ¬ (a.1 = .plain ∧ b.1 = .plain)

end Part

namespace Pass

theorem ne_nil_of_mem_partsThrough {ps : List Pass} {t : Text} (ht : t ≠ []) {part : Part}
    (h : part ∈ partsThrough ps t) : part.2 ≠ [] := by
  induction ps generalizing t with
  | nil =>
    obtain rfl := List.mem_singleton.1 h
    exact ht
  | cons p ps ih =>
    obtain ⟨piece, hpiece, hpart⟩ := List.mem_flatMap.1 h
    cases piece with
    | gap u => exact ih (gap_ne_nil_of_mem_pieces hpiece) hpart
    | found l =>
      obtain ⟨before, u, rest, hl⟩ := exists_lexeme?_of_mem_pieces hpiece
      exact ne_nil_of_mem_parts_lexeme? hl hpart

theorem kind_of_mem_partsThrough {ps : List Pass} {t : Text} {part : Part}
    (h : part ∈ partsThrough ps t) : part.1 = .plain ∨ ∃ p ∈ ps, part.1 ∈ p.kinds := by
  induction ps generalizing t with
  | nil =>
    obtain rfl := List.mem_singleton.1 h
    exact Or.inl rfl
  | cons p ps ih =>
    obtain ⟨piece, hpiece, hpart⟩ := List.mem_flatMap.1 h
    cases piece with
    | gap u =>
      rcases ih hpart with hplain | ⟨q, hq, hkind⟩
      · exact Or.inl hplain
      · exact Or.inr ⟨q, List.mem_cons_of_mem p hq, hkind⟩
    | found l =>
      obtain ⟨before, u, rest, hl⟩ := exists_lexeme?_of_mem_pieces hpiece
      rcases Lexeme.kind_of_mem_parts hpart with hplain | hkind
      · exact Or.inl hplain
      · rw [pass_of_lexeme? hl] at hkind
        exact Or.inr ⟨p, List.mem_cons_self, hkind⟩

theorem partsThrough_ne_nil {ps : List Pass} {t : Text} (ht : t ≠ []) :
    partsThrough ps t ≠ [] := by
  intro h
  have hspell := spell_partsThrough ps t
  rw [h, Part.spell_nil] at hspell
  exact ht hspell.symm

theorem separated_partsThrough (ps : List Pass) (t : Text) :
    Part.Separated (partsThrough ps t) := by
  induction ps generalizing t with
  | nil => exact List.isChain_singleton _
  | cons p ps ih =>
    have hne : [] ∉ (p.pieces t).map (Piece.parts (partsThrough ps)) := by
      intro hmem
      obtain ⟨piece, hpiece, hparts⟩ := List.mem_map.1 hmem
      cases piece with
      | gap u => exact partsThrough_ne_nil (gap_ne_nil_of_mem_pieces hpiece) hparts
      | found l => cases l <;> simp [Piece.parts, Lexeme.parts] at hparts
    rw [partsThrough, List.flatMap_def, Part.Separated, List.isChain_flatten hne]
    constructor
    · intro parts hparts
      obtain ⟨piece, -, rfl⟩ := List.mem_map.1 hparts
      cases piece with
      | gap u => exact ih u
      | found l => exact l.isChain_parts.1
    · -- of two neighbouring pieces one is a lexeme, whose near end is not plain
      rw [List.isChain_map]
      refine (p.separated_pieces t).imp ?_
      intro a b hab x hx y hy hplain
      cases a with
      | found l => exact l.isChain_parts.2.2 x hx hplain.1
      | gap u =>
        cases b with
        | found l => exact l.isChain_parts.2.1 y hy hplain.2
        | gap v => exact hab ⟨rfl, rfl⟩

end Pass

namespace Line

theorem ne_nil_of_mem_parts {t : Text} {part : Part} (h : part ∈ parts t) : part.2 ≠ [] := by
  unfold parts at h
  split at h
  · simp at h
  · rename_i hne
    have ht : t ≠ [] := by simpa using hne
    split at h
    · obtain rfl := List.mem_singleton.1 h
      exact ht
    · exact Pass.ne_nil_of_mem_partsThrough ht h

theorem separated_parts (t : Text) : Part.Separated (parts t) := by
  unfold parts
  split
  · exact List.isChain_nil
  · split
    · exact List.isChain_singleton _
    · exact Pass.separated_partsThrough _ t

end Line

end TurtleMarkup
