import TurtleMarkup.Proofs.Toml.Scalars

/-!
# Documents of assignments

A document of assignments gives scalars to bare keys, one to a line, with blank
lines, comments and blanks wherever they may stand (`IsDocumentOf`).  It is read as
its entries, in their order, exactly if no key is given twice and no number is out of
range (`parse?_document`).

One line is one step of the reader (`statement?_assignment`), and one statement one
step of the document (`extend_ofEntry`).
-/

namespace TurtleMarkup.Toml

/-! ## Lines -/

/-- A key that needs no quotes. -/
def IsBareKey (k : Text) : Prop := k ≠ [] ∧ k.all isBareKeyChar = true

instance (k : Text) : Decidable (IsBareKey k) := inferInstanceAs (Decidable (_ ∧ _))

/-- A key with a scalar, and a spelling of the scalar. -/
structure Assignment where
  /-- The key, which needs no quotes. -/
  key : Text
  /-- The scalar that the key is given. -/
  scalar : Scalar
  /-- How the scalar is written. -/
  spelling : Text
  isBareKey : IsBareKey key
  spells : scalar.Spells spelling

/-- The text is a document that makes the assignments, in their order. -/
inductive IsDocumentOf : List Assignment → Text → Prop where
  | empty : IsDocumentOf [] []
  | filler {l : List Assignment} {f e rest : Text} (hf : IsFiller f) (he : EndsLine rest e)
    (h : IsDocumentOf l rest) : IsDocumentOf l (f ++ (e ++ rest))
  | assignment (a : Assignment) {l : List Assignment} {indent before behind f e rest : Text}
    (hindent : IsBlanks indent) (hbefore : IsBlanks before) (hbehind : IsBlanks behind)
    (hf : IsFiller f) (he : EndsLine rest e) (h : IsDocumentOf l rest) :
    IsDocumentOf (a :: l)
      (indent ++ (a.key ++ (before ++ '=' :: (behind ++ (a.spelling ++ (f ++ (e ++ rest)))))))

/-- The line that makes an assignment, with single blanks around the equals sign. -/
def Assignment.line (a : Assignment) : Text :=
  a.key ++ ' ' :: '=' :: ' ' :: (a.spelling ++ ['\n'])

theorem isDocumentOf_lines (l : List Assignment) : IsDocumentOf l (l.flatMap Assignment.line) := by
  induction l with
  | nil => exact .empty
  | cons a l ih =>
    have hnone : IsBlanks [] := by simp [IsBlanks]
    have hone : IsBlanks [' '] := by simp [IsBlanks, isBlank]
    have h := IsDocumentOf.assignment a hnone hone hone (.blanks hnone) (.lineEnd (.inl rfl)) ih
    simpa [Assignment.line] using h

/-- A text that begins with a bare key begins with none of the other characters. -/
theorem IsBareKey.append_ne {k : Text} (h : IsBareKey k) {d : Char}
    (hd : isBareKeyChar d = false) (t u : Text) : k ++ t ≠ d :: u := by
  intro heq
  cases k with
  | nil => exact h.1 rfl
  | cons c k =>
    have hc := List.all_eq_true.1 h.2 c List.mem_cons_self
    rw [(List.cons.inj heq).1, hd] at hc
    cases hc

theorem IsBareKey.startsSolid {k : Text} (h : IsBareKey k) (t : Text) : StartsSolid (k ++ t) := by
  intro c hc
  cases hkt : k ++ t with
  | nil => simp [hkt] at hc
  | cons d u =>
    obtain rfl : d = c := by simpa [hkt] using hc
    have hne {x : Char} (hx : isBareKeyChar x = false) : d ≠ x := by
      rintro rfl
      exact h.append_ne hx t u hkt
    refine ⟨?_, hne rfl, hne rfl⟩
    simp [isBlank, hne (x := ' ') rfl, hne (x := '\t') rfl]

theorem skipFiller_of_bare {k : Text} (hk : IsBareKey k) (t : Text) :
    skipFiller (k ++ t) = k ++ t := by
  rw [skipFiller, skipSpace_of_solid (hk.startsSolid t)]
  split
  · rename_i u heq
    exact absurd heq (hk.append_ne rfl t u)
  · rfl

theorem not_isBareKeyChar_of_isBlank {c : Char} (h : isBlank c = true) :
    isBareKeyChar c = false := by
  simp only [isBlank, Bool.or_eq_true, beq_iff_eq] at h
  rcases h with rfl | rfl <;> rfl

theorem keys?_bare {limit : Nat} {k before : Text} (h : IsBareKey k) (hbefore : IsBlanks before)
    (t : Text) : keys? (limit + 1) (k ++ (before ++ '=' :: t)) = some ([k], '=' :: t) := by
  have hrun : Text.IsRun isBareKeyChar k (before ++ '=' :: t) := by
    refine Text.isRun_of_head (List.all_eq_true.1 h.2) fun c hc => ?_
    cases before with
    | nil =>
      obtain rfl : '=' = c := by simpa using hc
      rfl
    | cons d before =>
      obtain rfl : d = c := by simpa using hc
      exact not_isBareKeyChar_of_isBlank (hbefore d List.mem_cons_self)
  have hempty : ¬ k.isEmpty = true := by simpa using h.1
  have hkey : key? (k ++ (before ++ '=' :: t)) = some (k, before ++ '=' :: t) := by
    rw [key?]
    · simp only [hrun.takeWhile_eq, if_neg hempty, List.drop_left]
    · exact fun u => h.append_ne rfl _ u
    · exact fun u => h.append_ne rfl _ u
  have hskip : skipBlanks (before ++ '=' :: t) = '=' :: t := by
    rw [skipBlanks_append hbefore]
    rfl
  simp only [keys?, hkey, Option.bind_eq_bind, Option.bind_some, hskip]
  rfl

/-- The entry that an assignment makes, if its scalar is in range. -/
def Assignment.entry? (a : Assignment) : Option (Text × Value) :=
  (a.scalar.reading a.spelling).map (a.key, ·)

/-- The entry that an assignment in range makes. -/
def Assignment.entry (a : Assignment) : Text × Value := (a.key, a.scalar.toValue a.spelling)

/-- The statement that makes an entry. -/
def Statement.ofEntry (e : Text × Value) : Statement := .assignment [e.1] e.2

/-- An assignment is read up to the end of its value. -/
theorem statement?_assignment (a : Assignment) {before behind rest : Text}
    (hbefore : IsBlanks before) (hbehind : IsBlanks behind) (hrest : EndsValue rest) :
    statement? (a.key ++ (before ++ '=' :: (behind ++ (a.spelling ++ rest))))
      = a.entry?.map fun e => (Statement.ofEntry e, rest) := by
  have hkeys : keys? nestingLimit (a.key ++ (before ++ '=' :: (behind ++ (a.spelling ++ rest))))
      = some ([a.key], '=' :: (behind ++ (a.spelling ++ rest))) := keys?_bare a.isBareKey hbefore _
  have hequals : after? '=' (skipBlanks ('=' :: (behind ++ (a.spelling ++ rest))))
      = some (behind ++ (a.spelling ++ rest)) := rfl
  have hskip : skipBlanks (behind ++ (a.spelling ++ rest)) = a.spelling ++ rest := by
    rw [skipBlanks_append hbehind, skipBlanks_of_spells a.spells]
  rw [statement?]
  · simp only [assignment?, hkeys, Option.bind_eq_bind, Option.bind_some, hequals, hskip,
      value?_of_spells a.spells hrest, Assignment.entry?]
    cases a.scalar.reading a.spelling <;> rfl
  · exact fun u => a.isBareKey.append_ne rfl _ _
  · exact fun u => a.isBareKey.append_ne rfl _ u

/-! ## Statements -/

theorem statements?_of_skipFiller_eq_nil {t : Text} (h : skipFiller t = []) :
    statements? t = some [] := by
  rw [statements?, h]

/-- A document is read line by line.  The text may have more filler in front than the document. -/
theorem statements?_of_document {l : List Assignment} {doc : Text} (h : IsDocumentOf l doc)
    {t : Text} (ht : skipFiller t = skipFiller doc) (hlength : doc.length ≤ t.length) :
    statements? t = (l.mapM Assignment.entry?).map (·.map Statement.ofEntry) := by
  induction h generalizing t with
  | empty =>
    have hnil : skipFiller [] = [] := by
      rw [skipFiller]
      rfl
    rw [statements?_of_skipFiller_eq_nil (ht.trans hnil)]
    rfl
  | filler hf he _ ih =>
    rw [skipFiller_append hf he] at ht
    apply ih ht
    simp only [List.length_append] at hlength
    omega
  | @assignment a l indent before behind f e rest hindent hbefore hbehind hf he _ ih =>
    rw [skipFiller_space hindent.isSpace, skipFiller_of_bare a.isBareKey] at ht
    have hread := statement?_assignment a hbefore hbehind ⟨f, e, rest, hf, he, rfl⟩
    have htail := ih rfl (Nat.le_refl rest.length)
    have hlt : rest.length < t.length := by
      simp only [List.length_append, List.length_cons] at hlength
      omega
    rw [statements?, ht]
    split
    · rename_i hnil
      exact absurd (List.append_eq_nil_iff.1 hnil).1 a.isBareKey.1
    · rw [hread, List.mapM_cons]
      cases a.entry? with
      | none => rfl
      | some entry =>
        simp only [Option.map_some, Option.bind_eq_bind, Option.bind_some,
          endOfLine?_append hf he, if_pos hlt, htail]
        cases l.mapM Assignment.entry? <;> rfl

/-! ## Documents -/

theorem extend_ofEntry (es : Entries) (e : Text × Value) :
    Document.extend ⟨es, []⟩ (.ofEntry e)
      = if e.1 ∈ es.map Prod.fst then none else some ⟨es ++ [e], []⟩ := by
  have hlookup : es.lookup e.1 = none ↔ e.1 ∉ es.map Prod.fst := by
    rw [List.lookup_eq_none_iff, List.mem_map, not_exists]
    refine forall_congr' fun d => ?_
    rw [not_and, bne_iff_ne, ne_comm]
  simp only [Document.extend, Statement.ofEntry, Entries.assign, Entries.alter, Entries.add]
  by_cases hmem : e.1 ∈ es.map Prod.fst
  · have hsome : (es.lookup e.1).isSome = true :=
      Option.isSome_iff_ne_none.2 fun hnone => hlookup.1 hnone hmem
    simp [hsome, hmem]
  · simp [hlookup.2 hmem, hmem]

/-- Entries are added as long as their keys are new. -/
theorem foldlM_extend {es : Entries} (h : (es.map Prod.fst).Nodup) (new : Entries) :
    (new.map Statement.ofEntry).foldlM Document.extend ⟨es, []⟩
      = if ((es ++ new).map Prod.fst).Nodup then some ⟨es ++ new, []⟩ else none := by
  induction new generalizing es with
  | nil => simp [h]
  | cons e new ih =>
    rw [List.map_cons, List.foldlM_cons, extend_ofEntry]
    by_cases hmem : e.1 ∈ es.map Prod.fst
    · have hdouble : ¬ ((es ++ e :: new).map Prod.fst).Nodup := by
        rw [List.map_append, List.nodup_append]
        rintro ⟨-, -, hdisjoint⟩
        exact hdisjoint _ hmem _ List.mem_cons_self rfl
      rw [if_pos hmem, if_neg hdouble]
      rfl
    · have hnodup : ((es ++ [e]).map Prod.fst).Nodup := by
        rw [List.map_append, List.nodup_append]
        refine ⟨h, by simp, ?_⟩
        rintro k hk d hd rfl
        rw [List.map_singleton, List.mem_singleton] at hd
        exact hmem (hd ▸ hk)
      rw [if_neg hmem, List.append_cons es e new]
      exact ih hnodup

theorem keys_of_mapM_entry? {l : List Assignment} {es : Entries}
    (h : l.mapM Assignment.entry? = some es) : es.map Prod.fst = l.map Assignment.key := by
  induction l generalizing es with
  | nil =>
    obtain rfl : [] = es := by simpa using h
    rfl
  | cons a l ih =>
    rw [List.mapM_cons] at h
    obtain ⟨e, he, h⟩ := Option.bind_eq_some_iff.1 h
    obtain ⟨es', hes', h⟩ := Option.bind_eq_some_iff.1 h
    obtain ⟨v, -, rfl⟩ := Option.map_eq_some_iff.1 he
    obtain rfl := Option.some.inj h
    rw [List.map_cons, ih hes', List.map_cons]

/-- A document does not begin with a byte order mark. -/
theorem skipMark_document {l : List Assignment} {doc : Text} (h : IsDocumentOf l doc) :
    skipMark doc = doc := by
  rw [skipMark]
  rintro u rfl
  generalize hdoc : '\ufeff' :: u = doc at h
  cases h with
  | empty => cases hdoc
  | @filler l f e rest hf he =>
    have hends : EndsValue ('\ufeff' :: u) := ⟨f, e, rest, hf, he, hdoc⟩
    have hhead := hends.head (c := '\ufeff') rfl
    simp [isBlank] at hhead
  | @assignment a l indent before behind f e rest hindent =>
    cases indent with
    | nil => exact a.isBareKey.append_ne rfl _ u hdoc.symm
    | cons d indent =>
      have hblank := hindent d List.mem_cons_self
      rw [← (List.cons.inj hdoc).1] at hblank
      cases hblank

/-- **A document of assignments is read as its entries**, unless a key is given twice or a number
is out of range. -/
theorem parse?_document {l : List Assignment} {doc : Text} (h : IsDocumentOf l doc) :
    parse? doc = if (l.map Assignment.key).Nodup then l.mapM Assignment.entry? else none := by
  have hread := statements?_of_document h rfl (Nat.le_refl doc.length)
  simp only [parse?, skipMark_document h, hread, Option.bind_eq_bind]
  cases hes : l.mapM Assignment.entry? with
  | none => simp
  | some es =>
    have hfold := @foldlM_extend [] (by simp) es
    rw [List.nil_append, keys_of_mapM_entry? hes] at hfold
    rw [Option.map_some, Option.bind_some, hfold]
    split_ifs <;> rfl

theorem mapM_entry?_of_inRange {l : List Assignment} (h : ∀ a ∈ l, a.scalar.InRange) :
    l.mapM Assignment.entry? = some (l.map Assignment.entry) := by
  induction l with
  | nil => rfl
  | cons a l ih =>
    rw [List.forall_mem_cons] at h
    have ha : a.entry? = some a.entry := by
      rw [Assignment.entry?, Scalar.reading, if_pos h.1]
      rfl
    rw [List.mapM_cons, ha, ih h.2]
    rfl

theorem mapM_entry?_of_not_inRange {l : List Assignment} {a : Assignment} (ha : a ∈ l)
    (h : ¬ a.scalar.InRange) : l.mapM Assignment.entry? = none := by
  induction l with
  | nil => cases ha
  | cons b l ih =>
    rw [List.mapM_cons]
    rcases List.mem_cons.1 ha with rfl | ha
    · have hnone : a.entry? = none := by
        rw [Assignment.entry?, Scalar.reading, if_neg h]
        rfl
      rw [hnone]
      rfl
    · rw [ih ha]
      cases b.entry? <;> rfl

end TurtleMarkup.Toml
