/-
BrokerNode/Proofs/Dotenv.lean

What the lines of an environment file are made of.

The logical lines of a file have no characters but those of the file (`mem_of_mem_logicalLines`), however
they are joined and wherever they are cut.  A line that is an assignment has a proper name, and a value
that is made of the characters of the line and of the variables that stand in it, and of line feeds
(`of_readLine`).  So the null character comes into a value only from the file or from a variable.
-/
import BrokerNode.Dotenv.Assignment
import BrokerNode.Dotenv.Line
import BrokerNode.Proofs.Text.Bytes

namespace BrokerNode.Dotenv

/-! ### Lines -/

theorem mem_of_mem_dropByteOrderMark {b : UInt8} {bytes : List UInt8}
    (h : b ∈ dropByteOrderMark bytes) : b ∈ bytes := by
  unfold dropByteOrderMark at h
  split at h
  · simp [h]
  · exact h

theorem mem_of_mem_splitLines {b : UInt8} {line bytes l : List UInt8} (hl : l ∈ splitLines line bytes)
    (hb : b ∈ l) : b ∈ line ∨ b ∈ bytes := by
  induction bytes generalizing line with
  | nil =>
    unfold splitLines at hl
    split at hl
    · simp at hl
    · rw [List.mem_singleton.mp hl, List.mem_reverse] at hb
      exact Or.inl hb
  | cons b' bytes ih =>
    unfold splitLines at hl
    split at hl
    · rcases List.mem_cons.mp hl with rfl | hl
      · rw [List.mem_reverse, List.mem_cons] at hb
        rcases hb with rfl | hb
        · exact Or.inr List.mem_cons_self
        · exact Or.inl hb
      · rcases ih hl with h | h
        · cases h
        · exact Or.inr (List.mem_cons_of_mem _ h)
    · rcases ih hl with h | h
      · rcases List.mem_cons.mp h with rfl | h
        · exact Or.inr List.mem_cons_self
        · exact Or.inl h
      · exact Or.inr (List.mem_cons_of_mem _ h)

theorem utf8_mem_of_mem_readable {l : List Char} {lines : List (List UInt8)} (h : l ∈ readable lines) :
    Text.utf8 l ∈ lines := by
  induction lines with
  | nil => cases h
  | cons line lines ih =>
    rw [readable] at h
    split at h
    · next text htext =>
      rcases List.mem_cons.mp h with rfl | h
      · rw [Text.fromUTF8?_toArray_eq_some_iff.mp htext]
        exact List.mem_cons_self
      · exact List.mem_cons_of_mem _ (ih h)
    · cases h

theorem mem_of_mem_through {c : Char} {s : Standing} {cs : List Char} (h : c ∈ (s.through cs).2) :
    c ∈ cs := by
  induction cs generalizing s with
  | nil => cases h
  | cons c' cs ih =>
    rw [Standing.through] at h
    split at h
    · cases h
    · rcases List.mem_cons.mp h with rfl | h
      · exact List.mem_cons_self
      · exact List.mem_cons_of_mem _ (ih h)

theorem mem_of_mem_dropLineEnd {c : Char} {s : List Char} (h : c ∈ dropLineEnd s) : c ∈ s := by
  unfold dropLineEnd at h
  split at h
  · next r hr =>
    rw [← List.mem_reverse, hr]
    exact List.mem_cons_of_mem _ (List.mem_cons_of_mem _ (List.mem_reverse.mp h))
  · next r hr =>
    rw [← List.mem_reverse, hr]
    exact List.mem_cons_of_mem _ (List.mem_reverse.mp h)
  · exact h

theorem mem_of_mem_joinLines {c : Char} {s : Standing} {unfinished l : List Char}
    {lines : List (List Char)} (hl : l ∈ joinLines s unfinished lines) (hc : c ∈ l) :
    c ∈ unfinished ∨ ∃ line ∈ lines, c ∈ line := by
  induction lines generalizing s unfinished with
  | nil => cases hl
  | cons line lines ih =>
    -- a joined line is done with, or it is what the next one goes on from
    have hdone : l ∈ joinLines .complete [] lines → ∃ line' ∈ line :: lines, c ∈ line' := by
      intro h
      rcases ih h with h | ⟨line', hline', h⟩
      · cases h
      · exact ⟨line', List.mem_cons_of_mem _ hline', h⟩
    have htext : c ∈ unfinished ++ line → c ∈ unfinished ∨ ∃ line' ∈ line :: lines, c ∈ line' := by
      intro h
      rcases List.mem_append.mp h with h | h
      · exact Or.inl h
      · exact Or.inr ⟨line, List.mem_cons_self, h⟩
    rw [joinLines] at hl
    split at hl
    · rcases List.mem_cons.mp hl with rfl | hl
      · cases hc
      · exact Or.inr (hdone hl)
    · split at hl
      · rcases List.mem_cons.mp hl with rfl | hl
        · exact htext (mem_of_mem_dropLineEnd hc)
        · exact Or.inr (hdone hl)
      · next kept hkept =>
        rcases List.mem_cons.mp hl with rfl | hl
        · rcases List.mem_append.mp hc with hc | hc
          · exact Or.inl hc
          · have hthrough : c ∈ (s.through line).2 := by
              rw [hkept]
              exact hc
            exact Or.inr ⟨line, List.mem_cons_self, mem_of_mem_through hthrough⟩
        · exact Or.inr (hdone hl)
      · rcases ih hl with h | ⟨line', hline', h⟩
        · exact htext h
        · exact Or.inr ⟨line', List.mem_cons_of_mem _ hline', h⟩

/-- A character below 128 of a logical line is a byte of the file. -/
theorem mem_of_mem_logicalLines {c : Char} {b : UInt8} (hb : b.toNat < 128) (hc : c.toNat = b.toNat)
    {content : ByteArray} {l : List Char} (hl : l ∈ logicalLines content) (h : c ∈ l) :
    b ∈ content.data.toList := by
  rcases mem_of_mem_joinLines hl h with h | ⟨line, hline, h⟩
  · cases h
  · have hbyte : b ∈ Text.utf8 line := (Text.mem_utf8_iff hb hc).mpr h
    rcases mem_of_mem_splitLines (utf8_mem_of_mem_readable hline) hbyte with h | h
    · cases h
    · exact mem_of_mem_dropByteOrderMark h

/-! ### Values -/

section Values

variable {valueOf : String → String} {s v : List Char}

/-- A value is made of the characters of a text and of variables, and of line feeds. -/
def IsMadeOf (valueOf : String → String) (s v : List Char) : Prop :=
  ∀ c ∈ v, c ∈ s ∨ c = '\n' ∨ ∃ name, c ∈ (valueOf name).toList

theorem isMadeOf_nil : IsMadeOf valueOf s [] := nofun

theorem IsMadeOf.mono {t : List Char} (h : IsMadeOf valueOf s v) (hst : s ⊆ t) :
    IsMadeOf valueOf t v :=
  fun c hc => (h c hc).imp_left fun hs => hst hs

theorem IsMadeOf.behind {c : Char} (h : IsMadeOf valueOf s v) : IsMadeOf valueOf (c :: s) v :=
  h.mono (List.subset_cons_self c s)

theorem IsMadeOf.cons {c : Char} (hc : c ∈ s ∨ c = '\n') (h : IsMadeOf valueOf s v) :
    IsMadeOf valueOf s (c :: v) := by
  intro c' hc'
  rcases List.mem_cons.mp hc' with rfl | hc'
  · exact hc.imp_right Or.inl
  · exact h c' hc'

theorem IsMadeOf.append (name : String) (h : IsMadeOf valueOf s v) :
    IsMadeOf valueOf s ((valueOf name).toList ++ v) := by
  intro c hc
  rcases List.mem_append.mp hc with hc | hc
  · exact Or.inr (Or.inr ⟨name, hc⟩)
  · exact h c hc

theorem escaped?_eq_some {c c' : Char} (h : escaped? c = some c') : c' = c ∨ c' = '\n' := by
  unfold escaped? at h
  split at h
  · exact Or.inl (Option.some.inj h).symm
  split at h
  · exact Or.inr (Option.some.inj h).symm
  · cases h

/-- A value is made of what stands in its text. -/
theorem isMadeOf_of_readValue {m : Mode} (h : readValue valueOf m s = some v) :
    IsMadeOf valueOf s v := by
  fun_induction readValue valueOf m s generalizing v with
  -- no value
  | case1 | case3 | case5 | case6 | case8 | case18 | case29 => cases h
  -- the end of a value
  | case2 | case4 | case9 | case28 =>
    cases h
    exact isMadeOf_nil
  | case7 _ soFar =>
    obtain rfl := Option.some.inj h
    rw [← List.append_nil (valueOf _).toList]
    exact isMadeOf_nil.append (String.ofList soFar)
  -- a character that only changes the mode
  | case10 _ _ ih | case11 _ _ _ ih | case12 _ _ _ _ ih | case14 _ _ _ _ _ _ ih
  | case15 _ _ _ _ _ _ _ _ _ ih | case19 _ ih | case21 _ _ _ _ _ ih | case22 _ _ _ _ _ _ ih
  | case26 _ _ _ _ _ ih | case27 _ _ _ ih => exact (ih h).behind
  -- a character that is taken as it is
  | case13 c _ _ _ _ ih | case16 _ c _ _ _ _ _ _ _ ih | case20 c _ _ ih =>
    obtain ⟨rest, hrest, rfl⟩ := Option.map_eq_some_iff.mp h
    exact (ih hrest).behind.cons (Or.inl List.mem_cons_self)
  | case17 _ c _ c' hescaped ih =>
    obtain ⟨rest, hrest, rfl⟩ := Option.map_eq_some_iff.mp h
    refine (ih hrest).behind.cons ((escaped?_eq_some hescaped).imp_left ?_)
    rintro rfl
    exact List.mem_cons_self
  -- a character that ends a name
  | case23 | case25 =>
    rename_i ih
    obtain ⟨rest, hrest, rfl⟩ := Option.map_eq_some_iff.mp h
    exact (ih hrest).behind.append _
  | case24 =>
    rename_i ih
    obtain ⟨rest, hrest, rfl⟩ := Option.map_eq_some_iff.mp h
    exact ((ih hrest).behind.cons (Or.inl List.mem_cons_self)).append _

end Values

/-! ### Assignments -/

/-- A proper name. -/
def IsName (s : List Char) : Prop := s ≠ [] ∧ ∀ c ∈ s, isNamePart c = true

theorem isNamePart_of_isNameStart {c : Char} (h : isNameStart c = true) : isNamePart c = true := by
  simp only [isNameStart, isNamePart, Char.isAlphanum, Bool.or_eq_true] at h ⊢
  exact Or.inl (h.imp_left Or.inl)

/-- There is neither an equals sign nor the null character in a name. -/
theorem IsName.not_mem {s : List Char} (h : IsName s) : '=' ∉ s ∧ '\x00' ∉ s :=
  ⟨fun hc => absurd (h.2 _ hc) (by decide), fun hc => absurd (h.2 _ hc) (by decide)⟩

theorem trimStart_subset (s : List Char) : Text.trimStart s ⊆ s := (List.dropWhile_sublist _).subset

theorem trim_subset (s : List Char) : Text.trim s ⊆ s := by
  intro c hc
  rw [Text.trim, Text.trimEnd, List.mem_reverse] at hc
  exact trimStart_subset s (List.mem_reverse.mp ((List.dropWhile_sublist _).subset hc))

theorem name?_eq_some {s name rest : List Char} (h : name? s = some (name, rest)) :
    IsName name ∧ rest ⊆ s := by
  unfold name? at h
  split at h
  · next c s =>
    split at h
    · next hstart =>
      obtain ⟨rfl, rfl⟩ := Prod.mk.inj (Option.some.inj h)
      refine ⟨⟨?_, List.all_eq_true.mp List.all_takeWhile⟩, ?_⟩
      · rw [List.takeWhile_cons_of_pos (isNamePart_of_isNameStart hstart)]
        exact List.cons_ne_nil _ _
      · exact List.Subset.trans (trimStart_subset _) (List.dropWhile_sublist _).subset
    · cases h
  · cases h

/-- What is assigned to is a proper name. -/
theorem target?_eq_some {s name rest : List Char} (h : target? s = some (name, rest)) :
    IsName name ∧ rest ⊆ s := by
  unfold target? at h
  split at h
  · cases h
  · next hname =>
    obtain ⟨rfl, rfl⟩ := Prod.mk.inj (Option.some.inj h)
    obtain ⟨hproper, hrest⟩ := name?_eq_some hname
    exact ⟨hproper, List.subset_of_cons_subset hrest⟩
  · next hexport =>
    split at h
    · split at h
      · next hname =>
        obtain ⟨rfl, rfl⟩ := Prod.mk.inj (Option.some.inj h)
        obtain ⟨hproper, hrest⟩ := name?_eq_some hname
        exact ⟨hproper,
          List.Subset.trans (List.subset_of_cons_subset hrest) (name?_eq_some hexport).2⟩
      · cases h
    · cases h

/-- An assignment has a proper name, and a value that is made of what stands in the line. -/
theorem of_readLine {valueOf : String → String} {line : List Char} {a : Assignment}
    (h : readLine valueOf line = .assignment a) :
    IsName a.name.toList ∧ IsMadeOf valueOf line a.value.toList := by
  unfold readLine at h
  dsimp only at h
  split at h
  · cases h
  split at h
  · cases h
  next name rest htarget =>
  obtain ⟨hname, hrest⟩ := target?_eq_some htarget
  split at h
  · cases h
    rw [String.toList_ofList]
    exact ⟨hname, isMadeOf_nil⟩
  split at h
  · next value hvalue =>
    cases h
    rw [String.toList_ofList, String.toList_ofList]
    have hline : Text.trimStart rest ⊆ line :=
      List.Subset.trans (trimStart_subset _) (List.Subset.trans hrest (trim_subset _))
    exact ⟨hname, (isMadeOf_of_readValue hvalue).mono hline⟩
  · cases h

end BrokerNode.Dotenv
