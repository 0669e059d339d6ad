/-
BrokerNode/Proofs/Topic.lean

Topics below a root: their characters, and their one slash.

The join takes slashes off and puts one between its parts.  So any other character is in the joined topic
just when it is in one of the parts (`mem_join_iff`), and a topic can be published on just when neither
part has a wildcard in it (`isPublishable_join_iff`).

A text is taken apart into slashes at one end and a rest that is clear of them there.  Written with such
parts, a join is the two rests with one slash between them (`join_of_clear`), and all laws of joining
follow from this: how many slashes stood at the join does not matter, no other character is touched, and
neither does it matter which of two joins comes first (`join_joinsOnce`).
-/
import BrokerNode.Topic
import Mathlib.Data.List.Induction

namespace BrokerNode.Topic

/-! ### Characters -/

theorem mem_dropLeadingSlashes_iff {c : Char} (hc : c ≠ '/') {s : List Char} :
    c ∈ dropLeadingSlashes s ↔ c ∈ s := by
  induction s with
  | nil => rfl
  | cons d s ih =>
    by_cases hd : d = '/'
    · subst hd
      rw [dropLeadingSlashes, List.dropWhile_cons_of_pos rfl, List.mem_cons]
      exact ih.trans ⟨Or.inr, fun h => h.resolve_left hc⟩
    · rw [dropLeadingSlashes, List.dropWhile_cons_of_neg (by simpa using hd)]

theorem mem_dropTrailingSlashes_iff {c : Char} (hc : c ≠ '/') {s : List Char} :
    c ∈ dropTrailingSlashes s ↔ c ∈ s := by
  rw [dropTrailingSlashes, List.mem_reverse, ← dropLeadingSlashes, mem_dropLeadingSlashes_iff hc,
    List.mem_reverse]

/-- A character other than the slash is in a joined topic just when it is in one of the parts. -/
theorem mem_join_iff {c : Char} (hc : c ≠ '/') {root topic : String} :
    c ∈ (join root topic).toList ↔ c ∈ root.toList ∨ c ∈ topic.toList := by
  unfold join
  split
  · next hroot =>
    rw [String.isEmpty_iff] at hroot
    subst hroot
    simp
  · rw [String.toList_ofList, List.mem_append, List.mem_cons, mem_dropTrailingSlashes_iff hc,
      mem_dropLeadingSlashes_iff hc]
    exact ⟨fun h => h.imp_right fun h => h.resolve_left hc, fun h => h.imp_right Or.inr⟩

/-! ### Wildcards -/

/-- A topic can be published on when neither wildcard is in it. -/
theorem isPublishable_iff {topic : String} :
    isPublishable topic = true ↔ ∀ c ∈ topic.toList, c ≠ '+' ∧ c ≠ '#' := by
  simp [isPublishable]

/-- A text has a wildcard in it. -/
def HasWildcard (s : String) : Prop := '+' ∈ s.toList ∨ '#' ∈ s.toList

theorem isPublishable_iff_not_hasWildcard {topic : String} :
    isPublishable topic = true ↔ ¬HasWildcard topic := by
  rw [isPublishable_iff, HasWildcard, not_or]
  constructor
  · intro h
    exact ⟨fun hplus => (h _ hplus).1 rfl, fun hhash => (h _ hhash).2 rfl⟩
  · rintro ⟨hplus, hhash⟩ c hc
    exact ⟨by rintro rfl; exact hplus hc, by rintro rfl; exact hhash hc⟩

/-- A joined topic can be published on just when neither of its parts has a wildcard in it. -/
theorem isPublishable_join_iff {root topic : String} :
    isPublishable (join root topic) = true ↔ ¬(HasWildcard root ∨ HasWildcard topic) := by
  rw [isPublishable_iff_not_hasWildcard]
  refine not_congr ?_
  rw [HasWildcard, mem_join_iff (by decide), mem_join_iff (by decide), HasWildcard, HasWildcard,
    or_or_or_comm]

/-! ### Slashes at the ends -/

/-- A number of slashes. -/
def slashes (n : Nat) : List Char := List.replicate n '/'

/-- A text that does not start with a slash. -/
def StartsClear (s : List Char) : Prop := s.head? ≠ some '/'

/-- A text that does not end with a slash. -/
def EndsClear (s : List Char) : Prop := s.getLast? ≠ some '/'

/-- Every text is some slashes and a rest that does not start with one. -/
theorem exists_slashes_append (s : List Char) : ∃ n t, s = slashes n ++ t ∧ StartsClear t := by
  induction s with
  | nil => exact ⟨0, [], rfl, by simp [StartsClear]⟩
  | cons c s ih =>
    by_cases hc : c = '/'
    · obtain ⟨n, t, rfl, ht⟩ := ih
      exact ⟨n + 1, t, by rw [hc]; rfl, ht⟩
    · exact ⟨0, c :: s, rfl, by simpa [StartsClear] using hc⟩

/-- Every text is a start that does not end with a slash, and some slashes. -/
theorem exists_append_slashes (s : List Char) : ∃ t n, s = t ++ slashes n ∧ EndsClear t := by
  induction s using List.reverseRecOn with
  | nil => exact ⟨[], 0, rfl, by simp [EndsClear]⟩
  | append_singleton s c ih =>
    by_cases hc : c = '/'
    · obtain ⟨t, n, rfl, ht⟩ := ih
      refine ⟨t, n + 1, ?_, ht⟩
      rw [hc, slashes, slashes, List.replicate_succ', List.append_assoc]
    · exact ⟨s ++ [c], 0, (List.append_nil _).symm, by simpa [EndsClear] using hc⟩

theorem StartsClear.append {t : List Char} (ht : StartsClear t) (hne : t ≠ []) (s : List Char) :
    StartsClear (t ++ s) := by
  cases t with
  | nil => exact absurd rfl hne
  | cons c t => exact ht

theorem endsClear_append_iff {t : List Char} (hne : t ≠ []) (s : List Char) :
    EndsClear (s ++ t) ↔ EndsClear t := by
  rw [EndsClear, EndsClear, List.getLast?_append, List.getLast?_eq_some_getLast hne,
    Option.some_or]

/-- A text is nothing but slashes, or some characters with slashes around them. -/
theorem slashes_or_exists_core (s : List Char) : (∃ n, s = slashes n) ∨
    ∃ m t n, s = slashes m ++ (t ++ slashes n) ∧ t ≠ [] ∧ StartsClear t ∧ EndsClear t := by
  obtain ⟨r, n, rfl, hr⟩ := exists_append_slashes s
  obtain ⟨m, t, rfl, ht⟩ := exists_slashes_append r
  by_cases hne : t = []
  · refine Or.inl ⟨m + n, ?_⟩
    rw [hne, List.append_nil, slashes, slashes, List.replicate_append_replicate]
    rfl
  · exact Or.inr ⟨m, t, n, List.append_assoc _ _ _, hne, ht, (endsClear_append_iff hne _).mp hr⟩

theorem dropLeadingSlashes_of_startsClear {t : List Char} (ht : StartsClear t) (n : Nat) :
    dropLeadingSlashes (slashes n ++ t) = t := by
  have hslashes : ∀ c ∈ slashes n, (c == '/') = true := by
    intro c hc
    exact beq_iff_eq.mpr (List.eq_of_mem_replicate hc)
  rw [dropLeadingSlashes, List.dropWhile_append_of_pos hslashes]
  cases t with
  | nil => rfl
  | cons c t => exact List.dropWhile_cons_of_neg (by simpa [StartsClear] using ht)

theorem dropTrailingSlashes_of_endsClear {t : List Char} (ht : EndsClear t) (n : Nat) :
    dropTrailingSlashes (t ++ slashes n) = t := by
  have hreverse : StartsClear t.reverse := by
    rw [StartsClear, List.head?_reverse]
    exact ht
  -- what stands at the end of a text stands at the start of the reversed one
  have hdrop := dropLeadingSlashes_of_startsClear hreverse n
  rw [dropTrailingSlashes, List.reverse_append, slashes, List.reverse_replicate]
  exact List.reverse_eq_iff.mpr hdrop

/-! ### Joining once -/

section Clear

variable {root topic : String} {r t : List Char} {m n : Nat}

/-- A join is what is left of its parts, with one slash between. -/
theorem join_of_clear (hne : root ≠ "") (hroot : root.toList = r ++ slashes m) (hr : EndsClear r)
    (htopic : topic.toList = slashes n ++ t) (ht : StartsClear t) :
    (join root topic).toList = r ++ '/' :: t := by
  have hempty : ¬root.isEmpty = true := by simpa using hne
  rw [join, if_neg hempty, String.toList_ofList, hroot, htopic,
    dropTrailingSlashes_of_endsClear hr, dropLeadingSlashes_of_startsClear ht]

theorem join_empty (topic : String) : join "" topic = topic := rfl

theorem join_ne_empty (hne : root ≠ "") (topic : String) : join root topic ≠ "" := by
  obtain ⟨r, m, hroot, hr⟩ := exists_append_slashes root.toList
  obtain ⟨n, t, htopic, ht⟩ := exists_slashes_append topic.toList
  intro hempty
  have hjoin := join_of_clear hne hroot hr htopic ht
  rw [hempty] at hjoin
  cases r <;> cases hjoin

/-- Slashes at the join do not matter. -/
theorem join_slashes (hne : root ≠ "") (m n : Nat) (topic : String) :
    join (root ++ String.ofList (slashes m)) (String.ofList (slashes n) ++ topic) =
      join root topic := by
  obtain ⟨r, i, hroot, hr⟩ := exists_append_slashes root.toList
  obtain ⟨j, t, htopic, ht⟩ := exists_slashes_append topic.toList
  have hroot' : (root ++ String.ofList (slashes m)).toList = r ++ slashes (i + m) := by
    rw [String.toList_append, String.toList_ofList, hroot, List.append_assoc, slashes, slashes,
      slashes, List.replicate_append_replicate]
  have htopic' : (String.ofList (slashes n) ++ topic).toList = slashes (n + j) ++ t := by
    rw [String.toList_append, String.toList_ofList, htopic, ← List.append_assoc, slashes, slashes,
      slashes, List.replicate_append_replicate]
  have hne' : root ++ String.ofList (slashes m) ≠ "" := by
    intro hempty
    exact hne (String.append_eq_empty_iff.mp hempty).1
  apply String.toList_inj.mp
  rw [join_of_clear hne' hroot' hr htopic' ht, join_of_clear hne hroot hr htopic ht]

/-- Below a root of slashes, or without one, a topic has slashes in front of it. -/
theorem exists_join_of_slashes (hroot : root.toList = slashes m)
    (htopic : topic.toList = slashes n ++ t) (ht : StartsClear t) :
    ∃ k, (join root topic).toList = slashes k ++ t := by
  by_cases hne : root = ""
  · rw [hne, join_empty]
    exact ⟨n, htopic⟩
  · exact ⟨1, join_of_clear (r := []) hne hroot (by simp [EndsClear]) htopic ht⟩

/-- Which of two joins comes first does not matter. -/
theorem join_join (a b c : String) : join a (join b c) = join (join a b) c := by
  by_cases ha : a = ""
  · rw [ha, join_empty, join_empty]
  have hab := join_ne_empty ha b
  obtain ⟨r, m, hroot, hr⟩ := exists_append_slashes a.toList
  obtain ⟨n, t, htopic, ht⟩ := exists_slashes_append c.toList
  apply String.toList_inj.mp
  rcases slashes_or_exists_core b.toList with ⟨k, hb⟩ | ⟨i, s, j, hb, hs, hstart, hend⟩
  · -- the slashes in the middle go into the one slash of the join
    obtain ⟨i, hbc⟩ := exists_join_of_slashes hb htopic ht
    have hfirst : (join a b).toList = r ++ slashes 1 :=
      join_of_clear ha hroot hr (hb.trans (List.append_nil _).symm) (by simp [StartsClear])
    rw [join_of_clear ha hroot hr hbc ht, join_of_clear hab hfirst hr htopic ht]
  · -- both ways the text in the middle gets a slash on either side
    have hne : b ≠ "" := by
      rintro rfl
      simp [hs] at hb
    have hbc : (join b c).toList = slashes i ++ (s ++ '/' :: t) := by
      rw [← List.append_assoc] at hb ⊢
      exact join_of_clear hne hb ((endsClear_append_iff hs _).mpr hend) htopic ht
    have hfirst : (join a b).toList = (r ++ '/' :: s) ++ slashes j := by
      rw [join_of_clear ha hroot hr hb (hstart.append hs _), List.append_assoc]
      rfl
    have hclear : EndsClear (r ++ '/' :: s) := by
      rw [List.append_cons]
      exact (endsClear_append_iff hs _).mpr hend
    rw [join_of_clear ha hroot hr hbc (hstart.append hs _), join_of_clear hab hfirst hclear htopic ht,
      List.append_assoc]
    rfl

end Clear

/-! ### The laws of joining -/

/-- A topic is joined from a root and a topic below it. -/
structure IsJoined (root topic joined : String) : Prop where
  of_empty : root = "" → joined = topic
  -- Below a root it is the root without the slashes at its end, one slash, and the topic without the
  -- slashes at its start.
  of_root : root ≠ "" → ∃ r m n t, root.toList = r ++ slashes m ∧ EndsClear r ∧
    topic.toList = slashes n ++ t ∧ StartsClear t ∧ joined.toList = r ++ '/' :: t
  others : joined.toList.filter (· ≠ '/') =
    root.toList.filter (· ≠ '/') ++ topic.toList.filter (· ≠ '/')

theorem filter_slashes (n : Nat) : (slashes n).filter (· ≠ '/') = [] := by
  rw [slashes, List.filter_replicate]
  rfl

theorem join_isJoined (root topic : String) : IsJoined root topic (join root topic) := by
  by_cases hne : root = ""
  · subst hne
    exact ⟨fun _ => rfl, fun h => absurd rfl h, rfl⟩
  obtain ⟨r, m, hroot, hr⟩ := exists_append_slashes root.toList
  obtain ⟨n, t, htopic, ht⟩ := exists_slashes_append topic.toList
  have hjoin := join_of_clear hne hroot hr htopic ht
  refine ⟨fun h => absurd h hne, fun _ => ⟨r, m, n, t, hroot, hr, htopic, ht, hjoin⟩, ?_⟩
  rw [hjoin, hroot, htopic, List.filter_append, List.filter_append, List.filter_append,
    filter_slashes, filter_slashes, List.append_nil, List.nil_append]
  rfl

/-- Topics are joined with one slash: which of two joins comes first does not matter, nor do slashes at
the join below a root, and nothing but slashes is lost or added there. -/
theorem join_joinsOnce (root topic : String) :
    IsJoined root topic (join root topic) ∧
    (∀ below, join root (join topic below) = join (join root topic) below) ∧
    (root ≠ "" → ∀ m n, join (root ++ String.ofList (slashes m))
      (String.ofList (slashes n) ++ topic) = join root topic) :=
  ⟨join_isJoined root topic, join_join root topic, fun hne m n => join_slashes hne m n topic⟩

theorem join_joinsOnce_slashes :
    join "home//" "//brokers/main" = "home/brokers/main" ∧
      join "home" (join "//" "main") = join (join "home" "//") "main" := by
  obtain ⟨-, -, hslashes⟩ := join_joinsOnce "home" "brokers/main"
  obtain ⟨-, hjoin, -⟩ := join_joinsOnce "home" "//"
  exact ⟨hslashes (by decide) 2 2, hjoin "main"⟩

end BrokerNode.Topic
