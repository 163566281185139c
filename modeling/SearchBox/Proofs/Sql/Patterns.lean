import Mathlib.Data.List.Infix
import SearchBox.Sql.TextSearch

/-! What the database makes of a pattern. The words of a pattern search are written so that each of
their characters stands for itself. So a text matches the pattern of a word if and only if it holds the
word, and that of a beginning if and only if it begins so; letter case is left aside. -/

namespace SearchBox.Sql

/-- What one place of a pattern stands for. -/
inductive PatternItem where
  /-- Any row of characters, written `%`. -/
  | anything
  /-- Any one character, written `_`. -/
  | anyCharacter
  | character (c : Char)
  deriving DecidableEq, Repr

namespace PatternItem

/-- A character of a pattern without a backslash before it. -/
def ofChar (c : Char) : PatternItem :=
  if c = '%' then anything else if c = '_' then anyCharacter else character c

/-- The items of a pattern. A backslash makes the next character stand for itself; a pattern that ends
in one with nothing to protect is refused. -/
def ofPattern? : List Char → Option (List PatternItem)
  | [] => some []
  | ['\\'] => none
  | '\\' :: c :: pattern => (ofPattern? pattern).map (character c :: ·)
  | c :: pattern => (ofPattern? pattern).map (ofChar c :: ·)

/-- Whether the items cover the whole text. For an item that stands for any row of characters, every
place where the row could end is tried. -/
def cover : List PatternItem → List Char → Bool
  | [], text => text.isEmpty
  | anything :: items, text => text.tails.any (cover items)
  | anyCharacter :: items, _ :: text => cover items text
  | character d :: items, c :: text => c == d && cover items text
  | _ :: _, [] => false

end PatternItem

/-- Whether a text matches a pattern, if the pattern is one. -/
def matchesPattern? (pattern text : List Char) : Option Bool :=
  (PatternItem.ofPattern? pattern).map (PatternItem.cover · text)

/-- If a backslash protects the next character, and the characters that no backslash is put before need
none, then an escaped text is read as its characters. -/
theorem read_escaped {α : Type} {read? : List Char → Option (List α)} {character : Char → α}
    {special : List Char}
    (escaped : ∀ c rest, read? ('\\' :: c :: rest) = (read? rest).map (character c :: ·))
    (bare : ∀ c rest, c ∉ special → read? (c :: rest) = (read? rest).map (character c :: ·))
    (text rest : List Char) :
    read? ((text.flatMap fun c => if special.contains c then ['\\', c] else [c]) ++ rest) =
      (read? rest).map (text.map character ++ ·) := by
  induction text with
  | nil => simp
  | cons c text ih =>
    rw [List.flatMap_cons, List.append_assoc]
    by_cases marked : c ∈ special
    · rw [if_pos (List.contains_iff_mem.2 marked), List.cons_append, List.singleton_append, escaped, ih]
      simp [Function.comp_def]
    · rw [if_neg (List.contains_iff_mem.not.2 marked), List.singleton_append, bare c _ marked, ih]
      simp [Function.comp_def]

namespace PatternItem

/-- An escaped word is read as its characters. -/
theorem ofPattern?_escapePattern (word pattern : List Char) :
    ofPattern? (escapePattern word ++ pattern) =
      (ofPattern? pattern).map (word.map character ++ ·) := by
  apply read_escaped
  · intro c pattern
    rfl
  · intro c pattern ordinary
    obtain ⟨percent, underscore, backslash⟩ : c ≠ '%' ∧ c ≠ '_' ∧ c ≠ '\\' := by
      simpa using ordinary
    simp [ofPattern?, backslash, ofChar, percent, underscore]

/-- Characters that stand for themselves cover themselves and nothing else. -/
theorem cover_characters (word : List Char) (items : List PatternItem) (text : List Char) :
    cover (word.map character ++ items) text = true ↔
      ∃ after, text = word ++ after ∧ cover items after = true := by
  induction word generalizing text with
  | nil => simp
  | cons c word ih =>
    cases text with
    | nil => simp [cover]
    | cons d text =>
      simp only [List.map_cons, List.cons_append, cover, Bool.and_eq_true, beq_iff_eq, ih,
        List.cons.injEq]
      constructor
      · rintro ⟨rfl, after, rfl, covered⟩
        exact ⟨after, ⟨rfl, rfl⟩, covered⟩
      · rintro ⟨after, ⟨rfl, rfl⟩, covered⟩
        exact ⟨rfl, after, rfl, covered⟩

theorem cover_anything (items : List PatternItem) (text : List Char) :
    cover (anything :: items) text = true ↔
      ∃ before after, text = before ++ after ∧ cover items after = true := by
  simp only [cover, List.any_eq_true, List.mem_tails]
  constructor
  · rintro ⟨after, ⟨before, rfl⟩, covered⟩
    exact ⟨before, after, rfl, covered⟩
  · rintro ⟨before, after, rfl, covered⟩
    exact ⟨after, ⟨before, rfl⟩, covered⟩

/-- An item for any row of characters at the end covers whatever is left. -/
theorem cover_anything_last (text : List Char) : cover [anything] text = true :=
  (cover_anything [] text).2 ⟨text, [], by simp, rfl⟩

end PatternItem

theorem matchesPattern?_stem (word text : List Char) :
    matchesPattern? (escapePattern word ++ ['%']) text = some (decide (word <+: text)) := by
  have read : PatternItem.ofPattern? ['%'] = some [.anything] := rfl
  rw [matchesPattern?, PatternItem.ofPattern?_escapePattern, read, Option.map_some, Option.map_some,
    Option.some.injEq, Bool.eq_iff_iff, PatternItem.cover_characters, decide_eq_true_eq]
  constructor
  · rintro ⟨after, rfl, _⟩
    exact List.prefix_append word after
  · rintro ⟨after, rfl⟩
    exact ⟨after, rfl, PatternItem.cover_anything_last after⟩

theorem matchesPattern?_term (word text : List Char) :
    matchesPattern? ('%' :: (escapePattern word ++ ['%'])) text = some (decide (word <:+: text)) := by
  have read (pattern : List Char) : PatternItem.ofPattern? ('%' :: pattern) =
      (PatternItem.ofPattern? pattern).map (PatternItem.anything :: ·) := by
    simp [PatternItem.ofPattern?, PatternItem.ofChar]
  rw [matchesPattern?, read, PatternItem.ofPattern?_escapePattern, read]
  simp only [PatternItem.ofPattern?, Option.map_some, Option.some.injEq]
  rw [Bool.eq_iff_iff, PatternItem.cover_anything, decide_eq_true_eq]
  constructor
  · rintro ⟨before, _, rfl, covered⟩
    obtain ⟨after, rfl, _⟩ := (PatternItem.cover_characters word _ _).1 covered
    exact ⟨before, after, List.append_assoc before word after⟩
  · rintro ⟨before, after, rfl⟩
    refine ⟨before, word ++ after, List.append_assoc before word after, ?_⟩
    exact (PatternItem.cover_characters word _ _).2
      ⟨after, rfl, PatternItem.cover_anything_last after⟩

/-- A pattern search binds well-formed patterns. Whatever the word, also one made of percent signs,
underscores and backslashes, a text matches the pattern of the word if and only if the word stands
somewhere in it, and the pattern of a beginning if and only if the text begins with it. -/
theorem TextSearch.ilike_matches (column word : String) :
    ∃ term stem : String, TextSearch.ilike.term column word = .pattern column term ∧
      TextSearch.ilike.stem column word = .pattern column stem ∧
      ∀ text : String,
        matchesPattern? term.toList text.toList = some (decide (word.toList <:+: text.toList)) ∧
        matchesPattern? stem.toList text.toList = some (decide (word.toList <+: text.toList)) := by
  refine ⟨_, _, rfl, rfl, ?_⟩
  intro text
  rw [String.toList_ofList, String.toList_ofList]
  exact ⟨matchesPattern?_term word.toList text.toList, matchesPattern?_stem word.toList text.toList⟩

end SearchBox.Sql
