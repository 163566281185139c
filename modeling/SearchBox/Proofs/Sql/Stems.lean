import SearchBox.Sql.TextSearch

/-! The query for a beginning in a full-text search. It requires the maximal rows of letters and digits
of the text, the last of them as a beginning. Main statement: these words can be read from the query,
and its operators are those that are put between and behind the words, none of them from the text. -/

namespace SearchBox.Sql

/-- The words are the maximal rows of letters and digits in the text, from left to right. -/
inductive WordsOf : List Char → List (List Char) → Prop where
  | nil {gap : List Char} (apart : ∀ c ∈ gap, isAlphanumeric c = false) : WordsOf gap []
  | cons {gap word rest : List Char} {words : List (List Char)}
      (apart : ∀ c ∈ gap, isAlphanumeric c = false) (filled : word ≠ [])
      (letters : ∀ c ∈ word, isAlphanumeric c = true)
      (ends : ∀ c ∈ rest.head?, isAlphanumeric c = false) (later : WordsOf rest words) :
      WordsOf (gap ++ (word ++ rest)) (word :: words)

/-- The parts of a query between the signs that join them. -/
def conjuncts : List Char → List (List Char)
  | [] => [[]]
  | ' ' :: '&' :: ' ' :: query => [] :: conjuncts query
  | c :: query => (conjuncts query).modifyHead (c :: ·)

/-- What the database cuts a query into: words, and signs. Every character that is neither part of a
word nor blank counts as a sign, whether or not it has a meaning. -/
inductive QueryToken where
  | word (text : List Char)
  | sign (c : Char)
  deriving DecidableEq, Repr

namespace QueryToken

def ofWord (word : List Char) : List QueryToken :=
  if word.isEmpty then [] else [.word word]

/-- The tokens of a query, when `word` has been read of the token at hand. -/
def tokens (word : List Char) : List Char → List QueryToken
  | [] => ofWord word
  | c :: query =>
    if isAlphanumeric c then tokens (word ++ [c]) query
    else if isBlank c then ofWord word ++ tokens [] query
    else ofWord word ++ sign c :: tokens [] query

/-- All of the words are asked for, the last one as a beginning. -/
def ofStem (words : List (List Char)) : List QueryToken :=
  [sign '&'].intercalate (words.map fun text => [word text]) ++ [sign ':', sign '*']

end QueryToken

/-! The words of a text. -/

theorem searchWords_gap {gap : List Char} (apart : ∀ c ∈ gap, isAlphanumeric c = false)
    (rest : List Char) : searchWords (gap ++ rest) = searchWords rest := by
  induction gap with
  | nil => rfl
  | cons c gap ih =>
    have here : isAlphanumeric c = false := apart c (by simp)
    have later := ih fun d member => apart d (by simp [member])
    rw [← later, searchWords, List.cons_append, List.splitOnP_cons_eq_if_modifyHead, here]
    rfl

theorem searchWords_word {word rest : List Char} (filled : word ≠ [])
    (letters : ∀ c ∈ word, isAlphanumeric c = true)
    (ends : ∀ c ∈ rest.head?, isAlphanumeric c = false) :
    searchWords (word ++ rest) = word :: searchWords rest := by
  have whole : word.splitOnP (fun c => !isAlphanumeric c) = [word] :=
    List.splitOnP_eq_singleton fun c member => by simp [letters c member]
  cases rest with
  | nil => simp [searchWords, whole, filled]
  | cons c rest =>
    have stop : isAlphanumeric c = false := ends c rfl
    have skipped : searchWords ([c] ++ rest) = searchWords rest :=
      searchWords_gap (by simpa using stop) rest
    rw [List.singleton_append] at skipped
    rw [skipped, searchWords, List.splitOnP_append_cons word rest (by simp [stop]), whole]
    simp [searchWords, filled]

theorem WordsOf.eq_searchWords {text : List Char} {words : List (List Char)}
    (found : WordsOf text words) : words = searchWords text := by
  induction found with
  | nil apart =>
    have all := searchWords_gap apart []
    rw [List.append_nil] at all
    exact all.symm
  | cons apart filled letters ends later ih =>
    rw [searchWords_gap apart, searchWords_word filled letters ends, ih]

theorem WordsOf.cons_gap {c : Char} {text : List Char} {words : List (List Char)}
    (apart : isAlphanumeric c = false) (found : WordsOf text words) : WordsOf (c :: text) words := by
  cases found with
  | nil gap => exact .nil (List.forall_mem_cons.2 ⟨apart, gap⟩)
  | cons gap filled letters ends later =>
    exact .cons (List.forall_mem_cons.2 ⟨apart, gap⟩) filled letters ends later

/-- A letter belongs to the word that stands right behind it, and is a word of its own if none does. -/
theorem WordsOf.exists_cons_letter {c : Char} {text : List Char} {words : List (List Char)}
    (letter : isAlphanumeric c = true) (found : WordsOf text words) :
    ∃ words', WordsOf (c :: text) words' := by
  have alone (ends : ∀ d ∈ text.head?, isAlphanumeric d = false) :
      WordsOf ([] ++ ([c] ++ text)) ([c] :: words) :=
    .cons nofun (List.cons_ne_nil c []) (by simpa using letter) ends found
  cases found with
  | nil gap => exact ⟨_, alone fun d head => gap d (List.mem_of_mem_head? head)⟩
  | @cons gap word rest words apart filled letters ends later =>
    cases gap with
    | cons d gap => exact ⟨_, alone fun e head => apart e (List.mem_of_mem_head? head)⟩
    | nil =>
      have longer : WordsOf ([] ++ (c :: word ++ rest)) ((c :: word) :: words) :=
        .cons nofun (List.cons_ne_nil c word) (List.forall_mem_cons.2 ⟨letter, letters⟩) ends later
      exact ⟨_, longer⟩

theorem exists_wordsOf (text : List Char) : ∃ words, WordsOf text words := by
  induction text with
  | nil => exact ⟨[], .nil nofun⟩
  | cons c text ih =>
    obtain ⟨words, found⟩ := ih
    cases letter : isAlphanumeric c with
    | false => exact ⟨words, found.cons_gap letter⟩
    | true => exact found.exists_cons_letter letter

theorem wordsOf_iff {text : List Char} {words : List (List Char)} :
    WordsOf text words ↔ words = searchWords text := by
  constructor
  · exact WordsOf.eq_searchWords
  · rintro rfl
    obtain ⟨words, found⟩ := exists_wordsOf text
    exact found.eq_searchWords ▸ found

theorem WordsOf.each {text : List Char} {words : List (List Char)} (found : WordsOf text words) :
    ∀ word ∈ words, word ≠ [] ∧ ∀ c ∈ word, isAlphanumeric c = true := by
  induction found with
  | nil => nofun
  | cons _ filled letters _ _ ih => exact List.forall_mem_cons.2 ⟨⟨filled, letters⟩, ih⟩

theorem searchWords_eq_nil {text : List Char} :
    searchWords text = [] ↔ ∀ c ∈ text, isAlphanumeric c = false := by
  constructor
  · intro absent
    have found := wordsOf_iff.2 absent.symm
    cases found with
    | nil apart => exact apart
  · intro apart
    exact (wordsOf_iff.1 (.nil apart)).symm

/-! The query of the words. -/

theorem not_isAlphanumeric_marks : ∀ c ∈ [' ', '&', ':', '*'], isAlphanumeric c = false := by
  have absent : [' ', '&', ':', '*'].any isAlphanumeric = false := by decide +kernel
  intro c member
  exact eq_false_of_ne_true (List.any_eq_false.1 absent c member)

theorem conjuncts_append {word : List Char} (letters : ∀ c ∈ word, isAlphanumeric c = true)
    (query : List Char) :
    conjuncts (word ++ query) = (conjuncts query).modifyHead (word ++ ·) := by
  induction word with
  | nil => exact (congrFun List.modifyHead_id _).symm
  | cons c word ih =>
    have visible : c ≠ ' ' := by
      rintro rfl
      have letter := letters ' ' (by simp)
      rw [not_isAlphanumeric_marks ' ' (by simp)] at letter
      cases letter
    have step (query : List Char) : conjuncts (c :: query) =
        (conjuncts query).modifyHead (c :: ·) := by
      simp [conjuncts, visible]
    rw [List.cons_append, step, ih fun d member => letters d (by simp [member])]
    cases conjuncts query <;> simp

theorem conjuncts_intercalate {words : List (List Char)} (filled : words ≠ [])
    (letters : ∀ word ∈ words, ∀ c ∈ word, isAlphanumeric c = true) :
    conjuncts (" & ".toList.intercalate words) = words := by
  induction words with
  | nil => exact (filled rfl).elim
  | cons word words ih =>
    have here := letters word (by simp)
    cases words with
    | nil =>
      have alone := conjuncts_append here []
      simpa [conjuncts] using alone
    | cons next words =>
      have later := ih (by simp) fun other member => letters other (by simp [member])
      have joined (query : List Char) : conjuncts (" & ".toList ++ query) =
          [] :: conjuncts query := rfl
      rw [List.intercalate_cons_cons, List.append_assoc, conjuncts_append here, joined, later]
      simp

namespace QueryToken

theorem tokens_append {word : List Char} (letters : ∀ c ∈ word, isAlphanumeric c = true)
    (read query : List Char) : tokens read (word ++ query) = tokens (read ++ word) query := by
  induction word generalizing read with
  | nil => simp
  | cons c word ih =>
    have letter : isAlphanumeric c = true := letters c (by simp)
    have later := ih (fun d member => letters d (by simp [member])) (read ++ [c])
    rw [List.cons_append, tokens, if_pos letter, later, List.append_assoc]
    rfl

theorem tokens_sign {c : Char} (other : isAlphanumeric c = false) (visible : isBlank c = false)
    (word query : List Char) : tokens word (c :: query) = ofWord word ++ sign c :: tokens [] query := by
  rw [tokens, other, visible]
  rfl

theorem tokens_blank (word query : List Char) :
    tokens word (' ' :: query) = ofWord word ++ tokens [] query := by
  have blank : isBlank ' ' = true := rfl
  rw [tokens, not_isAlphanumeric_marks ' ' (by simp), blank]
  rfl

theorem tokens_intercalate {words : List (List Char)} (filled : words ≠ [])
    (each : ∀ word ∈ words, word ≠ [] ∧ ∀ c ∈ word, isAlphanumeric c = true) :
    tokens [] (" & ".toList.intercalate words ++ ":*".toList) = ofStem words := by
  induction words with
  | nil => exact (filled rfl).elim
  | cons text words ih =>
    obtain ⟨visible, letters⟩ := each text (by simp)
    have own : ofWord text = [word text] := if_neg (by simpa using visible)
    cases words with
    | nil =>
      have marks : tokens text [':', '*'] = ofWord text ++ [sign ':', sign '*'] := by
        rw [tokens_sign (not_isAlphanumeric_marks ':' (by simp)) rfl,
          tokens_sign (not_isAlphanumeric_marks '*' (by simp)) rfl]
        rfl
      have last : ":*".toList = [':', '*'] := rfl
      rw [List.intercalate_singleton, tokens_append letters, List.nil_append, last, marks, own]
      rfl
    | cons next words =>
      have later := ih (by simp) fun other member => each other (by simp [member])
      have joined (query : List Char) : tokens text (' ' :: '&' :: ' ' :: query) =
          ofWord text ++ sign '&' :: tokens [] query := by
        rw [tokens_blank, tokens_sign (not_isAlphanumeric_marks '&' (by simp)) rfl, tokens_blank]
        rfl
      have separator (query : List Char) : " & ".toList ++ query = ' ' :: '&' :: ' ' :: query := rfl
      rw [List.intercalate_cons_cons, List.append_assoc, List.append_assoc, tokens_append letters,
        List.nil_append, separator, joined, later, own]
      simp [ofStem]

end QueryToken

theorem stemQuery?_eq (text : List Char) : stemQuery? text =
    if searchWords text = [] then none
    else some (" & ".toList.intercalate (searchWords text) ++ ":*".toList) := by
  unfold stemQuery?
  split
  · next absent => exact (if_pos absent).symm
  · next filled => exact (if_neg filled).symm

/-- A beginning without letters and digits has no query, and is matched like a whole word. Any other
has the query of its words: in front of a colon and a star at the end it is divided by ampersands into
the maximal rows of letters and digits of the text. It has no other signs, so no character of the text
is one. -/
theorem TextSearch.tsvector_stem (column configuration text : String) :
    (stemQuery? text.toList = none ↔ ∀ c ∈ text.toList, isAlphanumeric c = false) ∧
    match stemQuery? text.toList with
    | none => (tsvector configuration).stem column text = (tsvector configuration).term column text
    | some query =>
      (tsvector configuration).stem column text =
        .fullText column configuration .operators (String.ofList query) ∧
      ∃ body, query = body ++ ":*".toList ∧
        (∀ words, WordsOf text.toList words ↔ words = conjuncts body) ∧
        QueryToken.tokens [] query = QueryToken.ofStem (conjuncts body) := by
  constructor
  · rw [stemQuery?_eq, ← searchWords_eq_nil]
    split <;> simp_all
  · split
    · next absent => simp [tsvector, absent]
    · next query made =>
      refine ⟨by simp [tsvector, made], " & ".toList.intercalate (searchWords text.toList), ?_⟩
      rw [stemQuery?_eq] at made
      split at made
      · cases made
      · next filled =>
        have each := (wordsOf_iff.2 rfl : WordsOf text.toList (searchWords text.toList)).each
        have parts := conjuncts_intercalate filled fun word member => (each word member).2
        obtain rfl := Option.some.inj made
        refine ⟨rfl, ?_, ?_⟩
        · intro words
          rw [parts, wordsOf_iff]
        · rw [parts, QueryToken.tokens_intercalate filled each]

example : stemQuery? "it's & (a:*".toList = some "it & s & a:*".toList := by
  decide +kernel

end SearchBox.Sql
