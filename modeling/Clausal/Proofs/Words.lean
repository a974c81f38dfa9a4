import Mathlib
import Clausal.Text.Blank

/-!
# Words between blanks

What it means for a text to fall into words, said without a procedure: the words stand in the text in
their order, each a run of characters without a blank, with blanks around them and at least one between
two. A text falls into words in one way only, which is what cutting it at its blanks finds.
-/

namespace Clausal.Text

/-- The characters are blank. -/
def AllBlank (characters : List Char) : Prop :=
  ∀ character ∈ characters, isBlank character = true

/-- The characters make a word: there is one, and none of them is blank. -/
structure IsWord (characters : List Char) : Prop where
  /-- There is a character. -/
  nonempty : characters ≠ []
  /-- No character is blank. -/
  solid : ∀ character ∈ characters, isBlank character = false

/-- The text ends here or goes on with a blank. -/
def Breaks (text : List Char) : Prop :=
  ∀ character ∈ text.head?, isBlank character = true

/-- The text falls into the words. -/
inductive Spaced : List (List Char) → List Char → Prop
  /-- Nothing is left. -/
  | done : Spaced [] []
  /-- A blank between, before or after words. -/
  | blank {words : List (List Char)} {character : Char} {rest : List Char}
      (blank : isBlank character = true) (spaced : Spaced words rest) :
      Spaced words (character :: rest)
  /-- A word up to the next blank or the end. -/
  | word {word : List Char} {words : List (List Char)} {rest : List Char} (solid : IsWord word)
      (breaks : Breaks rest) (spaced : Spaced words rest) : Spaced (word :: words) (word ++ rest)

/-- Characters that are not blank add to the word under way. -/
theorem wordsFrom_append {characters : List Char}
    (solid : ∀ character ∈ characters, isBlank character = false) (gathered rest : List Char) :
    wordsFrom gathered (characters ++ rest) = wordsFrom (characters.reverse ++ gathered) rest := by
  induction characters generalizing gathered with
  | nil => rfl
  | cons character others ih =>
    have here : isBlank character = false := solid character (by simp)
    rw [List.cons_append, wordsFrom, here, if_neg (by simp),
      ih fun other inside => solid other (List.mem_cons_of_mem _ inside)]
    simp

/-- A text falls into the words that cutting it at its blanks finds; a word under way stands in front
of it. -/
theorem spaced_wordsFrom {gathered : List Char}
    (solid : ∀ character ∈ gathered, isBlank character = false) (text : List Char) :
    Spaced (wordsFrom gathered text) (gathered.reverse ++ text) := by
  induction text generalizing gathered with
  | nil =>
    rw [wordsFrom, closeWord]
    split
    · rename_i empty
      rw [List.isEmpty_iff.1 empty]
      exact .done
    · rename_i nonempty
      refine .word ⟨by simpa using nonempty, by simpa using solid⟩ ?_ .done
      simp [Breaks]
  | cons character rest ih =>
    rw [wordsFrom]
    cases blank : isBlank character with
    | true =>
      have later : Spaced (wordsFrom [] rest) (character :: rest) := .blank blank (ih (by simp))
      rw [if_pos rfl, closeWord]
      split
      · rename_i empty
        rw [List.isEmpty_iff.1 empty]
        exact later
      · rename_i nonempty
        refine .word ⟨by simpa using nonempty, by simpa using solid⟩ ?_ later
        simp [Breaks, blank]
    | false =>
      have grown : ∀ other ∈ character :: gathered, isBlank other = false := by
        intro other inside
        rcases List.mem_cons.1 inside with same | before
        · rw [same, blank]
        · exact solid other before
      rw [if_neg (by simp)]
      simpa using ih grown

/-- A text falls into one list of words only. -/
theorem Spaced.words_eq {parts : List (List Char)} {text : List Char} (spaced : Spaced parts text) :
    words text = parts := by
  induction spaced with
  | done => rfl
  | blank blank _ ih => simpa [words, wordsFrom, blank, closeWord] using ih
  | @word word parts rest solid breaks _ ih =>
    have closed : ∀ others, closeWord word.reverse others = word :: others := by
      intro others
      simp [closeWord, solid.nonempty]
    rw [words, wordsFrom_append solid.solid, List.append_nil]
    cases rest with
    | nil =>
      have none : parts = [] := ih.symm
      rw [none, wordsFrom, closed]
    | cons character later =>
      have blank : isBlank character = true := breaks character rfl
      have same : wordsFrom [] later = parts := by
        simpa [words, wordsFrom, blank, closeWord] using ih
      rw [wordsFrom, blank, if_pos rfl, closed, same]

/-- Cutting a text at its blanks finds the words into which it falls. -/
theorem words_eq_iff {parts : List (List Char)} {text : List Char} :
    words text = parts ↔ Spaced parts text := by
  refine ⟨fun same => ?_, Spaced.words_eq⟩
  rw [← same]
  exact spaced_wordsFrom (by simp) text

/-- Blanks in front of a text change nothing. -/
theorem Spaced.blanks {parts : List (List Char)} {text front : List Char}
    (spaced : Spaced parts text) (blank : AllBlank front) : Spaced parts (front ++ text) := by
  induction front with
  | nil => exact spaced
  | cons character rest ih =>
    refine .blank (blank character (by simp)) (ih fun other inside => ?_)
    exact blank other (List.mem_cons_of_mem _ inside)

/-- A text without words is blank. -/
theorem spaced_nil_iff {text : List Char} : Spaced [] text ↔ AllBlank text := by
  constructor
  · intro spaced
    generalize shape : ([] : List (List Char)) = parts at spaced
    induction spaced with
    | done => simp [AllBlank]
    | blank blank _ ih =>
      intro other inside
      rcases List.mem_cons.1 inside with same | later
      · rw [same, blank]
      · exact ih shape other later
    | word _ _ _ _ => simp at shape
  · intro blank
    simpa using Spaced.done.blanks blank

/-- A text with a first word is that word after blanks, and before a blank or the end. -/
theorem spaced_cons_iff {word : List Char} {parts : List (List Char)} {text : List Char} :
    Spaced (word :: parts) text ↔ IsWord word ∧ ∃ front rest,
      text = front ++ (word ++ rest) ∧ AllBlank front ∧ Breaks rest ∧ Spaced parts rest := by
  constructor
  · intro spaced
    generalize shape : word :: parts = whole at spaced
    induction spaced with
    | done => simp at shape
    | @blank _ character rest blank _ ih =>
      obtain ⟨solid, front, later, same, before, breaks, spaced⟩ := ih shape
      refine ⟨solid, character :: front, later, by rw [same]; rfl, fun other inside => ?_, breaks,
        spaced⟩
      rcases List.mem_cons.1 inside with equal | within
      · rw [equal, blank]
      · exact before other within
    | word solid breaks spaced _ =>
      obtain ⟨rfl, rfl⟩ := List.cons.inj shape
      exact ⟨solid, [], _, rfl, by simp [AllBlank], breaks, spaced⟩
  · rintro ⟨solid, front, rest, rfl, blank, breaks, spaced⟩
    exact (Spaced.word solid breaks spaced).blanks blank

/-- A text that starts with no blank starts with its first word. -/
theorem Spaced.first {parts : List (List Char)} {text : List Char} {character : Char}
    (spaced : Spaced parts text) (first : text.head? = some character)
    (solid : isBlank character = false) : ∃ word ∈ parts.head?, word.head? = some character := by
  cases spaced with
  | done => simp at first
  | @blank _ start _ blank _ =>
    have same : start = character := by simpa using first
    rw [← same, blank] at solid
    simp at solid
  | @word word _ rest isWord _ _ =>
    refine ⟨word, rfl, ?_⟩
    cases word with
    | nil => exact absurd rfl isWord.nonempty
    | cons start _ => simpa using first

/-- Between a word and the next one there is a blank. -/
theorem Breaks.front_ne_nil {front word rest : List Char} (breaks : Breaks (front ++ (word ++ rest)))
    (solid : IsWord word) : front ≠ [] := by
  rintro rfl
  cases word with
  | nil => exact solid.nonempty rfl
  | cons character others =>
    have blank := breaks character rfl
    rw [solid.solid character (by simp)] at blank
    simp at blank

/-- A text that starts with a blank breaks there. -/
theorem breaks_append {front : List Char} (nonempty : front ≠ []) (blank : AllBlank front)
    (rest : List Char) : Breaks (front ++ rest) := by
  cases front with
  | nil => simp at nonempty
  | cons character others =>
    intro other here
    cases here
    exact blank character (by simp)

/-- A text without blanks around it does not start with one. -/
theorem head_trimBlanks {text : List Char} {character : Char}
    (first : (trimBlanks text).head? = some character) : isBlank character = false := by
  have start : (trimBlanks text) <+: text.dropWhile isBlank := by
    rw [trimBlanks, ← List.reverse_suffix, List.reverse_reverse]
    exact List.dropWhile_suffix _
  obtain ⟨rest, whole⟩ := start
  have dropped := List.head?_dropWhile_not isBlank text
  rw [← whole, List.head?_append, first] at dropped
  simpa using dropped

end Clausal.Text
