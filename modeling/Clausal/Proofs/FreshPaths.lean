import Mathlib
import Clausal.Benchmark

/-!
# Fresh paths for tables of results

The table of results goes to the first path that is free: the plain name in the directory of results, or
else the name with the least number in parentheses. Different numbers give different names, so among
finitely many paths that are taken there is always a number that is free, and the search for one ends.

The number is put in front of every ending in the whole path, not only in front of that of the name. No
ending reaches over a slash, so directory and name are marked apart from each other: the path is the
promised one exactly if no number is needed or the directory holds no ending of its own.
-/

namespace Clausal.Benchmark

/-! ## Marked endings -/

/-- The ending of a table of results. -/
def tableEnding : List Char := ['.', 'c', 's', 'v']

/-- No ending reaches over a slash. -/
theorem markEndings_append_slash (mark front rest : List Char) :
    markEndings mark (front ++ '/' :: rest) =
      markEndings mark front ++ '/' :: markEndings mark rest := by
  fun_induction markEndings mark front with
  | case1 tail ih => simp [markEndings, ih]
  | case2 character tail other ih =>
    rw [List.cons_append, markEndings, ih]
    · rfl
    · rintro after rfl overlap
      rcases tail with _ | ⟨first, _ | ⟨second, _ | ⟨third, fourth⟩⟩⟩ <;> simp_all
  | case3 => simp [markEndings]

/-- Characters without an ending stay as they are. -/
theorem markEndings_of_absent (mark path : List Char) (absent : ¬ tableEnding <:+: path) :
    markEndings mark path = path := by
  fun_induction markEndings mark path with
  | case1 tail ih => exact absurd (List.prefix_append tableEnding tail).isInfix absent
  | case2 character tail other ih =>
    rw [ih fun within => absent (within.trans (List.suffix_cons character tail).isInfix)]
  | case3 => rfl

/-- Marking takes no characters away. -/
theorem length_le_markEndings (mark path : List Char) :
    path.length ≤ (markEndings mark path).length := by
  fun_induction markEndings mark path with
  | case1 tail ih => simp; omega
  | case2 character tail other ih => simpa using ih
  | case3 => simp

/-- Where there is an ending, its mark is added. -/
theorem length_lt_markEndings {mark path : List Char} (visible : mark ≠ [])
    (present : tableEnding <:+: path) : path.length < (markEndings mark path).length := by
  fun_induction markEndings mark path with
  | case1 tail ih =>
    have more := length_le_markEndings mark tail
    have some := List.length_pos_of_ne_nil visible
    simp
    omega
  | case2 character tail other ih =>
    rcases List.infix_cons_iff.mp present with first | later
    · obtain ⟨after, split⟩ := first
      injection split with head rest
      exact absurd rest.symm (other after head.symm)
    · simpa using ih later
  | case3 => simp [tableEnding] at present

/-! ## Names in a directory -/

/-- The name of a table of results with a number. -/
def numberedName (index : Nat) : String :=
  s!"benchmark ({index}).csv"

/-- The mark of a number. -/
def mark (index : Nat) : List Char :=
  s!" ({index})".toList

/-- A mark is visible. -/
theorem mark_ne_nil (index : Nat) : mark index ≠ [] := by
  simp [mark]

/-- Different numbers give different names. -/
theorem numberedName_injective : Function.Injective numberedName := by
  intro first second same
  have texts : (toString first).toList = (toString second).toList := by
    simpa [numberedName] using congrArg String.toList same
  have digits : Nat.toDigits 10 first = Nat.toDigits 10 second := by
    simpa only [Nat.toString_eq_repr, Nat.toList_repr] using texts
  simpa using congrArg (fun digits => Nat.ofDigitChars 10 digits 0) digits

/-- What stands in front of a name in a directory. -/
def leading (directory : String) : List Char :=
  if directory.isEmpty || directory.endsWith "/" then directory.toList
  else directory.toList ++ ['/']

/-- The characters of a path in a directory are those of the directory, a separator, and those of the name. -/
theorem toList_under (directory name : String) :
    (Files.under directory name).toList = leading directory ++ name.toList := by
  unfold Files.under leading
  split <;> simp

/-- In front of a name stands nothing or a slash. -/
theorem leading_eq (directory : String) :
    leading directory = [] ∨ ∃ before, leading directory = before ++ ['/'] := by
  unfold leading
  by_cases none : directory = ""
  · simp [none]
  · right
    by_cases slash : directory.endsWith "/"
    · have ending : "/".toList <:+ directory.toList := by
        rw [String.endsWith_eq_endsWith_toSlice, String.Slice.endsWith_string_iff] at slash
        simpa using slash
      obtain ⟨before, split⟩ := ending
      exact ⟨before, by simpa [slash] using split.symm⟩
    · exact ⟨directory.toList, by simp [none, slash]⟩

/-- What stands in front of a name is marked by itself. -/
theorem markEndings_leading_append (mark : List Char) (directory : String) (rest : List Char) :
    markEndings mark (leading directory ++ rest) =
      markEndings mark (leading directory) ++ markEndings mark rest := by
  rcases leading_eq directory with nothing | ⟨before, slash⟩
  · simp [nothing, markEndings]
  · simp [slash, markEndings_append_slash, markEndings]

/-- A directory without an ending stays as it is. -/
theorem markEndings_leading_of_absent (mark : List Char) {directory : String}
    (absent : ¬ tableEnding <:+: directory.toList) :
    markEndings mark (leading directory) = leading directory := by
  unfold leading
  split
  · exact markEndings_of_absent mark _ absent
  · rw [markEndings_append_slash, markEndings_of_absent mark _ absent, markEndings]

/-- A directory with an ending is marked. -/
theorem length_leading_lt_markEndings {mark : List Char} (visible : mark ≠ []) {directory : String}
    (present : tableEnding <:+: directory.toList) :
    (leading directory).length < (markEndings mark (leading directory)).length := by
  have longer := length_lt_markEndings visible present
  unfold leading
  split
  · exact longer
  · rw [markEndings_append_slash]
    simpa [markEndings] using longer

/-- The name of the table is marked as it should be. -/
theorem markEndings_tableName (index : Nat) :
    markEndings (mark index) tableName.toList = (numberedName index).toList := by
  simp [tableName, markEndings, numberedName, mark, toString]

/-- A numbered path ends in the numbered name. -/
theorem toList_numbered (directory : String) (index : Nat) :
    (numbered (Files.under directory tableName) index).toList =
      markEndings (mark index) (leading directory) ++ (numberedName index).toList := by
  rw [numbered, String.toList_ofList, toList_under, ← markEndings_tableName]
  exact markEndings_leading_append (mark index) directory tableName.toList

/-- Without an ending in the directory, a numbered path is the numbered name in that directory. -/
theorem numbered_of_absent {directory : String} (absent : ¬ tableEnding <:+: directory.toList)
    (index : Nat) :
    numbered (Files.under directory tableName) index =
      Files.under directory (numberedName index) := by
  apply String.toList_injective
  rw [toList_numbered, toList_under, markEndings_leading_of_absent _ absent]

/-! ## The last name of a path -/

/-- No slash stands in a numbered name. -/
theorem slash_notMem_numberedName (index : Nat) : '/' ∉ (numberedName index).toList := by
  have digits : '/' ∉ Nat.toDigits 10 index := fun within => by
    have digit := Nat.isDigit_of_mem_toDigits (by decide) (by decide) within
    exact absurd digit (by decide)
  simp [numberedName, toString, digits]

/-- The last part of a path is what follows its last slash. -/
theorem exists_parts {path name : String} {front : List Char}
    (split : path.toList = front ++ name.toList)
    (ended : front = [] ∨ ∃ before, front = before ++ ['/']) (whole : '/' ∉ name.toList) :
    ∃ earlier, Files.parts path = earlier ++ [name] := by
  unfold Files.parts
  rcases ended with rfl | ⟨before, rfl⟩
  · exact ⟨[], by simp [split, List.splitOn_eq_singleton whole]⟩
  · refine ⟨(before.splitOn '/').map String.ofList, ?_⟩
    simp [split, List.splitOn_append_cons_self, List.splitOn_eq_singleton whole]

/-- The last part of a path in a directory is the name. -/
theorem exists_parts_under (directory : String) (index : Nat) :
    ∃ earlier, Files.parts (Files.under directory (numberedName index)) =
      earlier ++ [numberedName index] :=
  exists_parts (toList_under directory (numberedName index)) (leading_eq directory)
    (slash_notMem_numberedName index)

/-- The last part of a numbered path is the numbered name, whatever became of the directory. -/
theorem exists_parts_numbered (directory : String) (index : Nat) :
    ∃ earlier, Files.parts (numbered (Files.under directory tableName) index) =
      earlier ++ [numberedName index] := by
  apply exists_parts (toList_numbered directory index) _ (slash_notMem_numberedName index)
  rcases leading_eq directory with nothing | ⟨before, slash⟩
  · simp [nothing, markEndings]
  · simp [slash, markEndings_append_slash, markEndings]

/-- Different numbers give different paths. -/
theorem numbered_injective (directory : String) :
    Function.Injective (numbered (Files.under directory tableName)) := by
  intro first second same
  obtain ⟨before, parts⟩ := exists_parts_numbered directory first
  obtain ⟨others, otherParts⟩ := exists_parts_numbered directory second
  rw [same, otherParts] at parts
  exact (numberedName_injective (List.cons.inj (List.append_inj' parts rfl).2).1).symm

/-- A numbered path in a directory with an ending lies elsewhere. -/
theorem numbered_ne_under {directory : String} (present : tableEnding <:+: directory.toList)
    (index other : Nat) :
    numbered (Files.under directory tableName) index ≠
      Files.under directory (numberedName other) := by
  intro same
  obtain ⟨before, parts⟩ := exists_parts_numbered directory index
  obtain ⟨others, otherParts⟩ := exists_parts_under directory other
  rw [same, otherParts] at parts
  obtain rfl := numberedName_injective (List.cons.inj (List.append_inj' parts rfl).2).1
  have lengths := congrArg (List.length ∘ String.toList) same
  have longer := length_leading_lt_markEndings (mark_ne_nil other) present
  simp only [Function.comp, toList_numbered, toList_under, List.length_append] at lengths
  omega

/-! ## The search for a free number -/

/-- Among finitely many names there is one that is not taken. -/
theorem exists_free (taken : Nat → Bool) {naming : Nat → String}
    (different : Function.Injective naming) {occupied : Finset String} {limit : Nat}
    (few : occupied.card < limit) (known : ∀ index, taken index = true → naming index ∈ occupied) :
    ∃ index < limit, taken index = false := by
  by_contra none
  push Not at none
  have within : (Finset.range limit).image naming ⊆ occupied := by
    intro name found
    obtain ⟨index, below, rfl⟩ := Finset.mem_image.mp found
    exact known index (by simpa using none index (Finset.mem_range.mp below))
  have many := Finset.card_le_card within
  rw [Finset.card_image_of_injective _ different, Finset.card_range] at many
  omega

/-- Where a number is free, the search ends at the plain path or at the first free number. -/
theorem freePath_eq {taken : String → Bool} {limit : Nat} {base : String}
    (some : ∃ index < limit, taken (numbered base (index + 1)) = false) :
    (taken base = false ∧ freePath taken limit base = base) ∨
      (taken base = true ∧ ∃ index, 1 ≤ index ∧ freePath taken limit base = numbered base index ∧
        taken (numbered base index) = false ∧
        ∀ earlier, 1 ≤ earlier → earlier < index → taken (numbered base earlier) = true) := by
  unfold freePath
  cases plain : taken base with
  | false => simp
  | true =>
    right
    cases search : (List.range limit).find? fun index => !taken (numbered base (index + 1)) with
    | none =>
      obtain ⟨index, below, free⟩ := some
      have refused := List.find?_eq_none.mp search index (List.mem_range.mpr below)
      simp [free] at refused
    | some index =>
      obtain ⟨free, position, bound, found, first⟩ := List.find?_eq_some_iff_getElem.mp search
      simp only [List.getElem_range] at found
      subst found
      refine ⟨rfl, position + 1, by omega, by simp, by simpa using free, ?_⟩
      intro earlier least below
      have before := first (earlier - 1) (by omega)
      simpa [Nat.sub_add_cancel least] using before

/-- The path where a table of results should go: the plain name in the directory if it is free, else the
name with the least number that is. -/
def NextTable (taken : String → Bool) (directory path : String) : Prop :=
  if taken (Files.under directory tableName) then
    ∃ index, 1 ≤ index ∧ path = Files.under directory (numberedName index) ∧ taken path = false ∧
      ∀ earlier, 1 ≤ earlier → earlier < index →
        taken (Files.under directory (numberedName earlier)) = true
  else path = Files.under directory tableName

/-- Where a number is free, the path that is found is free, and it is the promised one exactly if no
number is needed or the directory has no ending. -/
theorem freePath_nextTable_iff (taken : String → Bool) {limit : Nat} {directory : String}
    (some : ∃ index < limit, taken (numbered (Files.under directory tableName) (index + 1)) = false) :
    taken (freePath taken limit (Files.under directory tableName)) = false ∧
      (NextTable taken directory (freePath taken limit (Files.under directory tableName)) ↔
        taken (Files.under directory tableName) = false ∨ ¬ tableEnding <:+: directory.toList) := by
  unfold NextTable
  rcases freePath_eq some with ⟨plain, found⟩ | ⟨plain, index, least, found, free, first⟩
  · simp [found, plain]
  · rw [found, plain]
    refine ⟨free, ?_⟩
    simp only [if_true, Bool.true_eq_false, false_or]
    constructor
    · rintro ⟨other, -, same, -⟩ present
      exact numbered_ne_under present index other same
    · intro absent
      simp only [numbered_of_absent absent] at free first ⊢
      exact ⟨index, least, rfl, free, first⟩

/-! ## Names in a file tree -/

/-- The names that occur in a file tree. -/
def occurringNames (files : Files) : Finset String :=
  (files.entries.flatMap fun entry => entry.1).toFinset

/-- There are more candidates for a path than names that occur. -/
theorem card_occurringNames_lt (files : Files) : (occurringNames files).card < pathCount files := by
  have lengths (entries : List (List String × Node)) :
      (entries.flatMap fun entry => entry.1).length =
        total (entries.map fun entry => entry.1.length) := by
    induction entries with
    | nil => rfl
    | cons entry rest ih => simp [ih]
  have fewer := List.toFinset_card_le (files.entries.flatMap fun entry => entry.1)
  rw [lengths] at fewer
  unfold occurringNames pathCount
  omega

/-- What stands at a name has the name in its tree. -/
theorem mem_occurringNames_of_node? {files : Files} {here : List String} {name : String}
    {node : Node} (found : files.node? (here ++ [name]) = some node) :
    name ∈ occurringNames files := by
  have entry : ∃ entry ∈ files.entries, name ∈ entry.1 := by
    unfold Files.node? at found
    split at found
    · next key held search =>
      have here := List.find?_some search
      exact ⟨_, List.mem_of_find?_eq_some search, by simp_all⟩
    · split at found
      · next below =>
        have named : (here ++ [name]).isEmpty = false := by simp
        simp only [named, Bool.false_or, List.any_eq_true, List.isPrefixOf_iff_prefix] at below
        obtain ⟨entry, member, start⟩ := below
        exact ⟨entry, member, start.subset (by simp)⟩
      · cases found
  simpa [occurringNames] using entry

/-- A way that can be followed to its end ends in a name of the tree. -/
theorem mem_occurringNames_of_follow {files : Files} {name : String} (proper : name ≠ "..")
    (names : List String) : ∀ here : List String,
      (files.follow here (names ++ [name])).toBool = true → name ∈ occurringNames files := by
  induction names with
  | nil =>
    intro here followed
    simp only [List.nil_append, Files.follow, proper, if_false] at followed
    split at followed
    · cases followed
    · cases followed
    · split at followed
      · cases followed
      · split at followed
        · cases followed
        · next node found => exact mem_occurringNames_of_node? found
  | cons part rest ih =>
    intro here followed
    rw [List.cons_append, Files.follow] at followed
    split at followed
    · cases followed
    · cases followed
    · split at followed
      · split at followed
        · exact ih _ followed
        · simp [proper] at followed
          cases followed
      · split at followed
        · cases followed
        · exact ih _ followed

/-- A path that leads somewhere ends in a name of the tree, if its last part is a proper name. -/
theorem mem_occurringNames_of_has {files : Files} {path name : String} {earlier : List String}
    (split : Files.parts path = earlier ++ [name]) (named : name ≠ "" ∧ name ≠ "." ∧ name ≠ "..")
    (there : files.has path = true) : name ∈ occurringNames files := by
  obtain ⟨visible, moving, proper⟩ := named
  have components : ∃ before, Files.components path = before ++ [name] :=
    ⟨earlier.filter fun part => part ≠ "" ∧ part ≠ ".", by
      simp [Files.components, split, List.filter_append, visible, moving]⟩
  obtain ⟨before, way⟩ := components
  unfold Files.has Files.resolve at there
  rw [way] at there
  split at there
  · cases there
  split at there
  · cases there
  split at there
  · cases there
  split at there
  · cases before <;> cases there
  · apply mem_occurringNames_of_follow proper before []
    split at there
    · cases there
    all_goals simp_all [Except.toBool]

/-- A numbered path that is there has its name in the tree. -/
theorem numberedName_mem_occurringNames {files : Files} {directory : String} {index : Nat}
    (there : files.has (numbered (Files.under directory tableName) index) = true) :
    numberedName index ∈ occurringNames files := by
  obtain ⟨earlier, split⟩ := exists_parts_numbered directory index
  refine mem_occurringNames_of_has split ?_ there
  have letter : 'b' ∈ (numberedName index).toList := by simp [numberedName, toString]
  refine ⟨?_, ?_, ?_⟩ <;> intro same <;> rw [same] at letter <;> revert letter <;> decide

/-- The path for a table of results is always free, both among finitely many paths that are taken, however
far the search goes beyond their number, and in a file tree. It is the promised one, in the directory of
results and with the least free number, exactly if the plain name is free or the directory's own path
holds no ending of a table. -/
theorem freePath_fresh (directory : String) :
    (∀ (existing : Finset String) (limit : Nat), existing.card < limit →
      let path := freePath (fun path => decide (path ∈ existing)) limit
        (Files.under directory tableName)
      path ∉ existing ∧
        (NextTable (fun path => decide (path ∈ existing)) directory path ↔
          Files.under directory tableName ∉ existing ∨ ¬ tableEnding <:+: directory.toList)) ∧
    ∀ files : Files,
      let path := freePathIn files (Files.under directory tableName)
      files.has path = false ∧
        (NextTable files.has directory path ↔
          files.has (Files.under directory tableName) = false ∨
            ¬ tableEnding <:+: directory.toList) := by
  constructor
  · intro existing limit few
    have later : Function.Injective fun index =>
        numbered (Files.under directory tableName) (index + 1) :=
      (numbered_injective directory).comp (add_left_injective 1)
    have free := exists_free
      (fun index => decide (numbered (Files.under directory tableName) (index + 1) ∈ existing))
      later few fun index taken => by simpa using taken
    simpa using freePath_nextTable_iff (fun path => decide (path ∈ existing)) free
  · intro files
    have free := exists_free
      (fun index => files.has (numbered (Files.under directory tableName) (index + 1)))
      (numberedName_injective.comp (add_left_injective 1)) (card_occurringNames_lt files)
      fun index taken => numberedName_mem_occurringNames taken
    exact freePath_nextTable_iff files.has free

/-- With the plain name and the first number taken, the second number is used. -/
theorem freePath_fresh_results :
    let existing : Finset String := {"results/benchmark.csv", "results/benchmark (1).csv"}
    existing.card < 3 ∧
      NextTable (fun path => decide (path ∈ existing)) "results"
        (freePath (fun path => decide (path ∈ existing)) 3 (Files.under "results" tableName)) := by
  intro existing
  exact ⟨by decide, (((freePath_fresh "results").1 existing 3 (by decide)).2).mpr (.inr (by decide))⟩

/-- In a directory whose path holds an ending, the number goes into the directory too. -/
theorem freePathIn_marks_directory :
    let files : Files := ⟨[(["res.csv", "benchmark.csv"], .file (.plain []))]⟩
    let path := freePathIn files (Files.under "res.csv" tableName)
    path = "res (1).csv/benchmark (1).csv" ∧ ¬ NextTable files.has "res.csv" path := by
  intro files path
  refine ⟨by decide +kernel, fun promised => ?_⟩
  have free : ∃ index < pathCount files,
      files.has (numbered (Files.under "res.csv" tableName) (index + 1)) = false :=
    ⟨0, by decide, by decide +kernel⟩
  have taken : files.has (Files.under "res.csv" tableName) = true := by decide +kernel
  rcases (freePath_nextTable_iff files.has free).2.mp promised with plain | absent
  · simp [taken] at plain
  · exact absent (by decide)

end Clausal.Benchmark
