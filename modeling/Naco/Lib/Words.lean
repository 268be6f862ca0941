import Naco.Lib.Text

/-!
# Words

What `" ".join` and `split()` make of each other: a blank between two texts separates their words.
-/

namespace Py

theorem wordsAux_append_space {c : Char} (hc : isSpace c = true) (word cs rest : List Char) :
    wordsAux word (cs ++ c :: rest) = wordsAux word cs ++ wordsAux [] rest := by
  induction cs generalizing word with
  | nil =>
      by_cases hword : word = [] <;> simp [wordsAux, hc, hword]
  | cons d cs ih =>
      rw [List.cons_append, wordsAux, wordsAux]
      by_cases hd : isSpace d = true
      · rw [if_pos hd, if_pos hd]
        split
        · exact ih []
        · rw [ih, List.cons_append]
      · rw [if_neg hd, if_neg hd, ih]

theorem join_cons_cons (sep first second : String) (rest : List String) :
    join sep (first :: second :: rest) = first ++ sep ++ join sep (second :: rest) := by
  rw [← String.toList_inj, String.toList_append, String.toList_append, join, join, String.toList_ofList,
    String.toList_ofList, List.map_cons, List.map_cons, List.intercalate_cons_cons, List.append_assoc]

theorem join_singleton (sep s : String) : join sep [s] = s := by
  rw [join, List.map_singleton, List.intercalate_singleton, String.ofList_toList]

/-- The words of texts with blanks between them are those of the texts. -/
theorem words_join (parts : List String) : words (join " " parts) = parts.flatMap words := by
  induction parts with
  | nil => rfl
  | cons first rest ih =>
      cases rest with
      | nil => rw [join_singleton, List.flatMap_singleton]
      | cons second rest =>
          have hsplit : words (first ++ " " ++ join " " (second :: rest)) =
              words first ++ words (join " " (second :: rest)) := by
            rw [words, String.toList_append, String.toList_append, List.append_assoc,
              show " ".toList = [' '] from rfl, List.singleton_append,
              wordsAux_append_space (by decide), List.map_append]
            rfl
          rw [join_cons_cons, hsplit, ih, ← List.flatMap_cons]

end Py
