/-
ZonedSet.Proofs.Text.Blank — what the first word of a text is, and how a text falls into lines.

The first word is the first maximal run of characters that are not blank: before it there is nothing
but blanks, and after it a blank or nothing (`firstWord?_eq_some_iff`). A line feed ends a line for
good. The lines before it and those after it do not know of each other (`lines_append`).
-/
import Mathlib.Data.List.TakeWhile
import ZonedSet.Text.Blank

namespace ZonedSet.Text

/-! ## The first word -/

/-- The first maximal run of characters that are not blank. -/
def FirstRun (text word : List Char) : Prop :=
  ∃ blanks tail, text = blanks ++ (word ++ tail) ∧ word ≠ [] ∧
    (∀ c ∈ blanks, isBlank c = true) ∧ (∀ c ∈ word, isBlank c = false) ∧
    ∀ c ∈ tail.head?, isBlank c = true

theorem firstWord?_of_dropWhile {text word : List Char} (h : text.dropWhile isBlank = word)
    (hne : word ≠ []) : firstWord? text = some (word.takeWhile fun c => !isBlank c) := by
  unfold firstWord?
  rw [h]
  cases word with
  | nil => exact absurd rfl hne
  | cons c rest => rfl

theorem firstWord?_of_firstRun {text word : List Char} (h : FirstRun text word) :
    firstWord? text = some word := by
  obtain ⟨blanks, tail, rfl, hne, hblanks, hword, htail⟩ := h
  have hdrop : (blanks ++ (word ++ tail)).dropWhile isBlank = word ++ tail := by
    rw [List.dropWhile_append_of_pos hblanks]
    cases word with
    | nil => exact absurd rfl hne
    | cons c rest =>
      exact List.dropWhile_cons_of_neg (by simp [hword c List.mem_cons_self])
  have hend : tail.takeWhile (fun c => !isBlank c) = [] := by
    cases tail with
    | nil => rfl
    | cons c rest => exact List.takeWhile_cons_of_neg (by simp [htail c rfl])
  rw [firstWord?_of_dropWhile hdrop (by simp [hne]),
    List.takeWhile_append_of_pos (by simpa using hword), hend, List.append_nil]

theorem firstRun_of_firstWord? {text word : List Char} (h : firstWord? text = some word) :
    FirstRun text word := by
  have htext := List.takeWhile_append_dropWhile (p := isBlank) (l := text)
  cases hdrop : text.dropWhile isBlank with
  | nil =>
    rw [firstWord?, hdrop] at h
    cases h
  | cons c rest =>
    have hc : isBlank c = false := by
      have hhead := List.head?_dropWhile_not isBlank text
      rw [hdrop] at hhead
      exact hhead
    rw [firstWord?_of_dropWhile hdrop (by simp)] at h
    obtain rfl := Option.some.inj h
    refine ⟨text.takeWhile isBlank, (c :: rest).dropWhile fun c => !isBlank c, ?_, ?_, ?_, ?_, ?_⟩
    · rw [List.takeWhile_append_dropWhile, ← hdrop, htext]
    · rw [List.takeWhile_cons_of_pos (by simp [hc])]
      exact List.cons_ne_nil _ _
    · exact fun c hmem => List.mem_takeWhile_imp hmem
    · intro c hmem
      simpa using List.mem_takeWhile_imp hmem
    · intro d hd
      have hhead := List.head?_dropWhile_not (fun c => !isBlank c) (c :: rest)
      rw [Option.mem_def.mp hd] at hhead
      simpa using hhead

theorem firstWord?_eq_some_iff {text word : List Char} :
    firstWord? text = some word ↔ FirstRun text word :=
  ⟨firstRun_of_firstWord?, firstWord?_of_firstRun⟩

theorem firstWord?_eq_none_iff {text : List Char} :
    firstWord? text = none ↔ ¬ ∃ word, FirstRun text word := by
  rw [Option.eq_none_iff_forall_ne_some, not_exists]
  exact forall_congr' fun word => not_congr firstWord?_eq_some_iff

/-! ## Lines -/

theorem lines_append_feed {line : List Char} (h : '\n' ∉ line) (rest : List Char) :
    lines (line ++ '\n' :: rest) = line :: lines rest := by
  induction line with
  | nil => rfl
  | cons c more ih =>
    have hc : c ≠ '\n' := fun hc => h (hc ▸ List.mem_cons_self)
    have hmore : '\n' ∉ more := fun hmem => h (List.mem_cons_of_mem _ hmem)
    rw [List.cons_append, lines, if_neg hc, ih hmore]

theorem lines_ne_nil {text : List Char} (h : text ≠ []) : lines text ≠ [] := by
  cases text with
  | nil => exact absurd rfl h
  | cons c rest =>
    rw [lines]
    split
    · exact List.cons_ne_nil _ _
    · split <;> exact List.cons_ne_nil _ _

/-- What comes after a line feed does not touch the lines before it. -/
theorem lines_append (front rest : List Char) :
    lines (front ++ '\n' :: rest) = lines (front ++ ['\n']) ++ lines rest := by
  induction front with
  | nil => rfl
  | cons c more ih =>
    rw [List.cons_append, List.cons_append, lines, lines, ih]
    by_cases hc : c = '\n'
    · rw [if_pos hc, if_pos hc, List.cons_append]
    · rw [if_neg hc, if_neg hc]
      cases hmore : lines (more ++ ['\n']) with
      | nil => exact absurd hmore (lines_ne_nil (by simp))
      | cons line after => rfl

end ZonedSet.Text
