/-
**Texts without the white space at their ends.**

* `Trimmed`: the core of a text, with white space around it that does not count.
* `trimList_eq_iff`: trimming finds the core, and there is only one.
* `trimList_around`: white space put around a text makes no difference.
* `trimList_mark`: a text with a mark in it that is not white space is trimmed on either side of the
  mark.
-/

import Mathlib.Data.List.DropRight
import TimedQuiz.Text.Blank

namespace TimedQuiz.Text

/-- There is nothing but white space in the text. -/
def Blank (text : List Char) : Prop := ∀ c ∈ text, isBlank c = true

instance (text : List Char) : Decidable (Blank text) := List.decidableBAll _ text

theorem Blank.nil : Blank [] := fun _ impossible => by cases impossible

/-- No digit is white space. -/
theorem isBlank_of_isDigit {c : Char} (digit : c.isDigit = true) : isBlank c = false := by
  have others : blankChars.all (fun c => !c.isDigit) = true := by decide
  refine eq_false_of_ne_true fun blank => ?_
  have other := List.all_eq_true.mp others c (List.contains_iff_mem.mp blank)
  rw [digit] at other
  cases other

/-- A text and its core: around the core there is white space, which is not part of it. -/
structure Trimmed (text core : List Char) : Prop where
  around : ∃ before after, text = before ++ core ++ after ∧ Blank before ∧ Blank after
  first : ∀ c ∈ core.head?, isBlank c = false
  last : ∀ c ∈ core.getLast?, isBlank c = false

variable {text core before after : List Char}

theorem trimList_eq (text : List Char) :
    trimList text = (text.dropWhile isBlank).rdropWhile isBlank := rfl

/-- What is left of a text begins with no white space. -/
theorem isBlank_head?_trimList {c : Char} (member : c ∈ (trimList text).head?) :
    isBlank c = false := by
  obtain ⟨rest, begins⟩ := List.head?_eq_some_iff.mp member
  obtain ⟨cut, parts⟩ := List.rdropWhile_prefix isBlank (text.dropWhile isBlank)
  -- What is cut off at the end does not change how the text begins.
  have stop := List.head?_dropWhile_not isBlank text
  rw [← parts, ← trimList_eq, begins] at stop
  exact stop

/-- What is left of a text ends with no white space. -/
theorem isBlank_getLast?_trimList {c : Char} (member : c ∈ (trimList text).getLast?) :
    isBlank c = false := by
  obtain ⟨some, rfl⟩ := List.mem_getLast?_eq_getLast member
  exact eq_false_of_ne_true (List.rdropWhile_last_not isBlank _ some)

theorem trimmed_trimList (text : List Char) : Trimmed text (trimList text) where
  around := by
    refine ⟨text.takeWhile isBlank, (text.dropWhile isBlank).rtakeWhile isBlank, ?_,
      fun _ => List.mem_takeWhile_imp, fun _ => List.mem_rtakeWhile_imp⟩
    rw [trimList_eq, List.append_assoc, List.rdropWhile_append_rtakeWhile,
      List.takeWhile_append_dropWhile]
  first _ := isBlank_head?_trimList
  last _ := isBlank_getLast?_trimList

theorem rdropWhile_append_blank (blank : Blank after) :
    (text ++ after).rdropWhile isBlank = text.rdropWhile isBlank := by
  have reversed : ∀ c ∈ after.reverse, isBlank c = true := fun c member =>
    blank c (List.mem_reverse.mp member)
  rw [List.rdropWhile, List.reverse_append, List.dropWhile_append_of_pos reversed]
  rfl

/-- **Trimming finds the core of a text**, and there is only one. -/
theorem trimList_eq_iff : trimList text = core ↔ Trimmed text core := by
  constructor
  · rintro rfl
    exact trimmed_trimList text
  · rintro ⟨⟨before, after, rfl, front, behind⟩, first, last⟩
    have stays : core.rdropWhile isBlank = core :=
      List.rdropWhile_eq_self_iff.mpr fun some blank => by
        rw [last _ (List.getLast_mem_getLast? some)] at blank
        cases blank
    rw [trimList_eq, List.append_assoc, List.dropWhile_append_of_pos front]
    cases core with
    | nil =>
      rw [List.nil_append, List.dropWhile_eq_nil_iff.mpr behind]
      rfl
    | cons c rest =>
      have begins : ¬ isBlank c = true := ne_true_of_eq_false (first c rfl)
      rw [List.cons_append, List.dropWhile_cons_of_neg begins, ← List.cons_append,
        rdropWhile_append_blank behind, stays]

/-- White space put around a text makes no difference. -/
theorem trimList_around (front : Blank before) (behind : Blank after) :
    trimList (before ++ text ++ after) = trimList text := by
  obtain ⟨⟨left, right, parts, blankLeft, blankRight⟩, first, last⟩ := trimmed_trimList text
  refine trimList_eq_iff.mpr ⟨⟨before ++ left, right ++ after, ?_, ?_, ?_⟩, first, last⟩
  · conv_lhs => rw [parts]
    simp only [List.append_assoc]
  · exact List.forall_mem_append.mpr ⟨front, blankLeft⟩
  · exact List.forall_mem_append.mpr ⟨blankRight, behind⟩

/-- Nothing is left of a text exactly when there is nothing but white space in it. -/
theorem trimList_eq_nil_iff : trimList text = [] ↔ Blank text := by
  rw [trimList_eq_iff]
  constructor
  · rintro ⟨⟨before, after, rfl, front, behind⟩, -, -⟩
    rw [List.append_nil]
    exact List.forall_mem_append.mpr ⟨front, behind⟩
  · intro blank
    exact
      { around := ⟨text, [], by simp, blank, .nil⟩
        first := fun _ impossible => by cases impossible
        last := fun _ impossible => by cases impossible }

/-- A text without any white space is its own core. -/
theorem trimList_of_solid (solid : ∀ c ∈ text, isBlank c = false) : trimList text = text :=
  trimList_eq_iff.mpr
    { around := ⟨[], [], by simp, .nil, .nil⟩
      first := fun c member => solid c (List.mem_of_mem_head? member)
      last := fun c member => solid c (List.mem_of_mem_getLast? member) }

theorem trimList_dropWhile (text : List Char) :
    trimList (text.dropWhile isBlank) = trimList text := by
  rw [trimList_eq, List.dropWhile_idempotent, trimList_eq]

theorem trimList_rdropWhile (text : List Char) :
    trimList (text.rdropWhile isBlank) = trimList text := by
  have blank : Blank (text.rtakeWhile isBlank) := fun _ => List.mem_rtakeWhile_imp
  have around : trimList ([] ++ text.rdropWhile isBlank ++ text.rtakeWhile isBlank) =
      trimList (text.rdropWhile isBlank) := trimList_around .nil blank
  rw [List.nil_append, List.rdropWhile_append_rtakeWhile] at around
  exact around.symm

section Mark

variable {mark : Char} (seen : isBlank mark = false) (front behind : List Char)
include seen

theorem dropWhile_mark : (front ++ mark :: behind).dropWhile isBlank =
    front.dropWhile isBlank ++ mark :: behind := by
  induction front with
  | nil => exact List.dropWhile_cons_of_neg (ne_true_of_eq_false seen)
  | cons c front ih =>
    rw [List.cons_append, List.dropWhile_cons, List.dropWhile_cons, ih]
    split <;> rfl

theorem rdropWhile_mark : (front ++ mark :: behind).rdropWhile isBlank =
    front ++ mark :: behind.rdropWhile isBlank := by
  induction behind using List.reverseRecOn with
  | nil => exact List.rdropWhile_concat_neg isBlank front mark (ne_true_of_eq_false seen)
  | append_singleton behind c ih =>
    rw [← List.cons_append, ← List.append_assoc, List.rdropWhile_concat, List.rdropWhile_concat, ih]
    split <;> simp

/-- A text with a mark in it that is not white space is trimmed on either side of the mark. -/
theorem trimList_mark : trimList (front ++ mark :: behind) =
    front.dropWhile isBlank ++ mark :: behind.rdropWhile isBlank := by
  rw [trimList_eq, dropWhile_mark seen, rdropWhile_mark seen]

end Mark

end TimedQuiz.Text
