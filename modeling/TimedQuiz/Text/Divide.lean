/-
**Dividing texts.**

A text is divided at the first or the last of its characters that is a mark. The mark belongs to
neither part.

* `eq_of_divideFirst`: the parts and the mark between them are the whole text, and the mark does not
  occur in the first part.
-/

namespace TimedQuiz.Text

/-- The parts before and behind the first mark; without a mark there is only the first part. -/
def divideFirst (mark : Char) (text : List Char) : List Char × Option (List Char) :=
  match text with
  | [] => ([], none)
  | c :: rest =>
    if c = mark then ([], some rest)
    else
      let (front, back) := divideFirst mark rest
      (c :: front, back)

/-- The parts before and behind the last mark; without a mark there is only the second part. -/
def divideLast (mark : Char) (text : List Char) : Option (List Char) × List Char :=
  let (back, front) := divideFirst mark text.reverse
  (front.map List.reverse, back.reverse)

/-- The parts and the mark between them are the whole text, and the mark does not occur in the first
part. -/
theorem eq_of_divideFirst {mark : Char} {text front back : List Char}
    (divided : divideFirst mark text = (front, some back)) :
    text = front ++ mark :: back ∧ mark ∉ front := by
  induction text generalizing front with
  | nil => simp [divideFirst] at divided
  | cons c rest step =>
    by_cases same : c = mark
    · simp only [divideFirst, if_pos same, Prod.mk.injEq, Option.some.injEq] at divided
      obtain ⟨rfl, rfl⟩ := divided
      simp [same]
    · simp only [divideFirst, if_neg same, Prod.mk.injEq] at divided
      obtain ⟨rfl, found⟩ := divided
      obtain ⟨whole, absent⟩ := step (Prod.ext rfl found)
      refine ⟨congrArg (c :: ·) whole, ?_⟩
      simp only [List.mem_cons, not_or]
      exact ⟨Ne.symm same, absent⟩

end TimedQuiz.Text
