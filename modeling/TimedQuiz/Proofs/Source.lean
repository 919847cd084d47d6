/-
**The source of puzzles accepts exactly its format.**

* `Line.Written`: a description as a text: an address, a comma, and a number of 32 bits, with white
  space around each of them.
* `Line.read_eq_ok_iff`: exactly such texts are read.
* `fetch_eq_ok_iff`: a fetch brings a puzzle exactly when both requests succeed, the first one
  brings a description and the second one some bytes.
* `accepts_exactly`: all of this from the text to the puzzle.
-/

import Mathlib.Data.List.Basic
import TimedQuiz.Proofs.Decimal
import TimedQuiz.Proofs.Text
import TimedQuiz.Proofs.Text.Trim
import TimedQuiz.Source.Fetch

namespace TimedQuiz.Source

open Decimal (Numeral)
open Decimal.Whole (InRange)
open Text (Blank Trimmed trimList)

/-! ### Descriptions -/

namespace Line

/-- The text describes a puzzle: in front of its first comma stands the address, which is not empty,
and behind it a number of 32 bits. White space around either does not count. -/
structure Written (text : String) (line : Line) : Prop where
  parts : ∃ front behind number, text.toList = front ++ ',' :: behind ∧ ',' ∉ front ∧
    Trimmed front line.address.toList ∧ Trimmed behind number ∧ Numeral number line.solution
  address : line.address ≠ ""
  range : InRange line.solution

variable {text : String} {line : Line} {front behind : List Char}

/-- What is read from what stands in front of the comma and behind it. -/
def ofParts (front behind : List Char) : Except Fault Line :=
  if (trimList front).isEmpty then .error .address
  else
    match Decimal.Whole.read (trimList behind) with
    | .ok solution => .ok { address := String.ofList (trimList front), solution }
    | .error fault => .error (.solution (String.ofList (trimList behind)) fault)

/-- White space around the whole text counts as white space around its parts. -/
theorem read_of_comma (parts : text.toList = front ++ ',' :: behind) (first : ',' ∉ front) :
    read text = ofParts front behind := by
  have before : ∀ c ∈ front.dropWhile Text.isBlank, (c != ',') = true := by
    intro c member
    have among := (List.dropWhile_sublist _).mem member
    exact bne_iff_ne.mpr fun same => first (same ▸ among)
  have stop : ∀ rest : List Char, (',' :: rest).dropWhile (· != ',') = ',' :: rest := fun _ => rfl
  have empty : ∀ rest : List Char, (',' :: rest).takeWhile (· != ',') = [] := fun _ => rfl
  unfold read
  dsimp only
  rw [parts, Text.trimList_mark (by decide), List.dropWhile_append_of_pos before,
    List.takeWhile_append_of_pos before, stop, empty, List.append_nil, Text.trimList_dropWhile]
  dsimp only
  rw [Text.trimList_rdropWhile]
  rfl

/-- Trimming brings in no comma. -/
theorem read_of_no_comma (missing : ',' ∉ text.toList) :
    read text = .error (.separator (Text.trim text)) := by
  obtain ⟨before, after, parts, -⟩ := (Text.trimmed_trimList text.toList).around
  have none : (trimList text.toList).dropWhile (· != ',') = [] := by
    refine List.dropWhile_eq_nil_iff.mpr fun c member => bne_iff_ne.mpr fun same => missing ?_
    rw [parts, ← same]
    exact List.mem_append_left _ (List.mem_append_right _ member)
  unfold read
  dsimp only
  rw [none]
  rfl

/-- A text that is read is in the format. -/
theorem written_of_read (done : read text = .ok line) : Written text line := by
  by_cases comma : ',' ∈ text.toList
  · obtain ⟨front, behind, parts, first⟩ := List.eq_append_cons_of_mem comma
    rw [read_of_comma parts first, ofParts] at done
    split at done
    · cases done
    · rename_i some
      split at done
      · rename_i solution number
        obtain rfl := Except.ok.inj done
        obtain ⟨numeral, range⟩ := Decimal.Whole.read_eq_ok_iff.mp number
        have address : Trimmed front (String.ofList (trimList front)).toList := by
          rw [String.toList_ofList]
          exact Text.trimmed_trimList front
        refine ⟨⟨front, behind, _, parts, first, address, Text.trimmed_trimList behind, numeral⟩,
          fun nothing => some ?_, range⟩
        rw [String.ofList_eq_empty_iff.mp nothing]
        rfl
      · cases done
  · rw [read_of_no_comma comma] at done
    cases done

/-- **Exactly the texts in the format are read.** -/
theorem read_eq_ok_iff : read text = .ok line ↔ Written text line := by
  refine ⟨written_of_read, ?_⟩
  rintro ⟨⟨front, behind, number, parts, first, address, trimmed, numeral⟩, present, range⟩
  have some : line.address.toList.isEmpty = false := by
    rw [List.isEmpty_eq_false_iff]
    exact fun nothing => present (String.toList_eq_nil_iff.mp nothing)
  rw [read_of_comma parts first, ofParts, Text.trimList_eq_iff.mpr address,
    Text.trimList_eq_iff.mpr trimmed, Decimal.Whole.read_eq_ok_iff.mpr ⟨numeral, range⟩,
    String.ofList_toList, some]
  rfl

/-- **What is written in the usual way is read back.** -/
theorem read_spaced {before address between behind after : String} {value : Int}
    (blankBefore : Blank before.toList) (blankBetween : Blank between.toList)
    (blankBehind : Blank behind.toList) (blankAfter : Blank after.toList)
    (present : ¬ Blank address.toList) (plain : ',' ∉ address.toList) (range : InRange value) :
    read (before ++ address ++ between ++ "," ++ behind ++ toString value ++ after) =
      .ok { address := Text.trim address, solution := value } := by
  have comma {blank : String} (white : Blank blank.toList) : ',' ∉ blank.toList := fun member =>
    absurd (white ',' member) (by decide)
  have numeral := Decimal.numeral_toString value
  refine read_eq_ok_iff.mpr ⟨⟨before.toList ++ address.toList ++ between.toList,
    behind.toList ++ (toString value).toList ++ after.toList, (toString value).toList,
    ?_, ?_, ?_, ?_, numeral⟩, ?_, range⟩
  · simp [String.toList_append]
  · simp only [List.mem_append, not_or]
    exact ⟨⟨comma blankBefore, plain⟩, comma blankBetween⟩
  · rw [Text.trim, String.toList_ofList, ← Text.trimList_eq_iff]
    exact Text.trimList_around blankBefore blankBetween
  · rw [← Text.trimList_eq_iff, Text.trimList_around blankBehind blankAfter]
    exact Text.trimList_of_solid numeral.isBlank_eq_false
  · intro nothing
    exact present (Text.trimList_eq_nil_iff.mp (String.ofList_eq_empty_iff.mp nothing))

end Line

/-! ### Fetching -/

theorem bind_eq_ok_iff {α β : Type} {first : Except Fault α} {next : α → Except Fault β}
    {result : β} :
    (first >>= next) = .ok result ↔ ∃ value, first = .ok value ∧ next value = .ok result := by
  cases first with
  | error fault =>
    exact iff_of_false (fun impossible => by cases impossible) fun ⟨_, impossible, _⟩ => by
      cases impossible
  | ok value =>
    constructor
    · exact fun done => ⟨value, rfl, done⟩
    · rintro ⟨_, same, done⟩
      cases same
      exact done

variable {network : Network} {address : String}

/-- A request brings something exactly when it is answered with a success to its end. -/
theorem get_eq_ok_iff {number : Nat} {bytes : Bytes} : get network number address = .ok bytes ↔
    ∃ code, network number address = .answered code (some bytes) ∧ 200 ≤ code ∧ code ≤ 299 := by
  unfold get
  split
  · rename_i lost
    simp [lost]
  · rename_i lost
    simp [lost]
  · rename_i code body answered
    rw [answered]
    have success : isSuccess code = true ↔ 200 ≤ code ∧ code ≤ 299 := by simp [isSuccess]
    cases body with
    | none =>
      refine iff_of_false (fun impossible => ?_) fun ⟨_, impossible, _⟩ => by cases impossible
      split at impossible <;> cases impossible
    | some found =>
      split
      · rename_i good
        constructor
        · rintro done
          cases done
          exact ⟨code, rfl, success.mp good⟩
        · rintro ⟨_, same, _⟩
          cases same
          rfl
      · rename_i bad
        refine iff_of_false (fun impossible => by cases impossible) ?_
        rintro ⟨_, same, range⟩
        cases same
        exact bad (success.mpr range)

theorem describe_eq_ok_iff {line : Line} : describe network address = .ok line ↔
    ∃ text, get network 0 address = .ok (Text.bytesOf text) ∧ Line.Written text line := by
  unfold describe
  rw [bind_eq_ok_iff]
  constructor
  · rintro ⟨bytes, brought, read⟩
    split at read
    · cases read
    · rename_i text decoded
      obtain rfl := Text.ofBytes?_eq_some_iff.mp decoded
      split at read
      · rename_i found done
        obtain rfl := Except.ok.inj read
        exact ⟨text, brought, Line.read_eq_ok_iff.mp done⟩
      · cases read
  · rintro ⟨text, brought, written⟩
    refine ⟨_, brought, ?_⟩
    rw [Text.ofBytes?_bytesOf]
    dsimp only
    rw [Line.read_eq_ok_iff.mpr written]

theorem download_eq_ok_iff {line : Line} {puzzle : Puzzle} :
    download network line = .ok puzzle ↔
      get network 1 line.address = .ok puzzle.image ∧ puzzle.image ≠ [] ∧
        puzzle.solution = line.solution := by
  unfold download
  rw [bind_eq_ok_iff]
  constructor
  · rintro ⟨image, brought, done⟩
    split at done
    · cases done
    · rename_i some
      obtain rfl := Except.ok.inj done
      exact ⟨brought, fun nothing => some (List.isEmpty_iff.mpr nothing), rfl⟩
  · rintro ⟨brought, some, solution⟩
    refine ⟨puzzle.image, brought, ?_⟩
    rw [if_neg fun nothing => some (List.isEmpty_iff.mp nothing), ← solution]

/-- **A fetch brings a puzzle exactly when there is one**: both requests are answered with a
success, the first one with a description in UTF-8, the second one with some bytes. -/
theorem fetch_eq_ok_iff {puzzle : Puzzle} : fetch network address = .ok puzzle ↔
    ∃ text line, get network 0 address = .ok (Text.bytesOf text) ∧ Line.Written text line ∧
      get network 1 line.address = .ok puzzle.image ∧ puzzle.image ≠ [] ∧
      puzzle.solution = line.solution := by
  unfold fetch
  rw [bind_eq_ok_iff]
  constructor
  · rintro ⟨line, described, downloaded⟩
    obtain ⟨text, brought, written⟩ := describe_eq_ok_iff.mp described
    exact ⟨text, line, brought, written, download_eq_ok_iff.mp downloaded⟩
  · rintro ⟨text, line, brought, written, picture⟩
    exact ⟨line, describe_eq_ok_iff.mpr ⟨text, brought, written⟩, download_eq_ok_iff.mpr picture⟩

/-! ### The main result -/

/-- **The source accepts exactly its format.** A text is read as a description exactly when it has a
comma, the part in front of the first one is not empty without the white space at its ends, and the
part behind it, without the white space at its ends, is a sign or none and some digits that make a
number of 32 bits. The description is then this address and this number. So an address without a
comma and a number of 32 bits, written with a comma in between and white space anywhere around, are
read back. And a fetch brings a puzzle exactly when the first request is answered with a success and
a description in UTF-8 and the second one, for the address in it, with a success and some bytes,
whatever the same request would have been answered the other time. The puzzle is then these bytes
and the number of the description. -/
theorem accepts_exactly :
    (∀ text line, Line.read text = .ok line ↔ Line.Written text line) ∧
      (∀ (before address between behind after : String) (value : Int),
        Blank before.toList → Blank between.toList → Blank behind.toList → Blank after.toList →
        ¬ Blank address.toList → ',' ∉ address.toList → InRange value →
        Line.read (before ++ address ++ between ++ "," ++ behind ++ toString value ++ after) =
          .ok { address := Text.trim address, solution := value }) ∧
      ∀ network address puzzle, fetch network address = .ok puzzle ↔
        ∃ text line first second,
          network 0 address = .answered first (some (Text.bytesOf text)) ∧
          200 ≤ first ∧ first ≤ 299 ∧ Line.Written text line ∧
          network 1 line.address = .answered second (some puzzle.image) ∧
          200 ≤ second ∧ second ≤ 299 ∧ puzzle.image ≠ [] ∧ puzzle.solution = line.solution := by
  refine ⟨fun text line => Line.read_eq_ok_iff, ?_, fun network address puzzle => ?_⟩
  · intro before address between behind after value
    exact Line.read_spaced
  · rw [fetch_eq_ok_iff]
    constructor
    · rintro ⟨text, line, described, written, shown, some, solution⟩
      obtain ⟨first, answer, success⟩ := get_eq_ok_iff.mp described
      obtain ⟨second, picture, good⟩ := get_eq_ok_iff.mp shown
      exact ⟨text, line, first, second, answer, success.1, success.2, written, picture, good.1,
        good.2, some, solution⟩
    · rintro ⟨text, line, first, second, answer, least, most, written, picture, low, high, some,
        solution⟩
      exact ⟨text, line, get_eq_ok_iff.mpr ⟨first, answer, least, most⟩, written,
        get_eq_ok_iff.mpr ⟨second, picture, low, high⟩, some, solution⟩

/-- A network in which every address is answered with a description of itself at first, and with a
picture then. -/
def twofold : Network := fun number address =>
  if number = 0 then .answered 200 (some (Text.bytesOf (address ++ " , 7")))
  else .answered 206 (some [0x89, 0x50])

/-- The least number of 32 bits, with white space of several kinds around it and around an address
with a space in it; and a description that names the address it came from. -/
theorem accepts_exactly_spaced :
    Line.read ("\u2003\n" ++ "heart 1.png" ++ "\t" ++ "," ++ "\u00a0" ++
        toString (-2147483648 : Int) ++ "\r\n") =
        .ok { address := "heart 1.png", solution := -2147483648 } ∧
      fetch twofold "http://quiz/" = .ok { image := [0x89, 0x50], solution := 7 } := by
  constructor
  · have trimmed : Text.trim "heart 1.png" = "heart 1.png" := by decide +kernel
    have read := accepts_exactly.2.1 "\u2003\n" "heart 1.png" "\t" "\u00a0" "\r\n" (-2147483648)
      (by decide +kernel) (by decide +kernel) (by decide +kernel) (by decide +kernel)
      (by decide +kernel) (by decide +kernel) (by decide)
    rwa [trimmed] at read
  · have written : Line.Written "http://quiz/ , 7" { address := "http://quiz/", solution := 7 } :=
      (accepts_exactly.1 _ _).mp (by decide +kernel)
    exact (accepts_exactly.2.2 twofold _ _).mpr ⟨_, _, 200, 206, rfl, by decide, by decide,
      written, rfl, by decide, by decide, by decide, rfl⟩

end TimedQuiz.Source
