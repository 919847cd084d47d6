/-
**The log is a sequence of rounds, and each of them ends once.**

A round can come to its end in many ways: by request, by its countdown, by an answer or a request
that finds it expired, or at once when it has no time at all. Commands of earlier rounds may still
be waiting while a later one is played. Whatever the order:

* `rounds_of_run`: the log of a run consists of whole rounds, followed by one that is under way
  exactly when the coordinator is running; a request to end the round is granted exactly when that
  very request announced the end, hence at most once in a round.

The invariant is `Tells`: a log together with the state of the coordinator that it leads to.
-/

import TimedQuiz.Proofs.Coordinator.Move
import TimedQuiz.Proofs.Round

namespace TimedQuiz.Coordinator

/-! ### Rounds as sequences of events -/

/-- A round that has begun and not ended. The flag says whether it has displayed a puzzle. -/
inductive Underway : Bool → List Event → Prop
  | started (player : Player) : Underway false [.roundStarted player]
  | told {shown : Bool} {events : List Event} (remaining : Span) (round : Underway shown events) :
      Underway shown (events ++ [.tick remaining])
  | displayed {shown : Bool} {events : List Event} (puzzle : Puzzle)
      (round : Underway shown events) : Underway true (events ++ [.puzzleLoaded puzzle])
  | graded {events : List Event} (value : Int) (correct : Bool) (player : Player)
      (round : Underway true events) :
      Underway true (events ++ [.answerGraded value correct player, .scoreChanged player])

/-- A round that has ended. -/
def Whole (events : List Event) : Prop :=
  ∃ shown begun player summary,
    Underway shown begun ∧ events = begun ++ [.roundEnded player summary]

/-- The current round has displayed a puzzle. -/
def showsPuzzle (c : Coordinator) : Bool := c.round.any fun round => round.puzzle.isSome

/-- The log consists of whole rounds, and of one under way if the coordinator is running. -/
def Tells (c : Coordinator) (log : List Event) : Prop :=
  ∃ (rounds : List (List Event)) (rest : List Event),
    (∀ round ∈ rounds, Whole round) ∧ log = rounds.flatten ++ rest ∧
    (c.phase = .running ∧ Underway c.showsPuzzle rest ∨
      (c.phase = .idle ∨ c.phase = .ended) ∧ rest = [])

/-- A running coordinator tells of a round under way. -/
theorem Tells.underway {c : Coordinator} {log : List Event} (tells : Tells c log)
    (running : c.phase = .running) :
    ∃ (rounds : List (List Event)) (rest : List Event),
      (∀ round ∈ rounds, Whole round) ∧ log = rounds.flatten ++ rest ∧
      Underway c.showsPuzzle rest := by
  obtain ⟨rounds, rest, whole, split, ⟨_, round⟩ | ⟨resting, _⟩⟩ := tells
  · exact ⟨rounds, rest, whole, split, round⟩
  · rw [running] at resting
    rcases resting with impossible | impossible <;> cases impossible

/-- A round under way goes on. -/
theorem Tells.of_underway {c : Coordinator} {rounds : List (List Event)} {rest more : List Event}
    (whole : ∀ round ∈ rounds, Whole round) (running : c.phase = .running)
    (round : Underway c.showsPuzzle (rest ++ more)) : Tells c (rounds.flatten ++ rest ++ more) :=
  ⟨rounds, rest ++ more, whole, List.append_assoc _ _ _, Or.inl ⟨running, round⟩⟩

/-- A move that announces nothing and leaves the phase and the puzzle alone keeps the log. -/
theorem Tells.silent {c next : Coordinator} {log : List Event} {effects : List Effect}
    (tells : Tells c log) (quiet : published effects = []) (phase : next.phase = c.phase)
    (shows : next.showsPuzzle = c.showsPuzzle) : Tells next (log ++ published effects) := by
  rw [quiet, List.append_nil]
  unfold Tells
  rw [phase, shows]
  exact tells

/-- **Every move keeps the log a sequence of rounds.** -/
theorem Move.tells {timings : Timings} {watch : Watch} {arrival : Bool} {c next : Coordinator}
    {effects : List Effect} {log : List Event} (move : Move timings watch arrival c effects next)
    (tells : Tells c log) : Tells next (log ++ published effects) := by
  cases move with
  | opening player resting =>
    obtain ⟨rounds, rest, whole, rfl, ⟨running, _⟩ | ⟨_, rfl⟩⟩ := tells
    · rw [running] at resting
      rcases resting with impossible | impossible <;> cases impossible
    · simp only [published_append, published_cancelTimers, List.nil_append]
      exact Tells.of_underway whole rfl (.started player)
  | @closing _ round running present fresh =>
    obtain ⟨rounds, rest, whole, rfl, begun⟩ := tells.underway running
    refine ⟨rounds ++ [rest ++ [.roundEnded round.close.player round.close.summary]], [], ?_, ?_,
      Or.inr ⟨Or.inr rfl, rfl⟩⟩
    · intro told member
      rcases List.mem_append.mp member with earlier | last
      · exact whole told earlier
      · exact ⟨_, rest, _, _, begun, List.mem_singleton.mp last⟩
    · simp only [published_append, published_cancelTimers, List.nil_append, List.flatten_append,
        List.flatten_singleton, List.append_nil, List.append_assoc]
      rfl
  | fetching number running free active =>
    exact tells.silent rfl rfl rfl
  | @grading _ round puzzle value running present shown active =>
    obtain ⟨rounds, rest, whole, rfl, begun⟩ := tells.underway running
    have displayed : c.showsPuzzle = true := by
      rw [showsPuzzle, present, Option.any_some, shown]
      rfl
    rw [displayed] at begun
    refine Tells.of_underway whole running ?_
    rw [showsPuzzle, Option.any_some, Round.grade_puzzle, shown]
    exact .graded _ _ _ begun
  | scheduling running =>
    exact tells.silent (published_scheduleFollowUp c timings) rfl rfl
  | following =>
    exact tells.silent rfl rfl rfl
  | ticking remaining running =>
    obtain ⟨rounds, rest, whole, rfl, begun⟩ := tells.underway running
    exact Tells.of_underway whole running (.told remaining begun)
  | @displaying _ round puzzle running present active =>
    obtain ⟨rounds, rest, whole, rfl, begun⟩ := tells.underway running
    exact Tells.of_underway whole running (.displayed puzzle begun)
  | postponing running active =>
    exact tells.silent rfl rfl rfl
  | discarding late =>
    exact tells.silent rfl rfl rfl
  | resuming =>
    exact tells.silent rfl rfl rfl

theorem tells_of_run (timings : Timings) (inputs : List (Watch × Command)) :
    Tells (Run.of timings inputs).coordinator (Run.of timings inputs).log :=
  Run.preserves inputs
    ⟨[], [], fun _ member => (List.not_mem_nil member).elim, rfl, Or.inr ⟨Or.inl rfl, rfl⟩⟩
    fun _ _ _ _ _ _ _ move tells => move.tells tells

/-! ### Requests to end the round -/

/-- An end is announced exactly when a round is ended. -/
theorem finish_iff (c : Coordinator) :
    c.finish.1 = true ↔
      ∃ player summary, Event.roundEnded player summary ∈ published c.finish.2.2 := by
  unfold finish
  split
  · rename_i round _ _ _
    refine ⟨fun _ => ⟨round.close.player, round.close.summary, ?_⟩, fun _ => rfl⟩
    rw [published_append, published_cancelTimers]
    exact List.mem_cons_self
  · exact ⟨fun ended => (Bool.false_ne_true ended).elim, fun ⟨_, _, member⟩ => by cases member⟩

/-- Only a running round is ended, and it then has ended. -/
theorem finish_phase {c : Coordinator} (ended : c.finish.1 = true) :
    c.phase = .running ∧ c.finish.2.1.phase = .ended := by
  revert ended
  unfold finish
  split
  · rename_i running _
    intro _
    refine ⟨running, ?_⟩
    simp only [cancelTimers, running, Phase.advance, Phase.apply]
  · intro impossible
    exact (Bool.false_ne_true impossible).elim

/-- A granted request to end the round finds it running and leaves it ended. -/
theorem exchange_ends {timings : Timings} {c : Coordinator} {input : Watch × Command}
    (ends : (c.exchange timings input).ends = true) :
    c.phase = .running ∧ (c.handle timings input.1 input.2).2.1.phase = .ended := by
  obtain ⟨watch, command⟩ := input
  cases command with
  | finish => exact finish_phase ends
  | _ => cases ends

/-- A round runs only after it has been started. -/
theorem exchange_starts {timings : Timings} {c : Coordinator} {input : Watch × Command}
    (running : (c.handle timings input.1 input.2).2.1.phase = .running)
    (resting : c.phase ≠ .running) : (c.exchange timings input).starts = true := by
  refine handle_preserves
    (fun next log => next.phase = .running →
      (log.any fun event => event.kind == .roundStarted) = true)
    ?_ input.2 [] (fun impossible => (resting impossible).elim) running
  intro arrival c next effects log move before
  rw [List.any_append, Bool.or_eq_true]
  cases move with
  | opening player _ =>
    intro _
    right
    rw [published_append, published_cancelTimers]
    rfl
  | closing _ _ _ => exact fun impossible => Phase.noConfusion impossible
  | _ => exact fun running => Or.inl (before running)

/-- Of the latest exchanges without a start among them, at most one ended a round, and none did if a
round is running. -/
theorem countP_ends_suffix (timings : Timings) (inputs : List (Watch × Command)) :
    ∀ stretch, stretch <:+ (Run.of timings inputs).exchanges →
      (∀ exchange ∈ stretch, exchange.starts = false) →
        stretch.countP Exchange.ends +
          (if (Run.of timings inputs).coordinator.phase = .running then 1 else 0) ≤ 1 := by
  induction inputs using List.reverseRecOn with
  | nil =>
    intro stretch suffix _
    rw [List.suffix_nil.mp suffix]
    show 0 + (if Phase.idle = .running then 1 else 0) ≤ 1
    decide
  | append_singleton inputs input ih =>
    intro stretch suffix quiet
    rw [Run.of_concat] at suffix ⊢
    rcases List.suffix_concat_iff.mp suffix with rfl | ⟨earlier, rfl, earlierSuffix⟩
    · rw [List.countP_nil]
      split <;> omega
    · have earlierQuiet := ih earlier earlierSuffix fun exchange member =>
        quiet exchange (List.mem_append_left _ member)
      have lastQuiet := quiet _ (List.mem_append_right earlier List.mem_cons_self)
      rw [List.countP_append, List.countP_singleton]
      show _ + _ + (if (Coordinator.handle _ _ _ _).2.1.phase = .running then 1 else 0) ≤ 1
      generalize (Run.of timings inputs).coordinator = c at earlierQuiet lastQuiet ⊢
      by_cases ends : (c.exchange timings input).ends = true
      · obtain ⟨running, ended⟩ := exchange_ends ends
        rw [if_pos running] at earlierQuiet
        rw [if_pos ends, ended, if_neg (by decide)]
        omega
      · rw [if_neg ends]
        by_cases running : (c.handle timings input.1 input.2).2.1.phase = .running
        · have before : c.phase = .running := by
            by_contra resting
            rw [exchange_starts running resting] at lastQuiet
            cases lastQuiet
          rw [if_pos before] at earlierQuiet
          rw [if_pos running]
          omega
        · rw [if_neg running]
          omega

/-- Between two starts at most one request to end the round is granted. -/
theorem countP_ends_le_one (timings : Timings) (inputs : List (Watch × Command)) :
    ∀ stretch, stretch <:+: (Run.of timings inputs).exchanges →
      (∀ exchange ∈ stretch, exchange.starts = false) → stretch.countP Exchange.ends ≤ 1 := by
  induction inputs using List.reverseRecOn with
  | nil =>
    intro stretch inside _
    rw [List.infix_nil.mp inside]
    decide
  | append_singleton inputs input ih =>
    intro stretch inside quiet
    have suffixBound := countP_ends_suffix timings (inputs ++ [input]) stretch
    rw [Run.of_concat] at inside suffixBound
    rcases List.infix_concat_iff.mp inside with suffix | earlier
    · have bound := suffixBound suffix quiet
      omega
    · exact ih stretch earlier quiet

/-- Every exchange of a run is one in which the coordinator handles a command. -/
theorem exists_of_mem_exchanges {timings : Timings} {inputs : List (Watch × Command)}
    {exchange : Exchange} (member : exchange ∈ (Run.of timings inputs).exchanges) :
    ∃ c input, exchange = Coordinator.exchange timings c input := by
  induction inputs using List.reverseRecOn with
  | nil => cases member
  | append_singleton inputs input ih =>
    rw [Run.of_concat] at member
    rcases List.mem_append.mp member with earlier | last
    · exact ih earlier
    · exact ⟨_, input, List.mem_singleton.mp last⟩

/-! ### The main result -/

/-- **The log of a run is a sequence of rounds.** Every round but the last is whole, and the last
one lacks its end exactly when the coordinator is running. A request to end the round is granted
exactly when it announced the end, and at most once between two starts. -/
theorem rounds_of_run (timings : Timings) (inputs : List (Watch × Command)) :
    (∃ (rounds : List (List Event)) (rest : List Event),
      (∀ round ∈ rounds, Whole round) ∧
      (Run.of timings inputs).log = rounds.flatten ++ rest ∧
      ((Run.of timings inputs).coordinator.phase = .running ∧ (∃ shown, Underway shown rest) ∨
        (Run.of timings inputs).coordinator.phase ≠ .running ∧ rest = [])) ∧
    (∀ exchange ∈ (Run.of timings inputs).exchanges, exchange.command = .finish →
      ∃ ended, exchange.reply = .finished ended ∧
        (ended = true ↔ ∃ player summary, Event.roundEnded player summary ∈ exchange.events)) ∧
    (∀ stretch, stretch <:+: (Run.of timings inputs).exchanges →
      (∀ exchange ∈ stretch, exchange.starts = false) → stretch.countP Exchange.ends ≤ 1) := by
  refine ⟨?_, ?_, countP_ends_le_one timings inputs⟩
  · obtain ⟨rounds, rest, whole, split, ⟨running, round⟩ | ⟨resting, nothing⟩⟩ :=
      tells_of_run timings inputs
    · exact ⟨rounds, rest, whole, split, Or.inl ⟨running, _, round⟩⟩
    · refine ⟨rounds, rest, whole, split, Or.inr ⟨fun running => ?_, nothing⟩⟩
      rw [running] at resting
      rcases resting with impossible | impossible <;> cases impossible
  · intro exchange member asked
    obtain ⟨c, ⟨watch, command⟩, rfl⟩ := exists_of_mem_exchanges member
    cases asked
    exact ⟨c.finish.1, rfl, finish_iff c⟩

/-- A round in which a puzzle is answered, and then two requests to end it. -/
theorem rounds_of_run_asked_twice :
    let inputs : List (Watch × Command) :=
      [(.still 0, .start (.fresh "ann")),
        (.still 1, .fetched 1 (some { image := [], solution := 4 })), (.still 2, .submit 4),
        (.still 3, .finish), (.still 4, .finish)]
    let exchanges := (Run.of .standard inputs).exchanges
    (∃ exchange ∈ exchanges, exchange.command = .finish ∧ exchange.reply = .finished true ∧
      ∃ player summary, Event.roundEnded player summary ∈ exchange.events) ∧
    (exchanges.drop 1).countP Exchange.ends ≤ 1 := by
  intro inputs exchanges
  have result := rounds_of_run .standard inputs
  have member : exchanges[3] ∈ exchanges := List.getElem_mem _
  obtain ⟨ended, answered, announced⟩ := result.2.1 _ member rfl
  have granted : true = ended := Reply.finished.inj answered
  refine ⟨⟨exchanges[3], member, rfl, rfl, announced.mp granted.symm⟩, ?_⟩
  exact result.2.2 _ (List.drop_suffix 1 exchanges).isInfix (by decide)

end TimedQuiz.Coordinator
