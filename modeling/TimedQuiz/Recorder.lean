/-
**The recorder of results.**

The recorder listens for graded answers and for rounds that are over, and queues a job for each. A
worker takes the jobs in order and writes them to the store that is installed at that moment;
without a store a job is dropped. A write that fails is given up, and nothing else with it. Whoever
has to read what earlier rounds wrote first waits for the queue to drain.
-/

import TimedQuiz.Event
import TimedQuiz.Store.Storage

namespace TimedQuiz

open Store

namespace Recorder

/-- Something to be written, or someone waiting for all that was queued before. -/
inductive Job
  /-- The counters of a player in the course of a round. -/
  | ranking (stats : Player)
  /-- The counters of a player and the result at the end of a round. -/
  | roundFinished (stats : Player) (result : RoundResult)
  /-- Someone who waits. -/
  | flush (waiter : Nat)
  deriving DecidableEq, Repr

/-- The kinds of events that the recorder listens for. -/
def kinds : List Event.Kind := [.answerGraded, .roundEnded]

/-- The job of an event; a result gets the given identity and time. -/
def jobOf? (id : ResultId) (wall : Timestamp) : Event → Option Job
  | .answerGraded _ _ player => some (.ranking player)
  | .roundEnded player summary =>
    some (.roundFinished player
      { id
        username := player.username
        score := summary.score
        accuracy := summary.accuracy
        attempts := summary.attempts
        playedAt := wall })
  | _ => none

/-- What a job writes to an installed store. The result is kept even when the counters could not be
written. -/
def write (faults : Faults) (wall : Timestamp) (memory : Memory) : Job → Memory
  | .ranking stats => (faults.updateRanking stats memory).2
  | .roundFinished stats result =>
    (faults.saveResult result (faults.savePlayer stats wall memory).2).2
  | .flush _ => memory

end Recorder

/-- The queue of the recorder. -/
structure Recorder where
  queue : List Recorder.Job := []
  /-- The identity of the next result. -/
  nextResult : ResultId := 0
  /-- Those who have waited long enough. -/
  released : List Nat := []
  deriving DecidableEq, Repr

namespace Recorder

/-- Queues the job of an event. -/
def hear (recorder : Recorder) (wall : Timestamp) (event : Event) : Recorder :=
  match jobOf? recorder.nextResult wall event with
  | some job =>
    { recorder with queue := recorder.queue ++ [job], nextResult := recorder.nextResult + 1 }
  | none => recorder

/-- Queues someone who waits for all jobs queued so far. -/
def flush (recorder : Recorder) (waiter : Nat) : Recorder :=
  { recorder with queue := recorder.queue ++ [.flush waiter] }

/-- The worker takes the first job. -/
def work (wall : Timestamp) (recorder : Recorder) (storage : Storage) : Recorder × Storage :=
  match recorder.queue with
  | [] => (recorder, storage)
  | .flush waiter :: later =>
    ({ recorder with queue := later, released := recorder.released ++ [waiter] }, storage)
  | job :: later =>
    ({ recorder with queue := later },
      match storage.installed with
      | some faults => { storage with memory := write faults wall storage.memory job }
      | none => storage)

/-- The worker takes the first `count` jobs. -/
def workTimes (wall : Timestamp) : Nat → Recorder → Storage → Recorder × Storage
  | 0, recorder, storage => (recorder, storage)
  | count + 1, recorder, storage =>
    let (next, written) := work wall recorder storage
    workTimes wall count next written

/-- The worker takes all jobs. -/
def drain (wall : Timestamp) (recorder : Recorder) (storage : Storage) : Recorder × Storage :=
  workTimes wall recorder.queue.length recorder storage

end Recorder
end TimedQuiz
