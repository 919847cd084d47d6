/-
**Settings.**

The settings of the application come from a file in JSON. A setting that is absent or `null` keeps
its standard value, and so do a countdown period of zero and a blank address. A file that is not
there, or cannot be read as a whole, gives the standard settings.
-/

import TimedQuiz.Coordinator.Basic
import TimedQuiz.Json.Record
import TimedQuiz.Text.Blank

namespace TimedQuiz

/-- What can be configured. -/
structure Settings where
  timings : Timings := .standard
  /-- Where puzzles come from. -/
  sourceAddress : String := "https://marcconrad.com/uob/heart/api.php?out=csv&base64=no"
  /-- Sound cues start muted. -/
  muted : Bool := false
  deriving DecidableEq, Repr

namespace Settings

/-- The settings used when nothing else is configured. -/
def standard : Settings := {}

/-- The settings as they stand in the file. -/
structure Draft where
  roundSeconds : Option Nat := none
  tickMillis : Option Nat := none
  retryMillis : Option Nat := none
  followUpMillis : Option Nat := none
  fetchMillis : Option Nat := none
  sourceAddress : Option String := none
  muted : Option Bool := none

/-- A whole number of 64 bits, or `null`. -/
def readCount : Json.Reader (Option Nat) :=
  Json.readOptional fun text => do
    let (value, rest) ← Json.readWhole 0 0xFFFFFFFFFFFFFFFF text
    return (value.toNat, rest)

/-- The fields of the file in their order. -/
def fields : List (Json.Field Draft) :=
  [.of "session_duration_secs" readCount fun value draft => { draft with roundSeconds := value },
   .of "tick_interval_ms" readCount fun value draft => { draft with tickMillis := value },
   .of "retry_backoff_ms" readCount fun value draft => { draft with retryMillis := value },
   .of "follow_up_delay_ms" readCount fun value draft => { draft with followUpMillis := value },
   .of "fetch_timeout_ms" readCount fun value draft => { draft with fetchMillis := value },
   .of "item_source_url" (Json.readOptional Json.readText) fun value draft =>
     { draft with sourceAddress := value },
   .of "sound_muted" (Json.readOptional Json.readFlag) fun value draft =>
     { draft with muted := value }]

/-- The settings of a draft. -/
def ofDraft (draft : Draft) : Settings :=
  let millis (value : Option Nat) (otherwise : Span) : Span :=
    (value.map Span.ofMillis).getD otherwise
  { timings :=
      { round := (draft.roundSeconds.map fun seconds => Span.ofSeconds seconds 0).getD
          Timings.standard.round
        tick := millis (draft.tickMillis.filter fun value => 0 < value) Timings.standard.tick
        retryDelay := millis draft.retryMillis Timings.standard.retryDelay
        followUpDelay := millis draft.followUpMillis Timings.standard.followUpDelay
        fetchTimeout := millis draft.fetchMillis Timings.standard.fetchTimeout }
    sourceAddress :=
      (draft.sourceAddress.filter fun address => !address.toList.all Text.isBlank).getD
        standard.sourceAddress
    muted := draft.muted.getD standard.muted }

/-- The settings in a text, or why it cannot be read. -/
def read (text : String) : Except Json.Fault Settings :=
  Json.readAll (Json.readRecord fields {} fun draft => some (ofDraft draft)) text.toList

/-- The settings of a file, given by its bytes if it is there. -/
def load (file : Option (List UInt8)) : Settings :=
  match file.bind fun bytes => String.fromUTF8? (ByteArray.mk bytes.toArray) with
  | none => standard
  | some text =>
    match read text with
    | .ok settings => settings
    | .error _ => standard

end Settings
end TimedQuiz
