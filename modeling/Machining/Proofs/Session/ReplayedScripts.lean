import Machining.Command.Run
import Machining.Proofs.Files.PlainFile
import Machining.Proofs.Result
import Machining.Proofs.Session.Timeline
import Machining.Proofs.Session.UnusableAnswers

/-!
# Replayed scripts

A session script that was read is played back turn by turn, each turn from the record of its own
place.  On the way the records become plain answers: an error is put under a name of its own, and a
result is passed on as it is.  A record is taken for an error by that name, so a result that has an
entry of this name comes out as a failure, although reading it would pass the entry over.

* `Analysis.ofValue_congr`: a result is read by its four fields alone.
* `Answered` says what comes of a record, and `answered_recordedReply` that it does.
* `scripts_are_replayed_in_order` says of every script what its turns are answered with.
* `extra_entry_turns_result_into_failure` shows the one case that goes wrong.
-/

namespace Machining.Session

open Machining.Command Machining.Config Machining.Document Machining.Files Machining.Schema
  Machining.Text

/-! ## What an analysis result is read from -/

namespace Analysis

/-- The fields of an analysis result. -/
def fieldNames : List String := ["operation", "stock", "explanation", "optimized_gcode"]

/-- A mapping is read by these fields alone. -/
theorem ofValue_congr {entries others : Entries}
    (h : ∀ name ∈ fieldNames,
      Entries.get? (.text name) entries = Entries.get? (.text name) others) :
    ofValue (.mapping entries) = ofValue (.mapping others) := by
  have hread : analysis (.mapping entries) = analysis (.mapping others) := by
    simp only [analysis, record, Value.entries?, required, defaulted]
    rw [h "operation" (by simp [fieldNames]), h "stock" (by simp [fieldNames]),
      h "explanation" (by simp [fieldNames]), h "optimized_gcode" (by simp [fieldNames])]
  rw [ofValue, ofValue, hread]

/-- An entry under any other key is passed over. -/
theorem ofValue_put (entries : Entries) {key : Key} (value : Value)
    (h : ∀ name ∈ fieldNames, key.agrees (.text name) = false) :
    ofValue (.mapping (Entries.put key value entries)) = ofValue (.mapping entries) :=
  ofValue_congr fun name hname => Entries.get?_put_of_not_agrees value entries (h name hname)

end Analysis

/-! ## What comes of a record -/

/-- What a recorded turn is answered with. -/
inductive Answered (record : TurnRecord) : Reply → Prop where
  /-- An error is a failure. -/
  | error (error : Entries) (herror : record.error = some error) :
    Answered record (.failure (recordedFailure (.mapping error)))
  /-- A result is what reading it gives. -/
  | result (result : Entries) (herror : record.error = none)
      (hresult : record.result = some result)
      (hplain : Entries.get? (.text "error") result = none) (analysis : Analysis)
      (hread : Analysis.ofValue (.mapping result) = .ok analysis) :
    Answered record (.result analysis)
  /-- A result that cannot be read is an unusable answer. -/
  | unusable (result : Entries) (herror : record.error = none)
      (hresult : record.result = some result)
      (hplain : Entries.get? (.text "error") result = none) (rejection : Rejection)
      (hread : Analysis.ofValue (.mapping result) = .error rejection) :
    Answered record (.failure (.stated .parse rejection.message))
  /-- A result with an entry of the name of errors is taken for an error. -/
  | mistaken (result : Entries) (herror : record.error = none)
      (hresult : record.result = some result) (error : Value)
      (hnamed : Entries.get? (.text "error") result = some error) :
    Answered record (.failure (recordedFailure error))

/-- A record is answered as its error or its result asks for. -/
theorem answered_recordedReply {record : TurnRecord} {answer : Value}
    (h : record.answer? = some answer) : Answered record (recordedReply (.value answer)) := by
  unfold TurnRecord.answer? at h
  -- an error is preferred; a result counts as one if it has an entry of that name
  cases herror : record.error with
  | some error =>
    rw [herror] at h
    cases h
    exact .error error herror
  | none =>
    rw [herror] at h
    obtain ⟨result, hresult, rfl⟩ := Option.map_eq_some_iff.mp h
    simp only [recordedReply, recordedError?, Value.field?]
    cases hnamed : Entries.get? (.text "error") result with
    | some error => exact .mistaken result herror hresult error hnamed
    | none =>
      dsimp only [Analysis.read]
      cases hread : Analysis.ofValue (.mapping result) with
      | ok analysis => exact .result result herror hresult hnamed analysis hread
      | error rejection =>
        dsimp only
        rw [Analysis.failure_of_ofValue hread]
        exact .unusable result herror hresult hnamed rejection hread

/-! ## One turn after another -/

/-- The turn of a record is never refused while no other is in flight. -/
theorem exists_submit_recordedTurn (config : Assistant) {c : Controller}
    (h : c.phase ≠ .requesting) (record : TurnRecord) :
    ∃ label request, c.submit config (recordedTurn record) =
      .ok (c.begin label (recordedTurn record), request) := by
  have hmode : Mode.ofName? (recordedTurn record).mode.plain = some record.mode := by
    change Mode.ofName? record.mode.name = _
    cases record.mode <;> rfl
  obtain ⟨label, hlabel⟩ : ∃ label, (recordedTurn record).label config.session = .ok label := by
    unfold Turn.label
    split
    · exact ⟨_, rfl⟩
    · exact ⟨_, rfl⟩
  refine ⟨label, (recordedTurn record).request config.session record.mode, ?_⟩
  rw [Controller.submit, if_neg h, hmode]
  simp only [hlabel]

/-- A turn takes the answer in front, and the controller rests again. -/
theorem playTurn_recordedTurn (config : Assistant) {c : Controller} (h : c.phase ≠ .requesting)
    (record : TurnRecord) (answer : RawAnswer) (rest : List RawAnswer) :
    ∃ next outcome request, playTurn config c (answer :: rest) (recordedTurn record) =
      ⟨next, rest, .ok outcome, some request, some (recordedReply answer)⟩ ∧
        next.phase ≠ .requesting := by
  obtain ⟨label, request, hsubmit⟩ := exists_submit_recordedTurn config h record
  generalize c.begin label (recordedTurn record) = begun at hsubmit
  let ended := begun.conclude config request.mode (recordedReply answer)
  refine ⟨ended.1, ended.2, request, ?_, ?_⟩
  · -- nothing comes between the submission and the answer, so the call is still the current one
    rw [playTurn, hsubmit]
    simp only [nextReply, Controller.finish_of_eq, ended]
  · obtain ⟨session, last, hrest⟩ :=
      Controller.conclude_rests config begun request.mode (recordedReply answer)
    dsimp only [ended]
    rw [hrest]
    exact Phase.noConfusion

/-- The session after turns that were played back. -/
def sessionAfter (session : Conversation) (played : List Played) : Conversation :=
  played.foldl (fun _ turn => turn.controller.session) session

/-- What is known of turns that are played back from records. -/
structure FollowsRecords (records : List TurnRecord) (played : List Played) : Prop where
  /-- Every record has its turn. -/
  length_eq : played.length = records.length
  /-- A turn leaves the records behind its own, is not refused, and is answered from its own. -/
  turn : ∀ (i : Nat) (record : TurnRecord) (turn : Played), records[i]? = some record →
    played[i]? = some turn → turn.records = recordedAnswers (records.drop (i + 1)) ∧
      (∃ outcome, turn.result = .ok outcome) ∧
        ∃ reply, turn.reply = some reply ∧ Answered record reply

/-- Turns that are played back follow their records, from wherever a session rests. -/
theorem followsRecords_play (config : Assistant) {records : List TurnRecord}
    (hanswers : ∀ record ∈ records, record.answer?.isSome) {c : Controller}
    (h : c.phase ≠ .requesting) :
    FollowsRecords records
      (play config c (recordedAnswers records) (records.map recordedTurn)) := by
  -- the controller rests before every turn; from there the induction is on the records
  induction records generalizing c with
  | nil => exact ⟨rfl, by simp⟩
  | cons record records ih =>
    obtain ⟨answer, hanswer⟩ := Option.isSome_iff_exists.mp (hanswers record List.mem_cons_self)
    obtain ⟨next, outcome, request, hplayed, hrests⟩ := playTurn_recordedTurn config h record
      (.value (record.answer?.getD .null)) (recordedAnswers records)
    have hfollows := ih (fun other hmem => hanswers other (List.mem_cons_of_mem _ hmem)) hrests
    have hplay : play config c (recordedAnswers (record :: records))
        ((record :: records).map recordedTurn) =
        ⟨next, recordedAnswers records, .ok outcome, some request,
            some (recordedReply (.value (record.answer?.getD .null)))⟩ ::
          play config next (recordedAnswers records) (records.map recordedTurn) := by
      simp only [recordedAnswers, List.map_cons] at hplayed ⊢
      rw [play, hplayed]
    rw [hplay]
    refine ⟨by rw [List.length_cons, List.length_cons, hfollows.length_eq], ?_⟩
    intro i found turn hfound hturn
    cases i with
    | zero =>
      cases hfound
      cases hturn
      refine ⟨rfl, ⟨outcome, rfl⟩, _, rfl, ?_⟩
      rw [hanswer]
      exact answered_recordedReply hanswer
    | succ i => exact hfollows.turn i found turn hfound hturn

/-- The command that replays a script ends with the session after the turns. -/
theorem replayTurns_eq_play (config : Assistant) (records : List TurnRecord) {c : Controller}
    (h : c.phase ≠ .requesting) (report : Report) :
    (replayTurns config c records report).2 = .ok (sessionAfter c.session
      (play config c (recordedAnswers records) (records.map recordedTurn))) := by
  -- the report grows on the way, but the controller goes through the same turns
  induction records generalizing c report with
  | nil => rfl
  | cons record records ih =>
    obtain ⟨next, outcome, request, hplayed, hrests⟩ := playTurn_recordedTurn config h record
      (.value (record.answer?.getD .null)) (recordedAnswers records)
    simp only [recordedAnswers, List.map_cons] at hplayed ih ⊢
    simp only [replayTurns, recordedAnswers, List.map_cons, hplayed, play]
    exact ih hrests _

/-! ## Scripts in files -/

private theorem answers_of_readScript {tree : Tree} {path : Path} {records : List TurnRecord}
    (h : readScript tree path = .ok records) : ∀ record ∈ records, record.answer?.isSome := by
  obtain ⟨turns, _, hturns⟩ := exists_of_bind_eq_ok h
  split at hturns
  · rename_i hall
    cases hturns
    exact List.all_eq_true.mp hall
  · cases hturns

/-- **Scripts are replayed in order.**  Every script that is read from a file is played back turn by
turn, by whatever settings and from whatever session: no turn is refused, each takes the record of
its own place, and it is answered with the failure that its error is, or with what reading its
result gives.  Reading passes over every entry that is no field of an analysis result.  The one
exception is a result with an entry of the name of errors, which is taken for an error. -/
theorem scripts_are_replayed_in_order {tree : Tree} {path : Path} {records : List TurnRecord}
    (hscript : readScript tree path = .ok records) (config : Assistant) (session : Conversation) :
    let played := play config (Controller.new session) (recordedAnswers records)
      (records.map recordedTurn)
    FollowsRecords records played ∧
      (∀ report, (replayTurns config (Controller.new session) records report).2 =
        .ok (sessionAfter session played)) ∧
      ∀ record ∈ records, ∀ result, record.result = some result → ∀ key value,
        (∀ name ∈ Analysis.fieldNames, key.agrees (.text name) = false) →
          Analysis.ofValue (.mapping (Entries.put key value result)) =
            Analysis.ofValue (.mapping result) := by
  have hrests : (Controller.new session).phase ≠ .requesting := Phase.noConfusion
  refine ⟨?_, ?_, ?_⟩
  · exact followsRecords_play config (answers_of_readScript hscript) hrests
  · exact replayTurns_eq_play config records hrests
  · intro record _ result _ key value hkey
    exact Analysis.ofValue_put result value hkey

/-- A script is read from the document of its file. -/
theorem readScript_of_document {tree : Tree} {path : Path} {value : Value}
    {records : List TurnRecord} (hdocument : readDocument tree path = .ok value)
    (hfilled : value.isEmpty = false) (hscript : (script value).toExcept = .ok records)
    (hanswers : (records.all fun record => record.answer?.isSome) = true) :
    readScript tree path = .ok records := by
  have hrecord : readRecord .script script tree path = .ok records := by
    rw [readRecord, hdocument]
    show ((script (if value.isEmpty then .mapping [] else value)).toExcept.mapError
      (FileError.invalid .script path)) = _
    rw [hfilled, if_neg Bool.false_ne_true, hscript]
    rfl
  rw [readScript, hrecord]
  show (if records.all fun record => record.answer?.isSome then _ else _) = _
  rw [if_pos hanswers]
  rfl

/-! ## A result that is taken for an error -/

/-- A script whose only turn has a usable result with an entry too many. -/
def sampleScript : List Char :=
  ["\x7b'turns':", "[\x7b'result':", "\x7b'operation':", "\x7b'z_depth':10,", "'feed_rate':200,",
    "'spindle_", "speed':1500,", "'tool_", "diameter':8,", "'tool_type':", "'DRILL'\x7d,",
    "'stock':", "\x7b'height':20\x7d,", "'error':\x7d\x7d]\x7d"].flatMap String.toList

/-- Whether a script has one turn, of a usable result with an empty entry of the name of errors. -/
def hasMistakenResult : List TurnRecord → Bool
  | [⟨_, _, some result, none⟩] =>
    (Analysis.ofValue (.mapping result)).isOk &&
      (Entries.get? (.text "error") result).any Value.isEmpty
  | _ => false

private theorem exists_readScript_sampleScript :
    ∃ records, readScript (plainTree sampleScript) plainPath = .ok records ∧
      hasMistakenResult records = true := by
  have hplain : sampleScript.all isPlain = true := by decide +kernel
  -- the script is read once, and what is said of it is looked up afterwards
  have hread : (Yaml.readChars (unifyBreaks sampleScript)).toOption.any (fun value =>
      !value.isEmpty && (script value).toExcept.toOption.any fun records =>
        records.all (·.answer?.isSome) && hasMistakenResult records) = true := by
    decide +kernel
  obtain ⟨value, hvalue, htest⟩ := exists_of_any_eq_true hread
  obtain ⟨hfilled, htest⟩ := Bool.and_eq_true_iff.mp htest
  obtain ⟨records, hrecords, htest⟩ := exists_of_any_eq_true htest
  obtain ⟨hanswers, hmistaken⟩ := Bool.and_eq_true_iff.mp htest
  refine ⟨records, ?_, hmistaken⟩
  exact readScript_of_document (readDocument_plainTree hplain hvalue)
    (by simpa using hfilled) hrecords hanswers

theorem scripts_are_replayed_in_order_of_sampleScript :
    ∃ records, readScript (plainTree sampleScript) plainPath = .ok records ∧
      FollowsRecords records (play sampleAssistant (Controller.new (Conversation.new sampleStock))
        (recordedAnswers records) (records.map recordedTurn)) := by
  obtain ⟨records, hread, _⟩ := exists_readScript_sampleScript
  exact ⟨records, hread, (scripts_are_replayed_in_order hread sampleAssistant _).1⟩

/-- An empty error says nothing about its kind. -/
theorem recordedFailure_of_isEmpty {error : Value} (h : error.isEmpty = true) :
    recordedFailure error = .stated .other FailureKind.other.name := by
  rw [recordedFailure, if_pos h]
  rfl

/-- The result of the script can be read, and its turn fails all the same. -/
theorem extra_entry_turns_result_into_failure :
    ∃ records record result analysis, readScript (plainTree sampleScript) plainPath = .ok records ∧
      records = [record] ∧ record.error = none ∧ record.result = some result ∧
      Analysis.ofValue (.mapping result) = .ok analysis ∧
      ∀ config session, (play config (Controller.new session) (recordedAnswers records)
        (records.map recordedTurn)).map Played.reply =
          [some (.failure (.stated .other FailureKind.other.name))] := by
  obtain ⟨records, hread, hmistaken⟩ := exists_readScript_sampleScript
  unfold hasMistakenResult at hmistaken
  split at hmistaken
  · rename_i prompt mode result
    rw [Bool.and_eq_true] at hmistaken
    obtain ⟨husable, hnamed⟩ := hmistaken
    -- the result is usable on its own
    obtain ⟨analysis, hanalysis⟩ :
        ∃ analysis, Analysis.ofValue (.mapping result) = .ok analysis := by
      cases hof : Analysis.ofValue (.mapping result) with
      | ok analysis => exact ⟨analysis, rfl⟩
      | error rejection =>
        rw [hof] at husable
        contradiction
    -- but it has an entry for an error, which is empty
    obtain ⟨error, herror, hempty⟩ := (Option.any_eq_true _ _).mp hnamed
    refine ⟨_, _, result, analysis, hread, rfl, rfl, rfl, hanalysis, ?_⟩
    intro config session
    obtain ⟨next, outcome, request, hplayed, _⟩ := playTurn_recordedTurn config
      (c := Controller.new session) Phase.noConfusion ⟨prompt, mode, some result, none⟩
      (.value (.mapping result)) []
    have hreply : recordedReply (.value (.mapping result)) =
        .failure (.stated .other FailureKind.other.name) := by
      rw [recordedReply, recordedError?, Value.field?, herror]
      dsimp only
      rw [recordedFailure_of_isEmpty hempty]
    rw [← hreply]
    exact congrArg (fun turn => [turn.reply]) hplayed
  · contradiction

end Machining.Session
