import Machining.Proofs.Config.Ranges
import Machining.Proofs.Text.Search
import Machining.Proofs.Text.Templates
import Machining.Session.Controller

/-!
# What the transcript says of a file

A turn without words is shown in the transcript by the label of its file.  The label is a template
of the settings, and settings are loaded if its text has the place for the name somewhere.

That is not enough to know that the name is put in: a template may spell the place with doubled
braces, which stand for themselves.  What matters is that the place stands between two templates.

* `Announces` says what a turn that is taken up adds to the transcript.
* `label_eq`: what the place is put between is written out around the name.
-/

namespace Machining.Session

open Machining.Config Machining.Document Machining.Files Machining.Text

/-- The place for the name of a file. -/
def place : String := "\x7b" ++ uploadKey ++ "\x7d"

private theorem layOut_nil (text : List Char) : Template.layOut [] (.text text) = .ok text := by
  rw [Template.layOut, if_pos List.isEmpty_nil]
  exact congrArg Except.ok String.toList_ofList

/-- The key stands for the whole name. -/
private theorem showField_key (write : List Char → Except Template.Fault (List Char))
    (name : String) :
    Template.showField uploadKey name write ⟨uploadKey.toList, none, []⟩ = .ok name.toList := by
  have hresolve : Template.resolve uploadKey name uploadKey.toList = .ok (.text name.toList) := rfl
  unfold Template.showField
  dsimp only
  rw [hresolve]
  exact layOut_nil name.toList

/-- The place is one field, and it is filled with the name. -/
theorem fill_place (name : String) : Template.fill place uploadKey name = .ok name := by
  have hplace : place.toList = '\x7b' :: (uploadKey.toList ++ ['\x7d']) := by decide
  have hsplit : Template.splitField (uploadKey.toList ++ ['\x7d']) =
      .ok (⟨uploadKey.toList, none, []⟩, []) := rfl
  have hpiece (write : List Char → Except Template.Fault (List Char)) :
      Template.piece uploadKey name write '\x7b' (uploadKey.toList ++ ['\x7d']) =
        .ok (name.toList, []) :=
    Template.piece_of_splitField (by decide) hsplit (showField_key write name)
  rw [Template.fill_eq, hplace, Template.writeOut_cons, hpiece]
  simp [bind, Except.bind, Template.writeOut, Template.expand, Except.map]

/-- The turn is taken up, and one message of the user is added, which says a text about a file. -/
def Announces (c : Controller) (result : Except SubmitError (Controller × Request))
    (text fileName : String) : Prop :=
  ∃ next request message, result = .ok (next, request) ∧
    next.session.messages = c.session.messages ++ [message] ∧ message.role = .user ∧
    message.text = text ∧ message.attachment = some fileName

section Labels

variable {config : Assistant} {c : Controller} {turn : Turn} {mode : Mode} {file : Attachment}

/-- Between templates without faults, the place is filled with the name. -/
theorem fill_around_place {before after front name : String}
    (h : Template.fill before uploadKey name = .ok front) :
    Template.fill (before ++ place ++ after) uploadKey name =
      (Template.fill after uploadKey name).map (front ++ name ++ ·) := by
  have hplace : Template.fill (before ++ place) uploadKey name = .ok (front ++ name) := by
    rw [Template.fill_append h, fill_place]
    rfl
  exact Template.fill_append hplace

/-- A turn without words is shown by the label of its file. -/
theorem label_eq (hfile : turn.attachment = some file) (hwords : turn.words = "") :
    turn.label config.session =
      Template.fill config.session.uploadLabel uploadKey file.fileName := by
  simp [Turn.label, hfile, hwords]

private theorem announces_of_label (hphase : c.phase ≠ .requesting)
    (hmode : Mode.ofName? turn.mode.plain = some mode) (hfile : turn.attachment = some file)
    {text : String} (hlabel : turn.label config.session = .ok text) :
    Announces c (c.submit config turn) text file.fileName := by
  have hsubmit : c.submit config turn =
      .ok (c.begin text turn, turn.request config.session mode) := by
    simp [Controller.submit, hphase, hmode, hlabel]
  refine ⟨_, _, _, hsubmit, rfl, rfl, rfl, ?_⟩
  simp [hfile]

private theorem submit_of_label_error (hphase : c.phase ≠ .requesting)
    (hmode : Mode.ofName? turn.mode.plain = some mode) {fault : Template.Fault}
    (hlabel : turn.label config.session = .error fault) :
    c.submit config turn = .error (.badLabel fault) := by
  simp [Controller.submit, hphase, hmode, hlabel]

end Labels

/-! ## Labels of settings that are loaded -/

/-- The label of settings that are loaded has the place for the name in its text.  Where the place
stands between two templates, an idle controller takes up every turn without words, and the message
that it adds has the name between what the two are written out as; if the second of them is at
fault, the turn is refused for it.  In particular any text may be set around the place, as long as
its braces are doubled. -/
theorem upload_label_names_the_file {tree : Tree} {path : Option Path} {config : Assistant}
    (hload : load tree path = .ok config) {c : Controller} (hphase : c.phase ≠ .requesting)
    {turn : Turn} {mode : Mode} (hmode : Mode.ofName? turn.mode.plain = some mode)
    {file : Attachment} (hfile : turn.attachment = some file) (hwords : turn.words = "") :
    (∃ before after, config.session.uploadLabel = before ++ place ++ after) ∧
      (∀ before after front, config.session.uploadLabel = before ++ place ++ after →
        Template.fill before uploadKey file.fileName = .ok front →
        (∀ behind, Template.fill after uploadKey file.fileName = .ok behind →
          Announces c (c.submit config turn) (front ++ file.fileName ++ behind) file.fileName) ∧
        ∀ fault, Template.fill after uploadKey file.fileName = .error fault →
          c.submit config turn = .error (.badLabel fault)) ∧
      ∀ front behind, config.session.uploadLabel =
          Template.doubled front ++ place ++ Template.doubled behind →
        Announces c (c.submit config turn) (front ++ file.fileName ++ behind) file.fileName := by
  have hlabel : turn.label config.session =
      Template.fill config.session.uploadLabel uploadKey file.fileName := label_eq hfile hwords
  -- the place is filled with the name, and the text around it on its own
  have hannounces {before after front behind : String}
      (htext : config.session.uploadLabel = before ++ place ++ after)
      (hbefore : Template.fill before uploadKey file.fileName = .ok front)
      (hafter : Template.fill after uploadKey file.fileName = .ok behind) :
      Announces c (c.submit config turn) (front ++ file.fileName ++ behind) file.fileName := by
    apply announces_of_label hphase hmode hfile
    rw [hlabel, htext, fill_around_place hbefore, hafter]
    rfl
  refine ⟨exists_append_of_holds (accepted_of_load hload).uploadKey, ?_, ?_⟩
  · intro before after front htext hbefore
    refine ⟨fun behind hafter => hannounces htext hbefore hafter, fun fault hafter => ?_⟩
    apply submit_of_label_error hphase hmode
    rw [hlabel, htext, fill_around_place hbefore, hafter]
    rfl
  · intro front behind htext
    exact hannounces htext (Template.fill_doubled front) (Template.fill_doubled behind)

/-- A turn that brings nothing but a file. -/
def turnOfFile : Turn := ⟨none, some ⟨"", "application/pdf", "part.pdf"⟩, none, .text "accumulate"⟩

private theorem ofName?_turnOfFile :
    Mode.ofName? turnOfFile.mode.plain = some .accumulate := by
  decide +kernel

private theorem phase_new (talk : Conversation) : (Controller.new talk).phase ≠ .requesting := by
  simp [Controller.new]

theorem upload_label_names_the_file_of_shipped :
    ∃ config, load .empty none = .ok config ∧ ∀ talk,
      Announces (.new talk) ((Controller.new talk).submit config turnOfFile)
        "Uploaded file: part.pdf" "part.pdf" := by
  have hshipped : (load .empty none).toOption.any (fun config =>
      config.session.uploadLabel = Template.doubled "Uploaded file: " ++ place ++
        Template.doubled "") = true := by
    decide +kernel
  obtain ⟨config, hconfig, hlabel⟩ := exists_of_any_eq_true hshipped
  refine ⟨config, hconfig, fun talk => ?_⟩
  have hwords : turnOfFile.words = "" := by decide
  have hnames := upload_label_names_the_file hconfig (phase_new talk) ofName?_turnOfFile rfl hwords
  exact hnames.2.2 "Uploaded file: " "" (of_decide_eq_true hlabel)

/-- A file of settings whose label spells the place with doubled braces. -/
def settingsWithDoubledPlace : List Char :=
  settingsText ["3"] ["\x7b\x7b", "file_name", "\x7d\x7d"]

/-- The settings are loaded, and the message names no file. -/
theorem doubled_place_names_no_file :
    ∃ config, load (plainTree settingsWithDoubledPlace) (some plainPath) = .ok config ∧
      (∀ talk, Announces (.new talk) ((Controller.new talk).submit config turnOfFile)
        "\x7bfile_name\x7d" "part.pdf") ∧
      holds "\x7bfile_name\x7d" "part.pdf" = false := by
  have hplain : settingsWithDoubledPlace.all isPlain = true := by decide +kernel
  have hread : (Yaml.readChars (unifyBreaks settingsWithDoubledPlace)).toOption.any (fun value =>
      (read plainPath.text value).toOption.any fun config =>
        config.session.uploadLabel = Template.doubled "\x7bfile_name\x7d") = true := by
    decide +kernel
  obtain ⟨value, hvalue, htest⟩ := exists_of_any_eq_true hread
  obtain ⟨config, hconfig, htest⟩ := exists_of_any_eq_true htest
  refine ⟨config, load_plainTree hplain hvalue hconfig, fun talk => ?_, by decide⟩
  have hfile : turnOfFile.attachment = some ⟨"", "application/pdf", "part.pdf"⟩ := rfl
  apply announces_of_label (phase_new talk) ofName?_turnOfFile hfile
  rw [label_eq hfile (by decide), of_decide_eq_true htest, Template.fill_doubled]

end Machining.Session
