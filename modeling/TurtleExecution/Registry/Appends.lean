/-
Runs of appends to the registry's log, across failures and restarts.

A call adds nothing, a part of its line, or the whole line.  As long as nothing is
added behind a part of a line, the log reads back as the appends that were made.
-/

import TurtleExecution.Registry.Lines

set_option autoImplicit false

namespace TurtleExecution.Registry

open Process

private theorem systemCall_preserves (failure : AppendError) :
    Preserves Disk.file (systemCall failure) := by
  rintro ⟨file, answers⟩
  unfold systemCall
  match answers with
  | [] => rfl
  | .done count :: answers => rfl
  | .fails :: answers => rfl
  | .dies :: answers => rfl

private theorem cleanup_preserves (failure : AppendError) :
    Preserves Disk.file (do let _done ← systemCall failure) :=
  preserves_bind (systemCall_preserves failure) fun _ => preserves_pure _ ()

def AddsPart (text : Text) (before : Text) (after : Disk) : Prop :=
  ∃ count, after.file = before ++ text.take count

private theorem addsPart_none {text before : Text} {after : Disk} (same : after.file = before) :
    AddsPart text before after :=
  ⟨0, by rw [same, List.take_zero, List.append_nil]⟩

theorem AddsPart.later {text before : Text} {count : Nat} {after : Disk}
    (adds : AddsPart (text.drop count) (before ++ text.take count) after) :
    AddsPart text before after := by
  obtain ⟨further, added⟩ := adds
  exact ⟨count + further, by rw [added, List.append_assoc, List.take_add]⟩

private theorem writeFull_ends (fuel : Nat) (data : Text) (enough : data.length ≤ fuel)
    (disk : Disk) :
    Ends (writeFull fuel data) disk
      { returned := fun _ after => after.file = disk.file ++ data
        raised := fun _ after => AddsPart data disk.file after
        crashed := fun after => AddsPart data disk.file after } := by
  induction fuel generalizing data disk with
  | zero =>
      have nothing := List.eq_nil_of_length_eq_zero (Nat.le_zero.mp enough)
      subst nothing
      exact ends_pure (List.append_nil _).symm
  | succ fuel ih =>
      unfold writeFull
      split
      · rename_i nothing
        subst nothing
        exact ends_pure (List.append_nil _).symm
      · rename_i something
        refine ends_bind (fun _ after => after.file = disk.file) ?_ ?_
        · exact (ends_of_view (systemCall_preserves .os disk)).mono (fun _ _ same => same)
            (fun _ _ same => addsPart_none same) (fun _ same => addsPart_none same)
        · rintro answer ⟨file, answers⟩ same
          change file = disk.file at same
          subst same
          simp only
          split
          · exact ends_raise (addsPart_none rfl)
          · rename_i progress
            generalize written : min (answer.getD data.length) data.length = count at progress
            have shorter : (data.drop count).length ≤ fuel := by
              rw [List.length_drop]
              omega
            have rest := ih (data.drop count) shorter
              { file := disk.file ++ data.take count, answers := answers }
            refine ends_bind_modify (Ends.mono rest ?_ ?_ ?_)
            · intro _ after added
              exact Eq.trans added (by rw [List.append_assoc, List.take_append_drop])
            · exact fun _ _ adds => AddsPart.later adds
            · exact fun _ adds => AddsPart.later adds

private theorem append_ends (entry : PyDict) (disk : Disk) :
    Ends (append entry) disk
      { returned := fun _ after => ∃ line, payload entry = some line ∧
          after.file = disk.file ++ line
        raised := fun _ after => AddsPart ((payload entry).getD []) disk.file after
        crashed := fun after => AddsPart ((payload entry).getD []) disk.file after } := by
  unfold append
  cases written : payload entry with
  | none => exact ends_raise (addsPart_none rfl)
  | some line =>
      have unchanged : ∀ failure {between : Disk}, between.file = disk.file →
          Ends (systemCall failure) between
            { returned := fun _ after => after.file = disk.file
              raised := fun _ after => AddsPart line disk.file after
              crashed := fun after => AddsPart line disk.file after } := by
        intro failure between same
        exact (ends_of_view ((systemCall_preserves failure between).trans same)).mono
          (fun _ _ same => same) (fun _ _ same => addsPart_none same)
          (fun _ same => addsPart_none same)
      have whole : ∀ after : Disk, after.file = disk.file ++ line → AddsPart line disk.file after :=
        fun after added => ⟨line.length, by rw [added, List.take_length]⟩
      -- A cleanup keeps the whole line, and keeps a part of it.
      have wholeKept : ∀ failure {between : Disk}, between.file = disk.file ++ line →
          Ends (do let _done ← systemCall failure) between
            { returned := fun _ after => after.file = disk.file ++ line
              raised := fun _ after => AddsPart line disk.file after
              crashed := fun after => AddsPart line disk.file after } := by
        intro failure between added
        exact (ends_of_view ((cleanup_preserves failure between).trans added)).mono
          (fun _ _ added => added) (fun _ after added => whole after added) whole
      have partKept : ∀ failure {between : Disk}, AddsPart line disk.file between →
          Ends (do let _done ← systemCall failure) between
            { returned := fun _ after => AddsPart line disk.file after
              raised := fun _ after => AddsPart line disk.file after
              crashed := fun after => AddsPart line disk.file after } :=
        fun failure {between} adds => ((cleanup_preserves failure).keeps
          fun file => ∃ count, file = disk.file ++ line.take count).ends adds
      refine ends_bind (fun _ after => after.file = disk.file) (unchanged .os rfl) ?_
      intro _ opened same
      refine ends_tryFinally (fun _ after => after.file = disk.file ++ line)
        (fun _ after => AddsPart line disk.file after) ?_ ?_ (fun _ _ adds => partKept .os adds)
      · refine ends_bind (fun _ after => after.file = disk.file) (unchanged .registryLock same) ?_
        intro _ locked same
        refine ends_tryFinally (fun _ after => after.file = disk.file ++ line)
          (fun _ after => AddsPart line disk.file after) ?_ (fun _ _ added => wholeKept .os added)
          (fun _ _ adds => partKept .os adds)
        refine ends_bind (fun _ after => after.file = disk.file ++ line) ?_
          (fun _ _ added => wholeKept .os added)
        have writes := writeFull_ends line.length line (Nat.le_refl _) locked
        rw [same] at writes
        exact writes
      · intro _ after added
        exact (wholeKept .os added).mono (fun _ _ added => ⟨line, rfl, added⟩)
          (fun _ _ adds => adds) (fun _ adds => adds)

/-- One call of `append`, of this process or of a later one: the storage holds nothing
but the path. -/
structure Call where
  entry : PyDict
  answers : List Answer

structure Attempt where
  entry : PyDict
  before : Text
  outcome : Outcome AppendError Unit
  after : Text

def perform (file : Text) (call : Call) : Attempt :=
  let ended := append call.entry { file, answers := call.answers }
  { entry := call.entry, before := file, outcome := ended.1, after := ended.2.file }

def attempts (file : Text) : List Call → List Attempt
  | [] => []
  | call :: calls => perform file call :: attempts (perform file call).after calls

def finalFile (file : Text) : List Call → Text
  | [] => file
  | call :: calls => finalFile (perform file call).after calls

namespace Attempt

def Acknowledged (attempt : Attempt) : Prop :=
  attempt.outcome = .returned ()

def wrote (attempt : Attempt) : Text :=
  attempt.after.drop attempt.before.length

def LineComplete (attempt : Attempt) : Prop :=
  payload attempt.entry = some attempt.wrote

def EndsBeforeNewline (attempt : Attempt) : Prop :=
  payload attempt.entry = some (attempt.wrote ++ ['\n'])

def TextComplete (attempt : Attempt) : Prop :=
  attempt.LineComplete ∨ attempt.EndsBeforeNewline

end Attempt

/-- The records are those of the acknowledged attempts, in order; an attempt that
failed or crashed may be among them where it is complete. -/
inductive Kept (Complete : Attempt → Prop) : List Attempt → List PyValue → Prop
  | nil : Kept Complete [] []
  | acknowledged {attempt : Attempt} {later : List Attempt} {record : PyValue}
      {records : List PyValue} (returned : attempt.Acknowledged)
      (isRecord : PyValue.reread (.dict attempt.entry) = some record)
      (rest : Kept Complete later records) :
      Kept Complete (attempt :: later) (record :: records)
  | shown {attempt : Attempt} {later : List Attempt} {record : PyValue}
      {records : List PyValue} (failed : ¬ attempt.Acknowledged)
      (complete : Complete attempt)
      (isRecord : PyValue.reread (.dict attempt.entry) = some record)
      (rest : Kept Complete later records) :
      Kept Complete (attempt :: later) (record :: records)
  | hidden {attempt : Attempt} {later : List Attempt} {records : List PyValue}
      (failed : ¬ attempt.Acknowledged) (rest : Kept Complete later records) :
      Kept Complete (attempt :: later) records

theorem Kept.mono {Complete Other : Attempt → Prop} {list : List Attempt}
    {records : List PyValue} (kept : Kept Complete list records)
    (also : ∀ attempt ∈ list, Complete attempt → Other attempt) : Kept Other list records := by
  induction kept with
  | nil => exact .nil
  | acknowledged returned isRecord rest ih =>
      exact .acknowledged returned isRecord
        (ih fun attempt member => also attempt (List.mem_cons_of_mem _ member))
  | shown failed complete isRecord rest ih =>
      exact .shown failed (also _ List.mem_cons_self complete) isRecord
        (ih fun attempt member => also attempt (List.mem_cons_of_mem _ member))
  | hidden failed rest ih =>
      exact .hidden failed (ih fun attempt member => also attempt (List.mem_cons_of_mem _ member))

theorem Kept.cons {Complete : Attempt → Prop} {attempt : Attempt} {later : List Attempt}
    {record : PyValue} {records : List PyValue} (complete : Complete attempt)
    (isRecord : PyValue.reread (.dict attempt.entry) = some record)
    (rest : Kept Complete later records) : Kept Complete (attempt :: later) (record :: records) := by
  by_cases returned : attempt.Acknowledged
  · exact .acknowledged returned isRecord rest
  · exact .shown returned complete isRecord rest

def LineEnded (file : Text) : Prop :=
  ∀ c ∈ file.getLast?, c = '\n'

/-- A call that adds something finds the last line ended, and its entry is read back
as it is written. -/
def Attempt.Sound (attempt : Attempt) : Prop :=
  attempt.wrote ≠ [] → LineEnded attempt.before ∧ Storable attempt.entry

private theorem perform_adds (file : Text) (call : Call) :
    ∃ count, (perform file call).after = file ++ ((payload call.entry).getD []).take count := by
  have ends := append_ends call.entry { file, answers := call.answers }
  unfold Ends at ends
  unfold perform
  rcases ran : append call.entry { file, answers := call.answers } with ⟨outcome, disk⟩
  rw [ran] at ends
  cases outcome with
  | returned value =>
      obtain ⟨line, written, added⟩ := ends
      exact ⟨line.length, by simp [written, added]⟩
  | raised error => exact ends
  | crashed => exact ends

private theorem perform_wrote (file : Text) (call : Call) :
    ∃ count, (perform file call).wrote = ((payload call.entry).getD []).take count := by
  obtain ⟨count, added⟩ := perform_adds file call
  rw [Attempt.wrote, added]
  exact ⟨count, List.drop_left⟩

private theorem perform_after (file : Text) (call : Call) :
    (perform file call).after = file ++ (perform file call).wrote := by
  obtain ⟨count, added⟩ := perform_adds file call
  rw [Attempt.wrote, added]
  exact congrArg (file ++ ·) List.drop_left.symm

variable {file : Text} {call : Call}

private theorem perform_acknowledged (returned : (perform file call).Acknowledged) :
    ∃ line, payload call.entry = some line ∧ (perform file call).after = file ++ line := by
  have ends := append_ends call.entry { file, answers := call.answers }
  unfold Ends at ends
  unfold Attempt.Acknowledged perform at returned
  unfold perform
  rcases ran : append call.entry { file, answers := call.answers } with ⟨outcome, disk⟩
  rw [ran] at ends returned
  cases returned
  exact ends

private theorem payload_ne_nil {entry : PyDict} {line : Text} (written : payload entry = some line) :
    line ≠ [] := by
  obtain ⟨_, _, written⟩ := Option.bind_eq_some_iff.mp written
  obtain ⟨text, _, rfl⟩ := Option.map_eq_some_iff.mp written
  exact List.append_ne_nil_of_right_ne_nil _ (List.cons_ne_nil _ _)

private theorem not_acknowledged_of_wrote_nil (nothing : (perform file call).wrote = []) :
    ¬ (perform file call).Acknowledged ∧ (perform file call).after = file := by
  have added := perform_after file call
  rw [nothing, List.append_nil] at added
  refine ⟨?_, added⟩
  intro returned
  obtain ⟨line, written, whole⟩ := perform_acknowledged returned
  rw [added] at whole
  exact payload_ne_nil written (List.append_right_eq_self.mp whole.symm)

private theorem run_unended (unended : ¬ LineEnded file) (calls : List Call)
    (sound : ∀ attempt ∈ attempts file calls, attempt.Sound) :
    finalFile file calls = file ∧ Kept Attempt.TextComplete (attempts file calls) [] := by
  induction calls with
  | nil => exact ⟨rfl, .nil⟩
  | cons call calls ih =>
      obtain ⟨first, later⟩ := List.forall_mem_cons.mp sound
      have nothing : (perform file call).wrote = [] := by
        by_contra something
        exact unended (first something).1
      obtain ⟨failed, same⟩ := not_acknowledged_of_wrote_nil nothing
      rw [same] at later
      obtain ⟨rest, kept⟩ := ih later
      rw [attempts, finalFile, same]
      exact ⟨rest, .hidden failed kept⟩

private theorem not_lineEnded_cut {stored : List Stored} {last : Stored} {cut rest : Text}
    (isCut : last.text = cut ++ rest) (nonempty : cut ≠ []) :
    ¬ LineEnded (lines stored ++ cut) := by
  intro ended
  have isLast := ended (cut.getLast nonempty)
    (by rw [List.getLast?_append_of_ne_nil _ nonempty]; exact List.getLast?_eq_some_getLast nonempty)
  exact plain_ne_newline (plain_cut isCut) _ (List.getLast_mem nonempty) isLast

private theorem perform_cases (something : (perform file call).wrote ≠ [])
    (storable : Storable call.entry) :
    ∃ one : Stored, payload call.entry = some (one.text ++ ['\n']) ∧
      PyValue.reread (.dict call.entry) = some one.record ∧
      ((perform file call).wrote = one.text ++ ['\n'] ∨
        ∃ rest, one.text = (perform file call).wrote ++ rest) := by
  obtain ⟨count, wrote⟩ := perform_wrote file call
  cases written : payload call.entry with
  | none =>
      rw [wrote, written] at something
      exact absurd List.take_nil something
  | some line =>
      obtain ⟨one, rfl, isRecord⟩ := payload_storable storable written
      refine ⟨one, rfl, isRecord, ?_⟩
      rw [wrote, written, Option.getD_some]
      by_cases cut : count ≤ one.text.length
      · refine Or.inr ⟨one.text.drop count, ?_⟩
        rw [List.take_append_of_le_length cut, List.take_append_drop]
      · refine Or.inl (List.take_of_length_le ?_)
        rw [List.length_append, List.length_singleton]
        omega

theorem lines_concat (stored : List Stored) (one : Stored) :
    lines (stored ++ [one]) = lines stored ++ (one.text ++ ['\n']) := by
  simp [lines]

private theorem wrote_of_acknowledged (returned : (perform file call).Acknowledged) :
    payload call.entry = some (perform file call).wrote := by
  obtain ⟨line, written, added⟩ := perform_acknowledged returned
  rw [written, Attempt.wrote, added]
  exact congrArg some List.drop_left.symm

private theorem run_fromLines (calls : List Call) (stored : List Stored)
    (sound : ∀ attempt ∈ attempts (lines stored) calls, attempt.Sound) :
    ∃ records, readAll (finalFile (lines stored) calls) =
        .ok (stored.map Stored.record ++ records) ∧
      Kept Attempt.TextComplete (attempts (lines stored) calls) records := by
  induction calls generalizing stored with
  | nil => exact ⟨[], by rw [finalFile, readAll_lines, List.append_nil], .nil⟩
  | cons call calls ih =>
      obtain ⟨first, later⟩ := List.forall_mem_cons.mp sound
      rw [attempts, finalFile]
      by_cases nothing : (perform (lines stored) call).wrote = []
      · obtain ⟨failed, same⟩ := not_acknowledged_of_wrote_nil nothing
        rw [same] at later ⊢
        obtain ⟨records, read, kept⟩ := ih stored later
        exact ⟨records, read, .hidden failed kept⟩
      · obtain ⟨one, written, isRecord, whole | ⟨rest, isCut⟩⟩ :=
          perform_cases nothing (first nothing).2
        · -- the whole line: the run goes on from one more line
          have grown : (perform (lines stored) call).after = lines (stored ++ [one]) := by
            rw [perform_after, whole, lines_concat]
          have complete : (perform (lines stored) call).TextComplete :=
            Or.inl (written.trans (congrArg some whole.symm))
          rw [grown] at later ⊢
          obtain ⟨records, read, kept⟩ := ih (stored ++ [one]) later
          refine ⟨one.record :: records, ?_, Kept.cons complete isRecord kept⟩
          rw [read, List.map_append, List.append_assoc]
          rfl
        · -- a part of the line: nothing is added behind it
          have unended := @not_lineEnded_cut stored _ _ _ isCut nothing
          rw [← perform_after] at unended
          obtain ⟨same, kept⟩ := run_unended unended calls later
          rw [perform_after] at kept
          rw [same, perform_after]
          cases rest with
          | nil =>
              rw [List.append_nil] at isCut
              have complete : (perform (lines stored) call).TextComplete := by
                refine Or.inr ?_
                rw [Attempt.EndsBeforeNewline, ← isCut]
                exact written
              refine ⟨[one.record], ?_, Kept.cons complete isRecord kept⟩
              rw [← isCut, readAll_unended, List.map_append]
              rfl
          | cons c rest =>
              refine ⟨[], ?_, .hidden ?_ kept⟩
              · rw [readAll_cut stored isCut nothing (List.cons_ne_nil _ _), List.append_nil]
              · intro returned
                have same := Option.some.inj ((wrote_of_acknowledged returned).symm.trans written)
                have lengths := congrArg List.length isCut
                rw [same] at lengths
                simp only [List.length_append, List.length_cons, List.length_nil] at lengths
                omega

/-- After the calls the log reads back, without an error, as the acknowledged appends. -/
def KeepsAcknowledged (Complete : Attempt → Prop) (calls : List Call) : Prop :=
  ∃ records, readAll (finalFile [] calls) = .ok records ∧ Kept Complete (attempts [] calls) records

/-- A run whose calls add nothing behind a line that is not ended keeps exactly the
acknowledged appends; of the others it may show those whose line is there. -/
theorem run_keepsAcknowledged (calls : List Call)
    (sound : ∀ attempt ∈ attempts [] calls, attempt.Sound) :
    KeepsAcknowledged Attempt.TextComplete calls ∧
      ((∀ attempt ∈ attempts [] calls, ¬ attempt.EndsBeforeNewline) →
        KeepsAcknowledged Attempt.LineComplete calls) := by
  obtain ⟨records, read, kept⟩ := run_fromLines calls [] sound
  refine ⟨⟨records, read, kept⟩, fun ended => ⟨records, read, kept.mono ?_⟩⟩
  rintro attempt member (complete | unended)
  · exact complete
  · exact absurd unended (ended attempt member)

def sealing : PyDict :=
  [(.str "type", .str "experiment_sealed"), (.str "experiment_id", .str "a")]

/-- The first write of a call takes one byte and the second one fails; the next call is
not interrupted. -/
def tornThenWhole : List Call :=
  [{ entry := sealing, answers := [.done 0, .done 0, .done 1, .fails] },
    { entry := sealing, answers := [] }]

def returnsNormally : Outcome AppendError Unit → Bool
  | .returned _ => true
  | _ => false

def readsNothing : Except MalformedRegistryLogError (List PyValue) → Bool
  | .ok [] => true
  | _ => false

def readsBack : Except MalformedRegistryLogError (List PyValue) → Bool
  | .ok _ => true
  | .error _ => false

/-- The line of the second call is lost in the torn one, and the call behind it makes
the log unreadable. -/
theorem tornThenWhole_notKept :
    ¬ KeepsAcknowledged Attempt.TextComplete tornThenWhole ∧
      ¬ KeepsAcknowledged Attempt.TextComplete
        (tornThenWhole ++ [{ entry := sealing, answers := [] }]) := by
  constructor
  · rintro ⟨records, read, kept⟩
    have nothing : readsNothing (readAll (finalFile [] tornThenWhole)) = true := by decide +kernel
    have returned : (attempts [] tornThenWhole).map (fun attempt =>
        returnsNormally attempt.outcome) = [false, true] := by decide +kernel
    rw [read] at nothing
    generalize attempts [] tornThenWhole = list at kept returned
    cases records with
    | cons record records => cases nothing
    | nil =>
        cases kept with
        | nil => cases returned
        | hidden failed rest =>
            cases rest with
            | nil => simp at returned
            | @hidden attempt later _ failed rest =>
                simp only [List.map_cons, List.cons.injEq] at returned
                refine failed ?_
                have second := returned.2.1
                unfold Attempt.Acknowledged
                cases outcome : attempt.outcome with
                | returned value => rfl
                | raised error => simp [outcome, returnsNormally] at second
                | crashed => simp [outcome, returnsNormally] at second
  · rintro ⟨records, read, kept⟩
    have refused : readsBack (readAll (finalFile []
        (tornThenWhole ++ [{ entry := sealing, answers := [] }]))) = false := by decide +kernel
    rw [read] at refused
    cases refused

theorem run_keepsAcknowledged_cutLast :
    KeepsAcknowledged Attempt.TextComplete
      [{ entry := sealing, answers := [] },
        { entry := sealing, answers := [.done 0, .done 0, .done 5, .dies] }] := by
  refine (run_keepsAcknowledged _ ?_).1
  have storable : Storable sealing :=
    storable_of_textKeyed ⟨by simp [sealing], by decide, trivial, trivial, trivial⟩ (by decide)
  intro attempt member _something
  simp only [attempts, List.mem_cons, List.not_mem_nil, or_false] at member
  rcases member with rfl | rfl
  · exact ⟨(by intro c impossible; cases impossible), storable⟩
  · refine ⟨fun c isLast => ?_, storable⟩
    exact Option.some.inj ((show _ = some c from isLast).symm.trans (by decide +kernel))

end TurtleExecution.Registry
