import Typeahead.Proofs.Workspace.Closing

/-!
# What happens to hosts

A host changes in few ways: it performs an operation on its buffer, for the user or for a
session, it tells the user something, it hears of the end of a reply, or its ways are
changed. `perform_host` says that no move does anything else to a host, and
`perform_newHost` that hosts come about only when a document is opened.
-/

namespace Typeahead

/-- What can happen to a host, apart from a change of its ways. -/
inductive Host.Turn (host : Host) : Host → Prop where
  /-- Nothing. -/
  | rests : Turn host host
  /-- It performs an operation on its buffer. -/
  | edits {operation : Buffer.Operation} {after : Host} {change : Option Change}
      (edited : host.edit operation = .ok (after, change)) : Turn host after
  /-- It tells the user what the engine reports. -/
  | tells (report : Text) : Turn host (host.tell report)
  /-- It hears of the end of a reply. -/
  | ends : Turn host host.replyApplied

/-- A worker does nothing else to its host. -/
theorem Session.WorkerStep.hostTurn {session after : Session} {host hostAfter : Host} {now : Nat}
    {change : Option Change} (step : session.WorkerStep host now after hostAfter change) :
    host.Turn hostAfter := by
  cases step with
  | tells => exact .tells _
  | edits stage performed =>
    unfold Host.editFor at performed
    split at performed
    · cases performed
    · exact .edits performed
  | ends => exact .ends
  | _ => exact .rests

/-- An operation on the buffer leaves everything else about a host as it is. -/
theorem Host.edit_eq {host after : Host} {operation : Buffer.Operation} {change : Option Change}
    (edited : host.edit operation = .ok (after, change)) :
    ∃ buffer, host.buffer.perform operation = .ok (buffer, change) ∧ after = { host with buffer } := by
  unfold Host.edit at edited
  cases performed : host.buffer.perform operation with
  | error fault => simp [performed, Except.map] at edited
  | ok result =>
    simp only [performed, Except.map, Except.ok.injEq, Prod.mk.injEq] at edited
    exact ⟨result.1, by rw [← edited.2], edited.1.symm⟩

/-- A host remains one of its document. -/
theorem Host.Turn.document {host after : Host} (turn : host.Turn after) :
    after.document = host.document := by
  cases turn with
  | rests => rfl
  | edits edited =>
    obtain ⟨buffer, -, rfl⟩ := Host.edit_eq edited
    rfl
  | tells report => exact (host.tell_sameWays report).1.document
  | ends =>
    unfold Host.replyApplied
    split <;> rfl

namespace Workspace

variable {workspace next : Workspace} {place : Nat} {host after : Host}

/-- What a host of a workspace is after a move: it has taken a turn, or its ways have changed. -/
inductive Hosted (host : Host) : Move → Host → Prop where
  | turned {move : Move} {after : Host} (turn : host.Turn after) : Hosted host move after
  | adjusted (document : DocumentId) (adjust : Host → Host) :
      Hosted host (.adjustHost document adjust) (adjust host)

/-- A host of another place in the stead of one leaves the others alone. -/
theorem setHost_host (hosted : workspace.hosts[place]? = some host) {other : Nat} {before : Host}
    (there : workspace.hosts[other]? = some before) (turn : before.Turn after) :
    ∃ now, (workspace.setHost other after).hosts[place]? = some now ∧ host.Turn now := by
  have inside := (List.getElem?_eq_some_iff.mp hosted).1
  by_cases same : other = place
  · subst same
    obtain rfl := Option.some.inj (hosted.symm.trans there)
    exact ⟨after, by simp [setHost, inside], turn⟩
  · exact ⟨host, by simpa [setHost, same] using hosted, .rests⟩

/-- A step of an actor does nothing to a host but what its worker has it do. -/
theorem act_host {number : Nat} {actor : Actor} (hosted : workspace.hosts[place]? = some host)
    (acted : workspace.act number actor = some next) :
    ∃ after, next.hosts[place]? = some after ∧ host.Turn after := by
  obtain ⟨session, -, step⟩ := act_acted acted
  cases step with
  | intake | outlet => exact ⟨host, hosted, .rests⟩
  | @worker before hostAfter acting change home stepped =>
    have kept : (workspace.setSession number acting).hosts[place]? = some host := hosted
    rw [(report_only _ _ _).hosts]
    exact setHost_host kept home (Session.stepWorker_cases stepped).hostTurn

/-- A move does nothing else to a host. -/
theorem perform_host (hosted : workspace.hosts[place]? = some host) (move : Move) :
    ∃ after, (workspace.perform move).hosts[place]? = some after ∧ Hosted host move after := by
  have inside := (List.getElem?_eq_some_iff.mp hosted).1
  have rests {next : Workspace} (same : next.hosts = workspace.hosts) :
      ∃ after, next.hosts[place]? = some after ∧ Hosted host move after :=
    ⟨host, same ▸ hosted, .turned .rests⟩
  cases move with
  | openDocument opened =>
    exact ⟨host, by simp [perform, openDocument, List.getElem?_append_left inside, hosted],
      .turned .rests⟩
  | adjustHost document adjust =>
    cases latest : workspace.hostOf? document with
    | none => exact rests (by simp only [perform, adjustHost, latest])
    | some other =>
      by_cases same : other = place
      · exact ⟨adjust host, by simp [perform, adjustHost, latest, same, hosted], .adjusted _ _⟩
      · exact ⟨host, by simp [perform, adjustHost, latest, same, hosted], .turned .rests⟩
  | edit document operation =>
    simp only [perform, edit]
    cases latest : workspace.hostOf? document with
    | none => exact rests rfl
    | some other =>
      cases there : workspace.hosts[other]? with
      | none => exact rests (by simp only [there])
      | some before =>
        cases outcome : before.edit operation with
        | error fault => exact rests (by simp only [there, outcome, Except.map])
        | ok result =>
          obtain ⟨after, kept, turn⟩ := setHost_host hosted there (.edits outcome)
          simp only [there, outcome, Except.map, (report_only _ _ _).hosts]
          exact ⟨after, kept, .turned turn⟩
  | report | tell | send | sendBy | restoreCursor | arrive | endInbound | cancel =>
    exact rests (SessionsOnly.hosts (perform_only workspace trivial))
  | deliver connection content => exact rests (deliver_hosts _ _ _)
  | hangUp connection => exact rests (hangUp_hosts _ _)
  | activate document home language => exact rests (activate_hosts workspace document home language)
  | forget | pass => exact rests rfl
  | act number actor =>
    simp only [perform]
    cases acted : workspace.act number actor with
    | none => exact rests rfl
    | some next =>
      obtain ⟨after, kept, turn⟩ := act_host hosted acted
      exact ⟨after, kept, .turned turn⟩

/-- A host that was not there before a move is the one of a document that has been opened. -/
theorem perform_newHost {move : Move} (there : (workspace.perform move).hosts[place]? = some after)
    (absent : workspace.hosts[place]? = none) : move = .openDocument after := by
  have inside := (List.getElem?_eq_some_iff.mp there).1
  have outside := List.getElem?_eq_none_iff.mp absent
  by_cases opens : ∃ host, move = .openDocument host
  · obtain ⟨host, rfl⟩ := opens
    obtain rfl : place = workspace.hosts.length := by
      simp only [perform, openDocument, List.length_append, List.length_singleton] at inside
      omega
    simpa [perform, openDocument] using there
  · have length := workspace.perform_hosts_length fun host same => opens ⟨host, same⟩
    omega

end Workspace

end Typeahead
