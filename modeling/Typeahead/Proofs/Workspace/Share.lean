import Mathlib.Data.List.Find
import Typeahead.Proofs.Workspace.Hosting
import Typeahead.Proofs.Workspace.Lifecycle
import Typeahead.Proofs.Workspace.Sight
import Typeahead.Proofs.Workspace.Typing

/-!
# The share of a document

The share that a document has in a workspace is a workspace of its own: the hosts and
sessions of that document alone, numbered anew in the order in which they stand, with the
document's entry in the register. What is common to all documents and says nothing about
any of them, the time and the connections still to be had, is left out.

In a workspace that is parted, where sessions work on hosts of their own document and the
register leads to sessions of the document looked up, every operation on a session or a host of
the document is seen in the share as the same operation, and one on a session or a host of
another document is not seen at all.
-/

namespace Typeahead

section Entries

variable {α : Type} (key : α → DocumentId) (document : DocumentId) {entries : List α}
  {number : Nat} {entry other : α}

/-- The entries of a document. -/
def entriesOf (entries : List α) : List α :=
  entries.filter fun entry => key entry = document

/-- The number of an entry among those of a document. -/
def numberAmong (entries : List α) (number : Nat) : Nat :=
  ((entries.map key).take number).count document

/-- A list is what stands before one of its entries, that entry and the rest. -/
theorem exists_split (there : entries[number]? = some entry) :
    ∃ before after, entries = before ++ entry :: after ∧ before.length = number := by
  obtain ⟨inside, rfl⟩ := List.getElem?_eq_some_iff.mp there
  refine ⟨entries.take number, entries.drop (number + 1), ?_, ?_⟩
  · rw [List.cons_getElem_drop_succ, List.take_append_drop]
  · exact List.length_take_of_le (Nat.le_of_lt inside)

/-- The entry behind some others has the number of those that are of the document. -/
theorem numberAmong_split (before after : List α) :
    numberAmong key document (before ++ after) before.length =
      (entriesOf key document before).length := by
  rw [numberAmong, entriesOf, List.map_append, ← List.length_map key, List.take_left, List.count,
    List.countP_map, List.countP_eq_length_filter]
  rfl

/-- Further entries change no number. -/
theorem numberAmong_append (inside : number ≤ entries.length) (more : List α) :
    numberAmong key document (entries ++ more) number = numberAmong key document entries number := by
  rw [numberAmong, numberAmong, List.map_append,
    List.take_append_of_le_length (by rwa [List.length_map])]

variable {key document}

/-- An entry of the document stands among these under its number. -/
theorem getElem?_entriesOf (there : entries[number]? = some entry) (own : key entry = document) :
    (entriesOf key document entries)[numberAmong key document entries number]? = some entry := by
  obtain ⟨before, after, rfl, rfl⟩ := exists_split there
  rw [numberAmong_split]
  simp [entriesOf, own]

/-- Another entry of the document in the place of one is seen under its number. -/
theorem entriesOf_set_own (there : entries[number]? = some entry) (own : key entry = document)
    (same : key other = document) :
    entriesOf key document (entries.set number other) =
      (entriesOf key document entries).set (numberAmong key document entries number) other := by
  obtain ⟨before, after, rfl, rfl⟩ := exists_split there
  rw [numberAmong_split]
  simp [entriesOf, own, same]

/-- Another entry of another document in the place of one is not seen. -/
theorem entriesOf_set_other (there : entries[number]? = some entry) (foreign : key entry ≠ document)
    (same : key other ≠ document) :
    entriesOf key document (entries.set number other) = entriesOf key document entries := by
  obtain ⟨before, after, rfl, rfl⟩ := exists_split there
  simp [entriesOf, foreign, same]

/-- An entry of the same document in the place of another one changes no document. -/
theorem map_set_same (there : entries[number]? = some entry) (same : key other = key entry) :
    (entries.set number other).map key = entries.map key := by
  obtain ⟨before, after, rfl, rfl⟩ := exists_split there
  simp [same]

end Entries

namespace Workspace

/-- The number of a host among those of a document. -/
def hostNumber (document : DocumentId) (workspace : Workspace) (place : Nat) : Nat :=
  numberAmong Host.document document workspace.hosts place

/-- The number of a session among those of a document. -/
def sessionNumber (document : DocumentId) (workspace : Workspace) (number : Nat) : Nat :=
  numberAmong Session.document document workspace.sessions number

/-- What can be seen of a session whose host is one of the document. -/
def seen (document : DocumentId) (workspace : Workspace) (session : Session) : Session :=
  session.seenAt (workspace.hostNumber document session.host)

/-- The share of a document. -/
def share (document : DocumentId) (workspace : Workspace) : Workspace :=
  { workspace with
    clock := 0
    lines := []
    contacted := []
    hosts := entriesOf Host.document document workspace.hosts
    sessions := (entriesOf Session.document document workspace.sessions).map
      (workspace.seen document)
    registered := ((workspace.registered? document).map fun number =>
      (document, workspace.sessionNumber document number)).toList }

/-- Sessions work on hosts of their own document, and the register leads to sessions of the document
looked up. -/
structure Parted (workspace : Workspace) : Prop where
  hosted : ∀ (number : Nat) session, workspace.sessions[number]? = some session →
    ∃ host, workspace.hosts[session.host]? = some host ∧ host.document = session.document
  register : ∀ document number, workspace.registered? document = some number →
    ∃ session, workspace.sessions[number]? = some session ∧ session.document = document

variable {workspace next : Workspace} {document : DocumentId} {number place : Nat}
  {session after : Session} {host hostAfter : Host}

/-- The share has the sessions of the document under their numbers. -/
theorem share_session (present : workspace.sessions[number]? = some session)
    (own : session.document = document) :
    (workspace.share document).sessions[workspace.sessionNumber document number]? =
      some (workspace.seen document session) := by
  rw [share, List.getElem?_map]
  exact congrArg _ (getElem?_entriesOf present own)

/-- The share has the hosts of the document under their numbers. -/
theorem share_host (hosted : workspace.hosts[place]? = some host) (own : host.document = document) :
    (workspace.share document).hosts[workspace.hostNumber document place]? = some host :=
  getElem?_entriesOf hosted own

/-- The share has the document's entry of the register. -/
theorem share_registered (workspace : Workspace) (document : DocumentId) :
    (workspace.share document).registered? document =
      (workspace.registered? document).map (workspace.sessionNumber document) := by
  unfold share registered?
  cases workspace.registered.lookup document <;> simp

/-- What can be seen of a session depends on the documents of the hosts alone. -/
theorem seen_eq (documents : next.hosts.map Host.document = workspace.hosts.map Host.document) :
    next.seen document = workspace.seen document := by
  unfold Workspace.seen hostNumber numberAmong
  rw [documents]

/-- Two workspaces that differ in the time and in the connections still to be had have the same
shares. -/
theorem share_eq (settings : next.settings = workspace.settings)
    (directory : next.directory = workspace.directory) (refusal : next.refusal = workspace.refusal)
    (hosts : next.hosts = workspace.hosts) (sessions : next.sessions = workspace.sessions)
    (registered : next.registered = workspace.registered) :
    next.share document = workspace.share document := by
  simp only [share, settings, directory, refusal, hosts, sessions, registered?, registered,
    sessionNumber, seen_eq (congrArg (List.map Host.document) hosts)]

/-! ## Operations on a session or a host -/

/-- Another session of the same document in the place of one changes no number. -/
theorem sessionNumber_setSession (present : workspace.sessions[number]? = some session)
    (same : after.document = session.document) :
    (workspace.setSession number after).sessionNumber document =
      workspace.sessionNumber document := by
  funext other
  simp only [sessionNumber, numberAmong, setSession, map_set_same present same]

/-- Another session of the document in the place of one, with the same host, is seen in its
place. -/
theorem share_setSession_own (present : workspace.sessions[number]? = some session)
    (own : session.document = document) (same : after.document = session.document) :
    (workspace.setSession number after).share document =
      (workspace.share document).setSession (workspace.sessionNumber document number)
        (workspace.seen document after) := by
  have numbers : (workspace.setSession number after).sessionNumber document =
      workspace.sessionNumber document := sessionNumber_setSession present same
  have sessions : entriesOf Session.document document (workspace.setSession number after).sessions =
      (entriesOf Session.document document workspace.sessions).set
        (workspace.sessionNumber document number) after :=
    entriesOf_set_own present own (same.trans own)
  simp only [share, numbers, sessions, List.map_set]
  rfl

/-- Another session of another document in the place of one is not seen. -/
theorem share_setSession_other (present : workspace.sessions[number]? = some session)
    (foreign : session.document ≠ document) (same : after.document = session.document) :
    (workspace.setSession number after).share document = workspace.share document := by
  have numbers : (workspace.setSession number after).sessionNumber document =
      workspace.sessionNumber document := sessionNumber_setSession present same
  have sessions : entriesOf Session.document document (workspace.setSession number after).sessions =
      entriesOf Session.document document workspace.sessions :=
    entriesOf_set_other present foreign (same ▸ foreign)
  simp only [share, numbers, sessions]
  rfl

/-- Another host of the document in the place of one is seen in its place. -/
theorem share_setHost_own (hosted : workspace.hosts[place]? = some host)
    (own : host.document = document) (same : hostAfter.document = host.document) :
    (workspace.setHost place hostAfter).share document =
      (workspace.share document).setHost (workspace.hostNumber document place) hostAfter := by
  have seen := @seen_eq workspace (workspace.setHost place hostAfter) document
    (map_set_same hosted same)
  have hosts : entriesOf Host.document document (workspace.setHost place hostAfter).hosts =
      (entriesOf Host.document document workspace.hosts).set
        (workspace.hostNumber document place) hostAfter :=
    entriesOf_set_own hosted own (same.trans own)
  simp only [share, seen, hosts]
  rfl

/-- Another host of another document in the place of one is not seen. -/
theorem share_setHost_other (hosted : workspace.hosts[place]? = some host)
    (foreign : host.document ≠ document) (same : hostAfter.document = host.document) :
    (workspace.setHost place hostAfter).share document = workspace.share document := by
  have seen := @seen_eq workspace (workspace.setHost place hostAfter) document
    (map_set_same hosted same)
  have hosts : entriesOf Host.document document (workspace.setHost place hostAfter).hosts =
      entriesOf Host.document document workspace.hosts :=
    entriesOf_set_other hosted foreign (same ▸ foreign)
  simp only [share, seen, hosts]
  rfl

/-- A session of the same document and host in the place of another one leaves a workspace
parted. -/
theorem Parted.setSession (parted : workspace.Parted)
    (present : workspace.sessions[number]? = some session)
    (same : after.document = session.document) (home : after.host = session.host) :
    (workspace.setSession number after).Parted := by
  have placed := sessions_setSession present after
  constructor
  case hosted =>
    intro other acting there
    by_cases equal : number = other
    · subst equal
      obtain rfl : after = acting := Option.some.inj (placed.symm.trans there)
      rw [same, home]
      exact parted.hosted number session present
    · exact parted.hosted other acting ((sessions_setSession_other _ equal after).symm.trans there)
  case register =>
    intro document other entered
    obtain ⟨acting, there, named⟩ := parted.register document other entered
    by_cases equal : number = other
    · subst equal
      obtain rfl := Option.some.inj (present.symm.trans there)
      exact ⟨after, placed, same.trans named⟩
    · exact ⟨acting, (sessions_setSession_other _ equal after).trans there, named⟩

/-- A host of the same document in the place of another one leaves a workspace parted. -/
theorem Parted.setHost (parted : workspace.Parted) (hosted : workspace.hosts[place]? = some host)
    (same : hostAfter.document = host.document) :
    (workspace.setHost place hostAfter).Parted := by
  have inside := (List.getElem?_eq_some_iff.mp hosted).1
  refine ⟨fun number session there => ?_, parted.register⟩
  obtain ⟨home, found, named⟩ := parted.hosted number session there
  by_cases equal : place = session.host
  · obtain rfl : home = host := Option.some.inj (found.symm.trans (equal ▸ hosted))
    exact ⟨hostAfter, by simp [Workspace.setHost, ← equal, inside], same.trans named⟩
  · exact ⟨home, by simpa [Workspace.setHost, equal] using found, named⟩

/-- An operation that is seen on a session of the document is seen in the share. -/
theorem share_visible_own {operation : Session → Session} (visible : Session.Visible operation)
    (present : workspace.sessions[number]? = some session) (own : session.document = document) :
    (workspace.setSession number (operation session)).share document =
      (workspace.share document).setSession (workspace.sessionNumber document number)
        (operation (workspace.seen document session)) := by
  rw [share_setSession_own present own (visible.document session), Workspace.seen, Workspace.seen,
    visible.seen, visible.host]

/-- Such an operation leaves a workspace parted. -/
theorem Parted.visible {operation : Session → Session} (parted : workspace.Parted)
    (visible : Session.Visible operation) (present : workspace.sessions[number]? = some session) :
    (workspace.setSession number (operation session)).Parted :=
  parted.setSession present (visible.document session) (visible.host session)

/-! ## Operations that go by the register -/

/-- A session told of a change is told of it in the share. -/
theorem share_tellSession_own (present : workspace.sessions[number]? = some session)
    (own : session.document = document) (change : Change) :
    (workspace.tellSession number change).1.share document =
      ((workspace.share document).tellSession (workspace.sessionNumber document number)
        change).1 := by
  simp only [tellSession, present, share_session present own]
  exact share_visible_own (Session.visible_handleChange change) present own

/-- A change of the document is routed in the share as it is in the workspace. -/
theorem share_documentChanged_own (parted : workspace.Parted) (change : Change) :
    (workspace.documentChanged document change).1.share document =
      ((workspace.share document).documentChanged document change).1 := by
  simp only [documentChanged, share_registered]
  cases registered : workspace.registered? document with
  | none => rfl
  | some number =>
    obtain ⟨session, present, own⟩ := parted.register document number registered
    exact share_tellSession_own present own change

/-- A change of another document is not seen. -/
theorem share_documentChanged_other (parted : workspace.Parted) {other : DocumentId}
    (foreign : other ≠ document) (change : Change) :
    (workspace.documentChanged other change).1.share document = workspace.share document := by
  unfold documentChanged
  cases registered : workspace.registered? other with
  | none => rfl
  | some number =>
    obtain ⟨session, present, named⟩ := parted.register other number registered
    simp only [tellSession, present]
    exact share_setSession_other present (named ▸ foreign)
      ((Session.visible_handleChange change).document session)

/-- An edit of a host of the document is reported in the share as it is in the workspace. -/
theorem share_report_own (parted : workspace.Parted) (own : host.document = document)
    (change : Option Change) :
    (workspace.report host change).share document =
      (workspace.share document).report host change := by
  unfold report
  split
  · split
    · rw [own]
      exact share_documentChanged_own parted _
    · rfl
  · rfl

/-- An edit of a host of another document is reported without being seen. -/
theorem share_report_other (parted : workspace.Parted) (foreign : host.document ≠ document)
    (change : Option Change) :
    (workspace.report host change).share document = workspace.share document := by
  unfold report
  split
  · split
    · exact share_documentChanged_other parted foreign _
    · rfl
  · rfl

/-- A request sent for the document is sent in the share. -/
theorem share_send_own (parted : workspace.Parted) (request : Request) :
    (workspace.send document request).1.share document =
      ((workspace.share document).send document request).1 := by
  simp only [send, share_registered]
  cases registered : workspace.registered? document with
  | none => rfl
  | some number =>
    obtain ⟨session, present, own⟩ := parted.register document number registered
    simp only [Option.map_some, sendBy, present, share_session present own]
    exact share_visible_own (Session.visible_send request) present own

/-- A request sent for another document is not seen. -/
theorem share_send_other (parted : workspace.Parted) {other : DocumentId}
    (foreign : other ≠ document) (request : Request) :
    (workspace.send other request).1.share document = workspace.share document := by
  unfold send
  cases registered : workspace.registered? other with
  | none => rfl
  | some number =>
    obtain ⟨session, present, named⟩ := parted.register other number registered
    simp only [sendBy, present]
    exact share_setSession_other present (named ▸ foreign)
      ((Session.visible_send request).document session)

/-- Taking the document out of the register takes it out of the share's. -/
theorem share_forget_own (workspace : Workspace) (document : DocumentId) :
    (workspace.forget document).share document = (workspace.share document).forget document := by
  have gone : (workspace.forget document).registered? document = none := by
    rw [registered?_forget, if_pos rfl]
  have same : (workspace.forget document).seen document = workspace.seen document := rfl
  simp only [share, gone, same]
  cases workspace.registered? document <;> simp [forget]

/-- Taking another document out of the register is not seen. -/
theorem share_forget_other (workspace : Workspace) {other : DocumentId}
    (foreign : other ≠ document) :
    (workspace.forget other).share document = workspace.share document := by
  have kept : (workspace.forget other).registered? document = workspace.registered? document := by
    rw [registered?_forget, if_neg foreign.symm]
  simp only [share, kept]
  rfl

/-! ## Operations on the latest host of a document -/

/-- The latest host of a document is one of this document. -/
theorem hostOf?_named (latest : workspace.hostOf? document = some place) :
    ∃ host, workspace.hosts[place]? = some host ∧ host.document = document := by
  have named := List.find?_some latest
  simpa [Option.map_eq_some_iff] using named

/-- The latest host of a document among some hosts and one more. -/
theorem hostOf?_concat (workspace : Workspace) (hosts : List Host) (host : Host)
    (document : DocumentId) :
    ({ workspace with hosts := hosts ++ [host] } : Workspace).hostOf? document =
      if host.document = document then some hosts.length
      else ({ workspace with hosts } : Workspace).hostOf? document := by
  simp only [hostOf?, List.length_append, List.length_singleton, List.range_succ,
    List.reverse_append, List.reverse_singleton, List.singleton_append, List.find?_cons,
    List.getElem?_concat_length, Option.map_some, Option.some.injEq]
  by_cases own : host.document = document
  · simp [own]
  · simp only [own, decide_false, if_false]
    refine List.find?_congr fun other member => ?_
    have inside : other < hosts.length := List.mem_range.mp (List.mem_reverse.mp member)
    rw [List.getElem?_append_left inside]

/-- The share has the same latest host, under its number. -/
theorem share_hostOf? (workspace : Workspace) (document : DocumentId) :
    (workspace.share document).hostOf? document =
      (workspace.hostOf? document).map (workspace.hostNumber document) := by
  suffices among : ∀ hosts : List Host,
      ({ workspace with hosts := entriesOf Host.document document hosts } : Workspace).hostOf?
          document =
        (({ workspace with hosts } : Workspace).hostOf? document).map
          (numberAmong Host.document document hosts) from among workspace.hosts
  intro hosts
  induction hosts using List.reverseRecOn with
  | nil => rfl
  | append_singleton hosts host inductionHypothesis =>
    by_cases own : host.document = document
    · have grown : entriesOf Host.document document (hosts ++ [host]) =
          entriesOf Host.document document hosts ++ [host] := by
        simp [entriesOf, own]
      rw [grown, hostOf?_concat, hostOf?_concat, if_pos own, if_pos own, Option.map_some,
        numberAmong_split]
    · have same : entriesOf Host.document document (hosts ++ [host]) =
          entriesOf Host.document document hosts := by
        simp [entriesOf, own]
      rw [same, hostOf?_concat, if_neg own, inductionHypothesis]
      refine Option.map_congr fun place latest => ?_
      obtain ⟨found, there, -⟩ := hostOf?_named latest
      have inside := (List.getElem?_eq_some_iff.mp there).1
      exact (numberAmong_append _ _ (Nat.le_of_lt inside) [host]).symm

/-- An operation of the user on the document is seen in the share. -/
theorem share_edit_own (parted : workspace.Parted) (operation : Buffer.Operation) :
    (workspace.perform (.edit document operation)).share document =
      (workspace.share document).perform (.edit document operation) := by
  simp only [perform, edit, share_hostOf?]
  cases latest : workspace.hostOf? document with
  | none => rfl
  | some place =>
    obtain ⟨host, hosted, own⟩ := hostOf?_named latest
    simp only [Option.map_some, hosted, share_host hosted own]
    cases outcome : host.edit operation with
    | error fault => rfl
    | ok result =>
      obtain ⟨hostAfter, change⟩ := result
      have same : hostAfter.document = host.document := (Host.Turn.edits outcome).document
      simp only [Except.map]
      rw [share_report_own (parted.setHost hosted same) (same.trans own),
        share_setHost_own hosted own same]

/-- An operation of the user on another document is not seen. -/
theorem share_edit_other (parted : workspace.Parted) {other : DocumentId}
    (foreign : other ≠ document) (operation : Buffer.Operation) :
    (workspace.perform (.edit other operation)).share document = workspace.share document := by
  simp only [perform, edit]
  cases latest : workspace.hostOf? other with
  | none => rfl
  | some place =>
    obtain ⟨host, hosted, named⟩ := hostOf?_named latest
    simp only [hosted]
    cases outcome : host.edit operation with
    | error fault => rfl
    | ok result =>
      obtain ⟨hostAfter, change⟩ := result
      have same : hostAfter.document = host.document := (Host.Turn.edits outcome).document
      have elsewhere : host.document ≠ document := named ▸ foreign
      simp only [Except.map]
      rw [share_report_other (parted.setHost hosted same) (same ▸ elsewhere),
        share_setHost_other hosted elsewhere same]

/-- Adjusting the latest host of the document is seen in the share. -/
theorem share_adjustHost_own (workspace : Workspace) (document : DocumentId) {adjust : Host → Host}
    (keeps : ∀ host, (adjust host).document = host.document) :
    (workspace.adjustHost document adjust).share document =
      (workspace.share document).adjustHost document adjust := by
  simp only [adjustHost, share_hostOf?]
  cases latest : workspace.hostOf? document with
  | none => rfl
  | some place =>
    obtain ⟨host, hosted, own⟩ := hostOf?_named latest
    simp only [Option.map_some, List.modify_eq_set_getElem?, hosted, share_host hosted own]
    exact share_setHost_own hosted own (keeps host)

/-- Adjusting the latest host of another document is not seen. -/
theorem share_adjustHost_other (workspace : Workspace) {other : DocumentId}
    (foreign : other ≠ document) {adjust : Host → Host}
    (keeps : ∀ host, (adjust host).document = host.document) :
    (workspace.adjustHost other adjust).share document = workspace.share document := by
  simp only [adjustHost]
  cases latest : workspace.hostOf? other with
  | none => rfl
  | some place =>
    obtain ⟨host, hosted, named⟩ := hostOf?_named latest
    simp only [List.modify_eq_set_getElem?, hosted]
    exact share_setHost_other hosted (named ▸ foreign) (keeps host)

/-! ## Further hosts and sessions -/

/-- A further host changes nothing about what can be seen of the sessions. -/
theorem seen_openDocument (parted : workspace.Parted)
    (member : session ∈ entriesOf Session.document document workspace.sessions) (host : Host) :
    (workspace.openDocument host).seen document session = workspace.seen document session := by
  obtain ⟨number, there⟩ := List.mem_iff_getElem?.mp (List.mem_of_mem_filter member)
  obtain ⟨home, hosted, -⟩ := parted.hosted number session there
  have inside := (List.getElem?_eq_some_iff.mp hosted).1
  exact congrArg session.seenAt (numberAmong_append _ _ (Nat.le_of_lt inside) [host])

/-- The share of a workspace in which a document has been opened has the hosts of the document among
those there and the new one. -/
theorem share_openDocument (parted : workspace.Parted) (document : DocumentId) (host : Host) :
    (workspace.openDocument host).share document =
      { workspace.share document with
        hosts := entriesOf Host.document document (workspace.hosts ++ [host]) } := by
  have sessions := List.map_congr_left fun session
      (member : session ∈ entriesOf Session.document document workspace.sessions) =>
    seen_openDocument parted member host
  simp only [share]
  rw [show (workspace.openDocument host).sessions = workspace.sessions from rfl, sessions]
  rfl

/-- A document that is opened is opened in its share. -/
theorem share_openDocument_own (parted : workspace.Parted) (own : host.document = document) :
    (workspace.openDocument host).share document =
      (workspace.share document).openDocument host := by
  have hosts : entriesOf Host.document document (workspace.hosts ++ [host]) =
      entriesOf Host.document document workspace.hosts ++ [host] := by
    simp [entriesOf, own]
  rw [share_openDocument parted, hosts]
  rfl

/-- Another document that is opened is not seen. -/
theorem share_openDocument_other (parted : workspace.Parted) (foreign : host.document ≠ document) :
    (workspace.openDocument host).share document = workspace.share document := by
  have hosts : entriesOf Host.document document (workspace.hosts ++ [host]) =
      entriesOf Host.document document workspace.hosts := by
    simp [entriesOf, foreign]
  rw [share_openDocument parted, hosts]
  rfl

/-- A workspace without what is common to all documents and says nothing about any of them. -/
def timeless (workspace : Workspace) : Workspace :=
  { workspace with
    clock := 0
    lines := []
    contacted := []
    sessions := workspace.sessions.map fun session => session.seenAt session.host }

/-- A share is timeless. -/
theorem share_timeless (workspace : Workspace) (document : DocumentId) :
    (workspace.share document).timeless = workspace.share document := by
  have sessions : (workspace.share document).timeless.sessions =
      (workspace.share document).sessions := by
    simp only [timeless, share, List.map_map]
    refine List.map_congr_left fun session _ => ?_
    exact Session.seenAt_seenAt session _
  exact congrArg (fun sessions => { workspace.share document with sessions }) sessions

/-- Another session in the place of one is another one without the time. -/
theorem timeless_setSession (workspace : Workspace) (number : Nat) (session : Session) :
    (workspace.setSession number session).timeless =
      workspace.timeless.setSession number (session.seenAt session.host) := by
  simp only [timeless, setSession, List.map_set]

/-- A visible operation is the same without the time. -/
theorem timeless_alter {operation : Session → Session} (visible : Session.Visible operation)
    (workspace : Workspace) (number : Nat) :
    (workspace.alter number operation).timeless = workspace.timeless.alter number operation := by
  have timeless_session : workspace.timeless.sessions[number]? =
      workspace.sessions[number]?.map fun session => session.seenAt session.host :=
    List.getElem?_map
  cases present : workspace.sessions[number]? with
  | none =>
    rw [present] at timeless_session
    rw [alter_absent present, alter_absent timeless_session]
  | some session =>
    rw [present] at timeless_session
    rw [alter_present present, alter_present timeless_session, timeless_setSession, visible.seen,
      visible.host]

/-- So is a report of an edit. -/
theorem timeless_report (workspace : Workspace) (host : Host) (change : Option Change) :
    (workspace.report host change).timeless = workspace.timeless.report host change := by
  unfold report
  split
  · split
    · simp only [documentChanged, registered?, timeless]
      split
      · rfl
      · rw [tellSession_eq_alter, tellSession_eq_alter]
        exact timeless_alter (Session.visible_handleChange _) workspace _
    · rfl
  · rfl

/-- The share of a workspace in which the document has just been connected. -/
theorem share_placed_own (workspace : Workspace) (document : DocumentId) (host : Nat)
    (language : Text) (line : Line) (lines : List Line) :
    (workspace.placed document host language line lines).share document =
      ((workspace.share document).placed document (workspace.hostNumber document host) language
        line []).timeless := by
  have opened : (workspace.opened document host language line).document = document := rfl
  have number : (workspace.placed document host language line lines).sessionNumber document
      workspace.sessions.length = (workspace.share document).sessions.length := by
    rw [sessionNumber, placed_sessions, numberAmong_split, share, List.length_map]
  have sessions : entriesOf Session.document document
      (workspace.placed document host language line lines).sessions =
      entriesOf Session.document document workspace.sessions ++
        [workspace.opened document host language line] := by
    simp [entriesOf, opened]
  have registered : (workspace.placed document host language line lines).registered? document =
      some workspace.sessions.length := by
    rw [placed, registered?_register, if_pos rfl]
  have entry : ((workspace.share document).placed document (workspace.hostNumber document host)
      language line []).registered = [(document, (workspace.share document).sessions.length)] := by
    have others : ((workspace.share document).forget document).registered = [] := by
      simp only [share, forget]
      cases workspace.registered? document <;> simp
    exact congrArg (· ++ [(document, (workspace.share document).sessions.length)]) others
  have before := congrArg Workspace.sessions (share_timeless workspace document)
  rw [share, registered, Option.map_some, number, sessions, timeless, entry, placed_sessions,
    Workspace.mk.injEq]
  refine ⟨rfl, rfl, rfl, rfl, rfl, rfl, rfl, ?_, rfl⟩
  rw [List.map_append, List.map_append]
  exact congrArg₂ (· ++ ·) before.symm rfl

/-- The share of a document that another one has just been connected beside. -/
theorem share_placed_other (workspace : Workspace) {other : DocumentId} (foreign : other ≠ document)
    (host : Nat) (language : Text) (line : Line) (lines : List Line)
    (inside : ∀ number, workspace.registered? document = some number →
      number < workspace.sessions.length) :
    (workspace.placed other host language line lines).share document = workspace.share document := by
  have opened : (workspace.opened other host language line).document = other := rfl
  have sessions : entriesOf Session.document document
      (workspace.placed other host language line lines).sessions =
      entriesOf Session.document document workspace.sessions := by
    simp [entriesOf, opened, foreign]
  have registered : (workspace.placed other host language line lines).registered? document =
      workspace.registered? document := by
    rw [placed, registered?_register, if_neg foreign.symm]
    rfl
  have numbers : (workspace.registered? document).map (fun number =>
      (document, (workspace.placed other host language line lines).sessionNumber document number)) =
      (workspace.registered? document).map (fun number =>
        (document, workspace.sessionNumber document number)) := by
    refine Option.map_congr fun number entered => ?_
    rw [sessionNumber, placed_sessions, numberAmong_append _ _ (Nat.le_of_lt (inside number entered))]
    rfl
  simp only [share, registered, numbers, sessions]
  rfl

/-- Connecting the document is connecting it in its share, on the connection that is to be had. -/
theorem share_activate_own (parted : workspace.Parted) {language : Text} {line : Line}
    {lines : List Line} (host : Nat) (usable : Request.start? language = .ok (.start language))
    (given : workspace.lines = line :: lines) :
    (workspace.activate document host language).1.share document =
      ((({ workspace.share document with lines := [line] } : Workspace).activate document
        (workspace.hostNumber document host) language).1).timeless := by
  have shared : ({ workspace.share document with lines := [line] } : Workspace).registered? document =
      (workspace.registered? document).map (workspace.sessionNumber document) :=
    share_registered workspace document
  have placed := share_placed_own workspace document host language line lines
  rw [activate_eq document host usable given, activate_eq document _ usable rfl, shared]
  cases registered : workspace.registered? document with
  | none => exact placed
  | some number =>
    obtain ⟨session, present, own⟩ := parted.register document number registered
    have inside := (List.getElem?_eq_some_iff.mp present).1
    have there : (workspace.placed document host language line lines).sessions[number]? =
        some session := by
      rw [placed_sessions, List.getElem?_append_left inside, present]
    have number_kept : (workspace.placed document host language line lines).sessionNumber document
        number = workspace.sessionNumber document number := by
      rw [sessionNumber, placed_sessions]
      exact numberAmong_append _ _ (Nat.le_of_lt inside) _
    have cancelled : ((workspace.placed document host language line lines).cancel number).share
        document = ((workspace.placed document host language line lines).share document).cancel
          (workspace.sessionNumber document number) := by
      have seen := share_session there own
      rw [number_kept] at seen
      rw [cancel_eq_alter, cancel_eq_alter, alter_present there, alter_present seen, ← number_kept]
      exact share_visible_own Session.visible_cancel there own
    rw [placed] at cancelled
    exact cancelled.trans (timeless_alter Session.visible_cancel _ _).symm

/-- A document that cannot be connected leaves every share as it is. -/
theorem share_activate_refused (workspace : Workspace) (other : DocumentId) (host : Nat)
    (language : Text) :
    (∀ document, (workspace.activate other host language).1.share document =
        workspace.share document) ∨
      ∃ line lines, Request.start? language = .ok (.start language) ∧
        workspace.lines = line :: lines := by
  by_cases usable : language = [] ∨ Char.ofNat 0 ∈ language
  · have refused : Request.start? language = .error (.unusableLanguage language) := if_pos usable
    exact .inl fun document => by simp only [activate, refused]
  · have made : Request.start? language = .ok (.start language) := if_neg usable
    cases given : workspace.lines with
    | nil =>
      refine .inl fun document => ?_
      simp only [activate, made, connect, given]
      exact share_eq rfl rfl rfl rfl rfl rfl
    | cons line lines => exact .inr ⟨line, lines, made, rfl⟩

/-- Connecting another document, or trying to, is not seen. -/
theorem share_activate_other (parted : workspace.Parted) {other : DocumentId}
    (foreign : other ≠ document) (host : Nat) (language : Text) :
    (workspace.activate other host language).1.share document = workspace.share document := by
  rcases share_activate_refused workspace other host language with
    same | ⟨line, lines, usable, given⟩
  · exact same document
  · have inside : ∀ number, workspace.registered? document = some number →
        number < workspace.sessions.length := by
      intro number entered
      obtain ⟨session, present, -⟩ := parted.register document number entered
      exact (List.getElem?_eq_some_iff.mp present).1
    have placed := share_placed_other workspace foreign host language line lines inside
    rw [activate_eq other host usable given]
    cases registered : workspace.registered? other with
    | none => exact placed
    | some number =>
      obtain ⟨session, present, named⟩ := parted.register other number registered
      have there : (workspace.placed other host language line lines).sessions[number]? =
          some session := by
        rw [placed_sessions, List.getElem?_append_left (List.getElem?_eq_some_iff.mp present).1,
          present]
      have cancelled := share_setSession_other there (named ▸ foreign)
        (Session.visible_cancel.document session)
      rw [← alter_present there] at cancelled
      exact cancelled.trans placed

/-! ## Steps of the actors -/

/-- A step that an actor of a session can take is what its move comes to. -/
theorem Acted.act {actor : Actor} (step : workspace.Acted number session actor next)
    (present : workspace.sessions[number]? = some session) :
    workspace.act number actor = some next := by
  cases step with
  | intake stepped => simp [Workspace.act, present, stepped]
  | outlet stepped => simp [Workspace.act, present, stepped]
  | worker hosted stepped => simp [Workspace.act, present, hosted, stepped]

/-- A step of an actor of the document is one in the share. -/
theorem share_act_own {actor : Actor} (parted : workspace.Parted)
    (present : workspace.sessions[number]? = some session) (own : session.document = document)
    (untimed : session.Untimed) (acted : workspace.act number actor = some next) :
    ∃ shared, (workspace.share document).act (workspace.sessionNumber document number) actor =
      some shared ∧ next.share document = shared.timeless := by
  have there := share_session present own
  have ofShare {shared : Workspace} (same : next.share document = shared) :
      next.share document = shared.timeless := by
    rw [← same, share_timeless]
  have step := act_acted_by present acted
  cases step with
  | @intake after stepped =>
    have stays : after.document = session.document ∧ after.host = session.host := by
      obtain ⟨intake, -, rfl⟩ := Option.map_eq_some_iff.mp stepped
      exact ⟨rfl, rfl⟩
    have seen : (workspace.seen document session).stepIntake = some (workspace.seen document after) := by
      rw [Workspace.seen, Session.stepIntake_seenAt, stepped, Workspace.seen, stays.2]
      rfl
    exact ⟨_, (Acted.intake seen).act there, ofShare (share_setSession_own present own stays.1)⟩
  | @outlet after stepped =>
    have stays : after.document = session.document ∧ after.host = session.host := by
      obtain ⟨outlet, -, rfl⟩ := Option.map_eq_some_iff.mp stepped
      exact ⟨rfl, rfl⟩
    have seen : (workspace.seen document session).stepOutlet = some (workspace.seen document after) := by
      rw [Workspace.seen, Session.stepOutlet_seenAt, stepped, Workspace.seen, stays.2]
      rfl
    exact ⟨_, (Acted.outlet seen).act there, ofShare (share_setSession_own present own stays.1)⟩
  | @worker host hostAfter after change hosted stepped =>
    have keeps := (Session.stepWorker_cases stepped).hostTurn.document
    have stays := (Session.Turn.worked stepped).keeps
    obtain ⟨home, found, named⟩ := parted.hosted number session present
    obtain rfl := Option.some.inj (hosted.symm.trans found)
    have ownHost : host.document = document := named.trans own
    obtain ⟨seen, seenStepped, same⟩ := Session.stepWorker_seenAt untimed stepped
      (workspace.hostNumber document session.host)
    have home : seen.host = (workspace.seen document session).host :=
      (Session.stepWorker_cases seenStepped).kept.1
    have seenAfter : seen.seenAt seen.host = workspace.seen document after := by
      simp only [home, Workspace.seen, stays.place]
      exact same
    have hostedThere : (workspace.share document).hosts[(workspace.seen document session).host]? =
        some host := share_host hosted ownHost
    refine ⟨_, (Acted.worker hostedThere seenStepped).act there, ?_⟩
    have partedAfter := parted.setSession present stays.document stays.place
    have hostedAfter : (workspace.setSession number after).hosts[session.host]? = some host := hosted
    rw [share_report_own (partedAfter.setHost hostedAfter keeps) (keeps.trans ownHost),
      share_setHost_own hostedAfter ownHost keeps, share_setSession_own present own stays.document,
      timeless_report]
    have placed := timeless_setSession (workspace.share document)
      (workspace.sessionNumber document number) seen
    rw [share_timeless, seenAfter] at placed
    rw [← placed]
    rfl

/-- A step of an actor of another document is not seen. -/
theorem share_act_other {actor : Actor} (parted : workspace.Parted)
    (present : workspace.sessions[number]? = some session) (foreign : session.document ≠ document)
    (acted : workspace.act number actor = some next) :
    next.share document = workspace.share document := by
  have step := act_acted_by present acted
  cases step with
  | intake stepped =>
    obtain ⟨intake, -, rfl⟩ := Option.map_eq_some_iff.mp stepped
    exact share_setSession_other present foreign rfl
  | outlet stepped =>
    obtain ⟨outlet, -, rfl⟩ := Option.map_eq_some_iff.mp stepped
    exact share_setSession_other present foreign rfl
  | @worker host hostAfter after change hosted stepped =>
    have keeps := (Session.stepWorker_cases stepped).hostTurn.document
    have stays := (Session.Turn.worked stepped).keeps
    obtain ⟨home, found, named⟩ := parted.hosted number session present
    obtain rfl := Option.some.inj (hosted.symm.trans found)
    have foreignHost : host.document ≠ document := named ▸ foreign
    have partedAfter := parted.setSession present stays.document stays.place
    have hostedAfter : (workspace.setSession number after).hosts[session.host]? = some host := hosted
    rw [share_report_other (partedAfter.setHost hostedAfter keeps) (keeps ▸ foreignHost),
      share_setHost_other hostedAfter foreignHost keeps,
      share_setSession_other present foreign stays.document]

end Workspace

end Typeahead
