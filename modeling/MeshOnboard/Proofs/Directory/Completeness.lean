import MeshOnboard.Proofs.Directory.Retention
import MeshOnboard.Proofs.Directory.Survey
import Mathlib

/-!
# Completeness of what is published

The questions that a call has put to the directory are those of its rebuild with the answers that
the call was given (`Candid.transition`).  Hence what the cache holds was read off a complete
survey: every listing in it was walked up to a page that names no higher page.  Such a page may
still name another one, which is then not fetched.
-/

namespace MeshOnboard

open Directory

/-! ### Questions in a history -/

namespace SyncLog

/-- The question that a call puts to the directory. -/
def asked? (call : Nat) : SyncStep × SyncEvent → Option DirectoryQuery
  | (_, .asked c q) => if c = call then some q else none
  | _ => none

/-- The questions that a call has put to the directory, in order. -/
def questionsOf (log : SyncLog) (call : Nat) : List DirectoryQuery := log.filterMap (asked? call)

/-- The questions of a call that were answered, with their answers. -/
def exchanges (log : SyncLog) (call : Nat) : List DirectoryExchange :=
  List.zipWith (fun q answer => ⟨q, answer q⟩) (log.questionsOf call) (log.answersTo call)

theorem questionsOf_concat (log : SyncLog) (e : SyncStep × SyncEvent) (call : Nat) :
  questionsOf (log ++ [e]) call = questionsOf log call ++ (asked? call e).toList
  := by
  simp only [questionsOf, List.filterMap_append]
  cases h : asked? call e
  · simp [h]
  · simp [h]

end SyncLog

namespace Syncer

/-- A call that does not wait does not wait when another call has left either. -/
theorem find?_leave_of_none {s : Syncer} {call c : Nat} (gone : s.waiting.find? call = none) :
  (s.leave c).waiting.find? call = none
  := by
  simp [leave, Table.find?_erase, gone]

/-- A transition leaves a call alone, or begins its rebuild, or lets it hear an answer that is
followed by the next question, if there is one. -/
theorem Transition.speech {s s' : Syncer} {a : SyncStep} {e : SyncEvent} (t : s.Transition a s' e)
    (call : Nat) :
  (SyncLog.asked? call (a, e) = none ∧ SyncLog.answerTo? call (a, e) = none ∧
      (s.waiting.find? call = none → s'.waiting.find? call = none)) ∨
    (call = s.started ∧ call < s'.started ∧ SyncLog.answerTo? call (a, e) = none ∧
      SyncLog.asked? call (a, e) =
        (rebuild s.settings.organization s.settings.pageSize).question?) ∨
    ∃ r answer, s.waiting.find? call = some r ∧ SyncLog.answerTo? call (a, e) = some answer ∧
      SyncLog.asked? call (a, e) = (r.next (answer r.question)).question?
  := by
  cases t with
  | turnedAway now held =>
    left
    exact ⟨rfl, rfl, id⟩
  | spared now free young =>
    left
    exact ⟨rfl, rfl, find?_leave_of_none⟩
  | opened r free stale whole =>
    by_cases same : s.started = call
    · subst same
      right; left
      rw [← whole]
      exact ⟨rfl, Nat.lt_succ_self _, rfl, if_pos rfl⟩
    · left
      exact ⟨if_neg same, rfl, by simp [Table.find?_put, Ne.symm same]⟩
  | continued c answer elapsed r r' waits since rest =>
    by_cases same : c = call
    · subst same
      right; right
      exact ⟨r, answer, waits, if_pos rfl, by rw [rest]; exact if_pos rfl⟩
    · left
      exact ⟨if_neg same, if_neg same, by simp [Table.find?_put, Ne.symm same]⟩
  | failed c answer elapsed r cause waits rest =>
    by_cases same : c = call
    · subst same
      right; right
      exact ⟨r, answer, waits, if_pos rfl, by rw [rest]; rfl⟩
    · left
      exact ⟨rfl, if_neg same, find?_leave_of_none⟩
  | completed c answer elapsed r roster waits rest =>
    by_cases same : c = call
    · subst same
      right; right
      exact ⟨r, answer, waits, if_pos rfl, by rw [rest]; rfl⟩
    · left
      exact ⟨rfl, if_neg same, find?_leave_of_none (s := (s.write (.replace roster _)).write .mark)⟩
  | givenUp c r waits =>
    left
    exact ⟨rfl, rfl, find?_leave_of_none⟩
  | unanswered c answer elapsed absent =>
    left
    exact ⟨rfl, rfl, id⟩
  | missed c absent =>
    left
    exact ⟨rfl, rfl, id⟩
  | lookedUp login =>
    left
    exact ⟨rfl, rfl, id⟩

/-- Every call has put the questions of its rebuild with the answers it was given, unless it never
began one. -/
structure Candid (log : SyncLog) (s : Syncer) : Prop where
  /-- Calls that are still to come have asked nothing. -/
  silent : ∀ call, s.started ≤ call → log.questionsOf call = []
  spoken : ∀ call,
    log.questionsOf call =
        (rebuild s.settings.organization s.settings.pageSize).questions (log.answersTo call) ∨
      s.waiting.find? call = none ∧ log.questionsOf call = [] ∧ log.answersTo call = []

/-- Calls put the questions that follow from the answers that they are given. -/
theorem Candid.transition {log : SyncLog} {s s' : Syncer} {a : SyncStep} {e : SyncEvent}
    (h : Candid log s) (hf : Faithful log s) (t : s.Transition a s' e) :
  Candid (log ++ [(a, e)]) s'
  where
  silent call later := by
    have count := t.started_eq
    rw [SyncLog.questionsOf_concat, h.silent call (by omega)]
    obtain ⟨quiet, -⟩ | ⟨-, begun, -⟩ | ⟨r, -, waits, -⟩ := t.speech call
    · rw [quiet]
      rfl
    · omega
    · have := hf.lt_started waits
      omega
  spoken call := by
    rw [t.settings_eq, SyncLog.questionsOf_concat, SyncLog.answersTo_concat]
    obtain ⟨quiet, unheard, gone⟩ | ⟨rfl, -, unheard, begun⟩ | ⟨r, answer, waits, heard, asks⟩ :=
      t.speech call
    · rw [quiet, unheard]
      simp only [Option.toList_none, List.append_nil]
      apply (h.spoken call).imp_right
      rintro ⟨nobody, nothing⟩
      exact ⟨gone nobody, nothing⟩
    · left
      rw [begun, unheard, h.silent _ le_rfl, hf.unheard _ le_rfl]
      simp [Dialogue.questions]
    · left
      rw [asks, heard]
      obtain spoken | ⟨nobody, -⟩ := h.spoken call
      · rw [spoken, Option.toList_some, Dialogue.questions_concat (hf.onWay call r waits)]
      · simp [nobody] at waits

theorem candid_run (settings : SyncSettings) (cache : Cache) (latch : Latch)
    (as : List SyncStep) :
  Candid ((idle settings cache latch).run as).2 ((idle settings cache latch).run as).1
  := by
  apply run_induction_under (J := Faithful) (P := Candid)
  · apply faithful_run settings cache latch []
  · intro log s a s' e hf t
    apply hf.transition t
  · constructor <;> simp [idle, SyncLog.questionsOf, SyncLog.answersTo]
  · intro log s a s' e hf h t
    apply h.transition hf t

/-- A call whose answers lead its rebuild to an end has put the questions of that rebuild. -/
theorem Candid.questionsOf_of_done {log : SyncLog} {s : Syncer} (h : Candid log s) {call : Nat}
    {result : Except SyncError Roster}
    (ended : (rebuild s.settings.organization s.settings.pageSize).follow (log.answersTo call) =
      .done result) :
  log.questionsOf call =
    (rebuild s.settings.organization s.settings.pageSize).questions (log.answersTo call)
  := by
  obtain spoken | ⟨-, -, unheard⟩ := h.spoken call
  · apply spoken
  · obtain ⟨next, begins⟩ := rebuild_eq_ask s.settings.organization s.settings.pageSize
    simp [unheard, begins] at ended

/-- After any run the cache holds the roster of a complete survey, which is what the last call that
ended with a new roster has asked and was answered; without such a call it holds the roster of the
beginning.  Every listing in a complete survey was walked from page one along the pages that the
pages named, up to a page that names no page with a higher number. -/
theorem publishes_complete_survey (settings : SyncSettings) (cache : Cache) (latch : Latch)
    (steps : List SyncStep) :
  let s := ((idle settings cache latch).run steps).1
  let log : SyncLog := ((idle settings cache latch).run steps).2
  match log.lastSynced? with
  | none => s.cache.roster = cache.roster
  | some call =>
    ∃ survey : Survey, survey.Complete ∧
      log.questionsOf call =
        (survey.exchanges settings.organization settings.pageSize).map Sigma.fst ∧
      log.exchanges call = survey.exchanges settings.organization settings.pageSize ∧
      s.cache.roster = survey.roster
  := by
  intro s log
  have current : Current cache.roster log s := current_run settings cache latch steps
  have candid : Candid log s := candid_run settings cache latch steps
  have hsettings : s.settings = settings := settings_run settings cache latch steps
  unfold Current at current
  split
  · next last => simpa only [last] using current
  · next call last =>
    simp only [last] at current
    have asked := candid.questionsOf_of_done current
    rw [hsettings] at current asked
    obtain ⟨survey, complete, said, read⟩ := exists_of_rebuild (Dialogue.course_exchanges current)
    refine ⟨survey, complete, ?_, ?_, read⟩
    · rw [asked, Dialogue.questions_of_done current, said]
    · rw [SyncLog.exchanges, asked, Dialogue.zipWith_questions, said]

/-! ### A listing that turns back -/

/-- A directory that lists teams on the pages one, three and two, in this order. -/
def detour : (q : DirectoryQuery) → q.Reply
  | .teams _ page =>
    .ok (if page.number = 1 then ⟨[⟨1, "core"⟩], some 3⟩
      else if page.number = 3 then ⟨[⟨3, "web"⟩], some 2⟩
      else ⟨[⟨2, "ops"⟩], none⟩)
  | .members _ _ => .ok ⟨["ada"], none⟩

/-- A listing whose last fetched page names a page with a lower number is published without it. -/
theorem publishes_without_lower_page :
  let after := (new ⟨"acme", 500, 3600⟩ (.new 100000)).run
    (.start 100000 :: List.replicate 4 (.resume 0 detour 0))
  let log : SyncLog := after.2
  log.lastSynced? = some 0 ∧
  log.exchanges 0 =
    [⟨.teams "acme" ⟨1, 500⟩, .ok ⟨[⟨1, "core"⟩], some 3⟩⟩,
      ⟨.members ⟨1, "core"⟩ ⟨1, 500⟩, .ok ⟨["ada"], none⟩⟩,
      ⟨.teams "acme" ⟨3, 500⟩, .ok ⟨[⟨3, "web"⟩], some 2⟩⟩,
      ⟨.members ⟨3, "web"⟩ ⟨1, 500⟩, .ok ⟨["ada"], none⟩⟩] ∧
  log.questionsOf 0 = (log.exchanges 0).map Sigma.fst ∧
  after.1.cache.roster.keys = ["core", "web"]
  := by
  cbv

end Syncer

end MeshOnboard
