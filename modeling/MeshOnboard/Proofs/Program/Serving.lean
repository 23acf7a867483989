import MeshOnboard.Program.ServerRun
import MeshOnboard.Proofs.Directory.Retention
import Mathlib

/-!
# What a server serves

A server is followed through the history of its synchronizations, `ServerRun.syncLog`, and between
the writes of an event, `ServerRun.passes`.  Latch and cache tell of the same thing, that a call has
ended with a new roster (`Opened.transition`), and the cache is told first
(`Syncer.onWay_of_mem_passes`).  A server that listens has seen its latch open.  Therefore whoever
is answered is answered from the roster of the last such call, also if the server goes on while the
token is verified.
-/

namespace MeshOnboard

namespace ServerRun

/-! ### The history of a server -/

/-- What an event does to the synchronizations of a server, if anything. -/
def syncStep? (s : ServerRun) : ServerEvent → Option SyncStep
  | .tick now => some (.start now)
  | .directoryAnswers answer elapsed =>
    s.syncer.current?.map fun call => .resume call answer elapsed
  | .wake => none
  | .called .. => none

/-- What an event does to the synchronizations of a server, with what it leads to. -/
def syncEntries (s : ServerRun) (e : ServerEvent) : SyncLog :=
  (s.syncStep? e).toList.map fun a => (a, (s.syncer.step a).2)

/-- The history of the synchronizations of a server. -/
def syncLog (s : ServerRun) : List ServerEvent → SyncLog
  | [] => []
  | e :: es => s.syncEntries e ++ (s.step e).1.syncLog es

/-- An event does to the synchronizations what its entries say. -/
theorem syncer_step (s : ServerRun) (e : ServerEvent) :
  s.syncer.run ((s.syncEntries e).map Prod.fst) = ((s.step e).1.syncer, s.syncEntries e)
  := by
  cases e with
  | tick now => rfl
  | directoryAnswers answer elapsed =>
    simp only [syncEntries, syncStep?, step, Syncer.resume]
    cases s.syncer.current? with
    | none => rfl
    | some call => rfl
  | wake => rfl
  | called call partners => rfl

/-- A server does to its synchronizations what their history says. -/
theorem syncer_run (s : ServerRun) (es : List ServerEvent) :
  s.syncer.run ((s.syncLog es).map Prod.fst) = ((s.run es).1.syncer, s.syncLog es)
  := by
  induction es generalizing s with
  | nil => rfl
  | cons e es ih =>
    rw [syncLog, List.map_append, Syncer.run_append, syncer_step, ih]
    rfl

theorem run_append (s : ServerRun) (es later : List ServerEvent) :
  (s.run (es ++ later)).1 = ((s.run es).1.run later).1
  := by
  induction es generalizing s with
  | nil => rfl
  | cons e es ih => apply ih

theorem syncLog_append (s : ServerRun) (es later : List ServerEvent) :
  s.syncLog (es ++ later) = s.syncLog es ++ (s.run es).1.syncLog later
  := by
  induction es generalizing s with
  | nil => rfl
  | cons e es ih =>
    rw [List.cons_append, syncLog, ih, syncLog, List.append_assoc]
    rfl

/-! ### Between writes -/

/-- The states that an event leads through: the one before it, the one after it, and in between the
ones after each write to what the synchronizations share. -/
def passes (s : ServerRun) (e : ServerEvent) : List ServerRun :=
  match s.syncStep? e with
  | none => [s, (s.step e).1]
  | some a => (s.syncer.passes (s.syncer.move a)).map fun x => { s with syncer := x }

theorem head?_passes (s : ServerRun) (e : ServerEvent) :
  (s.passes e).head? = some s
  := by
  unfold passes
  split
  · rfl
  · rw [List.head?_map, Syncer.head?_passes]
    rfl

/-- An event that does something to the synchronizations does nothing else. -/
theorem step_of_syncStep? {s : ServerRun} {e : ServerEvent} {a : SyncStep}
    (h : s.syncStep? e = some a) :
  (s.step e).1 = { s with syncer := (s.syncer.step a).1 }
  := by
  cases e with
  | tick now =>
    obtain rfl := Option.some.inj h
    rfl
  | directoryAnswers answer elapsed =>
    obtain ⟨call, waits, rfl⟩ := Option.map_eq_some_iff.1 h
    simp only [step, Syncer.resume, waits]
  | wake => contradiction
  | called call partners => contradiction

theorem getLast?_passes (s : ServerRun) (e : ServerEvent) :
  (s.passes e).getLast? = some (s.step e).1
  := by
  unfold passes
  split
  · rfl
  · next a h =>
    rw [List.getLast?_map, Syncer.getLast?_passes, step_of_syncStep? h]
    rfl

/-- An event that does nothing to the synchronizations at most makes a server listen that has seen
its latch open. -/
theorem step_of_syncStep?_eq_none {s : ServerRun} {e : ServerEvent} (h : s.syncStep? e = none) :
  (s.step e).1.service = s.service ∧ (s.step e).1.syncer = s.syncer ∧
    ((s.step e).1.listening = true → s.listening = true ∨ s.syncer.latch.isOpen = true)
  := by
  cases e with
  | tick now => contradiction
  | directoryAnswers answer elapsed =>
    have nobody : s.syncer.current? = none := Option.map_eq_none_iff.1 h
    have still : (s.step (.directoryAnswers answer elapsed)).1 = s := by
      simp only [step, Syncer.resume, nobody]
    rw [still]
    exact ⟨rfl, rfl, .inl⟩
  | wake => exact ⟨rfl, rfl, Bool.or_eq_true_iff.1⟩
  | called call partners => exact ⟨rfl, rfl, .inl⟩

/-- On the way through an event the cache changes before the latch, and nobody listens who has not
seen the latch open. -/
theorem onWay_of_mem_passes {s m : ServerRun} {e : ServerEvent} (h : m ∈ s.passes e) :
  m.service = s.service ∧ s.syncer.OnWay (s.step e).1.syncer m.syncer ∧
    (m.listening = true → s.listening = true ∨ s.syncer.latch.isOpen = true)
  := by
  unfold passes at h
  split at h
  · next none =>
    obtain ⟨service, syncer, listens⟩ := step_of_syncStep?_eq_none none
    simp only [List.mem_cons, List.not_mem_nil, or_false] at h
    rcases h with rfl | rfl
    · exact ⟨rfl, .before rfl rfl, .inl⟩
    · exact ⟨service, .before (congrArg _ syncer) (congrArg _ syncer), listens⟩
  · next a some =>
    obtain ⟨x, hx, rfl⟩ := List.mem_map.1 h
    rw [step_of_syncStep? some]
    exact ⟨rfl, Syncer.onWay_of_mem_passes hx, .inl⟩

/-! ### Calls -/

/-- The answers behind a certificate from a server that goes on meanwhile: some events happen until
the token is verified, and others until the certificate is signed. -/
def attend (p : RelayPartners) (verifying signing : List ServerEvent) :
    (q : EnrolmentQuery) → ServerRun → q.Reply × ServerRun :=
  EnrolmentQuery.answer (fun token s => (p.verify token, (s.run verifying).1))
    (fun login s => s.syncer.cache.teamsOf login)
    fun request s => (p.sign request, (s.run signing).1)

/-- A certificate is decided on with the cache as it is when the token has been verified. -/
theorem run_attend (service : RelayService) (claimed token : String) (p : RelayPartners)
    (verifying signing : List ServerEvent) (s : ServerRun) :
  ((service.connect claimed token).run (attend p verifying signing) s).1 =
    ((service.connect claimed token).run (partnerAnswer (s.run verifying).1.syncer.cache p) ()).1
  := by
  by_cases unnamed : claimed = ""
  · rw [RelayService.connect, if_pos unnamed]
    rfl
  rw [RelayService.connect, if_neg unnamed]
  simp only [Dialogue.run, attend, partnerAnswer, EnrolmentQuery.answer]
  cases p.verify token with
  | error cause => rfl
  | ok login =>
    simp only [Dialogue.run, EnrolmentQuery.answer]
    by_cases none : (s.run verifying).1.syncer.cache.teamsOf login = []
    · rw [RelayService.certify, if_pos none]
      rfl
    · rw [RelayService.certify, if_neg none]
      simp only [Dialogue.run, EnrolmentQuery.answer]
      cases p.sign (service.signingRequest login
          ((s.run verifying).1.syncer.cache.teamsOf login)) with
      | error cause => rfl
      | ok certificate => rfl

/-- The answers to the last call that ended with a new roster lead to this one. -/
def IsLast (settings : ServerSettings) (log : SyncLog) (roster : Roster) : Prop :=
  ∃ call, log.lastSynced? = some call ∧
    (Directory.rebuild settings.organization settings.pageSize).follow (log.answersTo call) =
      .done (.ok roster)

/-- What a relay decides on a certificate when it knows a roster.  Without a claimed login, for a
token that belongs to nobody and for a login that is in no team of the roster it refuses, and else
it gives what the issuer signs for the teams that the roster shows. -/
def Decides (service : RelayService) (roster : Roster) (p : RelayPartners) (claimed token : String)
    (answer : Except RelayError Enrolment) : Prop :=
  if claimed = "" then answer = .error (.emptyLogin "certificate")
  else
    match p.verify token with
    | .error cause => answer = .error (.unverified claimed cause)
    | .ok login =>
      let teams := roster.teamsOf login
      let address := clientAddress login service.subnet
      let request : SigningRequest :=
        ⟨login, address, service.subnet.prefixLength.val.toUInt8, teams⟩
      if teams = [] then answer = .error (.noTeams login)
      else
        match p.sign request with
        | .error cause => answer = .error (.notIssued request cause)
        | .ok certificate =>
          answer = .ok ⟨Overlay.config certificate service.lighthouse service.subnet, address,
            service.lighthouse.overlay, teams⟩

/-- A certificate is decided on with the roster in the cache. -/
theorem decides_connect (service : RelayService) (c : Cache) (p : RelayPartners)
    (claimed token : String) :
  Decides service c.roster p claimed token
    ((service.connect claimed token).run (partnerAnswer c p) ()).1
  := by
  unfold Decides
  by_cases unnamed : claimed = ""
  · rw [RelayService.connect, if_pos unnamed, if_pos unnamed]
    rfl
  rw [RelayService.connect, if_neg unnamed, if_neg unnamed]
  simp only [Dialogue.run, partnerAnswer, EnrolmentQuery.answer]
  cases p.verify token with
  | error cause => rfl
  | ok login =>
    simp only [Dialogue.run, EnrolmentQuery.answer]
    by_cases none : c.roster.teamsOf login = []
    · rw [if_pos none, Cache.teamsOf, RelayService.certify, if_pos none]
      rfl
    · rw [if_neg none, Cache.teamsOf, RelayService.certify, if_neg none]
      simp only [Dialogue.run, EnrolmentQuery.answer]
      unfold RelayService.signingRequest
      split
      · next cause signed => simp only [signed, Dialogue.run]
      · next certificate signed =>
        simp only [signed, Dialogue.run]
        rfl

section Start

variable (settings : ServerSettings) (now : Int64) (es : List ServerEvent)

/-- The synchronizations of a server are a run of their own. -/
theorem syncer_run_start :
  (Syncer.new (syncSettings settings) (.new now)).run
      (((start settings now).syncLog es).map Prod.fst) =
    (((start settings now).run es).1.syncer, (start settings now).syncLog es)
  := by
  apply syncer_run (start settings now) es

theorem opened_start :
  Syncer.Opened ((start settings now).syncLog es) ((start settings now).run es).1.syncer
  := by
  have h := Syncer.opened_run (syncSettings settings) now
    (((start settings now).syncLog es).map Prod.fst)
  rwa [syncer_run_start] at h

theorem isOpen_start :
  ((start settings now).run es).1.syncer.latch.isOpen = true ↔
    ((start settings now).syncLog es).Synced
  := by
  rw [(opened_start settings now es).latch, SyncLog.isSome_lastSynced?]

theorem populated_start :
  ((start settings now).run es).1.syncer.cache.populated = true ↔
    ((start settings now).syncLog es).Synced
  := by
  rw [(opened_start settings now es).cache, SyncLog.isSome_lastSynced?]

theorem service_run_start :
  ((start settings now).run es).1.service = ⟨settings.lighthouse, settings.subnet⟩
  := by
  induction es using List.reverseRecOn with
  | nil => rfl
  | append_singleton es e ih =>
    rw [run_append]
    cases e <;> exact ih

/-- A server that listens has seen a call end with a new roster. -/
theorem synced_of_listening (h : ((start settings now).run es).1.listening = true) :
  ((start settings now).syncLog es).Synced
  := by
  induction es using List.reverseRecOn with
  | nil => contradiction
  | append_singleton es e ih =>
    rw [run_append] at h
    rw [syncLog_append]
    apply SyncLog.Synced.append
    cases e with
    | tick now => apply ih h
    | directoryAnswers answer elapsed => apply ih h
    | wake =>
      rcases Bool.or_eq_true_iff.1 h with listened | opened
      · apply ih listened
      · apply (isOpen_start settings now es).1 opened
    | called call partners => apply ih h

/-- The cache holds the roster of the last call that ended with a new one. -/
theorem isLast_roster (h : ((start settings now).syncLog es).Synced) :
  IsLast settings ((start settings now).syncLog es)
    ((start settings now).run es).1.syncer.cache.roster
  := by
  have current := Syncer.current_run (syncSettings settings) (.new now) .closed
    (((start settings now).syncLog es).map Prod.fst)
  have same := Syncer.settings_run (syncSettings settings) (.new now) .closed
    (((start settings now).syncLog es).map Prod.fst)
  change Syncer.Current _ (Syncer.run (.new _ _) _).2 (Syncer.run (.new _ _) _).1 at current
  change (Syncer.run (.new _ _) _).1.settings = _ at same
  simp only [syncer_run_start] at current same
  obtain ⟨call, last⟩ := Option.isSome_iff_exists.1 (SyncLog.isSome_lastSynced?.2 h)
  use call, last
  simp only [Syncer.Current, last, same] at current
  apply current

/-- What an event leads through: an open latch means a populated cache, and a server that listens,
or would listen if it looked now, has the cache from before or from after the event, with a call
that has ended with a new roster. -/
theorem listens_with_synced {e : ServerEvent} {m : ServerRun}
    (h : m ∈ ((start settings now).run es).1.passes e) :
  let s := ((start settings now).run es).1
  let s' := ((start settings now).run (es ++ [e])).1
  let log := (start settings now).syncLog es
  let log' := (start settings now).syncLog (es ++ [e])
  (m.syncer.latch.isOpen = true → m.syncer.cache.populated = true) ∧
    ((m.step .wake).1.listening = true →
      (log.Synced ∧ m.syncer.cache = s.syncer.cache) ∨
      (log'.Synced ∧ m.syncer.cache = s'.syncer.cache))
  := by
  intro s s' log log'
  have after : s' = (s.step e).1 := run_append _ es [e]
  have stays (synced : log.Synced) : log'.Synced := by
    change SyncLog.Synced ((start settings now).syncLog (es ++ [e]))
    rw [syncLog_append]
    apply synced.append
  have opened : s.syncer.latch.isOpen = true ↔ log.Synced := isOpen_start settings now es
  have opened' : s'.syncer.latch.isOpen = true ↔ log'.Synced :=
    isOpen_start settings now (es ++ [e])
  have populated : s.syncer.cache.populated = true ↔ log.Synced := populated_start settings now es
  have populated' : s'.syncer.cache.populated = true ↔ log'.Synced :=
    populated_start settings now (es ++ [e])
  obtain ⟨-, onWay, listens⟩ := onWay_of_mem_passes h
  have woken {P : Prop} (wakes : (m.step .wake).1.listening = true) (listened : log.Synced → P)
      (seen : m.syncer.latch.isOpen = true → P) : P := by
    rcases Bool.or_eq_true_iff.1 wakes with listening | unlatched
    · rcases listens listening with before | unlatched
      · apply listened (synced_of_listening settings now es before)
      · apply listened (opened.1 unlatched)
    · apply seen unlatched
  rw [← after] at onWay
  cases onWay with
  | before cache latch =>
    rw [cache, populated]
    use fun unlatched => opened.1 (latch ▸ unlatched)
    intro wakes
    left
    use woken wakes id fun unlatched => opened.1 (latch ▸ unlatched)
  | replaced cache latch =>
    rw [cache, populated']
    use fun unlatched => stays (opened.1 (latch ▸ unlatched))
    intro wakes
    right
    use woken wakes stays fun unlatched => stays (opened.1 (latch ▸ unlatched))
  | opened cache latch =>
    rw [cache, populated']
    use fun unlatched => opened'.1 (latch ▸ unlatched)
    intro wakes
    right
    use woken wakes stays fun unlatched => opened'.1 (latch ▸ unlatched)

/-- In a state that an event leads through, a server that listens, or would listen if it looked now,
decides with the last roster from before or from after the event. -/
theorem decides_on_way {e : ServerEvent} {m : ServerRun}
    (h : m ∈ ((start settings now).run es).1.passes e)
    (wakes : (m.step .wake).1.listening = true) :
  ∃ roster,
    (IsLast settings ((start settings now).syncLog es) roster ∨
      IsLast settings ((start settings now).syncLog (es ++ [e])) roster) ∧
    ∀ claimed token p, Decides ⟨settings.lighthouse, settings.subnet⟩ roster p claimed token
      ((m.service.connect claimed token).run (attend p [] []) m).1
  := by
  obtain ⟨service, -⟩ := onWay_of_mem_passes h
  use m.syncer.cache.roster
  constructor
  · rcases (listens_with_synced settings now es h).2 wakes with ⟨synced, same⟩ | ⟨synced, same⟩
    · left
      rw [same]
      apply isLast_roster settings now es synced
    · right
      rw [same]
      apply isLast_roster settings now (es ++ [e]) synced
  · intro claimed token p
    rw [run_attend, service, service_run_start]
    apply decides_connect

end Start

/-- The history of a server is a run of its synchronizations.  No call is answered before some
synchronization in it has ended with a new roster, and after one the server listens when it next
looks whether it may.  In every state that an event leads through, also between two writes, an open
latch means a populated cache, and a server that listens, or would listen if it looked now, decides
on certificates with the roster that the answers to the last such synchronization lead to.  Once
there has been one the cache stays populated, whatever happens later.  A call for a certificate is
answered, if it is heard, with what is decided on the certificate, and this is decided with the last
roster when the token has been verified, whatever happens to the server until then and until the
certificate is signed. -/
theorem serves_last_roster (settings : ServerSettings) (now : Int64) (es : List ServerEvent) :
  let s := ((start settings now).run es).1
  let log := (start settings now).syncLog es
  (start settings now).syncer.run (log.map Prod.fst) = (s.syncer, log) ∧
  (∀ e, (s.step e).2.isSome = true → log.Synced) ∧
  (log.Synced → (s.step .wake).1.listening = true) ∧
  (∀ e, (s.passes e).head? = some s ∧ (s.passes e).getLast? = some (s.step e).1 ∧
    ∀ m ∈ s.passes e,
      (m.syncer.latch.isOpen = true → m.syncer.cache.populated = true) ∧
      ((m.step .wake).1.listening = true →
        ∃ roster, (IsLast settings log roster ∨
            IsLast settings ((start settings now).syncLog (es ++ [e])) roster) ∧
          ∀ claimed token p, Decides ⟨settings.lighthouse, settings.subnet⟩ roster p claimed token
            ((m.service.connect claimed token).run (attend p [] []) m).1)) ∧
  (log.Synced → ∀ later, (s.run later).1.syncer.cache.populated = true) ∧
  (∀ claimed token p, (s.step (.called (.connect claimed token) p)).2 =
    if s.listening then
      some (.enrolled ((s.service.connect claimed token).run (attend p [] []) s).1)
    else none) ∧
  (s.listening = true → ∀ claimed token p verifying signing,
    ∃ roster, IsLast settings ((start settings now).syncLog (es ++ verifying)) roster ∧
      (s.run verifying).1.syncer.cache.roster = roster ∧
      Decides ⟨settings.lighthouse, settings.subnet⟩ roster p claimed token
        ((s.service.connect claimed token).run (attend p verifying signing) s).1)
  := by
  intro s log
  refine ⟨syncer_run _ es, ?answered, ?listens, ?between, ?stays, ?heard, ?decided⟩
  case answered =>
    intro e h
    cases e with
    | called call partners =>
      apply synced_of_listening
      by_contra silent
      simp [step, s, silent] at h
    | _ => contradiction
  case listens =>
    intro synced
    apply Bool.or_eq_true_iff.2
    right
    apply (isOpen_start settings now es).2 synced
  case between =>
    intro e
    use head?_passes s e, getLast?_passes s e
    intro m hm
    use (listens_with_synced settings now es hm).1
    apply decides_on_way settings now es hm
  case stays =>
    intro synced later
    rw [← run_append]
    apply (populated_start settings now (es ++ later)).2
    rw [syncLog_append]
    apply synced.append
  case heard =>
    intro claimed token p
    rw [run_attend]
    rfl
  case decided =>
    intro listening claimed token p verifying signing
    have synced : SyncLog.Synced ((start settings now).syncLog (es ++ verifying)) := by
      rw [syncLog_append]
      apply (synced_of_listening settings now es listening).append
    have last := isLast_roster settings now (es ++ verifying) synced
    rw [run_append] at last
    refine ⟨_, last, rfl, ?_⟩
    rw [run_attend, service_run_start]
    apply decides_connect

/-- Settings under which a small organization is served. -/
def acme : ServerSettings where
  listenAddress := .v4 (.ofOctets 0 0 0 0) 9000
  organization := "acme"
  directoryToken := "secret"
  directoryUrl := ServerSettings.defaultDirectoryUrl
  pageSize := 500
  syncInterval := .ofSeconds 10
  cacheTtl := .ofSeconds 3600
  lighthouse := ⟨.ofOctets 10 0 0 1, .ofOctets 192 0 2 1⟩
  subnet := ServerSettings.defaultSubnet
  signer := "nebula-cert"
  certificateDir := "certs"
  certificateDuration := "48h"
  metricsAddress := none

/-- A server whose directory lists one team, and fails after that, fills its cache before it opens
its latch and answers from the roster of this team, also if the failure comes while the token is
verified. -/
theorem serves_last_roster_after_failure :
  let lists : (q : DirectoryQuery) → q.Reply
    | .teams .. => .ok ⟨[⟨1, "core"⟩], none⟩
    | .members .. => .ok ⟨["ada"], none⟩
  let fails (_ : DirectoryQuery) := .error (.status ServerSettings.defaultDirectoryUrl 500)
  let asking : List ServerEvent := [.tick 100000, .directoryAnswers lists 0]
  let es : List ServerEvent := asking ++ [.directoryAnswers lists 0, .wake]
  let failure : List ServerEvent := [.tick 200000, .directoryAnswers fails 0]
  let p (login : String) : RelayPartners :=
    ⟨fun _ => .ok login, fun _ => .ok ⟨"CA", "CRT", "KEY"⟩, 0⟩
  let s := ((start acme 100000).run es).1
  (s.step (.called (.ping "ada") (p "ada"))).2.isSome = true ∧
  s.listening = true ∧ ((start acme 100000).syncLog es).Synced ∧
  (s.step .wake).1.listening = true ∧
  ((((start acme 100000).run asking).1.passes (.directoryAnswers lists 0)).map fun m =>
    (m.syncer.cache.populated, m.syncer.latch.isOpen)) =
      [(false, false), (true, false), (true, true), (true, true)] ∧
  (s.run failure).1.syncer.cache.populated = true ∧
  ((s.service.connect "ada" "token").run (attend (p "ada") failure []) s).1 =
    .ok ⟨Overlay.config ⟨"CA", "CRT", "KEY"⟩ acme.lighthouse acme.subnet,
      clientAddress "ada" acme.subnet, acme.lighthouse.overlay, ["core"]⟩ ∧
  ((s.service.connect "bob" "token").run (attend (p "bob") failure []) s).1 =
    .error (.noTeams "bob")
  := by
  intro lists fails asking es failure p s
  have heard : (s.step (.called (.ping "ada") (p "ada"))).2.isSome = true := by cbv
  have listening : s.listening = true := by cbv
  obtain ⟨-, answered, listens, between, stays, -, decided⟩ := serves_last_roster acme 100000 es
  have synced := answered _ heard
  obtain ⟨roster, -, held, ada⟩ := decided listening "ada" "token" (p "ada") failure []
  obtain ⟨roster', -, held', bob⟩ := decided listening "bob" "token" (p "bob") failure []
  have core : roster.teamsOf "ada" = ["core"] := by rw [← held]; cbv
  have none : roster'.teamsOf "bob" = [] := by rw [← held']; cbv
  rw [Decides, if_neg (by decide)] at ada bob
  simp only [p, core, none, if_true, if_neg (List.cons_ne_nil _ _)] at ada bob
  exact ⟨heard, listening, synced, listens synced, by cbv, stays synced failure, ada, bob⟩

end ServerRun

end MeshOnboard
