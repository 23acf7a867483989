import MeshOnboard.Program.ServerRun
import MeshOnboard.Proofs.Directory.Membership

/-!
# Authorization of certificates

`Decision` lists the ways in which a relay decides on a certificate, with the questions it asks
before it does, and `decision_connect` says that every conversation ends in one of them.  Who is
certified, at which address and for which teams follows from whom the token belongs to; the claimed
login matters only when it is empty and in what is said of a token that belongs to nobody.
-/

namespace MeshOnboard.RelayService

variable {σ : Type}

section Decision

variable (s : RelayService) (verify : String → σ → Except DirectoryError String × σ)
  (teamsOf : String → σ → List String)
  (sign : SigningRequest → σ → Except IssueError Certificate × σ) (world : σ)
  (claimed token : String)

/-- The decision on a certificate, with the questions asked before it and the state that the
verifier and the issuer leave. -/
inductive Decision : Except RelayError Enrolment → List EnrolmentQuery → σ → Prop where
  /-- Without a claimed login nobody is asked. -/
  | unnamed (unnamed : claimed = "") :
    Decision (.error (.emptyLogin "certificate")) [] world
  /-- The token belongs to nobody. -/
  | unverified (named : claimed ≠ "") (cause : DirectoryError) (w : σ)
      (verified : verify token world = (.error cause, w)) :
    Decision (.error (.unverified claimed cause)) [.verify token] w
  /-- The one whom the token belongs to is in no team. -/
  | teamless (named : claimed ≠ "") (login : String) (w : σ)
      (verified : verify token world = (.ok login, w)) (none : teamsOf login w = []) :
    Decision (.error (.noTeams login)) [.verify token, .teamsOf login] w
  /-- The issuer fails. -/
  | unsigned (named : claimed ≠ "") (login : String) (w w' : σ) (cause : IssueError)
      (verified : verify token world = (.ok login, w)) (some : teamsOf login w ≠ [])
      (signed : sign (s.signingRequest login (teamsOf login w)) w = (.error cause, w')) :
    Decision (.error (.notIssued (s.signingRequest login (teamsOf login w)) cause))
      [.verify token, .teamsOf login, .sign (s.signingRequest login (teamsOf login w))] w'
  /-- The issuer signs. -/
  | granted (named : claimed ≠ "") (login : String) (w w' : σ) (certificate : Certificate)
      (verified : verify token world = (.ok login, w)) (some : teamsOf login w ≠ [])
      (signed : sign (s.signingRequest login (teamsOf login w)) w = (.ok certificate, w')) :
    Decision (.ok (s.enrolment (s.signingRequest login (teamsOf login w)) certificate))
      [.verify token, .teamsOf login, .sign (s.signingRequest login (teamsOf login w))] w'

/-- Every conversation about a certificate ends with a decision. -/
theorem decision_connect :
  Decision s verify teamsOf sign world claimed token
    ((s.connect claimed token).run (EnrolmentQuery.answer verify teamsOf sign) world).1
    ((s.connect claimed token).transcript (EnrolmentQuery.answer verify teamsOf sign) world)
    ((s.connect claimed token).run (EnrolmentQuery.answer verify teamsOf sign) world).2
  := by
  by_cases named : claimed = ""
  · rw [connect, if_pos named]
    apply Decision.unnamed named
  rw [connect, if_neg named]
  simp only [Dialogue.run, Dialogue.transcript, EnrolmentQuery.answer]
  rcases verified : verify token world with ⟨cause | login, w⟩
  · apply Decision.unverified named cause w verified
  simp only [Dialogue.run, Dialogue.transcript, EnrolmentQuery.answer]
  by_cases empty : teamsOf login w = []
  · rw [certify, if_pos empty]
    apply Decision.teamless named login w verified empty
  rw [certify, if_neg empty]
  simp only [Dialogue.run, Dialogue.transcript, EnrolmentQuery.answer]
  rcases signed : sign (s.signingRequest login (teamsOf login w)) w with ⟨cause | certificate, w'⟩
  · apply Decision.unsigned named login w w' cause verified empty signed
  · apply Decision.granted named login w w' certificate verified empty signed

end Decision

namespace Decision

variable {s : RelayService} {verify : String → σ → Except DirectoryError String × σ}
  {teamsOf : String → σ → List String}
  {sign : SigningRequest → σ → Except IssueError Certificate × σ} {world final : σ}
  {claimed token : String} {result : Except RelayError Enrolment} {asked : List EnrolmentQuery}

/-- A certificate is given for the one whom the token belongs to, who is in a team, after the
issuer was asked once and with what belongs to this login. -/
theorem authorized
    (d : Decision s verify teamsOf sign world claimed token result asked final)
    {enrolment : Enrolment} (h : result = .ok enrolment) :
  claimed ≠ "" ∧ ∃ login w certificate,
    verify token world = (.ok login, w) ∧ teamsOf login w ≠ [] ∧
    asked = [.verify token, .teamsOf login,
      .sign (s.signingRequest login (teamsOf login w))] ∧
    sign (s.signingRequest login (teamsOf login w)) w = (.ok certificate, final) ∧
    enrolment = s.enrolment (s.signingRequest login (teamsOf login w)) certificate
  := by
  cases d with
  | unnamed | unverified | teamless | unsigned => contradiction
  | granted named login w _ certificate verified some signed =>
    obtain rfl := Except.ok.inj h
    use named, login, w, certificate, verified, some, rfl, signed

/-- A refusal has one of four causes, each with its own code; the issuer is asked for the last one
only. -/
theorem refused
    (d : Decision s verify teamsOf sign world claimed token result asked final)
    {refusal : RelayError} (h : result = .error refusal) :
  (claimed = "" ∧ asked = [] ∧ refusal.code = .invalidArgument) ∨
  (claimed ≠ "" ∧ ∃ cause w, verify token world = (.error cause, w) ∧
    asked = [.verify token] ∧ refusal.code = .unauthenticated) ∨
  (claimed ≠ "" ∧ ∃ login w, verify token world = (.ok login, w) ∧ teamsOf login w = [] ∧
    asked = [.verify token, .teamsOf login] ∧ refusal.code = .permissionDenied) ∨
  (claimed ≠ "" ∧ ∃ login w cause, verify token world = (.ok login, w) ∧ teamsOf login w ≠ [] ∧
    asked = [.verify token, .teamsOf login,
      .sign (s.signingRequest login (teamsOf login w))] ∧
    sign (s.signingRequest login (teamsOf login w)) w = (.error cause, final) ∧
    refusal.code = .internal)
  := by
  cases d with
  | unnamed unnamed =>
    obtain rfl := Except.error.inj h
    left
    use unnamed, rfl
    rfl
  | unverified named cause w verified =>
    obtain rfl := Except.error.inj h
    right; left
    use named, cause, final, verified, rfl
    rfl
  | teamless named login w verified none =>
    obtain rfl := Except.error.inj h
    right; right; left
    use named, login, final, verified, none, rfl
    rfl
  | unsigned named login w _ cause verified some signed =>
    obtain rfl := Except.error.inj h
    right; right; right
    use named, login, w, cause, verified, some, rfl, signed
    rfl
  | granted => contradiction

/-- What neither the verifier nor the issuer changes stays as it is. -/
theorem keeps {α : Type} {f : σ → α}
    (d : Decision s verify teamsOf sign world claimed token result asked final)
    (verifying : ∀ w, f (verify token w).2 = f w)
    (signing : ∀ request w, f (sign request w).2 = f w) :
  f final = f world
  := by
  have verified_keeps {reply w} (verified : verify token world = (reply, w)) :
      f w = f world := by
    rw [← verifying world, verified]
  have signed_keeps {request reply w w'} (signed : sign request w = (reply, w')) :
      f w' = f w := by
    rw [← signing request w, signed]
  cases d with
  | unnamed => rfl
  | unverified _ _ _ verified => apply verified_keeps verified
  | teamless _ _ _ verified => apply verified_keeps verified
  | unsigned _ _ _ _ _ verified _ signed =>
    apply (signed_keeps signed).trans (verified_keeps verified)
  | granted _ _ _ _ _ verified _ signed =>
    apply (signed_keeps signed).trans (verified_keeps verified)

end Decision

/-- Two requests with the same token and with a claimed login each ask the same questions and leave
the same state.  Their results are the same, but for the login that is named if the token belongs
to nobody. -/
theorem connect_congr (s : RelayService) (verify : String → σ → Except DirectoryError String × σ)
    (teamsOf : String → σ → List String)
    (sign : SigningRequest → σ → Except IssueError Certificate × σ) (world : σ) (token : String)
    {claimed other : String} (named : claimed ≠ "") (named' : other ≠ "") :
  let answer := EnrolmentQuery.answer verify teamsOf sign
  let result := ((s.connect claimed token).run answer world).1
  let result' := ((s.connect other token).run answer world).1
  (s.connect other token).transcript answer world =
    (s.connect claimed token).transcript answer world ∧
  ((s.connect other token).run answer world).2 =
    ((s.connect claimed token).run answer world).2 ∧
  (result' = result ∨
    ∃ cause, result = .error (.unverified claimed cause) ∧
      result' = .error (.unverified other cause))
  := by
  intro answer result result'
  simp only [result, result', answer, connect, if_neg named, if_neg named', Dialogue.run,
    Dialogue.transcript, EnrolmentQuery.answer]
  rcases verify token world with ⟨cause | login, w⟩
  · use rfl, rfl
    right
    use cause, rfl
    rfl
  · use rfl, rfl
    left
    rfl

/-- A relay gives a certificate to the one whom the token belongs to, if this login is in a team.
The issuer is asked once, with this login, its address, the prefix length of the subnet and its
teams in order, and what it signs is given with the same address and the same teams.  Every other
request is refused before the issuer is asked or because the issuer fails.  The cache is left alone,
and no login that is claimed, unless it is empty, makes a difference beyond the wording of a
refusal. -/
theorem connect_authorized (s : RelayService)
    (verify : String → σ → Except DirectoryError String × σ) (cache : σ → Cache)
    (sign : SigningRequest → σ → Except IssueError Certificate × σ) (world : σ)
    (claimed token : String) :
  let answer := EnrolmentQuery.answer verify (fun login w => (cache w).teamsOf login) sign
  let request (login : String) (w : σ) : SigningRequest :=
    ⟨login, clientAddress login s.subnet, s.subnet.prefixLength.val.toUInt8,
      (cache w).teamsOf login⟩
  let asked := (s.connect claimed token).transcript answer world
  let result := ((s.connect claimed token).run answer world).1
  let final := ((s.connect claimed token).run answer world).2
  (∀ enrolment, result = .ok enrolment →
    claimed ≠ "" ∧ ∃ login w certificate,
      verify token world = (.ok login, w) ∧ (cache w).teamsOf login ≠ [] ∧
      asked = [.verify token, .teamsOf login, .sign (request login w)] ∧
      sign (request login w) w = (.ok certificate, final) ∧
      enrolment = ⟨Overlay.config certificate s.lighthouse s.subnet, (request login w).address,
        s.lighthouse.overlay, (cache w).teamsOf login⟩) ∧
  (∀ refusal, result = .error refusal →
    (claimed = "" ∧ asked = [] ∧ refusal.code = .invalidArgument) ∨
    (claimed ≠ "" ∧ ∃ cause w, verify token world = (.error cause, w) ∧
      asked = [.verify token] ∧ refusal.code = .unauthenticated) ∨
    (claimed ≠ "" ∧ ∃ login w, verify token world = (.ok login, w) ∧
      (cache w).teamsOf login = [] ∧ asked = [.verify token, .teamsOf login] ∧
      refusal.code = .permissionDenied) ∨
    (claimed ≠ "" ∧ ∃ login w cause, verify token world = (.ok login, w) ∧
      (cache w).teamsOf login ≠ [] ∧
      asked = [.verify token, .teamsOf login, .sign (request login w)] ∧
      sign (request login w) w = (.error cause, final) ∧ refusal.code = .internal)) ∧
  (∀ w login, ((cache w).teamsOf login).Pairwise (· < ·) ∧
    ∀ team, team ∈ (cache w).teamsOf login ↔
      ∃ logins, (cache w).roster.find? team = some logins ∧ login ∈ logins) ∧
  ((∀ w, cache (verify token w).2 = cache w) → (∀ r w, cache (sign r w).2 = cache w) →
    cache final = cache world) ∧
  (∀ (run : ServerRun) partners,
    (run.step (.called (.connect claimed token) partners)).1 = run) ∧
  (∀ other, claimed ≠ "" → other ≠ "" →
    let result' := ((s.connect other token).run answer world).1
    (s.connect other token).transcript answer world = asked ∧
    ((s.connect other token).run answer world).2 = final ∧
    result'.mapError RelayError.code = result.mapError RelayError.code ∧
    (result' = result ∨
      ∃ cause, result = .error (.unverified claimed cause) ∧
        result' = .error (.unverified other cause)))
  := by
  intro answer request asked result final
  have decision : Decision s verify _ sign world claimed token result asked final :=
    decision_connect s verify _ sign world claimed token
  refine ⟨?authorized, ?refused, ?teams, ?cache, ?server, ?claims⟩
  case authorized =>
    intro enrolment h
    apply decision.authorized h
  case refused =>
    intro refusal h
    apply decision.refused h
  case teams =>
    intro w login
    exact ⟨Roster.pairwise_teamsOf _ _, fun team => Roster.mem_teamsOf⟩
  case cache => apply decision.keeps
  case server =>
    intro run partners
    rfl
  case claims =>
    intro other named named'
    obtain ⟨same_asked, same_final, same⟩ :=
      connect_congr s verify (fun login w => (cache w).teamsOf login) sign world token named named'
    use same_asked, same_final
    constructor
    · obtain same | ⟨cause, unverified, unverified'⟩ := same
      · apply congrArg (Except.mapError RelayError.code) same
      · apply (congrArg (Except.mapError RelayError.code) unverified').trans
          (congrArg (Except.mapError RelayError.code) unverified).symm
    · apply same

end MeshOnboard.RelayService
