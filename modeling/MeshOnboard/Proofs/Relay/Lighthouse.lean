import MeshOnboard.Proofs.Overlay.Offsets
import MeshOnboard.Proofs.Relay.Authorization

/-!
# Who is given the address of the lighthouse

A relay gives a client the address at the checksum of its login above the network address, and does
not look whether the lighthouse is there.  `Enrols` says that a conversation with the relay ends
with an enrolment.  Every checksum belongs to a login, so that a relay spares the lighthouse exactly
if the lighthouse is at none of the 65536 addresses from the network address on
(`spares_lighthouse_iff`).
-/

namespace MeshOnboard.RelayService

section Enrols

variable {σ : Type} (s : RelayService) (verify : String → σ → Except DirectoryError String × σ)
  (cache : σ → Cache) (sign : SigningRequest → σ → Except IssueError Certificate × σ) (world : σ)
  (claimed token : String)

/-- A conversation with the relay ends with an enrolment, where a verifier and an issuer answer and
teams are looked up in a cache. -/
def Enrols (e : Enrolment) : Prop :=
  ((s.connect claimed token).run
    (EnrolmentQuery.answer verify (fun login w => (cache w).teamsOf login) sign) world).1 = .ok e

variable {s verify cache sign world claimed token}

/-- A client is enrolled under the login that its token belongs to, at the address that the issuer
signs. -/
theorem Enrols.signed {e : Enrolment} (h : s.Enrols verify cache sign world claimed token e) :
  ∃ login w certificate final,
    verify token world = (.ok login, w) ∧
    sign ⟨login, e.address, s.subnet.prefixLength.val.toUInt8, e.teams⟩ w =
      (.ok certificate, final) ∧
    e.address = clientAddress login s.subnet ∧ e.lighthouse = s.lighthouse.overlay
  := by
  obtain ⟨-, login, w, certificate, verified, -, -, signed, rfl⟩ :=
    (decision_connect s verify _ sign world claimed token).authorized h
  exact ⟨login, w, certificate, _, verified, signed, rfl, rfl⟩

/-- A client that claims a login, whose token belongs to a login in a team and for which the issuer
signs, is enrolled at the address of the login that its token belongs to. -/
theorem enrols_of_signed {login : String} {w final : σ} {certificate : Certificate}
    (named : claimed ≠ "") (verified : verify token world = (.ok login, w))
    (some : (cache w).teamsOf login ≠ [])
    (signed : sign (s.signingRequest login ((cache w).teamsOf login)) w =
      (.ok certificate, final)) :
  ∃ e, s.Enrols verify cache sign world claimed token e ∧
    e.address = clientAddress login s.subnet ∧ e.lighthouse = s.lighthouse.overlay
  := by
  use s.enrolment (s.signingRequest login ((cache w).teamsOf login)) certificate
  refine ⟨?_, rfl, rfl⟩
  simp only [Enrols, connect, if_neg named, Dialogue.run, EnrolmentQuery.answer, verified]
  rw [certify, if_neg some]
  simp only [Dialogue.run, EnrolmentQuery.answer, signed]

end Enrols

/-- Every login is enrolled where a verifier knows it, the one team of the cache lists it and the
issuer signs. -/
theorem exists_enrols (s : RelayService) (login token : String) {claimed : String}
    (named : claimed ≠ "") (certificate : Certificate) :
  ∃ e, s.Enrols (fun _ w => (.ok login, w)) (fun _ => ⟨.single "core" [login], 0, true⟩)
      (fun _ w => (.ok certificate, w)) () claimed token e ∧
    e.address = clientAddress login s.subnet ∧ e.lighthouse = s.lighthouse.overlay
  := by
  have team : "core" ∈ Roster.teamsOf (.single "core" [login]) login := by
    apply Roster.mem_teamsOf.2
    use [login], Table.find?_single_eq_some.2 ⟨rfl, rfl⟩
    apply List.mem_singleton_self
  exact enrols_of_signed named rfl (List.ne_nil_of_mem team) rfl

/-- A client has the address of the lighthouse exactly if the checksum of the login that its token
belongs to is the distance of the lighthouse from the network address.  No client of a relay ever
has it exactly if this distance, on the way up around the address space, is 65536 or more. -/
theorem spares_lighthouse_iff (s : RelayService) :
  (∀ (σ : Type) (verify : String → σ → Except DirectoryError String × σ) (cache : σ → Cache)
      (sign : SigningRequest → σ → Except IssueError Certificate × σ) (world : σ)
      (claimed token : String) (e : Enrolment),
    s.Enrols verify cache sign world claimed token e →
    ∃ login w certificate final,
      verify token world = (.ok login, w) ∧
      sign ⟨login, e.address, s.subnet.prefixLength.val.toUInt8, e.teams⟩ w =
        (.ok certificate, final) ∧
      (e.address = e.lighthouse ↔ (checksum (loginBytes login)).toUInt32 =
        s.lighthouse.overlay.bits - s.subnet.network.bits)) ∧
  ((∀ (σ : Type) (verify : String → σ → Except DirectoryError String × σ) (cache : σ → Cache)
      (sign : SigningRequest → σ → Except IssueError Certificate × σ) (world : σ)
      (claimed token : String) (e : Enrolment),
    s.Enrols verify cache sign world claimed token e → e.address ≠ e.lighthouse) ↔
    65536 ≤ (s.lighthouse.overlay.bits - s.subnet.network.bits).toNat)
  := by
  constructor
  · intro σ verify cache sign world claimed token e enrolled
    obtain ⟨login, w, certificate, final, verified, signed, address, lighthouse⟩ := enrolled.signed
    use login, w, certificate, final, verified, signed
    rw [address, lighthouse, clientAddress_eq_iff]
  · constructor
    · intro spared
      by_contra near
      obtain ⟨login, -, reached⟩ := exists_clientAddress_eq (Nat.lt_of_not_le near)
      obtain ⟨e, enrolled, address, lighthouse⟩ :=
        s.exists_enrols login "token" (by decide : "client" ≠ "") ⟨"CA", "CRT", "KEY"⟩
      apply spared _ _ _ _ _ _ _ e enrolled
      rw [address, lighthouse, reached]
    · intro far σ verify cache sign world claimed token e enrolled same
      obtain ⟨login, -, -, -, -, -, address, lighthouse⟩ := enrolled.signed
      have near := distance_clientAddress_lt login s.subnet
      rw [← address, same, lighthouse] at near
      omega

/-- In a subnet with 24 bits for hosts, a lighthouse that is 65537 addresses above the network
address is spared. -/
theorem spares_lighthouse_of_wide_subnet :
  let s : RelayService :=
    ⟨⟨.ofOctets 10 1 0 1, .ofOctets 203 0 113 7⟩, ⟨.ofOctets 10 0 0 0, 8⟩⟩
  s.subnet.Contains s.lighthouse.overlay ∧
  ∀ (verify : String → Unit → Except DirectoryError String × Unit) (cache : Unit → Cache)
      (sign : SigningRequest → Unit → Except IssueError Certificate × Unit) (claimed token : String)
      (e : Enrolment),
    s.Enrols verify cache sign () claimed token e → e.address ≠ e.lighthouse
  := by
  intro s
  have far : 65536 ≤ (s.lighthouse.overlay.bits - s.subnet.network.bits).toNat := by decide
  use by unfold Subnet.Contains; decide
  intro verify cache sign
  apply (spares_lighthouse_iff s).2.2 far Unit verify cache sign ()

/-- In the subnet 10.0.0.0/16 with the lighthouse at its first address for hosts, the client whose
token belongs to the login alice804 is enrolled at the address of the lighthouse. -/
theorem enrols_at_lighthouse :
  let s : RelayService :=
    ⟨⟨.ofOctets 10 0 0 1, .ofOctets 203 0 113 7⟩, ⟨.ofOctets 10 0 0 0, 16⟩⟩
  s.subnet.Contains s.lighthouse.overlay ∧
  ∃ e, s.Enrols (fun _ w => (.ok "alice804", w))
      (fun _ => ⟨.single "core" ["alice804"], 0, true⟩)
      (fun _ w => (.ok ⟨"CA", "CRT", "KEY"⟩, w)) () "alice804" "token" e ∧
    e.address = .ofOctets 10 0 0 1 ∧ e.lighthouse = .ofOctets 10 0 0 1
  := by
  intro s
  use by unfold Subnet.Contains; decide
  obtain ⟨e, enrolled, address, lighthouse⟩ :=
    s.exists_enrols "alice804" "token" (by decide : "alice804" ≠ "") ⟨"CA", "CRT", "KEY"⟩
  use e, enrolled
  constructor
  · rw [address]
    decide +kernel
  · apply lighthouse

end MeshOnboard.RelayService
