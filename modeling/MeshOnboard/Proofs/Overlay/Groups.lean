import MeshOnboard.Proofs.Overlay.Removal
import Mathlib.Tactic.Use

/-!
# The groups of a certificate

The signing program is told the groups of a certificate as one text, which it cuts at commas.  It
gets the parts of each team's name, so that the groups are the teams exactly when no name has a
comma.
-/

namespace MeshOnboard.Signer

/-- The parts of a text between commas. -/
def parts (text : String) : List String := (Text.pieces ',' text.toList).map String.ofList

/-- The text that the signing program is told the groups with. -/
def groupsText? (arguments : List String) : Option String :=
  ToolScript.flag? "-groups" (arguments.drop 1)

/-- The groups that the signing program is told. -/
def toldGroups? (arguments : List String) : Option (List String) :=
  (groupsText? arguments).map parts

theorem groupsText?_arguments (s : Signer) (r : SigningRequest) :
  groupsText? (s.arguments r) = some (groups r.teams)
  := by
  simp [groupsText?, arguments, ToolScript.flag?]

/-! ### Parts -/

theorem parts_ne_nil (text : String) :
  parts text ≠ []
  := by
  rw [parts, Ne, List.map_eq_nil_iff]
  apply Text.pieces_ne_nil

/-- A text is its only part exactly when it has no comma. -/
theorem parts_eq_singleton_iff {text : String} :
  parts text = [text] ↔ ',' ∉ text.toList
  := by
  constructor
  · intro whole
    have part : text ∈ parts text := by rw [whole]; exact List.mem_cons_self
    obtain ⟨piece, mem, rfl⟩ := List.mem_map.1 part
    rw [String.toList_ofList]
    exact Text.not_mem_of_mem_pieces mem
  · intro plain
    rw [parts, Text.pieces_of_not_mem plain, List.map_singleton, String.ofList_toList]

/-- A comma cuts the parts before it from those after it. -/
theorem parts_append_comma (before after : String) :
  parts (before ++ "," ++ after) = parts before ++ parts after
  := by
  have chars : (before ++ "," ++ after).toList = before.toList ++ ',' :: after.toList := by simp
  rw [parts, chars, Text.pieces_append_cons, List.map_append]
  rfl

variable {teams : List String}

/-- The parts of names joined by commas are the parts of the names. -/
theorem parts_groups (named : teams ≠ []) :
  parts (groups teams) = teams.flatMap parts
  := by
  induction teams with
  | nil => contradiction
  | cons team teams ih =>
    cases teams with
    | nil => simp [groups]
    | cons next teams =>
      have rest := ih (List.cons_ne_nil next teams)
      rw [List.flatMap_cons, ← rest, groups, String.intercalate_cons_cons, parts_append_comma]
      rfl

theorem length_le_flatMap_parts (teams : List String) :
  teams.length ≤ (teams.flatMap parts).length
  := by
  induction teams with
  | nil => simp
  | cons team teams ih =>
    have := List.length_pos_iff.2 (parts_ne_nil team)
    rw [List.flatMap_cons, List.length_append, List.length_cons]
    omega

/-- Names are their own parts exactly when none has a comma. -/
theorem flatMap_parts_eq_iff :
  teams.flatMap parts = teams ↔ ∀ team ∈ teams, ',' ∉ team.toList
  := by
  simp only [← parts_eq_singleton_iff]
  induction teams with
  | nil => simp
  | cons team teams ih =>
    rw [List.flatMap_cons, List.forall_mem_cons, ← ih]
    constructor
    · intro same
      cases here : parts team with
      | nil => exact absurd here (parts_ne_nil team)
      | cons first others =>
        rw [here, List.cons_append] at same
        obtain ⟨rfl, rest⟩ := List.cons.inj same
        -- every name has a part, so that no name can have two
        have lengths := congrArg List.length rest
        rw [List.length_append] at lengths
        have := length_le_flatMap_parts teams
        obtain rfl := List.eq_nil_of_length_eq_zero (l := others) (by omega)
        exact ⟨rfl, rest⟩
    · rintro ⟨here, rest⟩
      rw [here, rest]
      rfl

/-! ### What the program is told -/

variable {s : Signer} {r : SigningRequest} {w w' : Workshop}

theorem arguments_of_run {program : Path} {arguments : List String}
    (h : (.run program arguments, w') ∈ (s.issue r).encounters Workshop.answer w) :
  arguments = s.arguments r
  := by
  rcases step_of_encounters h with same | same | same | ⟨_, read⟩
  · cases same
  · cases same
  · cases same
    rfl
  · cases read

theorem toldGroups?_arguments (named : r.teams ≠ []) :
  toldGroups? (s.arguments r) = some (r.teams.flatMap parts)
  := by
  rw [toldGroups?, groupsText?_arguments, Option.map_some, parts_groups named]

/-- The program is told the parts of the names of the teams, which are the teams exactly when no
name has a comma.  Without commas in names the same text is told for the same teams only. -/
theorem tells_teams (s : Signer) (r : SigningRequest) (named : r.teams ≠ [])
    {program : Path} {arguments : List String} {w w' : Workshop}
    (run : (.run program arguments, w') ∈ (s.issue r).encounters Workshop.answer w) :
  toldGroups? arguments = some (r.teams.flatMap parts) ∧
  (toldGroups? arguments = some r.teams ↔ ∀ team ∈ r.teams, ',' ∉ team.toList) ∧
  ∀ (r₂ : SigningRequest) (program₂ : Path) (arguments₂ : List String) (w₂ w₂' : Workshop),
    (.run program₂ arguments₂, w₂') ∈ (s.issue r₂).encounters Workshop.answer w₂ →
    r₂.teams ≠ [] → (∀ team ∈ r.teams, ',' ∉ team.toList) →
    (∀ team ∈ r₂.teams, ',' ∉ team.toList) →
    groupsText? arguments₂ = groupsText? arguments → r₂.teams = r.teams
  := by
  obtain rfl := arguments_of_run run
  have told := toldGroups?_arguments (s := s) named
  refine ⟨told, ?faithful, ?injective⟩
  case faithful => rw [told, Option.some_inj, flatMap_parts_eq_iff]
  case injective =>
    intro r₂ program₂ arguments₂ w₂ w₂' run₂ named₂ plain plain₂ same
    obtain rfl := arguments_of_run run₂
    have toldAlike : toldGroups? (s.arguments r₂) = toldGroups? (s.arguments r) :=
      congrArg (Option.map parts) same
    rw [told, toldGroups?_arguments named₂, flatMap_parts_eq_iff.2 plain,
      flatMap_parts_eq_iff.2 plain₂] at toldAlike
    exact Option.some_inj.1 toldAlike

/-- A request for a certificate of `alice` with the given teams. -/
def requestFor (teams : List String) : SigningRequest := ⟨"alice", .ofOctets 10 0 0 5, 16, teams⟩

/-- Two teams, and the program is told of two. -/
theorem tells_two_teams :
  (requestFor ["core", "web ops"]).teams ≠ [] ∧
  (.run certs.program (certs.arguments (requestFor ["core", "web ops"])), whenRun "alice") ∈
    (certs.issue (requestFor ["core", "web ops"])).encounters Workshop.answer stocked ∧
  toldGroups? (certs.arguments (requestFor ["core", "web ops"])) = some ["core", "web ops"]
  := by
  have named : (requestFor ["core", "web ops"]).teams ≠ [] := List.cons_ne_nil _ _
  have run : (.run certs.program (certs.arguments (requestFor ["core", "web ops"])),
      whenRun "alice") ∈
      (certs.issue (requestFor ["core", "web ops"])).encounters Workshop.answer stocked :=
    .tail _ (.tail _ (.head _))
  obtain ⟨-, faithful, -⟩ := tells_teams certs _ named run
  use named, run
  apply faithful.2
  simp [requestFor]

/-- One team, and the program is told of two: with the same arguments as for two teams whose names
are the parts of its name. -/
theorem tells_two_for_one :
  ["core,ops"] ≠ ["core", "ops"] ∧
  (.run certs.program (certs.arguments (requestFor ["core,ops"])), whenRun "alice") ∈
    (certs.issue (requestFor ["core,ops"])).encounters Workshop.answer stocked ∧
  (.run certs.program (certs.arguments (requestFor ["core", "ops"])), whenRun "alice") ∈
    (certs.issue (requestFor ["core", "ops"])).encounters Workshop.answer stocked ∧
  certs.arguments (requestFor ["core,ops"]) = certs.arguments (requestFor ["core", "ops"]) ∧
  toldGroups? (certs.arguments (requestFor ["core,ops"])) = some ["core", "ops"]
  := ⟨by decide, .tail _ (.tail _ (.head _)), .tail _ (.tail _ (.head _)), by decide +kernel,
    by decide +kernel⟩

end MeshOnboard.Signer
