import MeshOnboard.Settings.Setting
import Mathlib.Tactic.Use

/-!
# Rules that a loading follows

A rule is met or broken by its variable.  A setting is loaded when its rule is met, and then it has
the meaning of its variable, or what holds without one (`Setting.Holds`); otherwise the error is
that of the broken rule.  `Follows` says that a loading looks at the variables of some rules one after
the other and at no others, and fails at the first rule that is broken.
-/

namespace MeshOnboard

/-! ### Variables that are set -/

namespace Variables

variable {vars : Variables} {name value value' : String}

/-- The variable has no value, or an empty one. -/
def Unset (vars : Variables) (name : String) : Prop :=
  vars name = none ∨ vars name = some ""

/-- The variable has a value that is not empty. -/
def Has (vars : Variables) (name value : String) : Prop :=
  vars name = some value ∧ value ≠ ""

theorem Unset.get?_eq (h : vars.Unset name) :
  vars.get? name = none
  := by
  rcases h with none | empty
  · simp [get?, none]
  · simp [get?, empty]

theorem Has.get?_eq (h : vars.Has name value) :
  vars.get? name = some value
  := by
  simp [get?, h.1, h.2]

theorem unset_or_has (vars : Variables) (name : String) :
  vars.Unset name ∨ ∃ value, vars.Has name value
  := by
  cases value : vars name with
  | none => exact .inl (.inl value)
  | some text =>
    by_cases empty : text = ""
    · exact .inl (.inr (empty ▸ value))
    · exact .inr ⟨text, value, empty⟩

theorem Has.not_unset (h : vars.Has name value) :
  ¬ vars.Unset name
  := by
  intro unset
  simpa [unset.get?_eq] using h.get?_eq

theorem Has.unique (h : vars.Has name value) (h' : vars.Has name value') :
  value = value'
  := Option.some.inj (h.1.symm.trans h'.1)

end Variables

/-! ### Rules -/

namespace Rule

variable {r : Rule} {vars : Variables} {value : String} {e : SettingsError}

/-- The variable is set if it has to be, and a text that it is set to is as expected. -/
def Met (r : Rule) (vars : Variables) : Prop :=
  (r.isRequired → ¬ vars.Unset r.name) ∧ ∀ value, vars.Has r.name value → r.accepts value.toList

/-- The variable is not set though it has to be, or is set to a text that is not as expected. -/
def Broken (r : Rule) (vars : Variables) (e : SettingsError) : Prop :=
  (r.isRequired ∧ vars.Unset r.name ∧ e = .missing r.name) ∨
  ∃ value, vars.Has r.name value ∧ ¬ r.accepts value.toList ∧ e = .invalid r.name r.expected value

/-- What is wrong with the variable. -/
def offence? (r : Rule) (vars : Variables) : Option SettingsError :=
  match vars.get? r.name with
  | some value => if r.accepts value.toList then none else some (.invalid r.name r.expected value)
  | none => if r.isRequired then some (.missing r.name) else none

theorem offence?_of_unset (h : vars.Unset r.name) :
  r.offence? vars = if r.isRequired then some (.missing r.name) else none
  := by
  rw [offence?, h.get?_eq]

theorem offence?_of_has (h : vars.Has r.name value) :
  r.offence? vars =
    if r.accepts value.toList then none else some (.invalid r.name r.expected value)
  := by
  rw [offence?, h.get?_eq]

theorem offence?_eq_none_iff :
  r.offence? vars = none ↔ r.Met vars
  := by
  unfold Met
  rcases vars.unset_or_has r.name with unset | ⟨value, has⟩
  · have notHas (value : String) : ¬ vars.Has r.name value := fun has => has.not_unset unset
    simp [offence?_of_unset unset, unset, notHas]
  · rw [offence?_of_has has]
    constructor
    · intro accepted
      use fun _ => has.not_unset
      intro value' has'
      obtain rfl := has.unique has'
      simpa using accepted
    · rintro ⟨-, accepted⟩
      rw [if_pos (accepted value has)]

theorem offence?_eq_some_iff :
  r.offence? vars = some e ↔ r.Broken vars e
  := by
  unfold Broken
  rcases vars.unset_or_has r.name with unset | ⟨value, has⟩
  · have notHas (value : String) : ¬ vars.Has r.name value := fun has => has.not_unset unset
    simp [offence?_of_unset unset, unset, notHas, eq_comm (a := e)]
  · rw [offence?_of_has has]
    constructor
    · intro refused
      right
      use value, has
      simpa [eq_comm (a := e)] using refused
    · rintro (⟨-, unset, -⟩ | ⟨value', has', refused, rfl⟩)
      · exact absurd unset has.not_unset
      · obtain rfl := has.unique has'
        rw [if_neg refused]

end Rule

/-! ### Single settings -/

namespace Setting

variable {α β : Type} {s : Setting α} {vars : Variables} {value : String} {a : α}

/-- The value is the meaning of the variable, or what holds when the variable is unset. -/
def Holds (s : Setting α) (vars : Variables) (a : α) : Prop :=
  (vars.Unset s.name ∧ s.fallback? = some a) ∨
  ∃ value, vars.Has s.name value ∧ s.read? value.toList = some a

theorem load_of_unset (h : vars.Unset s.name) :
  s.load vars = s.fallback?.elim (.error (.missing s.name)) .ok
  := by
  rw [load, h.get?_eq]
  cases s.fallback? with
  | none => rfl
  | some a => rfl

theorem load_of_has (h : vars.Has s.name value) :
  s.load vars =
    (s.read? value.toList).elim (.error (.invalid s.name s.expected value)) .ok
  := by
  rw [load, h.get?_eq]
  simp only [Variables.interpret]
  cases s.read? value.toList with
  | none => rfl
  | some a => rfl

theorem load_eq_ok_iff :
  s.load vars = .ok a ↔ s.Holds vars a
  := by
  unfold Holds
  rcases vars.unset_or_has s.name with unset | ⟨value, has⟩
  · have notHas (value : String) : ¬ vars.Has s.name value := fun has => has.not_unset unset
    rw [load_of_unset unset]
    cases s.fallback? with
    | none => simp [notHas]
    | some fallback => simp [notHas, unset]
  · rw [load_of_has has]
    constructor
    · intro loaded
      right
      use value, has
      cases meaning : s.read? value.toList with
      | none => simp [meaning] at loaded
      | some a' => simpa [meaning] using loaded
    · rintro (⟨unset, -⟩ | ⟨value', has', meaning⟩)
      · exact absurd unset has.not_unset
      · obtain rfl := has.unique has'
        rw [meaning]
        rfl

/-- A setting is loaded before others. -/
theorem bind_load_eq_ok_iff {f : α → Except SettingsError β} {b : β} :
  (s.load vars >>= f) = .ok b ↔ ∃ a, s.Holds vars a ∧ f a = .ok b
  := by
  simp only [← load_eq_ok_iff]
  cases s.load vars with
  | error e => simp [bind, Except.bind]
  | ok a => simp [bind, Except.bind]

theorem load_eq_error_iff {e : SettingsError} :
  s.load vars = .error e ↔ s.rule.offence? vars = some e
  := by
  rcases vars.unset_or_has s.name with unset | ⟨value, has⟩
  · rw [load_of_unset unset, Rule.offence?_of_unset (r := s.rule) unset, rule]
    cases s.fallback? with
    | none => simp
    | some fallback => simp
  · rw [load_of_has has, Rule.offence?_of_has (r := s.rule) has, rule]
    cases meaning : s.read? value.toList with
    | none => simp [meaning]
    | some a => simp [meaning]

end Setting

/-! ### Settings one after the other -/

/-- What is wrong with a loading. -/
def refusal? {β : Type} : Except SettingsError β → Option SettingsError
  | .ok _ => none
  | .error e => some e

/-- A loading looks at the variables of the rules, and at no others, and fails as the first of them
that is broken says. -/
structure Follows {β : Type} (rs : List Rule) (loading : Variables → Except SettingsError β) :
    Prop where
  refusal : ∀ vars, refusal? (loading vars) = rs.findSome? fun r => r.offence? vars
  congr : ∀ vars vars', (∀ r ∈ rs, vars'.get? r.name = vars.get? r.name) →
    loading vars' = loading vars

namespace Follows

variable {α β : Type} {rs rs' : List Rule}

theorem pure (b : β) :
  Follows [] fun _ => Pure.pure b
  where
    refusal _ := rfl
    congr _ _ _ := rfl

/-- A setting is loaded before others. -/
theorem bind {r : Rule} (s : Setting α) (isRule : s.rule = r)
    {rest : α → Variables → Except SettingsError β} (h : ∀ a, Follows rs (rest a)) :
  Follows (r :: rs) fun vars => s.load vars >>= fun a => rest a vars
  where
    refusal vars := by
      rw [List.findSome?_cons, ← isRule]
      cases loaded : s.load vars with
      | error e =>
        rw [Setting.load_eq_error_iff.1 loaded]
        rfl
      | ok a =>
        have fine : s.rule.offence? vars = none := by
          rw [Option.eq_none_iff_forall_ne_some]
          intro e offence
          rw [Setting.load_eq_error_iff.2 offence] at loaded
          contradiction
        rw [fine]
        exact (h a).refusal vars
    congr vars vars' same := by
      obtain ⟨here, later⟩ := List.forall_mem_cons.1 same
      rw [← isRule] at here
      have load : s.load vars' = s.load vars := by
        unfold Setting.load
        rw [show vars'.get? s.name = vars.get? s.name from here]
      rw [load]
      congr 1
      funext a
      exact (h a).congr vars vars' later

theorem map {loading : Variables → Except SettingsError α} (h : Follows rs loading) (f : α → β) :
  Follows rs fun vars => loading vars >>= fun a => Pure.pure (f a)
  where
    refusal vars := by
      rw [← h.refusal vars]
      cases loading vars with
      | error e => rfl
      | ok a => rfl
    congr vars vars' same := by rw [h.congr vars vars' same]

/-- A loading succeeds if all rules are met. -/
theorem exists_ok_iff {loading : Variables → Except SettingsError β} (h : Follows rs loading)
    (vars : Variables) :
  (∃ b, loading vars = .ok b) ↔ ∀ r ∈ rs, r.Met vars
  := by
  simp only [← Rule.offence?_eq_none_iff]
  rw [← List.findSome?_eq_none_iff, ← h.refusal vars]
  cases loading vars with
  | error e => simp [refusal?]
  | ok b => simp [refusal?]

/-- A loading fails as the first rule says that is broken. -/
theorem eq_error_iff {loading : Variables → Except SettingsError β} (h : Follows rs loading)
    (vars : Variables) (e : SettingsError) :
  loading vars = .error e ↔
    ∃ before r after, rs = before ++ r :: after ∧ (∀ b ∈ before, b.Met vars) ∧ r.Broken vars e
  := by
  have isRefusal : loading vars = .error e ↔ refusal? (loading vars) = some e := by
    cases loading vars with
    | error e' => simp [refusal?]
    | ok b => simp [refusal?]
  rw [isRefusal, h.refusal vars, List.findSome?_eq_some_iff]
  simp only [Rule.offence?_eq_none_iff, Rule.offence?_eq_some_iff,
    and_comm (a := Rule.Broken _ _ _)]

end Follows

end MeshOnboard
