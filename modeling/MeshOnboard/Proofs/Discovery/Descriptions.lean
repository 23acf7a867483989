import MeshOnboard.Discovery.NameServer
import MeshOnboard.Proofs.Text.Utf8
import Mathlib.Tactic.Use

/-!
# Descriptions in several strings

A description that does not fit into one string of a text record is cut into several, and a server
may cut it anywhere.  The strings are read one by one, so the description is found again when it is
cut between its characters, and only then (`texts_eq_iff`).
-/

namespace MeshOnboard.NameServer

variable {strings : List (List UInt8)} {text : String}

/-- A text record whose strings make up the octets of a text has that text exactly when no character
is cut. -/
theorem recordText_eq_iff (whole : strings.flatten = Utf8.write text) :
  recordText strings = text ↔ ∃ parts : List String, strings = parts.map Utf8.write
  := by
  rw [Utf8.write_eq] at whole
  have read : recordText strings = text ↔ strings.flatMap Utf8.readLossy = text.toList := by
    rw [recordText, ← String.toList_inj, String.toList_ofList]
  rw [read, Utf8.flatMap_readLossy_eq_iff whole]
  constructor
  · rintro ⟨parts, rfl⟩
    use parts.map String.ofList
    simp [Utf8.write_eq, Function.comp_def]
  · rintro ⟨parts, rfl⟩
    use parts.map String.toList
    simp [Utf8.write_eq, Function.comp_def]

/-- The texts of a name that the server knows are looked up one record after the other. -/
theorem texts_resolver {s : NameServer} {name : String} {r : NameRecords}
    (formed : isWellFormed name.toList = true) (known : s.records.find? (key name.toList) = some r)
    (answers : r.failing = false) (some : r.texts ≠ []) :
  s.resolver.texts name = .ok (r.texts.map recordText)
  := by
  simp [resolver, find, formed, known, answers, some]

/-- The look-up of a text record whose strings make up the octets of a text gives the text if the
strings cut it between its characters, and another text if they cut one of them. -/
theorem texts_eq_iff {s : NameServer} {name : String} {r : NameRecords}
    (formed : isWellFormed name.toList = true) (known : s.records.find? (key name.toList) = some r)
    (answers : r.failing = false) {i : Nat} (listed : r.texts[i]? = some strings)
    (whole : strings.flatten = Utf8.write text) :
  ∃ texts, s.resolver.texts name = .ok texts ∧ texts.length = r.texts.length ∧
    (texts[i]? = some text ↔ ∃ parts : List String, strings = parts.map Utf8.write)
  := by
  have nonempty : r.texts ≠ [] := by
    intro empty
    simp [empty] at listed
  use r.texts.map recordText, texts_resolver formed known answers nonempty, List.length_map _
  rw [List.getElem?_map, listed, Option.map_some, Option.some_inj, recordText_eq_iff whole]

/-- The records of a name with one text record. -/
def recordsOf (strings : List (List UInt8)) : NameRecords := ⟨[], [strings], [], false⟩

/-- A server that knows one name, with one text record. -/
def ofRecord (strings : List (List UInt8)) : NameServer :=
  ⟨.single "relay.example.com" (recordsOf strings)⟩

theorem find?_ofRecord (strings : List (List UInt8)) :
  (ofRecord strings).records.find? (key "relay.example.com".toList) = some (recordsOf strings)
  := Table.find?_single_eq_some.2 ⟨by decide +kernel, rfl⟩

/-- A description that is cut between its two characters is found again. -/
theorem texts_of_uncut_characters :
  let strings := ["c", "é"].map Utf8.write
  strings.flatten = Utf8.write "cé" ∧
  ∃ texts, (ofRecord strings).resolver.texts "relay.example.com" = .ok texts ∧
    texts[0]? = some "cé"
  := by
  intro strings
  have whole : strings.flatten = Utf8.write "cé" := by decide +kernel
  obtain ⟨texts, found, -, same⟩ :=
    texts_eq_iff (by decide +kernel) (find?_ofRecord strings) rfl (i := 0) rfl whole
  use whole, texts, found
  exact same.2 ⟨_, rfl⟩

/-- A character is found in one string and lost when it is cut. -/
theorem texts_of_cut_character :
  let texts (strings : List (List UInt8)) := (ofRecord strings).resolver.texts "relay.example.com"
  [0xC3, 0xA9] = Utf8.write "é" ∧
  texts [[0xC3, 0xA9]] = .ok ["é"] ∧
  texts [[0xC3], [0xA9]] = .ok ["\ufffd\ufffd"]
  := by
  intro texts
  have read (strings : List (List UInt8)) : texts strings = .ok [recordText strings] :=
    texts_resolver (by decide +kernel) (find?_ofRecord strings) rfl (List.cons_ne_nil strings [])
  have whole : recordText [[0xC3, 0xA9]] = "é" := by decide +kernel
  have cut : recordText [[0xC3], [0xA9]] = "\ufffd\ufffd" := by decide +kernel
  rw [read, read, whole, cut]
  exact ⟨by decide +kernel, rfl, rfl⟩

end MeshOnboard.NameServer
