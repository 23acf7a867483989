import MeshOnboard.Overlay.Config
import MeshOnboard.Proofs.Address.RoundTrip
import MeshOnboard.Proofs.Yaml.Document

/-!
# Configurations lose nothing

All configurations are documents of one shape, in which the addresses are words, or one of the keys,
and the parts of the certificate are texts.  So the text of a configuration determines what it was
made from, whatever the parts of the certificate look like (`config_eq_iff`).
-/

namespace MeshOnboard.Overlay

open MeshOnboard.Yaml (Node)

/-- The text of an address is a proper key. -/
theorem isKey_text (ip : IPv4) :
  Node.IsKey ip.text
  := by
  constructor
  · apply IPv4.not_mem_text <;> decide
  · cases written : ip.text with
    | nil => rfl
    | cons c cs =>
      have first : c.isDigit ∨ c = '.' :=
        IPv4.isDigit_or_of_mem_text (written ▸ List.mem_cons_self)
      have ne {d : Char} (digit : d.isDigit = false) (dot : d ≠ '.') : c ≠ d := by
        rintro rfl
        simp [digit, dot] at first
      simp (disch := decide) [Yaml.startsWith, Yaml.isBreak, ne]

/-- All configurations have the same shape. -/
theorem alike_configNode (c c' : Certificate) (l l' : Lighthouse) (s s' : Subnet) :
  Node.Alike (configNode c l s) (configNode c' l' s')
  := by
  have address (ip : IPv4) : '\n' ∉ ip.text := IPv4.not_mem_text (by decide) (by decide)
  have subnet (s : Subnet) : '\n' ∉ s.text :=
    Subnet.not_mem_text (by decide) (by decide) (by decide)
  have portText : '\n' ∉ Numeral.decimal port.toNat := by decide
  simp [configNode, Node.ofEntries, Node.ofWord, halves, Node.Alike, Node.AlikeEntries,
    Node.AlikeItems, Yaml.isBreak, isKey_text, address, subnet, portText]

/-- A configuration holds all that it is made from. -/
theorem configNode_inj {c c' : Certificate} {l l' : Lighthouse} {s s' : Subnet}
    (same : configNode c l s = configNode c' l' s') :
  c = c' ∧ l = l' ∧ s = s'
  := by
  simp only [configNode, Node.ofEntries, Node.ofWord, halves, List.map_cons, List.map_nil,
    Node.mapping.injEq, Node.sequence.injEq, Node.word.injEq, Node.text.injEq, List.cons.injEq,
    Prod.mk.injEq, List.append_cancel_right_eq, and_true, true_and, String.toList_inj] at same
  obtain ⟨⟨authority, certificate, key⟩, ⟨overlay, outside⟩, -, subnet, -⟩ := same
  cases c
  cases c'
  cases l
  cases l'
  obtain rfl := authority
  obtain rfl := certificate
  obtain rfl := key
  obtain rfl := IPv4.text_injective overlay
  obtain rfl := IPv4.text_injective outside
  use rfl, rfl, Subnet.text_injective subnet

/-- Two configurations have the same text only if they are made from the same certificate, the same
addresses of the lighthouse and the same subnet. -/
theorem config_eq_iff (c c' : Certificate) (l l' : Lighthouse) (s s' : Subnet) :
  config c l s = config c' l' s' ↔ c = c' ∧ l = l' ∧ s = s'
  := by
  constructor
  · intro same
    apply configNode_inj
    apply Node.document_inj (alike_configNode c c' l l' s s')
    apply List.append_cancel_left (String.ofList_injective same)
  · rintro ⟨rfl, rfl, rfl⟩
    rfl

end MeshOnboard.Overlay
