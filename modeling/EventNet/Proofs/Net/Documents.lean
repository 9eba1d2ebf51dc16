import EventNet.Net.Json
import EventNet.Net.Ron
import EventNet.Proofs.Net.Consistent

/-!
# Nets out of documents

What it takes to load a net from a JSON or RON document: the tables in it can be read,
they are consistent, and nothing follows them. So a document with an inconsistent net is
refused when it is loaded (`Net.consistent_of_ofJson`, `Net.consistent_of_ofRon`).
-/

set_option autoImplicit false

namespace EventNet

/-- One computation after another has a result if both have one. -/
theorem bind_eq_ok_iff {ε α β : Type} {first : Except ε α} {next : α → Except ε β} {result : β} :
    first >>= next = .ok result ↔ ∃ value, first = .ok value ∧ next value = .ok result := by
  cases first with
  | error problem =>
    constructor
    · exact fun failed => nomatch failed
    · rintro ⟨_, ⟨⟩, _⟩
  | ok value =>
    constructor
    · exact fun made => ⟨value, rfl, made⟩
    · rintro ⟨_, ⟨⟩, made⟩
      exact made

/-- A value is decoded from a whole text. -/
theorem Json.Decoder.run_eq_ok_iff {ε α : Type} {decode : Json.Decoder ε α} {text : String}
    {value : α} :
    decode.run text = .ok value ↔
      decode (Json.Document.ofText text).value = .ok value ∧
        (Json.Document.ofText text).trailing = false := by
  simp only [Json.Decoder.run, bind_eq_ok_iff]
  cases (Json.Document.ofText text).trailing <;> simp

namespace Net

variable {net : Net} {text : String}

theorem ofJson_eq_ok_iff :
    Net.ofJson text = .ok net ↔
      Json.Decoder.tables (Json.Document.ofText text).value = .ok net ∧
        net.violation? = none ∧ (Json.Document.ofText text).trailing = false := by
  rw [Net.ofJson, Json.Decoder.run_eq_ok_iff, Json.Decoder.net, bind_eq_ok_iff, ← and_assoc]
  refine and_congr_left fun _ => ?_
  constructor
  · rintro ⟨tables, read, accepted⟩
    split at accepted
    · rename_i none
      cases accepted
      exact ⟨read, none⟩
    · nomatch accepted
  · rintro ⟨read, none⟩
    exact ⟨net, read, by simp only [none]⟩

theorem ofRon_eq_ok_iff :
    Net.ofRon text = .ok net ↔
      ∃ document, Ron.read? text = some document ∧
        Ron.Decoder.tables document.extensions document.value = .ok net ∧
          net.violation? = none ∧ document.hasMore = false := by
  unfold Net.ofRon
  cases Ron.read? text with
  | none => simp
  | some document =>
    simp only [Option.some.injEq, exists_eq_left', bind_eq_ok_iff]
    constructor
    · rintro ⟨tables, read, accepted⟩
      split at accepted
      · nomatch accepted
      · rename_i none
        split at accepted
        · nomatch accepted
        · rename_i whole
          cases accepted
          exact ⟨read, none, Bool.not_eq_true _ ▸ whole⟩
    · rintro ⟨read, none, whole⟩
      exact ⟨net, read, by simp [none, whole]⟩

/-- A net that comes out of a JSON document is consistent. -/
theorem consistent_of_ofJson (loaded : Net.ofJson text = .ok net) : net.Consistent :=
  violation?_eq_none_iff.1 (ofJson_eq_ok_iff.1 loaded).2.1

/-- A net that comes out of a RON document is consistent. -/
theorem consistent_of_ofRon (loaded : Net.ofRon text = .ok net) : net.Consistent := by
  obtain ⟨-, -, -, accepted, -⟩ := ofRon_eq_ok_iff.1 loaded
  exact violation?_eq_none_iff.1 accepted

end Net

end EventNet
