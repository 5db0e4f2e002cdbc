import KotlinContract.Document.Parse
import KotlinContract.Proofs.Chain
import KotlinContract.Proofs.Schema.Checked

/-!
# Documents that are read

What is read without faults is not refused, a document is read if its two parts are, and what it is
parsed to depends on the look-ups of three keys.
-/
namespace KotlinContract

open Schema

/-- What was read without faults is not refused. -/
theorem Schema.Checked.orRefuse_eq_ok_iff {α : Type} {subject : Subject} {checked : Checked α}
    {value : α} :
    checked.orRefuse subject = .ok value ↔ checked = .valid value := by
  cases checked <;> simp [Checked.orRefuse]

namespace Document

/-- A document is read if its function and its contract are there and are read. -/
theorem read_eq_valid_iff {members : List (String × Json)} {document : Document} :
    Document.read (.object members) = .valid document ↔
      (∃ function, Json.member? members "function" = some function ∧
        FunctionForm.read function = .valid document.function) ∧
      ∃ contract, Json.member? members "contract" = some contract ∧
        ContractForm.read contract = .valid document.contract := by
  rw [Document.read, Checked.seq_eq_valid_iff]
  simp only [Checked.map_eq_valid_iff, required_eq_valid_iff]
  constructor
  · rintro ⟨_, _, ⟨_, function, rfl⟩, contract, rfl⟩
    exact ⟨function, contract⟩
  · rintro ⟨function, contract⟩
    exact ⟨_, _, ⟨_, function, rfl⟩, contract, rfl⟩

/-- Without metadata, a value is parsed if it is read and what is read is built. -/
theorem parse_eq_ok_iff_of_none {value : Json}
    (absent : Json.member? value.members metadataKey = none) {result : Declaration × Contract} :
    parse value = .ok result ↔
      ∃ document, Document.read value = .valid document ∧ document.build = .ok result := by
  cases value with
  | object members =>
    rw [Json.members] at absent
    rw [parse, absent]
    simp only [Chain.bind_eq_ok_iff, Checked.orRefuse_eq_ok_iff]
  | _ =>
    constructor
    · rintro ⟨⟩
    · rintro ⟨_, ⟨⟩, _⟩

end Document

end KotlinContract
